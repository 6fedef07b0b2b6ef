import ColumnLint.Proofs.Naming
import ColumnLint.Proofs.Sql.TypeReading
import ColumnLint.Sql.Parser.Column

/-!
# Types of declared columns

A column that is defined with a plainly written type has as its signature what is written
(`signatures_written`), so that columns of one name whose types are written differently are both
reported.  This is so for the word or name of the type and for its sizes only.  Words that follow
them are read and lost: an unsigned number has the signature of a signed one, and a time with a zone
that of a time without (`signatures_written_unsigned`).
-/

namespace ColumnLint.Sql

open ColumnLint.Text

variable {d : Dialect} {t : Token} {head : TypeHead} {rest tokens suffix after : List Token}
  {sizes : List String}

/-! ### Names of columns -/

/-- Words that begin something else than a column. -/
def otherWords : List String := ["NULL", "CASE", "ANY", "IF", "SELECT"] ++ valueWords

/-- Whether a token names a column: a name between quotes, or a word that begins nothing else. -/
def Token.namesColumn (t : Token) : Bool :=
  t.kind = .name || (t.kind = .word && !otherWords.contains t.upperText)

namespace Parser

theorem kind_of_namesColumn (ht : t.namesColumn = true) : t.kind = .word ∨ t.kind = .name := by
  unfold Token.namesColumn at ht
  simp only [Bool.or_eq_true, Bool.and_eq_true, decide_eq_true_eq] at ht
  exact ht.elim .inr fun hword => .inl hword.1

theorem not_isWord_of_namesColumn {w : String} (ht : t.namesColumn = true) (hw : w ∈ otherWords) :
    t.isWord w = false := by
  rw [Bool.eq_false_iff]
  intro hword
  obtain ⟨hkind, htext⟩ := (Bool.and_eq_true ..).mp hword
  rw [Token.namesColumn, of_decide_eq_true hkind, of_decide_eq_true htext] at ht
  simp [hw] at ht

theorem mustName_of_namesColumn (ht : t.namesColumn = true) : t.mustName = true := by
  have hselect : t.isWord "SELECT" = false := not_isWord_of_namesColumn ht (by decide)
  unfold Token.namesColumn at ht
  unfold Token.isWord at hselect
  unfold Token.mustName
  grind

/-- The token that names a column is read as its name. -/
theorem reads_field? (ht : t.namesColumn = true) (hrest : headIs (·.isSign "(") rest = false) :
    Reads d field? (t :: rest) (some ⟨t.text, true⟩) rest := by
  have hwords : ∀ w ∈ otherWords, t.isWord w = false := fun w => not_isWord_of_namesColumn ht
  have hvalue : t.isOneOf valueWords = false := by
    rw [Bool.eq_false_iff]
    intro hone
    obtain ⟨hkind, hmem⟩ := (Bool.and_eq_true ..).mp hone
    have hword : t.isWord t.upperText = false :=
      hwords _ (List.mem_append_right _ (List.contains_iff_mem.mp hmem))
    simp [Token.isWord, of_decide_eq_true hkind] at hword
  have hname : Reads d fieldName (t :: rest) ⟨t.text, true⟩ rest := by
    refine reads_peek.bind ?_
    dsimp only [List.head?_cons]
    rw [if_pos (mustName_of_namesColumn ht)]
    exact (reads_advanceTaking 1).bind (reads_pure _)
  have hfield : Reads d (wordField? t) (t :: rest) (some ⟨t.text, true⟩) rest := by
    refine reads_get_bind fun place _ => (reads_secondIs _).bind ?_
    rw [List.drop_one, List.tail_cons, hrest, hvalue, hwords "NULL" (by decide),
      hwords "CASE" (by decide), hwords "ANY" (by decide), hwords "IF" (by decide),
      hwords "SELECT" (by decide)]
    exact hname.bind (reads_pure _)
  refine reads_read.bind (reads_peek.bind ?_)
  dsimp only [List.head?_cons]
  obtain hkind | hkind := kind_of_namesColumn ht
  · rw [hkind]
    exact hfield
  · rw [hkind]
    exact hfield

/-! ### Ends of definitions -/

/-- Tokens that close the definition of a column: none, or a comma or a bracket first. -/
inductive ClosesDefinition : List Token → Prop
  | nil : ClosesDefinition []
  | cons {t : Token} {rest : List Token} (h : EndsPart t) : ClosesDefinition (t :: rest)

/-- What closes a definition neither is a word nor goes on with a type. -/
theorem ClosesDefinition.headIs_eq_false (h : ClosesDefinition after) {test : Token → Bool}
    (htest : ∀ t, EndsPart t → test t = false) :
    headIs test after = false := by
  cases h with
  | nil => rfl
  | cons h => exact htest _ h

theorem ClosesDefinition.isWord (h : ClosesDefinition after) (w : String) :
    headIs (·.isWord w) after = false :=
  h.headIs_eq_false fun t ht => by simp [Token.isWord, ht.kind]

/-- No phrase begins with what closes a definition, unless its first word is the same. -/
theorem ClosesDefinition.leads (h : ClosesDefinition after) {w : String} {words : List String}
    (hcomma : w ≠ ",") (hbracket : w ≠ ")") : leads (w :: words) after = false := by
  cases h with
  | nil => simp [Parser.leads]
  | @cons t rest h =>
    have htext : t.upperText ≠ w := by
      obtain h | h := h <;> rw [Token.upperText, (kind_of_isSign h).2]
      · exact hcomma.symm
      · exact hbracket.symm
    rw [leads_cons, Token.spells, decide_eq_false htext, Bool.and_false, Bool.false_and]

theorem ClosesDefinition.endsType (h : ClosesDefinition after) : EndsType d after where
  sign s hs := h.headIs_eq_false fun t ht => by
    have hne : ∀ s ∈ ["(", "<", "[", "."], "," ≠ s ∧ ")" ≠ s := by decide
    obtain ht | ht := ht <;> simp [Token.isSign, kind_of_isSign ht, hne s hs]
  array := h.isWord "ARRAY"
  unit := h.headIs_eq_false fun t ht => by simp [Token.isPlain, ht.kind]
  zone words hwords := by
    simp only [zonePhrases, List.mem_cons, List.not_mem_nil, or_false] at hwords
    obtain rfl | rfl | rfl := hwords <;> exact h.leads (by decide) (by decide)
  unsigned := h.leads (by decide) (by decide)
  brackets := h.leads (by decide) (by decide)

theorem reads_computation (h : ClosesDefinition after) :
    Reads d (computation true) after false after := by
  have hphrases : Reads d (phraseAmong [["ALIAS"], ["MATERIALIZED"]]) after false after := by
    refine (reads_phrase_of_not (h.leads (by decide) (by decide))).bind ?_
    exact (reads_phrase_of_not (h.leads (by decide) (by decide))).bind (reads_pure _)
  -- A column with a type is not computed by `AS` alone.
  have hneither : Reads d (pure !true <&&> word "AS" <||>
      phraseAmong [["ALIAS"], ["MATERIALIZED"]]) after false after := by
    have hword : Reads d (pure !true <&&> word "AS") after false after :=
      (reads_pure false).bind (reads_pure _)
    exact hword.bind hphrases
  refine reads_read.bind (hneither.bind ?_)
  rw [if_neg Bool.false_ne_true]
  refine (reads_nextIs _).bind ((reads_secondIs _).bind ?_)
  rw [h.isWord "AS"]
  exact reads_pure _

theorem reads_columnConstraints (h : ClosesDefinition after) (n : ℕ) :
    Reads d (columnConstraints n) after [] after := by
  have hunnamed : Reads d unnamedConstraint? after none after := by
    refine reads_peek.bind ?_
    cases h with
    | nil => exact reads_pure _
    | @cons t rest h =>
      dsimp only [List.head?_cons]
      rw [if_pos (by simp [h.kind])]
      exact reads_pure _
  have hnone : Reads d columnConstraint? after none after := by
    refine (reads_word_of_not (h.isWord "CONSTRAINT")).bind ((reads_pure false).bind ?_)
    exact hunnamed.bind (reads_pure _)
  cases n with
  | zero => exact reads_pure _
  | succ n => exact hnone.bind (reads_pure _)

end Parser

/-! ### Types as they are reported -/

/-- The type of a column is reported by the word or name that is written, and with the sizes. -/
theorem declaredType_of_renders {type : DataType} (s : String) (rest : List Token)
    (h : WritesHead d head tokens) (hrenders : Parser.Renders d head sizes type) :
    Parser.declaredType d ⟨s, true⟩ (tokens ++ rest) type =
      ⟨some (writtenText d tokens), sizes⟩ := by
  obtain ⟨hhead, hsizes, -⟩ := hrenders
  unfold Parser.declaredType
  rw [hsizes]
  generalize type.head = head' at hhead
  cases h with
  | @builtIn t name hname hspelled =>
    cases hhead
    have htext : writtenText d [t] = t.upperText := by
      rw [writtenText_cons, writtenText_nil, written_of_isName (kind_of_builtIn? hname),
        String.append_empty]
    have hspelled' : spelledType? ([t] ++ rest) = some t.upperText :=
      (spelledType?_of_singleton hspelled).1 rest
    rw [htext, if_pos rfl, hspelled']
    rfl
  | @named first tokens parts hfirst htail hquoted hblank =>
    cases hhead
    dsimp only
    rw [upper_of_writesTail htail, writtenText_cons, written_of_isName (kind_of_beginsName hfirst)]
    rfl

/-- The tokens of a type begin with a word or a name. -/
theorem headIs_sign_of_writesType {s : String} (h : WritesType d head tokens sizes) :
    Parser.headIs (·.isSign s) (tokens ++ rest) = false := by
  have hname : ∀ (t : Token) (rest : List Token), t.kind = .word ∨ t.kind = .name →
      Parser.headIs (·.isSign s) (t :: rest) = false := by
    rintro t rest (hkind | hkind) <;> simp [Token.isSign, hkind]
  obtain ⟨hword, -⟩ := h
  cases hword with
  | builtIn h _ => exact hname _ _ (kind_of_builtIn? h)
  | named h _ _ _ => exact hname _ _ (kind_of_beginsName h)

/-- A plainly written type is reported as it is written, which is more than blanks. -/
theorem exists_declaredType (h : WritesType d head tokens sizes) :
    ∃ base, isAllBlank base = false ∧ Signature.write base sizes = writtenText d tokens ∧
      ∀ (type : DataType) (s : String) (rest : List Token), Parser.Renders d head sizes type →
        Parser.declaredType d ⟨s, true⟩ (tokens ++ rest) type = ⟨some base, sizes⟩ := by
  obtain @⟨word, brackets, _, hword, hsizes⟩ := h
  refine ⟨writtenText d word, not_isAllBlank_of_writesHead hword, ?_, fun type s rest hrenders => ?_⟩
  · rw [write_of_writesSizes _ hsizes, writtenText_append]
  · rw [List.append_assoc]
    exact declaredType_of_renders s _ hword hrenders

/-! ### Definitions -/

/-- The definition of a column with a plainly written type: the token of its name, those of the type,
the further words, and the tokens that follow. -/
structure PlainDefinition (d : Dialect) where
  column : Token
  head : TypeHead
  type : List Token
  sizes : List String
  suffix : List Token
  after : List Token
  names : column.namesColumn = true
  writes : WritesType d head type sizes
  suffixes : IsSuffix d head suffix
  ends : EndsType d after

namespace PlainDefinition

variable {p p' : PlainDefinition d} {c c' : ColumnDefinition}

/-- The tokens of the definition and those that follow. -/
def stream (p : PlainDefinition d) : List Token :=
  p.column :: (p.type ++ (p.suffix ++ p.after))

/-- What is written of the type, without the further words. -/
def typeText (p : PlainDefinition d) : String :=
  writtenText d p.type

/-- Whether the definition is read as a column. -/
def Defines (p : PlainDefinition d) (c : ColumnDefinition) : Prop :=
  ∃ place place' : Place, place.rest = p.stream ∧
    (Parser.columnDefinition?.run d).run place = some (some c, place')

/-- What a definition tells of its column: the name and a type whose signature is what is written. -/
structure Tells (p : PlainDefinition d) (c : ColumnDefinition) : Prop where
  name : c.name = p.column.text
  type : ∃ base, c.type = ⟨some base, p.sizes⟩ ∧ isAllBlank base = false ∧
    Signature.write base p.sizes = p.typeText

theorem reads_field? (p : PlainDefinition d) :
    Parser.Reads d Parser.field? p.stream (some ⟨p.column.text, true⟩)
      (p.type ++ (p.suffix ++ p.after)) :=
  Parser.reads_field? p.names (headIs_sign_of_writesType p.writes)

theorem exists_reads_columnType? (p : PlainDefinition d) :
    ∃ type, Parser.Renders d p.head p.sizes type ∧
      Parser.Reads d (Parser.columnType? true) (p.type ++ (p.suffix ++ p.after)) (some type)
        p.after := by
  obtain ⟨type, hrenders, hread⟩ := Parser.reads_columnType? p.writes p.suffixes p.ends
  exact ⟨type, hrenders, hread true nofun⟩

/-- A definition that is closed behind the type is read. -/
theorem exists_reads_columnDefinition? (p : PlainDefinition d)
    (hcloses : Parser.ClosesDefinition p.after) :
    ∃ c, Parser.Reads d Parser.columnDefinition? p.stream (some c) p.after ∧ p.Tells c ∧
      c.nullable = true := by
  obtain ⟨base, hblank, hwrite, hdeclared⟩ := exists_declaredType p.writes
  obtain ⟨type, hrenders, htype⟩ := p.exists_reads_columnType?
  have hafter : Parser.Reads d (Parser.definitionAfter ⟨p.column.text, true⟩)
      (p.type ++ (p.suffix ++ p.after)) (some ⟨p.column.text, ⟨some base, p.sizes⟩, true, []⟩)
      p.after := by
    refine Parser.reads_read.bind (Parser.reads_get_bind fun place hplace => htype.bind ?_)
    refine (Parser.reads_computation hcloses).bind (Parser.reads_get_bind fun place' _ => ?_)
    refine (Parser.reads_columnConstraints hcloses _).bind ((Parser.reads_take 0).bind ?_)
    rw [hplace]
    have htypes : Parser.declaredType d ⟨p.column.text, true⟩ (p.type ++ (p.suffix ++ p.after)) type =
      ⟨some base, p.sizes⟩ := hdeclared type _ _ hrenders
    dsimp only [Option.map_some, Option.getD_some]
    rw [htypes]
    exact Parser.reads_pure _
  exact ⟨_, p.reads_field?.bind hafter, ⟨rfl, base, rfl, hblank, hwrite⟩, rfl⟩

/-- Whatever follows the type, a definition that is read tells the type as it is written. -/
theorem Defines.tells (h : p.Defines c) : p.Tells c := by
  obtain ⟨base, hblank, hwrite, hdeclared⟩ := exists_declaredType p.writes
  obtain ⟨type, hrenders, htype⟩ := p.exists_reads_columnType?
  obtain ⟨place, place', hplace, hrun⟩ := h
  obtain ⟨field, mid, hfield, hdefinition⟩ := Parser.run_bind_eq_some_iff.mp hrun
  obtain ⟨rfl, hmid⟩ := p.reads_field?.eq_of_run hplace hfield
  -- Behind the field stand the type, what computes the column and what constrains it.
  obtain ⟨_, _, hread, hdefinition⟩ := Parser.run_bind_eq_some_iff.mp hdefinition
  obtain ⟨rfl, rfl⟩ := Prod.mk.inj (Option.some.inj hread)
  obtain ⟨_, _, hget, hdefinition⟩ := Parser.run_bind_eq_some_iff.mp hdefinition
  obtain ⟨rfl, rfl⟩ := Prod.mk.inj (Option.some.inj hget)
  obtain ⟨_, mid₁, hrun₁, hdefinition⟩ := Parser.run_bind_eq_some_iff.mp hdefinition
  obtain ⟨rfl, -⟩ := htype.eq_of_run hmid hrun₁
  obtain ⟨computed, mid₂, -, hdefinition⟩ := Parser.run_bind_eq_some_iff.mp hdefinition
  obtain ⟨_, _, -, hdefinition⟩ := Parser.run_bind_eq_some_iff.mp hdefinition
  obtain ⟨told, mid₃, -, hdefinition⟩ := Parser.run_bind_eq_some_iff.mp hdefinition
  obtain ⟨_, mid₄, -, hpure⟩ := Parser.run_bind_eq_some_iff.mp hdefinition
  obtain ⟨hc, -⟩ := Prod.mk.inj (Option.some.inj hpure)
  obtain rfl := Option.some.inj hc
  refine ⟨rfl, base, ?_, hblank, hwrite⟩
  have htypes := hdeclared type p.column.text (p.suffix ++ p.after) hrenders
  rw [← hmid] at htypes
  exact htypes

theorem defines_of_reads (h : Parser.Reads d Parser.columnDefinition? p.stream (some c) p.after) :
    p.Defines c := by
  obtain ⟨place', hrun, -⟩ := h ⟨p.stream, [], true, []⟩ rfl
  exact ⟨_, place', rfl, hrun⟩

end PlainDefinition

/-! ### Occurrences -/

/-- Whether an occurrence is one of a column with the given definition. -/
def ColumnDefinition.Occurs (c : ColumnDefinition) (o : Occurrence) : Prop :=
  ∃ (t : Table) (database : Option String) (schema table : String) (ordinal : Nat),
    o = Occurrence.ofColumn t (c.toColumn database schema table ordinal)

/-- The occurrences of a column whose type is told have the written type as their signature. -/
theorem PlainDefinition.Tells.occurs {p : PlainDefinition d} {c : ColumnDefinition} {o : Occurrence}
    (h : p.Tells c) (ho : c.Occurs o) :
    o.name = upper p.column.text ∧ o.isTyped = true ∧ o.signature = p.typeText := by
  obtain ⟨hname, base, htype, hblank, hwrite⟩ := h
  obtain ⟨t, database, schema, table, ordinal, rfl⟩ := ho
  have hbase : (Occurrence.ofColumn t (c.toColumn database schema table ordinal)).base =
      some base := by
    -- An empty base name would count as none.
    have hne : base ≠ "" := by
      rintro rfl
      exact absurd hblank (by decide)
    have hfilter : (some base).filter (· ≠ "") = some base := by simp [hne]
    rw [Occurrence.ofColumn, ColumnDefinition.toColumn, htype]
    exact hfilter
  have hparams : (Occurrence.ofColumn t (c.toColumn database schema table ordinal)).params =
      p.sizes := by
    rw [Occurrence.ofColumn, ColumnDefinition.toColumn, htype]
  have htyped : (Occurrence.ofColumn t (c.toColumn database schema table ordinal)).isTyped =
      true := by
    rw [Occurrence.isTyped, hbase]
    exact congrArg (! ·) hblank
  refine ⟨congrArg upper hname, htyped, ?_⟩
  rw [Occurrence.signature, Occurrence.signature?, if_pos htyped, hbase, hparams, ← hwrite]
  rfl

/-- A definition with a plainly written type is read if it is closed behind the type and the words
that may follow it.  The occurrences of any column that is read from such a definition have the type
as their signature, as it is written with its sizes and without those words.  So two occurrences of
one name have different signatures and are both reported wherever the types are written differently,
letter case apart. -/
theorem signatures_written (d : Dialect) :
    (∀ p : PlainDefinition d, Parser.ClosesDefinition p.after → ∃ c, p.Defines c) ∧
    (∀ (p : PlainDefinition d) (c : ColumnDefinition) (o : Occurrence), p.Defines c → c.Occurs o →
      o.name = upper p.column.text ∧ o.isTyped = true ∧ o.signature = p.typeText) ∧
    ∀ (p p' : PlainDefinition d) (c c' : ColumnDefinition), p.Defines c → p'.Defines c' →
      ∀ os, ∀ o ∈ os, ∀ o' ∈ os, c.Occurs o → c'.Occurs o' → o.loweredName = o'.loweredName →
        lower p.typeText ≠ lower p'.typeText →
        lower o.signature ≠ lower o'.signature ∧ o.IsReported os ∧ o'.IsReported os := by
  refine ⟨fun p hcloses => ?_, fun p c o hc ho => hc.tells.occurs ho, ?_⟩
  · obtain ⟨c, hread, -⟩ := p.exists_reads_columnDefinition? hcloses
    exact ⟨c, p.defines_of_reads hread⟩
  · intro p p' c c' hc hc' os o ho o' ho' hoccurs hoccurs' hname hne
    obtain ⟨-, htyped, hsignature⟩ := hc.tells.occurs hoccurs
    obtain ⟨-, htyped', hsignature'⟩ := hc'.tells.occurs hoccurs'
    have hlowered : lower o.signature ≠ lower o'.signature := by rwa [hsignature, hsignature']
    exact ⟨hlowered, isReported_both ho ho' htyped htyped' hname hlowered⟩

/-- Words and signs as tokens. -/
def wordToken (s : String) : Token := ⟨.word, s, [], false⟩

@[inherit_doc wordToken]
def signToken (s : String) : Token := ⟨.sign, s, [], false⟩

/-- A time with a size: `TIMESTAMP(n)`. -/
def timeTokens (n : String) : List Token :=
  [wordToken "TIMESTAMP", signToken "(", ⟨.number, n, [], true⟩, signToken ")"]

/-- The words for a zone. -/
def zoneTokens : List Token := [wordToken "WITH", wordToken "TIME", wordToken "ZONE"]

theorem namesColumn_made : (wordToken "made").namesColumn = true := by
  decide +kernel

theorem writesType_timeTokens {n : String} (hn : Signature.parameter n = n) :
    WritesType .postgres (.builtIn ⟨"TIMESTAMP"⟩) (timeTokens n) [n] := by
  have hword : WritesHead .postgres (.builtIn ⟨"TIMESTAMP"⟩) [wordToken "TIMESTAMP"] :=
    .builtIn (by decide +kernel) (by decide +kernel)
  have htakes : TypeHead.takes .postgres ⟨.number, n, [], true⟩ (.builtIn ⟨"TIMESTAMP"⟩) = true := by
    simp [TypeHead.takes, TypeName.holdsValues, Token.isSize]
  have harguments : WritesArguments .postgres (.builtIn ⟨"TIMESTAMP"⟩) [⟨.number, n, [], true⟩] [n] :=
    .last htakes hn
  exact .mk hword (.some (by decide) (by decide) harguments (by decide))

theorem isSuffix_zoneTokens : IsSuffix .postgres (.builtIn ⟨"TIMESTAMP"⟩) zoneTokens :=
  .zone (by decide) (.cons (by decide +kernel) (.cons (by decide +kernel)
    (.cons (by decide +kernel) .nil)))

theorem closesDefinition_comma : Parser.ClosesDefinition [signToken ","] :=
  .cons (.inl (by decide))

/-- The definition of a time with a zone: `made TIMESTAMP(n) WITH TIME ZONE`. -/
def zonedTime (n : String) (hn : Signature.parameter n = n) : PlainDefinition .postgres where
  column := wordToken "made"
  head := .builtIn ⟨"TIMESTAMP"⟩
  type := timeTokens n
  sizes := [n]
  suffix := zoneTokens
  after := [signToken ","]
  names := namesColumn_made
  writes := writesType_timeTokens hn
  suffixes := isSuffix_zoneTokens
  ends := closesDefinition_comma.endsType

/-- Two times with zones and other sizes are both reported, with signatures that do not tell of the
zone. -/
theorem signatures_written_zoned :
    ∃ o o' : Occurrence, o.signature = "TIMESTAMP(3)" ∧ o'.signature = "TIMESTAMP(6)" ∧
      o.IsReported [o, o'] ∧ o'.IsReported [o, o'] := by
  obtain ⟨hdefines, hsignature, hreported⟩ := signatures_written .postgres
  obtain ⟨c, hc⟩ := hdefines (zonedTime "3" (by decide)) closesDefinition_comma
  obtain ⟨c', hc'⟩ := hdefines (zonedTime "6" (by decide)) closesDefinition_comma
  have hoccurs : ∀ c : ColumnDefinition,
      c.Occurs (Occurrence.ofColumn ⟨none, "PUBLIC", "ORDERS", []⟩ (c.toColumn none "" "" 1)) :=
    fun c => ⟨_, _, _, _, _, rfl⟩
  obtain ⟨hname, -, hwritten⟩ := hsignature _ _ _ hc (hoccurs c)
  obtain ⟨hname', -, hwritten'⟩ := hsignature _ _ _ hc' (hoccurs c')
  refine ⟨_, _, hwritten, hwritten', ?_⟩
  refine (hreported _ _ _ _ hc hc' _ _ (by simp) _ (by simp) (hoccurs c) (hoccurs c') ?_ ?_).2
  · rw [Occurrence.loweredName, Occurrence.loweredName, hname, hname']
    rfl
  · decide +kernel

/-- Two tables with numbers of one name, one of them unsigned. -/
def numberSources : List Source :=
  [⟨.sql, "numbers.sql",
    Utf8.encode "CREATE TABLE a (id INT UNSIGNED); CREATE TABLE b (id INT)"⟩]

/-- The occurrences in the two tables. -/
def numberOccurrences : Option (List Occurrence) :=
  (Snapshot.ofSources "mysql" numberSources).1.toOption.map fun s =>
    Settings.standard.occurrences s.tables

/-- The sign is lost: both numbers have one signature, and nothing is reported. -/
theorem signatures_written_unsigned :
    numberOccurrences.map (fun os => (os.map fun o => (o.table, o.name, o.signature),
        (mismatchedColumns os).map Offense.name)) =
      some ([("A", "ID", "INT"), ("B", "ID", "INT")], []) := by
  decide +kernel

end ColumnLint.Sql

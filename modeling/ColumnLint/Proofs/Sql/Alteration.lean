import ColumnLint.Proofs.Catalog.Evolution
import ColumnLint.Proofs.Catalog.Target
import ColumnLint.Proofs.Sql.Declaration
import ColumnLint.Sql.Parser.Alteration

/-!
# Alterations of columns

The columns of a table evolve by the rules of each change (`columns_evolve`).  A change of type
takes the base name and the parameters of a column from one type, which is the one that the script
writes (`PlainAlteration.reads_action?`): the words that lead up to the type are passed over, and
nullability is changed where it is told.

The base name is looked for behind the name of the column.  One dialect lets another name stand
there, and then this name is taken for the type (`redefined_column`).
-/

namespace ColumnLint.Sql

open ColumnLint.Text

variable {d : Dialect} {t : Token} {head : TypeHead} {rest tokens lead after : List Token}
  {sizes : List String} {told : Option Bool}

/-! ### What stands around a new type -/

/-- The words for a column after `ALTER`. -/
def columnWords (d : Dialect) : List String :=
  if d = .oracle then ["COLUMN", "COLUMNS"] else ["COLUMN"]

/-- The tokens before the name of a column: a word that says what it is, or none. -/
inductive SaysColumn (d : Dialect) (column : Token) : List Token → Prop
  | none (h : column.isOneOf (columnWords d) = false) : SaysColumn d column []
  | word {t : Token} (h : t.isOneOf (columnWords d) = true) : SaysColumn d column [t]

/-- The words that begin another change of a column than one of its type, or lead up to the type. -/
def changeWords : List String := ["SET", "DATA", "TYPE", "DROP", "COMMENT"]

/-- Tokens that lead up to a type. -/
inductive LeadsUp (d : Dialect) (type : List Token) : List Token → Prop
  | none (hword : d.requiresTypeWord = false)
      (hfirst : Parser.headIs (fun t => changeWords.contains t.upperText) type = false) :
      LeadsUp d type []
  | data {lead : List Token} (hword : d.requiresTypeWord = false)
      (hfirst : Parser.headIs (fun t => changeWords.contains t.upperText) type = false)
      (h : Spell lead ["SET", "DATA"]) : LeadsUp d type lead
  | type {lead : List Token} (h : Spell lead ["TYPE"]) : LeadsUp d type lead
  | dataType {lead : List Token} (h : Spell lead ["SET", "DATA", "TYPE"]) : LeadsUp d type lead

/-- Tokens that tell behind a type whether the column may be null, as one dialect allows. -/
inductive TellsNull (d : Dialect) : List Token → Option Bool → Prop
  | none : TellsNull d [] none
  | null {t : Token} (hd : d = .tsql) (h : t.isWord "NULL" = true) : TellsNull d [t] (some true)
  | notNull {tokens : List Token} (hd : d = .tsql) (h : Spell tokens ["NOT", "NULL"]) :
      TellsNull d tokens (some false)

namespace Parser

/-! ### Words -/

theorem spells_of_isWord {w : String} (h : t.isWord w = true) : t.spells w = true := by
  obtain ⟨hkind, htext⟩ := (Bool.and_eq_true ..).mp h
  rw [Token.spells, htext, of_decide_eq_true hkind]
  rfl

theorem upperText_of_spells {w : String} (h : t.spells w = true) : t.upperText = w :=
  of_decide_eq_true ((Bool.and_eq_true ..).mp h).2

theorem isSign_of_spells {w : String} (h : t.spells w = true) (hw : w ∈ changeWords) :
    t.isSign "(" = false := by
  rw [Bool.eq_false_iff]
  intro hsign
  have hupper : upper "(" = w := by
    rw [← (kind_of_isSign hsign).2]
    exact upperText_of_spells h
  have hsigns : upper "(" ∉ changeWords := by decide +kernel
  exact hsigns (hupper ▸ hw)

theorem map_upperText_of_spell {words : List String} (h : Spell tokens words) :
    tokens.map Token.upperText = words := by
  rw [← List.forall₂_eq_eq_eq, List.forall₂_map_left_iff]
  exact h.imp fun t w => upperText_of_spells

theorem leads_of_upperText_ne {w : String} {words : List String} (h : t.upperText ≠ w) :
    leads (w :: words) (t :: rest) = false := by
  rw [leads_cons, Token.spells, decide_eq_false h, Bool.and_false, Bool.false_and]

/-- A word that tells of nullability ends a type. -/
theorem endsType_of_upperText (h : t.upperText ∈ ["NOT", "NULL"]) : EndsType d (t :: rest) := by
  have hne : ∀ w, w ∉ ["NOT", "NULL"] → t.upperText ≠ w := by
    rintro w hw rfl
    exact hw h
  refine ⟨fun s hs => ?_, ?_, ?_, fun words hwords => ?_, ?_, ?_⟩
  · rw [headIs_cons, Bool.eq_false_iff]
    intro hsign
    have hsigns : ∀ s ∈ ["(", "<", "[", "."], upper s ∉ ["NOT", "NULL"] := by decide +kernel
    exact hne _ (hsigns s hs) (congrArg upper (kind_of_isSign hsign).2)
  · rw [headIs_cons, Token.isWord, decide_eq_false (hne _ (by decide)), Bool.and_false]
  · have hunits : ∀ w ∈ ["NOT", "NULL"], intervalUnits.contains w = false := by decide
    rw [headIs_cons, hunits _ h, Bool.and_false]
  · have hwith : "WITH" ∉ ["NOT", "NULL"] ∧ "WITHOUT" ∉ ["NOT", "NULL"] := by decide
    simp only [zonePhrases, List.mem_cons, List.not_mem_nil, or_false] at hwords
    obtain rfl | rfl | rfl := hwords
    · exact leads_of_upperText_ne (hne _ hwith.1)
    · exact leads_of_upperText_ne (hne _ hwith.1)
    · exact leads_of_upperText_ne (hne _ hwith.2)
  · exact leads_of_upperText_ne (hne _ (by decide))
  · exact leads_of_upperText_ne (hne _ (by decide))

/-! ### Nullability -/

theorem endsType_of_tellsNull (h : TellsNull d tokens told) (hafter : ClosesDefinition after) :
    EndsType d (tokens ++ after) := by
  cases h with
  | none => exact hafter.endsType
  | null hd h =>
    refine endsType_of_upperText ?_
    rw [upperText_of_spells (spells_of_isWord h)]
    decide
  | notNull hd h =>
    obtain _ | ⟨hnot, _⟩ := h
    refine endsType_of_upperText ?_
    rw [upperText_of_spells hnot]
    decide

/-- Nullability is read where one dialect tells of it. -/
theorem reads_nullability? (h : TellsNull .tsql tokens told) (hafter : ClosesDefinition after) :
    Reads .tsql nullability? (tokens ++ after) told after := by
  cases h with
  | none =>
    refine (reads_phrase_of_not (hafter.leads (by decide) (by decide))).bind ?_
    exact (reads_word_of_not (hafter.isWord "NULL")).bind (reads_pure _)
  | @null t hd h =>
    have hnot : leads ["NOT", "NULL"] ([t] ++ after) = false := by
      refine leads_of_upperText_ne ?_
      rw [upperText_of_spells (spells_of_isWord h)]
      decide
    have hread : Reads .tsql (word "NULL") ([t] ++ after) true after := reads_skipIf h
    exact (reads_phrase_of_not hnot).bind (hread.bind (reads_pure _))
  | notNull hd h => exact (reads_phrase_of_spell h).bind (reads_pure _)

theorem eq_none_of_tellsNull (h : TellsNull d tokens told) (hd : d ≠ .tsql) :
    tokens = [] ∧ told = none := by
  cases h with
  | none => exact ⟨rfl, rfl⟩
  | null hd' _ | notNull hd' _ => exact absurd hd' hd

/-! ### Words that lead up to a type -/

/-- No phrase that begins a change of a column comes first where none of its words does. -/
theorem leads_of_not_changeWords {w : String} (words : List String) (hw : w ∈ changeWords)
    (hfirst : headIs (fun t => changeWords.contains t.upperText) rest = false) :
    leads (w :: words) rest = false := by
  cases rest with
  | nil => rfl
  | cons t rest =>
    refine leads_of_upperText_ne ?_
    rintro rfl
    rw [headIs_cons, List.contains_iff_mem.mpr hw] at hfirst
    exact absurd hfirst (by decide)

/-- The words that lead up to a type are read, and the type may follow. -/
theorem reads_lead (h : LeadsUp d rest lead) :
    ∃ data mid said, Reads d (phrase ["SET", "DATA"]) (lead ++ rest) data mid ∧
      Reads d (phrase ["TYPE"]) mid said rest ∧ (said || !d.requiresTypeWord) = true := by
  cases h with
  | none hword hfirst =>
    refine ⟨_, _, _, reads_phrase_of_not (leads_of_not_changeWords _ (by decide) hfirst),
      reads_phrase_of_not (leads_of_not_changeWords _ (by decide) hfirst), ?_⟩
    rw [hword]
    rfl
  | data hword hfirst h =>
    refine ⟨_, _, _, reads_phrase_of_spell h,
      reads_phrase_of_not (leads_of_not_changeWords _ (by decide) hfirst), ?_⟩
    rw [hword]
    rfl
  | type h =>
    have hset : leads ["SET", "DATA"] (lead ++ rest) = false := by
      obtain _ | ⟨htype, _⟩ := h
      refine leads_of_upperText_ne ?_
      rw [upperText_of_spells htype]
      decide
    exact ⟨_, _, _, reads_phrase_of_not hset, reads_phrase_of_spell h, Bool.true_or _⟩
  | dataType h =>
    obtain _ | @⟨t, _, _, _, hset, _ | @⟨u, _, word, _, hdata, htype⟩⟩ := h
    have hphrase : Reads d (phrase ["SET", "DATA"]) (t :: u :: (word ++ rest)) true
        (word ++ rest) := reads_phrase_of_spell (.cons hset (.cons hdata .nil))
    exact ⟨_, _, _, hphrase, reads_phrase_of_spell htype, Bool.true_or _⟩

/-- Either nothing leads up to a type, which does not begin as a change of a column does, or it is
`SET` or `TYPE` that comes first. -/
theorem first_of_leadsUp (h : LeadsUp d rest lead) :
    (lead = [] ∧ headIs (fun t => changeWords.contains t.upperText) rest = false) ∨
      ∃ t more w, lead = t :: more ∧ w ∈ ["SET", "TYPE"] ∧ t.spells w = true := by
  cases h with
  | none hword hfirst => exact .inl ⟨rfl, hfirst⟩
  | data hword hfirst h | dataType h =>
    obtain _ | ⟨hset, _⟩ := h
    exact .inr ⟨_, _, "SET", rfl, by decide, hset⟩
  | type h =>
    obtain _ | ⟨htype, _⟩ := h
    exact .inr ⟨_, _, "TYPE", rfl, by decide, htype⟩

/-- What leads up to a type begins no other change of a column. -/
theorem leads_of_leadsUp {w w' : String} (words : List String) (h : LeadsUp d rest lead)
    (hw : w ∈ ["SET", "DROP"]) (hw' : "DATA" ≠ w') :
    leads (w :: w' :: words) (lead ++ rest) = false := by
  have hchange : ∀ w ∈ ["SET", "DROP"], w ∈ changeWords ∧ "TYPE" ≠ w := by decide
  have hdata : ∀ (t u : Token) (rest : List Token), u.spells "DATA" = true →
      leads (w :: w' :: words) (t :: u :: rest) = false := by
    intro t u rest hu
    rw [leads_cons, leads_cons, spells_of_ne hu hw', Bool.false_and, Bool.and_false]
  cases h with
  | none hword hfirst => exact leads_of_not_changeWords _ (hchange w hw).1 hfirst
  | data hword hfirst h =>
    obtain _ | ⟨_, _ | ⟨hu, _⟩⟩ := h
    exact hdata _ _ _ hu
  | type h =>
    obtain _ | ⟨htype, _⟩ := h
    rw [List.cons_append, leads_cons, spells_of_ne htype (hchange w hw).2, Bool.false_and]
  | dataType h =>
    obtain _ | ⟨_, _ | ⟨hu, _⟩⟩ := h
    exact hdata _ _ _ hu

theorem headIs_comment_of_leadsUp (h : LeadsUp d rest lead) :
    headIs (·.isWord "COMMENT") (lead ++ rest) = false := by
  obtain ⟨rfl, hfirst⟩ | ⟨t, more, w, rfl, hw, ht⟩ := first_of_leadsUp h
  · cases rest with
    | nil => rfl
    | cons t rest =>
      rw [List.nil_append, headIs_cons, Bool.eq_false_iff]
      intro hcomment
      have htext := upperText_of_spells (spells_of_isWord hcomment)
      rw [headIs_cons, htext] at hfirst
      exact absurd hfirst (by decide)
  · have hne : ∀ w ∈ ["SET", "TYPE"], w ≠ "COMMENT" := by decide
    rw [List.cons_append, headIs_cons, Token.isWord, upperText_of_spells ht,
      decide_eq_false (hne w hw), Bool.and_false]

/-- The words that lead up to a type have no say in what is spelled. -/
theorem spelledType?_of_leadsUp (h : LeadsUp d rest lead) (more : List Token) :
    spelledType? (lead ++ more) = spelledType? more := by
  have hlead : ∀ t ∈ lead, ["SET", "DATA", "TYPE"].contains t.upperText = true := by
    cases h with
    | none _ _ => exact fun t ht => absurd ht List.not_mem_nil
    | data _ _ h | type h | dataType h =>
      intro t ht
      have hmem := List.mem_map_of_mem (f := Token.upperText) ht
      rw [map_upperText_of_spell h] at hmem
      exact List.contains_iff_mem.mpr (List.subset_def.mp (by decide) hmem)
  unfold spelledType?
  rw [List.dropWhile_append_of_pos hlead]

theorem declaredType_of_leadsUp (h : LeadsUp d rest lead) (s : String) (more : List Token)
    (type : DataType) :
    declaredType d ⟨s, true⟩ (lead ++ more) type = declaredType d ⟨s, true⟩ more type := by
  rw [declaredType, declaredType, spelledType?_of_leadsUp h]

/-! ### Changes of columns -/

/-- What may follow a new type. -/
def newTypeEnd (change : TableChange) : Parser TableChange := do
  if ← word "COLLATE" then let _ ← arithmetic 0
  if ← word "USING" then let _ ← logical 0
  return change

theorem newType_eq (column : Field) (afterName : List Token) : newType column afterName = (do
    let d ← read
    let _ ← phrase ["SET", "DATA"]
    let said ← phrase ["TYPE"]
    let finish (type : Option DataType) (nullable : Option Bool) : Parser TableChange :=
      newTypeEnd (.alterColumn column.name (type.map (declaredType d column afterName)) nullable)
    let tell (type : Option DataType) : Parser TableChange :=
      if d = .tsql then do finish type (← nullability?) else finish type none
    if said || !d.requiresTypeWord then do tell (← columnType? false) else tell none) := rfl

theorem reads_newTypeEnd (change : TableChange) (hafter : ClosesDefinition after) :
    Reads d (newTypeEnd change) after change after := by
  refine (reads_word_of_not (hafter.isWord "COLLATE")).bind ?_
  exact (reads_word_of_not (hafter.isWord "USING")).bind (reads_pure _)

/-- A new type is read behind the words that lead up to it, with what tells of nullability. -/
theorem reads_newType {column : Field} {afterName nulls : List Token} {type : DataType}
    (hlead : LeadsUp d rest lead)
    (htype : Reads d (columnType? false) rest (some type) (nulls ++ after))
    (hnulls : TellsNull d nulls told) (hafter : ClosesDefinition after) :
    Reads d (newType column afterName) (lead ++ rest)
      (.alterColumn column.name (some (declaredType d column afterName type)) told) after := by
  obtain ⟨data, mid, said, hdata, hsaid, htyped⟩ := reads_lead hlead
  rw [newType_eq]
  refine reads_read.bind (hdata.bind (hsaid.bind ?_))
  dsimp only
  rw [if_pos htyped]
  refine htype.bind ?_
  by_cases hd : d = .tsql
  · subst hd
    rw [if_pos rfl]
    exact (reads_nullability? hnulls hafter).bind (reads_newTypeEnd _ hafter)
  · obtain ⟨rfl, rfl⟩ := eq_none_of_tellsNull hnulls hd
    rw [if_neg hd]
    exact reads_newTypeEnd _ hafter

/-- A column is told apart from the word that says what it is. -/
theorem reads_columnWord {said : List Token} {column : Token} (h : SaysColumn d column said) :
    ∃ b, Reads d columnWord (said ++ column :: rest) b (column :: rest) := by
  cases h with
  | none h => exact ⟨false, reads_read.bind (reads_skipIf_of_not h)⟩
  | word h => exact ⟨true, reads_read.bind (reads_skipIf h)⟩

/-- An action that begins with `ALTER` changes a column. -/
theorem reads_action? {change : TableChange} {alter : Token} (h : alter.isWord "ALTER" = true)
    (hchange : Reads d columnChange rest change after) :
    Reads d action? (alter :: rest) (some change) after := by
  have htext := upperText_of_spells (spells_of_isWord h)
  have hadd : (alter.spells "ADD" || alter.isOneOf d.addedConstraintWords) = false := by
    have hwords : d.addedConstraintWords.contains "ALTER" = false := by cases d <;> decide
    rw [Token.isOneOf, htext, hwords, Token.spells, htext, Bool.and_false, Bool.or_false]
    simp
  have hdrop : alter.isWord "DROP" = false := by
    rw [Token.isWord, htext]
    simp
  have hread : Reads d (word "ALTER") (alter :: rest) true rest := reads_skipIf h
  refine reads_read.bind ((reads_nextIs _).bind ?_)
  rw [headIs_cons, hadd]
  refine (reads_nextIs _).bind ?_
  rw [headIs_cons, hdrop]
  exact hread.bind (hchange.bind (reads_pure _))

/-- A column may be altered in its nullability alone, by `DROP NOT NULL` or `SET NOT NULL`. -/
theorem reads_action?_null {alter column : Token} {said tokens : List Token} {w : String} {b : Bool}
    (h : alter.isWord "ALTER" = true) (hsaid : SaysColumn d column said)
    (hcolumn : column.namesColumn = true) (hw : (w, b) ∈ [("DROP", true), ("SET", false)])
    (htokens : Spell tokens [w, "NOT", "NULL"]) :
    Reads d action? (alter :: (said ++ column :: (tokens ++ after)))
      (some (.alterColumn column.text none (some b))) after := by
  have hread : Reads d (phrase [w, "NOT", "NULL"]) (tokens ++ after) true after :=
    reads_phrase_of_spell htokens
  have hw' : w ∈ changeWords ∧ w ≠ "COMMENT" := by
    have hwords : ∀ p ∈ [("DROP", true), ("SET", false)], p.1 ∈ changeWords ∧ p.1 ≠ "COMMENT" := by
      decide
    exact hwords _ hw
  obtain _ | @⟨t, _, _, _, ht, _ | @⟨u, _, tail, _, hu, _⟩⟩ := htokens
  rw [List.cons_append, List.cons_append] at hread ⊢
  have hfalse : ∀ v v' words, "NOT" ≠ v' →
      leads (v :: v' :: words) (t :: u :: (tail ++ after)) = false := by
    intro v v' words hne
    rw [leads_cons, leads_cons, spells_of_ne hu hne, Bool.false_and, Bool.and_false]
  have hcomment : headIs (·.isWord "COMMENT") (t :: u :: (tail ++ after)) = false := by
    rw [headIs_cons, Token.isWord, upperText_of_spells ht, decide_eq_false hw'.2, Bool.and_false]
  obtain ⟨x, hword⟩ := @reads_columnWord _ (t :: u :: (tail ++ after)) _ _ hsaid
  have hfield : Reads d field? (column :: t :: u :: (tail ++ after)) (some ⟨column.text, true⟩)
      (t :: u :: (tail ++ after)) := reads_field? hcolumn (isSign_of_spells ht hw'.1)
  refine reads_action? h (hword.bind (hfield.bind (reads_get_bind fun place hplace => ?_)))
  refine (reads_phrase_of_not (hfalse "DROP" "DEFAULT" [] (by decide))).bind ?_
  refine (reads_phrase_of_not (hfalse "SET" "DEFAULT" [] (by decide))).bind ?_
  refine (reads_word_of_not hcomment).bind ?_
  simp only [List.mem_cons, Prod.mk.injEq, List.not_mem_nil, or_false] at hw
  obtain ⟨rfl, rfl⟩ | ⟨rfl, rfl⟩ := hw
  · exact hread.bind (reads_pure _)
  · have hdrop : leads ["DROP", "NOT", "NULL"] (t :: u :: (tail ++ after)) = false := by
      rw [leads_cons, spells_of_ne ht (by decide), Bool.false_and]
    exact (reads_phrase_of_not hdrop).bind (hread.bind (reads_pure _))

end Parser

/-! ### Alterations -/

/-- The alteration of a column that gives it a plainly written type: the word `ALTER`, the word for
a column, the token of its name, the words that lead up to the type, the tokens of the type and the
further words, what tells of nullability, and the tokens that follow. -/
structure PlainAlteration (d : Dialect) where
  alter : Token
  said : List Token
  column : Token
  lead : List Token
  head : TypeHead
  type : List Token
  sizes : List String
  suffix : List Token
  nulls : List Token
  told : Option Bool
  after : List Token
  begins : alter.isWord "ALTER" = true
  announces : SaysColumn d column said
  names : column.namesColumn = true
  leadsUp : LeadsUp d (type ++ (suffix ++ (nulls ++ after))) lead
  writes : WritesType d head type sizes
  keeps : Parser.losesSizes d head = false
  suffixes : IsSuffix d head suffix
  tells : TellsNull d nulls told
  closes : Parser.ClosesDefinition after

namespace PlainAlteration

/-- The tokens of the type and those that follow. -/
def typed (p : PlainAlteration d) : List Token :=
  p.type ++ (p.suffix ++ (p.nulls ++ p.after))

/-- The tokens of the alteration and those that follow. -/
def stream (p : PlainAlteration d) : List Token :=
  p.alter :: (p.said ++ p.column :: (p.lead ++ p.typed))

/-- The name of the column is followed by a word. -/
theorem headIs_sign (p : PlainAlteration d) :
    Parser.headIs (·.isSign "(") (p.lead ++ p.typed) = false := by
  obtain ⟨hnil, -⟩ | ⟨t, more, w, hcons, hw, ht⟩ := Parser.first_of_leadsUp p.leadsUp
  · rw [hnil, List.nil_append]
    exact headIs_sign_of_writesType p.writes
  · have hwords : ∀ w ∈ ["SET", "TYPE"], w ∈ changeWords := by decide
    rw [hcons]
    exact Parser.isSign_of_spells ht (hwords w hw)

/-- A plain alteration is read as a change of the type to the one that is written, which comes with
all its sizes, and of nullability if that is told. -/
theorem reads_action? (p : PlainAlteration d) :
    ∃ base, isAllBlank base = false ∧ Signature.write base p.sizes = writtenText d p.type ∧
      Parser.Reads d Parser.action? p.stream
        (some (.alterColumn p.column.text (some ⟨some base, p.sizes⟩) p.told)) p.after := by
  obtain ⟨base, hblank, hwrite, hdeclared⟩ := exists_declaredType p.writes
  obtain ⟨type, hrenders, hread⟩ := Parser.reads_columnType? p.writes p.suffixes
    (Parser.endsType_of_tellsNull p.tells p.closes)
  refine ⟨base, hblank, hwrite, Parser.reads_action? p.begins ?_⟩
  have hlead : ∀ w w' words, w ∈ ["SET", "DROP"] → "DATA" ≠ w' →
      Parser.leads (w :: w' :: words) (p.lead ++ p.typed) = false :=
    fun w w' words => Parser.leads_of_leadsUp words p.leadsUp
  -- The base name is looked for behind the words that lead up to the type.
  have htype : Parser.declaredType d ⟨p.column.text, true⟩ (p.lead ++ p.typed) type =
      ⟨some base, p.sizes⟩ :=
    (Parser.declaredType_of_leadsUp p.leadsUp _ p.typed type).trans (hdeclared type _ _ hrenders)
  have hnew : Parser.Reads d (Parser.newType ⟨p.column.text, true⟩ (p.lead ++ p.typed))
      (p.lead ++ p.typed) (.alterColumn p.column.text (some ⟨some base, p.sizes⟩) p.told)
      p.after := by
    rw [← htype]
    exact Parser.reads_newType p.leadsUp (hread false fun _ => p.keeps) p.tells p.closes
  have hvisible : Parser.Reads d (Parser.phraseAmong [["SET", "VISIBLE"], ["SET", "INVISIBLE"]])
      (p.lead ++ p.typed) false (p.lead ++ p.typed) := by
    refine (Parser.reads_phrase_of_not (hlead "SET" "VISIBLE" [] (by decide) (by decide))).bind ?_
    refine (Parser.reads_phrase_of_not (hlead "SET" "INVISIBLE" [] (by decide) (by decide))).bind ?_
    exact Parser.reads_pure _
  obtain ⟨said, hsaid⟩ := @Parser.reads_columnWord _ (p.lead ++ p.typed) _ _ p.announces
  refine hsaid.bind ((Parser.reads_field? p.names p.headIs_sign).bind ?_)
  refine Parser.reads_get_bind fun place hplace => ?_
  rw [hplace]
  refine (Parser.reads_phrase_of_not (hlead "DROP" "DEFAULT" [] (by decide) (by decide))).bind ?_
  refine (Parser.reads_phrase_of_not (hlead "SET" "DEFAULT" [] (by decide) (by decide))).bind ?_
  refine (Parser.reads_word_of_not (Parser.headIs_comment_of_leadsUp p.leadsUp)).bind ?_
  refine (Parser.reads_phrase_of_not (hlead "DROP" "NOT" _ (by decide) (by decide))).bind ?_
  refine (Parser.reads_phrase_of_not (hlead "SET" "NOT" _ (by decide) (by decide))).bind ?_
  refine hvisible.bind ?_
  exact hnew

end PlainAlteration

/-! ### Columns under alterations -/

/-- What alterations make of the columns of a table.  An alteration changes the table that it means,
by one change after another, and the rules of the changes settle what becomes of its columns: those
of before come first, as the changes leave them, and what is left of the added ones stands behind
them.  What is left of a column keeps its place number, its owner and the rules that it suppresses.
A type that is written plainly is read as it is written, with its sizes, and nullability is read
where it is told. -/
theorem columns_evolve (d : Dialect) (changes : List TableChange) :
    (∀ (c : Catalog) (n : TableName),
      (c.apply d (.alterTable n changes)).1.tables = c.tables.map fun t =>
        if some t.key = c.altered? d (.alterTable n changes) then t.changeAll changes else t) ∧
    (∀ (t : Table) (cs : List Column),
      TableChange.EvolvesAll t changes cs ↔ cs = (t.changeAll changes).columns) ∧
    (∀ t : Table, (t.changeAll changes).columns =
      t.columns.filterMap (TableChange.fates changes) ++ TableChange.addedAll t changes) ∧
    (∀ c c' : Column, TableChange.fates changes c = some c' →
      TableChange.Keeps c c' ∧ ∀ rule, c'.suppresses rule = c.suppresses rule) ∧
    (∀ p : PlainAlteration d, ∃ base, isAllBlank base = false ∧
      Signature.write base p.sizes = writtenText d p.type ∧
      Parser.Reads d Parser.action? p.stream
        (some (.alterColumn p.column.text (some ⟨some base, p.sizes⟩) p.told)) p.after) ∧
    ∀ (alter column : Token) (said tokens after : List Token) (w : String) (b : Bool),
      alter.isWord "ALTER" = true → SaysColumn d column said → column.namesColumn = true →
      (w, b) ∈ [("DROP", true), ("SET", false)] → Spell tokens [w, "NOT", "NULL"] →
      Parser.Reads d Parser.action? (alter :: (said ++ column :: (tokens ++ after)))
        (some (.alterColumn column.text none (some b))) after := by
  refine ⟨fun c n => ?_, fun t cs => TableChange.evolvesAll_iff,
    fun t => TableChange.columns_changeAll_eq t changes, fun c c' h => ?_,
    fun p => p.reads_action?,
    fun alter column said tokens after w b => Parser.reads_action?_null⟩
  · rw [Catalog.tables_alterTable]
    refine List.map_congr_left fun t _ => ?_
    rw [Table.changeAll_eq]
  · have hkeeps := TableChange.keeps_of_fates h
    exact ⟨hkeeps, hkeeps.suppresses⟩

/-- The alteration of a column to a time with a zone:
`ALTER COLUMN made TYPE TIMESTAMP(3) WITH TIME ZONE`. -/
def zonedAlteration : PlainAlteration .postgres where
  alter := wordToken "ALTER"
  said := [wordToken "COLUMN"]
  column := wordToken "made"
  lead := [wordToken "TYPE"]
  head := .builtIn ⟨"TIMESTAMP"⟩
  type := timeTokens "3"
  sizes := ["3"]
  suffix := zoneTokens
  nulls := []
  told := none
  after := []
  begins := by decide +kernel
  announces := .word (by decide +kernel)
  names := namesColumn_made
  leadsUp := .type (.cons (by decide +kernel) .nil)
  writes := writesType_timeTokens (by decide)
  keeps := by decide
  suffixes := isSuffix_zoneTokens
  tells := .none
  closes := .nil

/-- A column that suppresses all rules. -/
def quietColumn : Column := ⟨none, "PUBLIC", "T", "A", some "INT", [], true, 4, ["*"]⟩

/-- A column that is renamed and gets another type is still suppressed, whatever is dropped under
its old name. -/
theorem columns_evolve_quiet :
    let changes : List TableChange := [.renameColumn "a" "b",
      .alterColumn "B" (some ⟨some "TIMESTAMP", ["3"]⟩) (some false), .dropColumns ["a"]]
    let left : Column := ⟨none, "PUBLIC", "T", "B", some "TIMESTAMP", ["3"], false, 4, ["*"]⟩
    TableChange.fates changes quietColumn = some left ∧
      (∀ rule, left.suppresses rule = quietColumn.suppresses rule) ∧
      (∃ base, Signature.write base ["3"] = "TIMESTAMP(3)" ∧
        Parser.Reads .postgres Parser.action? zonedAlteration.stream
          (some (.alterColumn "made" (some ⟨some base, ["3"]⟩) none)) []) ∧
      Parser.Reads .postgres Parser.action?
        [wordToken "ALTER", wordToken "made", wordToken "SET", wordToken "NOT", wordToken "NULL"]
        (some (.alterColumn "made" none (some false))) [] := by
  intro changes left
  obtain ⟨-, -, -, hkeeps, htyped, hnull⟩ := columns_evolve .postgres changes
  have hfates : TableChange.fates changes quietColumn = some left := by decide +kernel
  refine ⟨hfates, (hkeeps quietColumn left hfates).2, ?_, ?_⟩
  · obtain ⟨base, -, hwrite, hread⟩ := htyped zonedAlteration
    have htext : writtenText .postgres zonedAlteration.type = "TIMESTAMP(3)" := by decide +kernel
    exact ⟨base, hwrite.trans htext, hread⟩
  · have hwords : Spell [wordToken "SET", wordToken "NOT", wordToken "NULL"]
        ["SET", "NOT", "NULL"] :=
      .cons (by decide +kernel) (.cons (by decide +kernel) (.cons (by decide +kernel) .nil))
    exact hnull (wordToken "ALTER") (wordToken "made") [] _ [] "SET" false
      (by decide +kernel) (.none (by decide +kernel)) namesColumn_made (by decide) hwords

/-- A script that gives a column another name and another type at once. -/
def redefiningScript : String :=
  "CREATE TABLE t (a INT, b VARCHAR(10)); ALTER TABLE t CHANGE COLUMN a z BIGINT"

/-- The new name of the column is taken for its type. -/
theorem redefined_column :
    (Catalog.empty.applyScript standardPreparations "databricks" redefiningScript).1.tables.map
        (fun t => t.columns.map fun c => (c.name, c.type, c.params)) =
      [[("A", some "Z", []), ("B", some "VARCHAR", ["10"])]] := by
  decide +kernel

end ColumnLint.Sql

import ColumnLint.Proofs.Sql.WrittenType

/-!
# How types are read

A type that is written plainly is read as it is written (`reads_columnType?`): its sizes are the
sizes that are written, and its name is the one that is written.  Words that follow change a
built-in type to another one, but neither its sizes nor a name.
-/

namespace ColumnLint.Sql.Parser

open ColumnLint.Text

variable {d : Dialect} {t u first : Token} {name : TypeName} {head : TypeHead}
  {rest tokens left after suffix : List Token} {sizes : List String}

/-! ### Sizes -/

theorem reads_texts (depth : Nat) (hu : u.kind ≠ .string) :
    Reads d (texts depth) (t :: u :: rest) (d.writtenText t.text) (u :: rest) := by
  refine reads_read.bind (reads_peek.bind ?_)
  refine (reads_advanceTaking depth).bind (reads_get_bind fun place hplace => ?_)
  have hnone : place.rest.takeWhile (fun x => decide (x.kind = .string)) = [] := by
    rw [hplace, List.takeWhile_cons_of_neg (by simpa using hu)]
  rw [hnone, List.forIn_nil]
  exact (reads_pure _).bind (reads_pure _)

theorem reads_advanceLosing : Reads d advanceLosing (t :: rest) ⟨⟩ rest :=
  reads_advance.bind (reads_modify fun _ => rfl)

/-- A comma or a closing bracket: what a part of a list may end with. -/
def EndsPart (u : Token) : Prop :=
  u.isSign "," = true ∨ u.isSign ")" = true

theorem EndsPart.kind (h : EndsPart u) : u.kind = .sign :=
  h.elim (fun h => (kind_of_isSign h).1) fun h => (kind_of_isSign h).1

theorem EndsPart.leadsNoFurther (h : EndsPart u) :
    (u.isSign "(" || u.isSign ".") = false := by
  obtain h | h := h <;> obtain ⟨hkind, htext⟩ := kind_of_isSign h <;>
    simp [Token.isSign, htext]

theorem reads_size? (ht : t.isSize d = true) (hu : EndsPart u) :
    Reads d size? (t :: u :: rest) (some (t.written d)) (u :: rest) := by
  -- No word follows the size that would say what it counts.
  have hmust : u.mustName = false := by simp [Token.mustName, hu.kind]
  have hvalue : Reads d sizeValue? (t :: u :: rest) (some (t.written d)) (u :: rest) := by
    refine reads_read.bind (reads_peek.bind ?_)
    unfold Token.isSize at ht
    unfold Token.written
    dsimp only [List.head?_cons]
    cases hkind : t.kind with
    | number => exact (reads_advanceTaking 3).bind (reads_pure _)
    | string => exact (reads_texts 3 (by rw [hu.kind]; decide)).bind (reads_pure _)
    | sign =>
      rw [hkind] at ht
      have hstar : t.text = "*" := of_decide_eq_true ht
      dsimp only
      rw [hstar]
      exact (reads_sign (by simp [Token.isSign, hkind, hstar])).bind (reads_pure _)
    | word | name =>
      rw [hkind] at ht
      refine (reads_secondIs _).bind ?_
      rw [List.drop_one, List.tail_cons, headIs_cons, hu.leadsNoFurther]
      dsimp only at ht ⊢
      rw [ht]
      exact reads_advanceLosing.bind (reads_pure _)
  refine reads_read.bind (hvalue.bind (reads_peek.bind ?_))
  dsimp only [List.head?_cons]
  rw [hmust]
  exact reads_pure _

theorem reads_value? (ht : t.isValue = true) (hu : EndsPart u) :
    Reads d value? (t :: u :: rest) (some (t.written d)) (u :: rest) := by
  refine reads_peek.bind ?_
  unfold Token.isValue at ht
  unfold Token.written
  dsimp only [List.head?_cons]
  cases hkind : t.kind with
  | string => exact (reads_texts 2 (by rw [hu.kind]; decide)).bind (reads_pure _)
  | number => exact (reads_advanceTaking 2).bind (reads_pure _)
  | _ => exact absurd ht (by simp [hkind])

/-- One round of the loop over arguments; the flag tells whether more may come. -/
def argumentsRound (argument : Parser (Option String)) (_ : Token) (s : List String × Bool) :
    Parser (ForInStep (List String × Bool)) :=
  if s.2 then do
    if ← sign "," then
      take 2
      return .yield (s.1 ++ (← argument).toList, s.2)
    else return .yield (s.1, false)
  else return .yield s

theorem arguments_eq (argument : Parser (Option String)) :
    arguments argument = do
      let first ← argument
      let place ← get
      let s ← forIn place.rest (first.toList, true) (argumentsRound argument)
      return s.1 := rfl

section Arguments

variable {argument : Parser (Option String)} {closing comma : Token} (found : List String)

theorem reads_argumentsRound_closing (hclosing : closing.isSign ")" = true) (x : Token) :
    Reads d (argumentsRound argument x (found, true)) (closing :: left) (.yield (found, false))
      (closing :: left) := by
  have hsign : headIs (·.isSign ",") (closing :: left) = false := by
    simp [Token.isSign, (kind_of_isSign hclosing).2]
  exact (reads_sign_of_not hsign).bind (reads_pure _)

theorem reads_argumentsRound_comma {s : String} (hcomma : comma.isSign "," = true)
    (hargument : Reads d argument rest (some s) left) (x : Token) :
    Reads d (argumentsRound argument x (found, true)) (comma :: rest)
      (.yield (found ++ [s], true)) left :=
  (reads_sign hcomma).bind ((reads_take 2).bind (hargument.bind (reads_pure _)))

variable (hargument : ∀ {t u : Token} {rest : List Token}, head.takes d t = true →
  EndsPart u → Reads d argument (t :: u :: rest) (some (t.written d)) (u :: rest))
include hargument

theorem rounds_arguments (h : WritesArguments d head tokens sizes)
    (hcomma : comma.isSign "," = true) (hclosing : closing.isSign ")" = true) :
    Rounds d (argumentsRound argument) (sizes.length + 1) (found, true)
      (comma :: (tokens ++ closing :: left)) (found ++ sizes, false) (closing :: left) := by
  -- One round for each comma with the argument behind it, and one for the bracket.
  induction h generalizing comma found with
  | last ht hkept =>
    refine .step (reads_argumentsRound_comma found hcomma (hargument ht (.inr hclosing))) ?_
    exact .step (reads_argumentsRound_closing _ hclosing) .done
  | @more t comma' tokens sizes ht hkept hcomma' h ih =>
    refine .step (reads_argumentsRound_comma found hcomma (hargument ht (.inl hcomma'))) ?_
    have hrounds := ih (found ++ [t.written d]) hcomma'
    rwa [List.append_assoc, List.singleton_append] at hrounds

/-- Arguments are read as they are written. -/
theorem reads_arguments (h : WritesArguments d head tokens sizes)
    (hclosing : closing.isSign ")" = true) :
    Reads d (arguments argument) (tokens ++ closing :: left) sizes (closing :: left) := by
  have hidle : ∀ (found : List String) (x : Token),
      Reads d (argumentsRound argument x (found, false)) (closing :: left)
        (.yield (found, false)) (closing :: left) := fun _ _ => reads_pure _
  -- The first argument stands before the loop, and the loop has a round for each token left, of which
  -- there are enough.
  rw [arguments_eq]
  cases h with
  | @last t ht hkept =>
    refine (hargument ht (.inr hclosing)).bind (reads_get_bind fun place hplace => ?_)
    have hrounds : Rounds d (argumentsRound argument) 1 ([t.written d], true) (closing :: left)
        ([t.written d], false) (closing :: left) :=
      .step (reads_argumentsRound_closing _ hclosing) .done
    refine (hrounds.reads_forIn (hidle _) ?_).bind (reads_pure _)
    rw [hplace]
    exact Nat.le_add_left ..
  | @more t comma tokens sizes ht hkept hcomma h =>
    refine (hargument ht (.inl hcomma)).bind (reads_get_bind fun place hplace => ?_)
    have hrounds : Rounds d (argumentsRound argument) (sizes.length + 1) ([t.written d], true)
        (comma :: (tokens ++ closing :: left)) ([t.written d] ++ sizes, false) (closing :: left) :=
      rounds_arguments _ hargument h hcomma hclosing
    refine (hrounds.reads_forIn (hidle _) ?_).bind (reads_pure _)
    have hlength := length_le_of_writesArguments h
    have hxs : place.rest.length = 1 + tokens.length + (1 + left.length) := by
      rw [hplace]
      simp [Nat.add_comm, Nat.add_left_comm]
    omega

end Arguments

/-- What is done with arguments at the bracket behind them. -/
def closeSizes (head : TypeHead) (found : List String) : Parser (Option (List String)) := do
  if ← sign ")" then
    match head with
    | .builtIn ⟨"VECTOR"⟩ =>
      match vectorSizes (← read) found with
      | some s => return some s
      | none => failure
    | _ => return some found
  else return none

theorem reads_closeSizes {closing : Token} (hvector : head ≠ .builtIn ⟨"VECTOR"⟩)
    (hclosing : closing.isSign ")" = true) :
    Reads d (closeSizes head sizes) (closing :: left) (some sizes) left := by
  refine (reads_sign hclosing).bind ?_
  rw [if_pos rfl]
  split
  next => exact absurd rfl hvector
  next => exact reads_pure _

/-- Sizes and values are read as they are written, up to the bracket behind them. -/
theorem reads_sizes? {closing : Token} (hvector : head ≠ .builtIn ⟨"VECTOR"⟩)
    (h : WritesArguments d head tokens sizes) (hclosing : closing.isSign ")" = true) :
    Reads d (sizes? head) (tokens ++ closing :: left) (some sizes) left := by
  have hclosed : Reads d (closeSizes head sizes) (closing :: left) (some sizes) left :=
    reads_closeSizes hvector hclosing
  unfold sizes?
  cases head with
  | builtIn name =>
    dsimp only
    by_cases hvalues : name.holdsValues = true
    · have hvalue : ∀ t : Token, TypeHead.takes d t (.builtIn name) = true → t.isValue = true :=
        fun t ht => by simpa [TypeHead.takes, hvalues] using ht
      rw [if_pos hvalues]
      exact (reads_arguments (fun ht hu => reads_value? (hvalue _ ht) hu) h hclosing).bind hclosed
    · have hsize : ∀ t : Token, TypeHead.takes d t (.builtIn name) = true → t.isSize d = true :=
        fun t ht => by simpa [TypeHead.takes, hvalues] using ht
      rw [if_neg hvalues]
      exact (reads_arguments (fun ht hu => reads_size? (hsize _ ht) hu) h hclosing).bind hclosed
  | _ =>
    refine (reads_arguments (fun ht hu => reads_size? ?_ hu) h hclosing).bind hclosed
    exact ht

/-! ### Words and names -/

theorem reads_typeStart?_of_builtIn? (h : t.builtIn? d = some name) :
    Reads d typeStart? (t :: rest) (some (.plain (.builtIn name) [])) rest := by
  refine reads_read.bind (reads_peek.bind ?_)
  dsimp only [List.head?_cons]
  cases hname : t.typeName? d with
  | some name' =>
    unfold Token.builtIn? at h
    rw [hname] at h
    dsimp only at h ⊢
    split_ifs at h with hunnamed
    rw [if_neg hunnamed, Option.some.inj h]
    exact reads_advance.bind (reads_pure _)
  | none =>
    have hkind : t.kind = .name := by
      by_contra hne
      simp [Token.builtIn?, hname, hne] at h
    dsimp only
    rw [if_pos hkind, (builtIn?_eq_some_iff hname hkind).mp h]
    exact reads_advanceLosing.bind (reads_pure _)

/-- One round of the loop over the parts of a name, which are counted. -/
def nameRound (d : Dialect) (_ : Token) (s : String × ℕ) : Parser (ForInStep (String × ℕ)) := do
  if ← sign "." then
    match ← peek with
    | some t =>
      unless t.mustName do failure
      if d = .postgres then advanceTaking 2 else advance
      return .yield (s.1 ++ "." ++ t.text, s.2 + 1)
    | _ =>
      failure
      return .yield s
  else return .yield s

theorem rounds_name {parts : List String} (h : WritesTail tokens parts) (s : String) (n : ℕ) :
    Rounds d (nameRound d) parts.length (s, n) (tokens ++ left)
      (parts.foldl (fun s part => s ++ "." ++ part) s, n + parts.length) left := by
  -- The loop carries the name read so far and the number of its parts.
  induction h generalizing s n with
  | nil => exact .done
  | @cons dot t tokens parts hdot ht hmust h ih =>
    have hrest := ih (s ++ "." ++ t.text) (n + 1)
    rw [Nat.add_right_comm] at hrest
    rw [List.cons_append, List.cons_append]
    refine .step (fun x => ?_) hrest
    refine (reads_sign hdot).bind (reads_peek.bind ?_)
    dsimp only [List.head?_cons]
    rw [if_pos hmust]
    split_ifs
    · exact (reads_advanceTaking 2).bind (reads_pure _)
    · exact reads_advance.bind (reads_pure _)

/-- The name that a token begins, with the points and parts that follow the token. -/
def nameAfter (d : Dialect) (first : Token) : Parser DataType := do
  take 2
  let place ← get
  let s ← forIn place.rest (first.text, 1) (nameRound d)
  return .plain
    (.named
      (if d = .postgres && s.2 = 1 && first.kind = .name then (Dialect.writtenName d s.1)
        else s.1)) []

theorem namedType_eq (first : Token) : namedType first = (do
    let d ← read
    advanceLosing
    if d = .postgres then do
      modify fun p => { p with free := true }
      nameAfter d first
    else nameAfter d first) := rfl

theorem reads_namedType {parts : List String} (h : WritesTail tokens parts)
    (hquoted : d = .postgres → first.kind = .name → parts ≠ [])
    (hafter : headIs (·.isSign ".") after = false) :
    Reads d (namedType first) (first :: (tokens ++ after))
      (.plain (.named (parts.foldl (fun s part => s ++ "." ++ part) first.text)) []) after := by
  have hidle : ∀ (s : String × ℕ) (x : Token),
      Reads d (nameRound d x s) after (.yield s) after := fun s x =>
    (reads_sign_of_not hafter).bind (reads_pure _)
  have hname : ∀ place : Place, place.rest = tokens ++ after →
      Reads d (forIn place.rest (first.text, 1) (nameRound d)) (tokens ++ after)
        (parts.foldl (fun s part => s ++ "." ++ part) first.text, 1 + parts.length) after := by
    intro place hplace
    refine (rounds_name h first.text 1).reads_forIn (hidle _) ?_
    rw [hplace, List.length_append]
    exact Nat.le_add_right_of_le (length_le_of_writesTail h)
  -- The quotes are kept only where the name has no other parts.
  have hkept : ¬ (decide (d = .postgres) && decide (1 + parts.length = 1) &&
      decide (first.kind = .name)) = true := by
    simp only [Bool.and_eq_true, decide_eq_true_eq]
    rintro ⟨⟨hd, hlength⟩, hkind⟩
    exact hquoted hd hkind (List.length_eq_zero_iff.mp (by omega))
  have hparts : Reads d (nameAfter d first) (tokens ++ after)
      (.plain (.named (parts.foldl (fun s part => s ++ "." ++ part) first.text)) []) after := by
    refine (reads_take 2).bind (reads_get_bind fun place hplace => ?_)
    refine (hname place hplace).bind ?_
    dsimp only
    rw [if_neg hkept]
    exact reads_pure _
  rw [namedType_eq]
  refine reads_read.bind (reads_advanceLosing.bind ?_)
  split_ifs with hpostgres
  · have hfree : Reads d (modify fun p => { p with free := true }) (tokens ++ after) ⟨⟩
        (tokens ++ after) := reads_modify fun _ => rfl
    exact hfree.bind hparts
  · exact hparts

/-- The word or name of a type is read as the type without arguments. -/
theorem reads_typeStart? (h : WritesHead d head tokens)
    (hafter : headIs (·.isSign ".") after = false) :
    Reads d typeStart? (tokens ++ after) (some (.plain head [])) after := by
  cases h with
  | builtIn hname _ => exact reads_typeStart?_of_builtIn? hname
  | @named first tokens parts hfirst htail hquoted hblank =>
    have hname : Reads d (do return some (← namedType first)) (first :: tokens ++ after)
        (some (.plain (.named (parts.foldl (fun s part => s ++ "." ++ part) first.text)) []))
        after := (reads_namedType htail hquoted hafter).bind (reads_pure _)
    obtain ⟨hnamed, hstart⟩ := (Bool.and_eq_true ..).mp hfirst
    refine reads_read.bind (reads_peek.bind ?_)
    dsimp only [List.cons_append, List.head?_cons]
    by_cases hkind : first.kind = .name
    · have hnone : first.typeName? d = none := if_neg (by rw [hkind]; decide)
      have hinner : first.builtIn? d = none := by
        simpa [Token.isPlain, hkind] using hstart
      -- Between the quotes stands no single token that names a type.
      have hne : ∀ name,
          (((tokensOf d first.text).getD []).filterMap fun u => some (u.typeName? d)) ≠
            [some name] := fun name heq =>
        absurd (hinner.symm.trans ((builtIn?_eq_some_iff hnone hkind).mpr heq))
          (Option.some_ne_none name).symm
      rw [hnone]
      dsimp only
      rw [if_pos hkind, if_pos hnamed]
      generalize (((tokensOf d first.text).getD []).filterMap fun u => some (u.typeName? d)) =
        inner at hne ⊢
      rcases inner with _ | ⟨_ | name, _ | ⟨_, _⟩⟩
      · exact hname
      · exact hname
      · exact hname
      · exact absurd rfl (hne name)
      · exact hname
    · have hplain : first.isPlain d = true := by simpa [hkind] using hstart
      have hnone : first.typeName? d = none := by
        have hword : TypeName.ofWord? d first.upperText = none := by
          simpa using ((Bool.and_eq_true ..).mp hplain).2
        rw [Token.typeName?, hword, ite_self]
      rw [hnone]
      dsimp only
      rw [if_neg hkind, if_pos (by rw [hplain, hnamed]; rfl)]
      exact hname

/-! ### Further words -/

theorem leads_cons {w : String} {words : List String} :
    leads (w :: words) (t :: rest) = (t.spells w && leads words rest) := by
  simp [leads, Bool.and_left_comm]

theorem leads_of_spell {words : List String} (h : Spell tokens words) :
    leads words (tokens ++ after) = true := by
  induction h with
  | nil => simp [leads]
  | cons ht _ ih => rw [List.cons_append, leads_cons, ht, ih, Bool.true_and]

theorem reads_phrase_of_spell {words : List String} (h : Spell tokens words) :
    Reads d (phrase words) (tokens ++ after) true after := by
  have hread : Reads d (phrase words) (tokens ++ after) true
      ((tokens ++ after).drop words.length) := reads_phrase (leads_of_spell h)
  rwa [← h.length_eq, List.drop_left] at hread

theorem spells_of_ne {w w' : String} (h : t.spells w = true) (hne : w ≠ w') :
    t.spells w' = false := by
  obtain ⟨_, hw⟩ := (Bool.and_eq_true ..).mp h
  have htext : t.upperText ≠ w' := by rwa [of_decide_eq_true hw]
  simp [Token.spells, htext]

/-- The sign that may follow a type. -/
def signSuffix (name : TypeName) (sizes : List String) : Parser DataType := do
  if ← phrase ["UNSIGNED"] then
    match name.unsigned? with
    | some u => return .plain (.builtIn u) sizes
    | none => failure
  return .plain (.builtIn name) sizes

/-- What may follow a type and its time zone: units or a sign. -/
def unitSuffix (d : Dialect) (name : TypeName) (sizes : List String) : Parser DataType := do
  if name.standard = "INTERVAL" then
    if ← nextIs fun t => t.isPlain d && intervalUnits.contains t.upperText then
      advanceTaking 3
      if ← phrase ["TO"] then
        if ← nextIs (·.isPlain d) then advanceTaking 4
      return .plain .span sizes
  signSuffix name sizes

theorem typeSuffix_eq (name : TypeName) (sizes : List String) : typeSuffix name sizes = (do
    let d ← read
    if name.takesZone d then
      if ← phrase ["WITH", "TIME", "ZONE"] then
        return .plain (.builtIn ⟨if name.isTimeOfDay then "TIMETZ" else "TIMESTAMPTZ"⟩) sizes
      else if ← phrase ["WITH", "LOCAL", "TIME", "ZONE"] then
        return .plain (.builtIn ⟨"TIMESTAMPLTZ"⟩) sizes
      else do
        let _ ← phrase ["WITHOUT", "TIME", "ZONE"]
        unitSuffix d name sizes
    else unitSuffix d name sizes) := rfl

theorem reads_unitSuffix (h : EndsType d after) :
    Reads d (unitSuffix d name sizes) after (.plain (.builtIn name) sizes) after := by
  have hsign : Reads d (signSuffix name sizes) after (.plain (.builtIn name) sizes) after :=
    (reads_phrase_of_not h.unsigned).bind (reads_pure _)
  unfold unitSuffix
  split_ifs
  · refine (reads_nextIs _).bind ?_
    rw [h.unit]
    exact hsign
  · exact hsign

/-- The sign makes a type of its own of the type before it. -/
theorem reads_unitSuffix_unsigned {u : TypeName} (hname : name.unsigned? = some u)
    (ht : t.spells "UNSIGNED" = true) :
    Reads d (unitSuffix d name sizes) (t :: after) (.plain (.builtIn u) sizes) after := by
  have hspell : Spell [t] ["UNSIGNED"] := .cons ht .nil
  have hsign : Reads d (signSuffix name sizes) (t :: after) (.plain (.builtIn u) sizes) after := by
    refine (reads_phrase_of_spell hspell).bind ?_
    rw [if_pos rfl, hname]
    exact reads_pure _
  have hunit : (t.isPlain d && intervalUnits.contains t.upperText) = false := by
    have htext : t.upperText = "UNSIGNED" := of_decide_eq_true ((Bool.and_eq_true ..).mp ht).2
    rw [htext, show intervalUnits.contains "UNSIGNED" = false by decide, Bool.and_false]
  unfold unitSuffix
  split_ifs
  · refine (reads_nextIs _).bind ?_
    rw [headIs_cons, hunit]
    exact hsign
  · exact hsign

/-- The types whose sizes one dialect or another adjusts. -/
def adjustedTypes : List String := ["DECIMAL", "CHAR", "VARCHAR"]

/-- No further words make a type of those whose sizes are adjusted. -/
def KeepsAdjusted (name name' : TypeName) : Prop :=
  name'.standard ∈ adjustedTypes → name' = name

theorem keepsAdjusted_unsigned? {u : TypeName} (h : name.unsigned? = some u) :
    KeepsAdjusted name u := by
  unfold TypeName.unsigned? at h
  split_ifs at h
  obtain rfl := Option.some.inj h
  intro hmem
  have hfirst : ∀ s ∈ adjustedTypes, s.toList.head? ≠ some 'U' := by decide
  exact absurd (by rw [String.toList_append]; rfl) (hfirst _ hmem)

/-- Where no zone follows, units or the sign may. -/
theorem reads_typeSuffix_of_not_zone {type : DataType}
    (hzone : ∀ words ∈ zonePhrases, leads words rest = false)
    (hunit : Reads d (unitSuffix d name sizes) rest type left) :
    Reads d (typeSuffix name sizes) rest type left := by
  rw [typeSuffix_eq]
  refine reads_read.bind ?_
  by_cases htakes : name.takesZone d = true
  · rw [if_pos htakes]
    refine (reads_phrase_of_not (hzone _ (by simp [zonePhrases]))).bind ?_
    refine (reads_phrase_of_not (hzone _ (by simp [zonePhrases]))).bind ?_
    exact (reads_phrase_of_not (hzone _ (by simp [zonePhrases]))).bind hunit
  · rw [if_neg htakes]
    exact hunit

/-- The words that may follow a type keep it built in and its sizes as they are.  None of them makes
a type of it whose sizes are adjusted. -/
theorem reads_typeSuffix (h : IsSuffix d (.builtIn name) suffix) (hafter : EndsType d after) :
    ∃ name' : TypeName, KeepsAdjusted name name' ∧
      Reads d (typeSuffix name sizes) (suffix ++ after) (.plain (.builtIn name') sizes) after := by
  cases h with
  | none =>
    exact ⟨name, fun _ => rfl, reads_typeSuffix_of_not_zone hafter.zone (reads_unitSuffix hafter)⟩
  | zone hname h =>
    refine ⟨⟨if name.isTimeOfDay then "TIMETZ" else "TIMESTAMPTZ"⟩, ?_, ?_⟩
    · split_ifs <;> exact fun hadjusted => absurd hadjusted (by decide)
    · rw [typeSuffix_eq]
      refine reads_read.bind ?_
      rw [if_pos hname]
      exact (reads_phrase_of_spell h).bind (reads_pure _)
  | localZone hname h =>
    -- The first of the phrases is told from this one by its second word.
    have hzone : leads ["WITH", "TIME", "ZONE"] (suffix ++ after) = false := by
      obtain _ | ⟨_, _ | ⟨hlocal, _⟩⟩ := h
      rw [List.cons_append, List.cons_append, leads_cons, leads_cons,
        spells_of_ne hlocal (by decide), Bool.false_and, Bool.and_false]
    refine ⟨⟨"TIMESTAMPLTZ"⟩, fun hadjusted => absurd hadjusted (by decide), ?_⟩
    rw [typeSuffix_eq]
    refine reads_read.bind ?_
    rw [if_pos hname]
    refine (reads_phrase_of_not hzone).bind ?_
    exact (reads_phrase_of_spell h).bind (reads_pure _)
  | noZone hname h =>
    have hwith : ∀ words, leads ("WITH" :: words) (suffix ++ after) = false := fun words => by
      obtain _ | ⟨hwithout, _⟩ := h
      rw [List.cons_append, leads_cons, spells_of_ne hwithout (by decide), Bool.false_and]
    refine ⟨name, fun _ => rfl, ?_⟩
    rw [typeSuffix_eq]
    refine reads_read.bind ?_
    rw [if_pos hname]
    refine (reads_phrase_of_not (hwith _)).bind ((reads_phrase_of_not (hwith _)).bind ?_)
    exact (reads_phrase_of_spell h).bind (reads_unitSuffix hafter)
  | unsigned hname h =>
    obtain ⟨u, hu⟩ := Option.isSome_iff_exists.mp hname
    obtain _ | @⟨t, _, _, _, hsign, _ | _⟩ := h
    have hzone : ∀ words ∈ zonePhrases, leads words (t :: after) = false := by
      intro words hwords
      simp only [zonePhrases, List.mem_cons, List.not_mem_nil, or_false] at hwords
      obtain rfl | rfl | rfl := hwords <;>
        rw [leads_cons, spells_of_ne hsign (by decide), Bool.false_and]
    refine ⟨u, keepsAdjusted_unsigned? hu, ?_⟩
    exact reads_typeSuffix_of_not_zone hzone (reads_unitSuffix_unsigned hu hsign)

theorem headIs_sign_of_spell {w s : String} {words : List String} (h : Spell tokens (w :: words))
    (hw : w ∈ ["WITH", "WITHOUT", "UNSIGNED"]) (hs : s ∈ ["(", "<", "[", "."]) :
    headIs (·.isSign s) (tokens ++ after) = false := by
  have hne : ∀ s ∈ ["(", "<", "[", "."], ∀ w ∈ ["WITH", "WITHOUT", "UNSIGNED"], upper s ≠ w := by
    decide +kernel
  obtain _ | ⟨ht, _⟩ := h
  rw [List.cons_append, headIs_cons, Bool.eq_false_iff]
  intro hsign
  have hupper : upper _ = w := of_decide_eq_true ((Bool.and_eq_true ..).mp ht).2
  rw [(kind_of_isSign hsign).2] at hupper
  exact hne s hs w hw hupper

theorem headIs_sign_of_isSuffix {s : String} (h : IsSuffix d head suffix)
    (hafter : EndsType d after) (hs : s ∈ ["(", "<", "[", "."]) :
    headIs (·.isSign s) (suffix ++ after) = false := by
  cases h with
  | none => exact hafter.sign s hs
  | zone _ h | localZone _ h | noZone _ h | unsigned _ h =>
    exact headIs_sign_of_spell h (by simp) hs

/-! ### Whole types -/

/-- The sizes of a type are read, and the further words behind them. -/
theorem reads_sizedType?_builtIn {brackets : List Token}
    (h : WritesSizes d (.builtIn name) brackets sizes) (hsuffix : IsSuffix d (.builtIn name) suffix)
    (hafter : EndsType d after) :
    ∃ name' : TypeName, KeepsAdjusted name name' ∧
      Reads d (sizedType? (.builtIn name)) (brackets ++ (suffix ++ after))
        (some (.plain (.builtIn name') sizes)) after := by
  have hname : ∃ name' : TypeName, KeepsAdjusted name name' ∧
      Reads d (typeSuffix name sizes) (suffix ++ after) (.plain (.builtIn name') sizes) after :=
    reads_typeSuffix hsuffix hafter
  refine hname.imp fun name' ⟨hkeeps, hread⟩ => ⟨hkeeps, ?_⟩
  clear hname
  unfold sizedType?
  cases h with
  | none =>
    refine (reads_sign_of_not (headIs_sign_of_isSuffix hsuffix hafter (by simp))).bind ?_
    exact (reads_pure _).bind (hread.bind (reads_pure _))
  | @some opening closing tokens _ htakes hopening harguments hclosing =>
    have hvector : TypeHead.builtIn name ≠ .builtIn ⟨"VECTOR"⟩ := by
      rintro ⟨⟩
      exact absurd htakes (by decide)
    rw [List.cons_append, List.append_assoc, List.singleton_append]
    refine (reads_sign hopening).bind ?_
    rw [if_pos rfl]
    exact (reads_sizes? hvector harguments hclosing).bind (hread.bind (reads_pure _))

theorem reads_sizedType?_named {s : String} {brackets : List Token}
    (h : WritesSizes d (.named s) brackets sizes) (hafter : EndsType d after) :
    Reads d (sizedType? (.named s)) (brackets ++ after) (some (.plain (.named s) sizes)) after := by
  unfold sizedType?
  cases h with
  | none =>
    refine (reads_sign_of_not (hafter.sign _ (by simp))).bind ?_
    exact (reads_pure _).bind (reads_pure _)
  | @some opening closing tokens _ htakes hopening harguments hclosing =>
    rw [List.cons_append, List.append_assoc, List.singleton_append]
    refine (reads_sign hopening).bind ?_
    rw [if_pos rfl]
    have hvector : TypeHead.named s ≠ .builtIn ⟨"VECTOR"⟩ := nofun
    exact (reads_sizes? hvector harguments hclosing).bind (reads_pure _)

/-- A type that may hold others holds none where no bracket follows. -/
theorem reads_holdingType? {held : Parser (Option (Option String × DataType × List String))}
    (hafter : EndsType d after) :
    Reads d (holdingType? name held) after (some (.holding name [])) after := by
  refine (reads_sign_of_not (hafter.sign _ (by simp))).bind ?_
  rw [if_neg Bool.false_ne_true]
  refine (reads_sign_of_not (hafter.sign _ (by simp))).bind ?_
  rw [if_neg Bool.false_ne_true]
  by_cases harray : name.standard = "ARRAY"
  · rw [if_pos harray]
    exact (reads_phrase_of_not hafter.brackets).bind (reads_pure _)
  · rw [if_neg harray]
    exact reads_pure _

/-- What further words make of a type: they change a type that is built in and no name. -/
inductive Becomes : TypeHead → TypeHead → Prop
  | builtIn (name name' : TypeName) : Becomes (.builtIn name) (.builtIn name')
  | named (s : String) : Becomes (.named s) (.named s)

/-- Whether a dialect drops the sizes of a type outside definitions. -/
def losesSizes (d : Dialect) (head : TypeHead) : Bool :=
  d = .databricks && (head = .builtIn ⟨"CHAR"⟩ || head = .builtIn ⟨"VARCHAR"⟩)

/-- A type that is read for the one that is written: the sizes are the same, and no dialect takes it
for another one in a definition, nor outside of it unless the sizes are dropped there. -/
structure Renders (d : Dialect) (head : TypeHead) (sizes : List String) (type : DataType) :
    Prop where
  becomes : Becomes head type.head
  sizes : type.parameters d = sizes
  adjusted : ∀ inDefinition, (inDefinition = false → losesSizes d head = false) →
    adjustedType d inDefinition type = type

theorem renders_builtIn {name' : TypeName} {brackets : List Token}
    (h : WritesSizes d (.builtIn name) brackets sizes) (hkeeps : KeepsAdjusted name name') :
    Renders d (.builtIn name) sizes (.plain (.builtIn name') sizes) := by
  refine ⟨.builtIn name name', rfl, fun inDefinition hloses => ?_⟩
  have hsame : ∀ s ∈ adjustedTypes, name'.standard = s → name = ⟨s⟩ := by
    rintro s hs rfl
    exact (hkeeps hs).symm
  have hsnowflake : ¬ (decide (d = .snowflake) && decide (name'.standard = "DECIMAL") &&
      sizes.isEmpty) = true := by
    simp only [Bool.and_eq_true, decide_eq_true_eq]
    rintro ⟨⟨hd, hstandard⟩, hempty⟩
    have hname : name = ⟨"DECIMAL"⟩ := hsame _ (by decide) hstandard
    cases h with
    | none h => exact h hd (congrArg TypeHead.builtIn hname)
    | some _ _ h _ => exact absurd hempty (by cases h <;> exact Bool.false_ne_true)
  have hdatabricks : ¬ (decide (d = .databricks) && !inDefinition &&
      (decide (name'.standard = "CHAR") || decide (name'.standard = "VARCHAR"))) = true := by
    simp only [Bool.and_eq_true, Bool.or_eq_true, decide_eq_true_eq, Bool.not_eq_true']
    rintro ⟨⟨rfl, hinside⟩, hstandard⟩
    have hnot := hloses hinside
    obtain hstandard | hstandard := hstandard <;>
      simp [losesSizes, hsame _ (by decide) hstandard] at hnot
  rw [adjustedType, if_neg hsnowflake, if_neg hdatabricks]

theorem reads_typeRest? {brackets : List Token} (hword : WritesHead d head tokens)
    (h : WritesSizes d head brackets sizes) (hsuffix : IsSuffix d head suffix)
    (hafter : EndsType d after) :
    ∃ type, Renders d head sizes type ∧ ∀ inner : Parser (Option DataType),
      Reads d (typeRest? (.plain head []) inner) (brackets ++ (suffix ++ after)) (some type)
        after := by
  cases hword with
  | @builtIn t name hname hspelled =>
    cases hholds : name.holdsFields || name.holdsTypes with
    | true =>
      -- Such a type stands alone here: it takes no sizes, and no further words follow it.
      have htakes : (TypeHead.builtIn name).takesSizes = false := takesSizes_of_holds hholds
      obtain ⟨rfl, rfl⟩ := sizes_eq_nil_of_not_takesSizes h htakes
      obtain rfl := suffix_eq_nil_of_not_takesSizes hsuffix htakes
      refine ⟨.holding name [], ⟨.builtIn name name, rfl, fun _ _ => rfl⟩,
        fun inner => reads_read.bind ?_⟩
      dsimp only [DataType.head, List.nil_append]
      by_cases hfields : name.holdsFields = true
      · rw [if_pos hfields]
        exact reads_holdingType? hafter
      · have htypes : name.holdsTypes = true := by simpa [hfields] using hholds
        rw [if_neg hfields, if_pos htypes]
        exact reads_holdingType? hafter
    | false =>
      obtain ⟨hfields, htypes⟩ := (Bool.or_eq_false_iff ..).mp hholds
      obtain ⟨name', hkeeps, hread⟩ := reads_sizedType?_builtIn h hsuffix hafter
      refine ⟨_, renders_builtIn h hkeeps, fun inner => reads_read.bind ?_⟩
      dsimp only [DataType.head]
      rw [hfields, htypes]
      exact hread
  | @named first tokens parts hfirst htail hquoted hblank =>
    cases hsuffix
    refine ⟨.plain (.named _) sizes, ⟨.named _, rfl, fun _ _ => rfl⟩,
      fun inner => reads_read.bind ?_⟩
    exact reads_sizedType?_named h hafter

theorem reads_arrayWord {type : DataType} (hafter : EndsType d after) :
    Reads d (arrayWord type) after type after :=
  (reads_word_of_not hafter.array).bind (reads_pure _)

theorem reads_arraySuffix {type : DataType} (hafter : EndsType d after) (inDefinition : Bool)
    (n : ℕ) : Reads d (arraySuffix inDefinition n type) after type after := by
  cases n with
  | zero => exact reads_pure _
  | succ n =>
    refine reads_get_bind fun place _ => ?_
    exact (reads_sign_of_not (hafter.sign _ (by simp))).bind (reads_pure _)

theorem headIs_sign_of_writesSizes {brackets : List Token} (h : WritesSizes d head brackets sizes)
    (hrest : headIs (·.isSign ".") rest = false) :
    headIs (·.isSign ".") (brackets ++ rest) = false := by
  cases h with
  | none => exact hrest
  | some _ hopening _ _ =>
    rw [List.cons_append, headIs_cons]
    simp [Token.isSign, (kind_of_isSign hopening).2]

/-- Only built-in types are known by name alone. -/
theorem isBare_iff :
    (DataType.plain head sizes).isBare = true ↔ ∃ name, head = .builtIn name ∧ name.isBare = true := by
  cases head <;> simp [DataType.isBare, DataType.head]

/-- A type is read as it is written, with its sizes and the further words behind them. -/
theorem reads_type? (h : WritesType d head tokens sizes) (hsuffix : IsSuffix d head suffix)
    (hafter : EndsType d after) :
    ∃ type, Renders d head sizes type ∧
      ∀ inDefinition n, (inDefinition = false → losesSizes d head = false) →
        Reads d (type? inDefinition (n + 1)) (tokens ++ (suffix ++ after)) (some type) after := by
  obtain @⟨word, brackets, _, hword, hsizes⟩ := h
  have hdot : headIs (·.isSign ".") (brackets ++ (suffix ++ after)) = false :=
    headIs_sign_of_writesSizes hsizes (headIs_sign_of_isSuffix hsuffix hafter (by simp))
  have hstart : Reads d typeStart? (word ++ (brackets ++ (suffix ++ after)))
      (some (.plain head [])) (brackets ++ (suffix ++ after)) := reads_typeStart? hword hdot
  rw [List.append_assoc]
  cases hbare : (DataType.plain head []).isBare with
  | true =>
    -- A bare type is all that is read, and all that is written.
    obtain ⟨name, rfl, hname⟩ := isBare_iff.mp hbare
    have htakes : (TypeHead.builtIn name).takesSizes = false := by simp [TypeHead.takesSizes, hname]
    obtain ⟨rfl, rfl⟩ := sizes_eq_nil_of_not_takesSizes hsizes htakes
    obtain rfl := suffix_eq_nil_of_not_takesSizes hsuffix htakes
    have hrenders : Renders d (.builtIn name) [] (.plain (.builtIn name) []) :=
      renders_builtIn hsizes fun _ => rfl
    refine ⟨_, hrenders, fun inDefinition n hloses =>
      reads_read.bind (reads_get_bind fun place _ => hstart.bind ?_)⟩
    dsimp only
    rw [if_pos hbare]
    exact reads_pure _
  | false =>
    obtain ⟨type, hrenders, hrest⟩ := reads_typeRest? hword hsizes hsuffix hafter
    refine ⟨type, hrenders, fun inDefinition n hloses =>
      reads_read.bind (reads_get_bind fun place _ => hstart.bind ?_)⟩
    dsimp only
    rw [if_neg (by rw [hbare]; exact Bool.false_ne_true)]
    refine (hrest (type? inDefinition n)).bind ?_
    refine (reads_arrayWord hafter).bind (reads_get_bind fun place' _ => ?_)
    refine (reads_arraySuffix hafter inDefinition _).bind ?_
    rw [hrenders.adjusted inDefinition hloses]
    exact reads_pure _

/-- The type of a column is read as it is written, in a definition and, where its sizes are not
dropped, outside of it. -/
theorem reads_columnType? (h : WritesType d head tokens sizes) (hsuffix : IsSuffix d head suffix)
    (hafter : EndsType d after) :
    ∃ type, Renders d head sizes type ∧
      ∀ inDefinition, (inDefinition = false → losesSizes d head = false) →
        Reads d (columnType? inDefinition) (tokens ++ (suffix ++ after)) (some type) after := by
  obtain ⟨type, hrenders, hread⟩ := reads_type? h hsuffix hafter
  refine ⟨type, hrenders, fun inDefinition hloses => reads_get_bind fun place hplace => ?_⟩
  rw [hplace]
  exact hread inDefinition _ hloses

end ColumnLint.Sql.Parser

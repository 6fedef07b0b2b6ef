import ColumnLint.Occurrence
import ColumnLint.Proofs.Text.Lines
import ColumnLint.Proofs.Text.Lower
import Mathlib.Data.List.Forall2

/-!
# Signatures are unambiguous

From the key of an occurrence its name, its base type and its parameters can be read back, up to
letter case (`Occurrence.key_eq_iff`).  A signature is a base type with a list of parameters between
brackets and commas (`Signature.joined`).  These are delimiters, so the lower-case form of a
signature is that of its parts, joined in the same way (`Signature.lowerFrom_joined`); and as they
stand in no part, the parts of the form are found again (`Signature.joined_inj`).
-/

namespace ColumnLint

open ColumnLint.Text

namespace Signature

/-! ### Joined texts -/

/-- A base with items in brackets, separated by commas; without items it stands alone. -/
def joined (base : List Char) (items : List (List Char)) : List Char :=
  if items = [] then base else base ++ '(' :: ([','].intercalate items ++ [')'])

theorem toList_write (base : String) (params : List String) :
    (write base params).toList =
      joined base.toList ((params.map parameter).map String.toList) := by
  unfold write joined
  simp only [List.isEmpty_iff, List.map_eq_nil_iff]
  split_ifs
  · rfl
  · simp only [String.toList_append, String.toList_intercalate, List.append_assoc]
    rfl

variable {a b base base' r s : List Char} {items items' : List (List Char)}

theorem lowerFrom_intercalate (items : List (List Char)) :
    lowerFrom false ([','].intercalate items) =
      [','].intercalate (items.map (lowerFrom false)) := by
  have hcomma : IsDelimiter ',' := isDelimiter_of_mem (by decide)
  induction items with
  | nil => rfl
  | cons x items ih =>
    cases items with
    | nil => simp
    | cons y items =>
      rw [List.intercalate_cons_cons, List.append_assoc, List.singleton_append,
        hcomma.lowerFrom_append, ih]
      simp only [List.map_cons, List.intercalate_cons_cons, List.append_assoc,
        List.singleton_append]

/-- The lower-case form of a joined text is joined from the forms of its parts. -/
theorem lowerFrom_joined (base : List Char) (items : List (List Char)) :
    lowerFrom false (joined base items) =
      joined (lowerFrom false base) (items.map (lowerFrom false)) := by
  have hopen : IsDelimiter '(' := isDelimiter_of_mem (by decide)
  have hclose : IsDelimiter ')' := isDelimiter_of_mem (by decide)
  unfold joined
  simp only [List.map_eq_nil_iff]
  split_ifs
  · rfl
  · rw [hopen.lowerFrom_append, hclose.lowerFrom_append, lowerFrom_intercalate]
    rfl

/-- A text with a mark in it is divided at its first mark in one way. -/
theorem append_cons_inj {x : Char} (ha : x ∉ a) (hb : x ∉ b) :
    a ++ x :: r = b ++ x :: s ↔ a = b ∧ r = s := by
  constructor
  · intro h
    have htake := congrArg (List.takeWhile (· ≠ x)) h
    have hbefore : ∀ {a r : List Char}, x ∉ a → (a ++ x :: r).takeWhile (· ≠ x) = a := by
      intro a r ha
      rw [List.takeWhile_append_of_pos fun y hy => by simpa using fun e : y = x => ha (e ▸ hy)]
      simp
    rw [hbefore ha, hbefore hb] at htake
    subst htake
    exact ⟨rfl, (List.cons.inj (List.append_cancel_left h)).2⟩
  · rintro ⟨rfl, rfl⟩
    rfl

/-- The base and the items are found again if no bracket is opened in the base and no comma stands
in an item. -/
theorem joined_inj (hbase : '(' ∉ base) (hbase' : '(' ∉ base') (hitems : ∀ x ∈ items, ',' ∉ x)
    (hitems' : ∀ x ∈ items', ',' ∉ x) :
    joined base items = joined base' items' ↔ base = base' ∧ items = items' := by
  refine ⟨fun h => ?_, fun ⟨hb, hi⟩ => by rw [hb, hi]⟩
  unfold joined at h
  split_ifs at h with hnil hnil' hnil'
  · exact ⟨h, hnil.trans hnil'.symm⟩
  · exact absurd (h ▸ hbase) (by simp)
  · exact absurd (h ▸ hbase') (by simp)
  · rw [append_cons_inj hbase hbase', List.append_cancel_right_eq] at h
    refine ⟨h.1, ?_⟩
    rw [← List.splitOn_intercalate ',' hitems hnil, h.2, List.splitOn_intercalate ',' hitems' hnil']

/-! ### Parameters -/

/-- Whether two parameters are written alike, apart from letter case. -/
def SameParameter (p q : String) : Prop :=
  lower (parameter p) = lower (parameter q)

/-- No comma comes into a parameter. -/
theorem comma_notMem_parameter {p : String} (h : ',' ∉ p.toList) :
    ',' ∉ (parameter p).toList := by
  unfold parameter
  dsimp only
  split_ifs
  · decide
  · rw [trim, String.toList_ofList]
    exact fun hmem => h (mem_of_mem_trimChars hmem)

/-- The length `-1` is written like itself and like the spellings of its word. -/
theorem sameParameter_iff_of_unbounded {p : String} (h : trim p = unboundedLength) (q : String) :
    SameParameter p q ↔ trim q = unboundedLength ∨ lower (trim q) = "max" := by
  have hword : lower unboundedWord = "max" := by decide
  have hlength : lower unboundedLength ≠ "max" := by decide
  unfold SameParameter parameter
  dsimp only
  rw [if_pos h, hword]
  split_ifs with hq
  · rw [hword]
    exact iff_of_true rfl (.inl hq)
  · rw [eq_comm, or_iff_right hq]

end Signature

/-! ### Keys -/

namespace Occurrence

open Signature

variable {o o' : Occurrence} {base base' : String}

/-- An occurrence with a base type that is not blank and opens no bracket, and with parameters that
have no comma. -/
structure IsPlain (o : Occurrence) (base : String) : Prop where
  base_eq : o.base = some base
  not_blank : isAllBlank base = false
  no_bracket : '(' ∉ base.toList
  no_comma : ∀ p ∈ o.params, ',' ∉ p.toList

theorem IsPlain.signature_eq (h : o.IsPlain base) : o.signature = write base o.params := by
  have htyped : o.isTyped = true := by
    unfold isTyped
    rw [h.base_eq]
    exact congrArg not h.not_blank
  rw [signature, signature?, if_pos htyped, h.base_eq]
  rfl

theorem IsPlain.lower_signature_eq_iff (h : o.IsPlain base) (h' : o'.IsPlain base') :
    lower o.signature = lower o'.signature ↔
      lower base = lower base' ∧ List.Forall₂ SameParameter o.params o'.params := by
  have hbracket : IsDelimiter '(' := isDelimiter_of_mem (by decide)
  have hcomma : IsDelimiter ',' := isDelimiter_of_mem (by decide)
  have hitems : ∀ {o : Occurrence} {base : String}, o.IsPlain base →
      ∀ x ∈ ((o.params.map parameter).map String.toList).map (lowerFrom false), ',' ∉ x := by
    intro o base h x hx
    simp only [List.mem_map, exists_exists_and_eq_and] at hx
    obtain ⟨p, hp, rfl⟩ := hx
    rw [hcomma.mem_lowerFrom_iff]
    exact comma_notMem_parameter (h.no_comma p hp)
  rw [h.signature_eq, h'.signature_eq, lower, lower, String.ofList_inj, toList_write, toList_write,
    lowerFrom_joined, lowerFrom_joined,
    joined_inj (by rw [hbracket.mem_lowerFrom_iff]; exact h.no_bracket)
      (by rw [hbracket.mem_lowerFrom_iff]; exact h'.no_bracket) (hitems h) (hitems h')]
  refine and_congr String.ofList_inj.symm ?_
  rw [← List.forall₂_eq_eq_eq]
  simp only [List.forall₂_map_left_iff, List.forall₂_map_right_iff]
  unfold SameParameter lower
  simp only [String.ofList_inj]

/-- Two plain occurrences have one key iff their names, their base types and their parameters in
order are the same without regard to case.  So one without parameters has the key of none with
some, and the length `-1` is taken for nothing but itself and the word for it. -/
theorem key_eq_iff (h : o.IsPlain base) (h' : o'.IsPlain base') :
    (o.key = o'.key ↔ lower o.name = lower o'.name ∧ lower base = lower base' ∧
      List.Forall₂ SameParameter o.params o'.params) ∧
    (o.params = [] → o'.params ≠ [] → o.key ≠ o'.key) ∧
    ∀ p q : String, trim p = "-1" →
      (SameParameter p q ↔ trim q = "-1" ∨ lower (trim q) = "max") := by
  have hkey : o.key = o'.key ↔ lower o.name = lower o'.name ∧ lower base = lower base' ∧
      List.Forall₂ SameParameter o.params o'.params := by
    rw [key, key, DefinitionKey.mk.injEq, h.lower_signature_eq_iff h']
    rfl
  refine ⟨hkey, fun hnone hsome heq => ?_, fun p q hp => sameParameter_iff_of_unbounded hp q⟩
  obtain ⟨-, -, hparams⟩ := hkey.mp heq
  rw [hnone, List.forall₂_nil_left_iff] at hparams
  exact hsome hparams

/-- A text of no bounded length, in capital letters. -/
def capitalText : Occurrence :=
  ⟨"A", "ΟΔΟΣ", some "ΚΕΙΜΕΝΟΣ", [" -1 ", "Σ"], .described .null .null⟩

/-- The same in small letters, with the word for the length. -/
def smallText : Occurrence :=
  ⟨"B", "οδος", some "κειμενος", ["max", "σ "], .described .null .null⟩

/-- The sigma at the end of the base type is small in its final form, and the parameter is not. -/
theorem key_eq_iff_sigmas :
    capitalText.IsPlain "ΚΕΙΜΕΝΟΣ" ∧ smallText.IsPlain "κειμενος" ∧
      capitalText.key = smallText.key := by
  have hcapital : capitalText.IsPlain "ΚΕΙΜΕΝΟΣ" :=
    ⟨rfl, by decide +kernel, by decide +kernel, by decide +kernel⟩
  have hsmall : smallText.IsPlain "κειμενος" :=
    ⟨rfl, by decide +kernel, by decide +kernel, by decide +kernel⟩
  obtain ⟨hkey, -, hunbounded⟩ := key_eq_iff hcapital hsmall
  have hlength : SameParameter " -1 " "max" :=
    (hunbounded _ _ (by decide +kernel)).mpr (.inr (by decide +kernel))
  have hletter : SameParameter "Σ" "σ " := by
    unfold SameParameter
    decide +kernel
  exact ⟨hcapital, hsmall, hkey.mpr ⟨by decide +kernel, by decide +kernel,
    .cons hlength (.cons hletter .nil)⟩⟩

end Occurrence

end ColumnLint

import ColumnLint.Proofs.Text.Refold

/-!
# Lower-casing texts part by part

A text is not lower-cased character by character, because the form of a capital sigma depends on
the letters around it.  It may still be cut in two parts where a delimiter stands
(`IsDelimiter.lowerFrom_append`): a delimiter keeps its form, comes of no other character, and ends
every word.

Where no delimiter stands, the form of the second part depends on the first one only in whether a
letter with case stands before (`exists_lowerFrom_append`).  The first part has the form that it has
alone unless it ends in a capital sigma that the second one keeps from being final
(`lowerFrom_prefix_iff`).  Apart from one character no form is longer (`length_lowerFrom`).
-/

namespace ColumnLint.Text

variable {b : Bool} {c x : Char} {cs r : List Char}

/-! ### Delimiters -/

/-- A character that keeps its form, is in the form of no other character, and ends a word. -/
structure IsDelimiter (c : Char) : Prop where
  keeps : lowerChar c = [c]
  eq_of_mem : ∀ x, c ∈ lowerChar x → x = c
  cased : isCased c = false
  ignorable : isCaseIgnorable c = false

/-- A character to which the tables send none is in its own lower-case form only. -/
theorem eq_of_mem_lowerChar (hx : x.toNat ∉ imagesOf lowerRuns lowerExpansions) (hzero : x ≠ '\x00')
    (h : x ∈ lowerChar c) : x = c := by
  rw [lowerChar_eq_mapChar] at h
  exact eq_of_mem_mapChar hx hzero h

/-- Characters that the tables do not name and that are in neither class of letters. -/
theorem isDelimiter_of_not_mem (hsource : c.toNat ∉ sourcesOf lowerRuns lowerExpansions)
    (himage : c.toNat ∉ imagesOf lowerRuns lowerExpansions) (hzero : c ≠ '\x00')
    (hcased : isCased c = false) (hignorable : isCaseIgnorable c = false) : IsDelimiter c where
  keeps := by rw [lowerChar_eq_mapChar, mapChar_of_not_mem hsource]
  eq_of_mem _ h := (eq_of_mem_lowerChar himage hzero h).symm
  cased := hcased
  ignorable := hignorable

/-- Brackets, commas and the signs of patterns. -/
def delimiters : List Char := ['(', ')', '[', ',', '*', '?']

theorem isDelimiter_of_mem (h : c ∈ delimiters) : IsDelimiter c := by
  have htable : delimiters.all (fun c =>
      c.toNat ∉ sourcesOf lowerRuns lowerExpansions ∧
      c.toNat ∉ imagesOf lowerRuns lowerExpansions ∧ c ≠ '\x00' ∧
      isCased c = false ∧ isCaseIgnorable c = false) = true := by
    decide +kernel
  obtain ⟨hsource, himage, hzero, hcased, hignorable⟩ :=
    of_decide_eq_true (List.all_eq_true.mp htable c h)
  exact isDelimiter_of_not_mem hsource himage hzero hcased hignorable

namespace IsDelimiter

variable (hc : IsDelimiter c)
include hc

theorem ne_sigma : c ≠ 'Σ' := by
  rintro rfl
  exact absurd hc.cased (by decide +kernel)

theorem afterCasedStep (b : Bool) : afterCasedStep b c = false := by
  rw [Text.afterCasedStep, hc.ignorable, hc.cased]
  rfl

theorem startsCased_cons (r : List Char) : startsCased (c :: r) = false := by
  rw [startsCased, if_neg (by rw [hc.ignorable]; exact Bool.false_ne_true), hc.cased]

theorem startsCased_append (cs r : List Char) : startsCased (cs ++ c :: r) = startsCased cs := by
  induction cs with
  | nil => exact hc.startsCased_cons r
  | cons x cs ih => rw [List.cons_append, startsCased, startsCased, ih]

theorem lowerFrom_cons (b : Bool) (r : List Char) :
    lowerFrom b (c :: r) = c :: lowerFrom false r := by
  rw [lowerFrom_of_ne hc.ne_sigma, hc.keeps, hc.afterCasedStep, List.singleton_append]

/-- A text with a delimiter is lower-cased before and behind it. -/
theorem lowerFrom_append (b : Bool) (cs r : List Char) :
    lowerFrom b (cs ++ c :: r) = lowerFrom b cs ++ c :: lowerFrom false r := by
  induction cs generalizing b with
  | nil => exact hc.lowerFrom_cons b r
  | cons x cs ih =>
    by_cases hx : x = 'Σ'
    · rw [hx, List.cons_append, lowerFrom_sigma, lowerFrom_sigma, sigmaForm, sigmaForm,
        hc.startsCased_append, ih, List.cons_append]
    · rw [List.cons_append, lowerFrom_of_ne hx, lowerFrom_of_ne hx, ih, List.append_assoc]

/-- A delimiter in a lower-case form stands in the text. -/
theorem mem_lowerFrom_iff (b : Bool) (cs : List Char) : c ∈ lowerFrom b cs ↔ c ∈ cs := by
  induction cs generalizing b with
  | nil => rfl
  | cons x cs ih =>
    rw [List.mem_cons, ← ih (Text.afterCasedStep b x)]
    by_cases hx : x = 'Σ'
    · rw [hx, lowerFrom_sigma, List.mem_cons]
      refine or_congr_left (iff_of_false ?_ hc.ne_sigma)
      rw [sigmaForm]
      split_ifs <;> rintro rfl <;> exact absurd hc.cased (by decide +kernel)
    · rw [lowerFrom_of_ne hx, List.mem_append]
      refine or_congr_left ⟨fun h => (hc.eq_of_mem x h).symm, ?_⟩
      rintro rfl
      rw [hc.keeps]
      exact List.mem_singleton_self _

end IsDelimiter

/-! ### Lengths -/

/-- The capital with a dot is the only character with a longer lower-case form. -/
theorem length_lowerChar (c : Char) : (lowerChar c).length = if c = 'İ' then 2 else 1 := by
  split_ifs with hc
  · rw [hc]
    decide +kernel
  · rw [lowerChar_eq_mapChar]
    rcases mapChar_entries lowerRuns lowerExpansions c with
      hself | ⟨r, -, i, -, -, himage⟩ | ⟨ns, hmem, -⟩
    · rw [hself]
      rfl
    · rw [himage]
      rfl
    · have hsource : c.toNat = 'İ'.toNat := congrArg Prod.fst (List.mem_singleton.mp hmem)
      exact absurd (Char.toNat_inj.mp hsource) hc

theorem length_lowerFrom (b : Bool) (cs : List Char) :
    (lowerFrom b cs).length = cs.length + cs.count 'İ' := by
  induction cs generalizing b with
  | nil => rfl
  | cons c r ih =>
    by_cases hc : c = 'Σ'
    · have hne : 'Σ' ≠ 'İ' := by decide
      rw [hc, lowerFrom_sigma, List.length_cons, ih, List.length_cons, List.count_cons_of_ne hne]
      omega
    · rw [lowerFrom_of_ne hc, List.length_append, length_lowerChar, ih, List.length_cons,
        List.count_cons]
      simp only [beq_iff_eq]
      split_ifs <;> omega

/-! ### Parts -/

/-- Whether the last character of a text that is not passed over has case; an empty text leaves it
as it was before. -/
def afterCased (b : Bool) (cs : List Char) : Bool :=
  cs.foldl afterCasedStep b

theorem afterCased_cons (b : Bool) (c : Char) (cs : List Char) :
    afterCased b (c :: cs) = afterCased (afterCasedStep b c) cs := rfl

/-- The form of a second part depends on whether a letter with case stands before. -/
theorem exists_lowerFrom_append (b : Bool) (cs r : List Char) :
    ∃ form, lowerFrom b (cs ++ r) = form ++ lowerFrom (afterCased b cs) r ∧
      form.length = cs.length + cs.count 'İ' := by
  suffices h : ∃ form, lowerFrom b (cs ++ r) = form ++ lowerFrom (afterCased b cs) r by
    obtain ⟨form, hform⟩ := h
    refine ⟨form, hform, ?_⟩
    have hlength := congrArg List.length hform
    rw [List.length_append, length_lowerFrom, length_lowerFrom, List.length_append,
      List.count_append] at hlength
    omega
  induction cs generalizing b with
  | nil => exact ⟨[], rfl⟩
  | cons c cs ih =>
    obtain ⟨form, hform⟩ := ih (afterCasedStep b c)
    by_cases hc : c = 'Σ'
    · refine ⟨sigmaForm b (cs ++ r) :: form, ?_⟩
      rw [hc, List.cons_append, lowerFrom_sigma, ← hc, hform]
      rfl
    · refine ⟨lowerChar c ++ form, ?_⟩
      rw [List.cons_append, lowerFrom_of_ne hc, hform, List.append_assoc]
      rfl

/-- Whether a text ends, but for characters that are passed over, in a capital sigma behind a letter
with case. -/
def EndsInSigma (b : Bool) (cs : List Char) : Prop :=
  ∃ u v, cs = u ++ 'Σ' :: v ∧ afterCased b u = true ∧ ∀ c ∈ v, isCaseIgnorable c = true

theorem endsInSigma_cons :
    EndsInSigma b (c :: cs) ↔
      (c = 'Σ' ∧ b = true ∧ ∀ x ∈ cs, isCaseIgnorable x = true) ∨
        EndsInSigma (afterCasedStep b c) cs := by
  constructor
  · rintro ⟨u, v, hsplit, hcased, hv⟩
    cases u with
    | nil =>
      obtain ⟨rfl, rfl⟩ := List.cons.inj hsplit
      exact .inl ⟨rfl, hcased, hv⟩
    | cons y u =>
      obtain ⟨rfl, rfl⟩ := List.cons.inj hsplit
      exact .inr ⟨u, v, rfl, hcased, hv⟩
  · rintro (⟨rfl, hb, hcs⟩ | ⟨u, v, rfl, hcased, hv⟩)
    · exact ⟨[], cs, rfl, hb, hcs⟩
    · exact ⟨c :: u, v, rfl, hcased, hv⟩

/-- A sigma without a letter before it is never final. -/
theorem sigmaForm_false (r : List Char) : sigmaForm false r = 'σ' := rfl

/-- What follows is seen through characters that are passed over, and only through these. -/
theorem startsCased_append (cs r : List Char) :
    startsCased (cs ++ r) = if cs.all isCaseIgnorable then startsCased r else startsCased cs := by
  induction cs with
  | nil => rfl
  | cons c cs ih =>
    rw [List.cons_append, startsCased, startsCased, List.all_cons, ih]
    cases isCaseIgnorable c <;> rfl

/-- A sigma has the same form before a text and before its first part, unless nothing but what
follows the first part keeps it from being final. -/
theorem sigmaForm_append (b : Bool) (cs r : List Char) :
    sigmaForm b cs = sigmaForm b (cs ++ r) ↔
      ¬ (b = true ∧ (∀ c ∈ cs, isCaseIgnorable c = true) ∧ startsCased r = true) := by
  rw [sigmaForm, sigmaForm, startsCased_append, ← List.all_eq_true]
  cases hall : cs.all isCaseIgnorable with
  | true =>
    have hcs := startsCased_append cs []
    rw [List.append_nil, if_pos hall] at hcs
    rw [hcs, startsCased]
    cases b <;> cases startsCased r <;> decide
  | false => simp

/-- The first part of a text keeps its form iff it does not end in a sigma that the rest of the word
keeps from being final. -/
theorem lowerFrom_prefix_iff (b : Bool) (cs r : List Char) :
    lowerFrom b cs <+: lowerFrom b (cs ++ r) ↔ ¬ (EndsInSigma b cs ∧ startsCased r = true) := by
  induction cs generalizing b with
  | nil =>
    have hnone : ¬ EndsInSigma b [] := by
      rintro ⟨u, v, hsplit, -⟩
      simp at hsplit
    exact iff_of_true (List.nil_prefix) fun h => hnone h.1
  | cons c cs ih =>
    rw [endsInSigma_cons, List.cons_append]
    by_cases hc : c = 'Σ'
    · rw [hc, lowerFrom_sigma, lowerFrom_sigma, List.cons_prefix_cons, ih]
      rw [sigmaForm_append]
      -- The first sigma agrees unless the text ends with it, and the others do by induction.
      simp only [true_and]
      tauto
    · rw [lowerFrom_of_ne hc, lowerFrom_of_ne hc, List.prefix_append_right_inj, ih]
      simp only [hc, false_and, false_or]

end ColumnLint.Text

import ColumnLint.Text.Case

/-!
# Lower-case texts

The lower-case form of a text is empty only for the empty text (`lower_eq_empty_iff`): no
character is sent to nothing.
-/

namespace ColumnLint.Text

/-- A character has a non-empty image if no expansion is empty. -/
theorem mapChar_ne_nil (runs : List CaseRun) {expansions : List (Nat × List Nat)}
    (h : ∀ e ∈ expansions, e.2 ≠ []) (c : Char) : mapChar runs expansions c ≠ [] := by
  unfold mapChar
  split
  · simp
  · split
    · rename_i ns hns
      obtain ⟨l₁, l₂, hsplit, -⟩ := List.lookup_eq_some_iff.mp hns
      have hmem : (c.toNat, ns) ∈ expansions := by simp [hsplit]
      simpa using h _ hmem
    · simp

theorem lowerChar_ne_nil (c : Char) : lowerChar c ≠ [] := by
  unfold lowerChar
  split
  · simp
  · exact mapChar_ne_nil lowerRuns (by decide) c

theorem lowerFrom_eq_nil_iff (afterCased : Bool) (cs : List Char) :
    lowerFrom afterCased cs = [] ↔ cs = [] := by
  cases cs with
  | nil => simp [lowerFrom]
  | cons c r =>
    unfold lowerFrom
    split
    · simp
    · simp [lowerChar_ne_nil]

theorem lower_eq_empty_iff (s : String) : lower s = "" ↔ s = "" := by
  unfold lower
  rw [← String.toList_inj, String.toList_ofList, ← String.toList_inj]
  exact lowerFrom_eq_nil_iff false s.toList

end ColumnLint.Text

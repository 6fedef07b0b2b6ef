import ColumnLint.Text.Blank

/-!
# Pieces between separators

A text is its pieces with a separator before each but the first (`exists_piecesOf`), and the last of
them stands behind the last separator (`exists_getLast?_piecesOf`).
-/

namespace ColumnLint.Text

variable {s c : Char} {x r : List Char} {ps : List (List Char)}

theorem piecesOf_cons_of_ne (hc : c ≠ s) (h : piecesOf s r = x :: ps) :
    piecesOf s (c :: r) = (c :: x) :: ps := by
  rw [piecesOf, if_neg hc, h]

theorem piecesOf_append (hx : s ∉ x) (r : List Char) :
    piecesOf s (x ++ s :: r) = x :: piecesOf s r := by
  induction x with
  | nil => rw [List.nil_append, piecesOf, if_pos rfl]
  | cons c x ih =>
    rw [List.mem_cons, not_or] at hx
    exact piecesOf_cons_of_ne (Ne.symm hx.1) (ih hx.2)

theorem piecesOf_of_notMem (hx : s ∉ x) : piecesOf s x = [x] := by
  induction x with
  | nil => rfl
  | cons c x ih =>
    rw [List.mem_cons, not_or] at hx
    exact piecesOf_cons_of_ne (Ne.symm hx.1) (ih hx.2)

/-- A text is made of its pieces, of which there is at least one. -/
theorem exists_piecesOf (s : Char) (cs : List Char) :
    ∃ p ps, piecesOf s cs = p :: ps ∧ cs = p ++ ps.flatMap (s :: ·) ∧ s ∉ p ∧ ∀ q ∈ ps, s ∉ q := by
  induction cs with
  | nil => exact ⟨[], [], rfl, rfl, by simp, by simp⟩
  | cons c cs ih =>
    obtain ⟨p, ps, hpieces, hsplit, hp, hps⟩ := ih
    by_cases hc : c = s
    · refine ⟨[], p :: ps, ?_, ?_, by simp, List.forall_mem_cons.mpr ⟨hp, hps⟩⟩
      · rw [piecesOf, if_pos hc, hpieces]
      · rw [hc, List.flatMap_cons, List.cons_append, ← hsplit]
        rfl
    · refine ⟨c :: p, ps, piecesOf_cons_of_ne hc hpieces, by rw [hsplit]; rfl, ?_, hps⟩
      rw [List.mem_cons, not_or]
      exact ⟨Ne.symm hc, hp⟩

/-- The last piece is what stands behind the last separator. -/
theorem exists_getLast?_piecesOf (s : Char) (cs : List Char) :
    ∃ front last, (piecesOf s cs).getLast? = some last ∧ s ∉ last ∧ cs = front ++ last ∧
      ∀ c ∈ front.getLast?, c = s := by
  obtain ⟨p, ps, hpieces, hsplit, hp, hps⟩ := exists_piecesOf s cs
  rcases List.eq_nil_or_concat ps with rfl | ⟨before, last, rfl⟩
  · refine ⟨[], p, by rw [hpieces]; rfl, hp, ?_, nofun⟩
    rwa [List.flatMap_nil, List.append_nil] at hsplit
  · rw [List.concat_eq_append] at hpieces hsplit hps
    refine ⟨p ++ before.flatMap (s :: ·) ++ [s], last, ?_, hps last (by simp), ?_, ?_⟩
    · rw [hpieces, ← List.cons_append, List.getLast?_concat]
    · rw [hsplit]
      simp
    · rw [List.getLast?_concat]
      rintro c ⟨⟩
      rfl

end ColumnLint.Text

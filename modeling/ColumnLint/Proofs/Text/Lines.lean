import ColumnLint.Proofs.Text.Pieces
import Mathlib.Data.List.DropRight

/-!
# Trimmed texts and lines

A text is what trimming leaves of it with blanks at both ends (`exists_trimChars`), and what is left
is the only part between blanks that does not begin or end with one itself (`trimChars_eq`).

A text is its lines with a line feed before each but the first (`exists_linesOf`).
-/

namespace ColumnLint.Text

variable {c : Char} {t u w x r : List Char} {ls : List (List Char)}

/-! ### Trimming -/

/-- A text that neither begins nor ends with a blank. -/
structure IsTrimmed (t : List Char) : Prop where
  first : ∀ c r, t = c :: r → isBlank c = false
  last : ∀ r c, t = r ++ [c] → isBlank c = false

theorem trimChars_eq_rdropWhile (cs : List Char) :
    trimChars cs = (cs.dropWhile isBlank).rdropWhile isBlank := rfl

/-- What is left of a text when the blanks before it are dropped. -/
theorem dropWhile_isBlank_of_isTrimmed (ht : IsTrimmed t) (hne : t ≠ []) (r : List Char) :
    (t ++ r).dropWhile isBlank = t ++ r := by
  cases t with
  | nil => exact absurd rfl hne
  | cons c t =>
    rw [List.cons_append, List.dropWhile_cons, if_neg]
    rw [ht.first c t rfl]
    exact Bool.false_ne_true

/-- A part at the end of a trimmed text is not blank. -/
theorem IsTrimmed.not_all_blank (ht : IsTrimmed (r ++ x)) (hne : x ≠ []) :
    ¬ ∀ c ∈ x, isBlank c = true := by
  intro hblank
  obtain ⟨y, c, rfl⟩ := (List.eq_nil_or_concat' x).resolve_left hne
  have hlast := ht.last (r ++ y) c (by simp)
  rw [hblank c (by simp)] at hlast
  exact absurd hlast (by decide)

/-- What is left is what stands between the blanks. -/
theorem trimChars_eq (hu : ∀ c ∈ u, isBlank c = true) (ht : IsTrimmed t)
    (hw : ∀ c ∈ w, isBlank c = true) : trimChars (u ++ t ++ w) = t := by
  rw [trimChars_eq_rdropWhile, List.append_assoc, List.dropWhile_append_of_pos hu]
  by_cases hne : t = []
  · rw [hne, List.nil_append, List.dropWhile_eq_nil_iff.mpr hw]
    rfl
  · rw [dropWhile_isBlank_of_isTrimmed ht hne]
    obtain ⟨r, c, rfl⟩ := (List.eq_nil_or_concat' t).resolve_left hne
    induction w using List.reverseRecOn with
    | nil =>
      rw [List.append_nil, List.rdropWhile_concat, ht.last r c rfl, if_neg Bool.false_ne_true]
    | append_singleton w d ih =>
      rw [← List.append_assoc, List.rdropWhile_concat, if_pos (hw d (by simp)),
        ih fun c hc => hw c (List.mem_append_left _ hc)]

/-- A text is what trimming leaves of it, between blanks. -/
theorem exists_trimChars (cs : List Char) :
    ∃ u w, cs = u ++ trimChars cs ++ w ∧ (∀ c ∈ u, isBlank c = true) ∧
      (∀ c ∈ w, isBlank c = true) ∧ IsTrimmed (trimChars cs) := by
  have hstop : ∀ {cs r : List Char} {c : Char}, cs.dropWhile isBlank = c :: r →
      isBlank c = false := by
    intro cs r c h
    have hhead := List.head?_dropWhile_not isBlank cs
    rwa [h] at hhead
  obtain ⟨w, hsplit, hw⟩ : ∃ w, cs.dropWhile isBlank = trimChars cs ++ w ∧
      ∀ c ∈ w, isBlank c = true := by
    refine ⟨((cs.dropWhile isBlank).reverse.takeWhile isBlank).reverse, ?_, ?_⟩
    · rw [trimChars, ← List.reverse_append, List.takeWhile_append_dropWhile, List.reverse_reverse]
    · exact fun c hc => List.mem_takeWhile_imp (List.mem_reverse.mp hc)
  refine ⟨cs.takeWhile isBlank, w, ?_, fun c hc => List.mem_takeWhile_imp hc, hw, ?_, ?_⟩
  · rw [List.append_assoc, ← hsplit, List.takeWhile_append_dropWhile]
  · intro c r h
    rw [h] at hsplit
    exact hstop hsplit
  · intro r c h
    have hreverse := congrArg List.reverse h
    rw [trimChars, List.reverse_reverse, List.reverse_concat'] at hreverse
    exact hstop hreverse

theorem trimChars_eq_nil_iff (cs : List Char) :
    trimChars cs = [] ↔ ∀ c ∈ cs, isBlank c = true := by
  constructor
  · intro h
    obtain ⟨u, w, hsplit, hu, hw, -⟩ := exists_trimChars cs
    rw [h, List.append_nil] at hsplit
    rw [hsplit]
    exact List.forall_mem_append.mpr ⟨hu, hw⟩
  · intro h
    have htrimmed : IsTrimmed [] := ⟨by simp, by simp⟩
    have heq := trimChars_eq (w := []) h htrimmed (by simp)
    rwa [List.append_nil, List.append_nil] at heq

/-- A character that is not blank stays in front of another one. -/
theorem trimChars_cons_cons {d : Char} (hc : isBlank c = false) (hd : isBlank d = false)
    (x : List Char) : trimChars (c :: d :: x) = c :: trimChars (d :: x) := by
  obtain ⟨u, w, hsplit, hu, hw, ht⟩ := exists_trimChars (d :: x)
  have hnil : u = [] := by
    cases u with
    | nil => rfl
    | cons e u =>
      obtain ⟨rfl, -⟩ := List.cons.inj hsplit
      rw [hu d List.mem_cons_self] at hd
      exact absurd hd Bool.noConfusion
  have hne : trimChars (d :: x) ≠ [] := by
    intro h
    rw [(trimChars_eq_nil_iff _).mp h d List.mem_cons_self] at hd
    exact absurd hd Bool.noConfusion
  have htrimmed : IsTrimmed (c :: trimChars (d :: x)) := by
    constructor
    · intro e r h
      obtain ⟨rfl, -⟩ := List.cons.inj h
      exact hc
    · intro r e h
      cases r with
      | nil => exact absurd (List.cons.inj h).2 hne
      | cons f r => exact ht.last r e (List.cons.inj h).2
  have heq := trimChars_eq (u := []) (by simp) htrimmed hw
  rwa [List.nil_append, List.cons_append, ← List.nil_append (trimChars (d :: x) ++ w), ← hnil,
    ← List.append_assoc, ← hsplit] at heq

/-- Trimming takes characters away only. -/
theorem mem_of_mem_trimChars {cs : List Char} (h : c ∈ trimChars cs) : c ∈ cs := by
  obtain ⟨u, w, hsplit, -⟩ := exists_trimChars cs
  rw [hsplit, List.append_assoc]
  exact List.mem_append_right u (List.mem_append_left w h)

/-! ### Lines -/

/-- A text cut at its line feeds. -/
def linesOf (cs : List Char) : List (List Char) :=
  piecesOf '\n' cs

/-- The lines behind a first one, with the line feeds before them. -/
def furtherLines (ls : List (List Char)) : List Char :=
  ls.flatMap ('\n' :: ·)

theorem furtherLines_nil : furtherLines [] = [] := rfl

theorem furtherLines_cons (l : List Char) (ls : List (List Char)) :
    furtherLines (l :: ls) = '\n' :: (l ++ furtherLines ls) := rfl

theorem furtherLines_append (ls ls' : List (List Char)) :
    furtherLines (ls ++ ls') = furtherLines ls ++ furtherLines ls' :=
  List.flatMap_append

theorem linesOf_cons_of_ne (hc : c ≠ '\n') (h : linesOf r = x :: ls) :
    linesOf (c :: r) = (c :: x) :: ls :=
  piecesOf_cons_of_ne hc h

theorem linesOf_append (hx : '\n' ∉ x) (r : List Char) :
    linesOf (x ++ '\n' :: r) = x :: linesOf r :=
  piecesOf_append hx r

theorem linesOf_of_notMem (hx : '\n' ∉ x) : linesOf x = [x] :=
  piecesOf_of_notMem hx

/-- A text is made of its lines, of which there is at least one. -/
theorem exists_linesOf (cs : List Char) :
    ∃ l ls, linesOf cs = l :: ls ∧ cs = l ++ furtherLines ls ∧ '\n' ∉ l ∧ ∀ l ∈ ls, '\n' ∉ l :=
  exists_piecesOf '\n' cs

/-- The lines that are not blank, trimmed. -/
def written (ls : List (List Char)) : List (List Char) :=
  (ls.map trimChars).filter (· ≠ [])

theorem written_cons (l : List Char) (ls : List (List Char)) :
    written (l :: ls) = if trimChars l = [] then written ls else trimChars l :: written ls := by
  unfold written
  rw [List.map_cons, List.filter_cons]
  simp only [ne_eq, decide_not, Bool.not_eq_true', decide_eq_false_iff_not, ite_not]

end ColumnLint.Text

import ColumnLint.NameGroup
import Mathlib.Algebra.BigOperators.Group.List.Lemmas
import Mathlib.Algebra.Ring.Nat
import Mathlib.Data.Finset.Card
import Mathlib.Data.List.Forall2
import Mathlib.Data.List.Induction

/-!
# Distinct members in order of first appearance

`distinct xs` holds the members of `xs` (`mem_distinct`), each once (`nodup_distinct`), in the
order of their first places (`pairwise_idxOf_distinct`), so the members can be counted by them
(`sum_count_distinct`).  It commutes with filters (`distinct_filter`), equal members may be dropped
before an image is taken (`distinct_map_distinct`), and of a second list only the new members are
added (`distinct_append`).  All of it follows from what one more member at the end does
(`distinct_concat`), by induction from the end of the list, as the fold goes.
-/

namespace ColumnLint

variable {α β : Type*} [DecidableEq α] [DecidableEq β]

@[simp] theorem distinct_nil : distinct ([] : List α) = [] := rfl

/-- A member at the end is new, or has appeared before. -/
theorem distinct_concat (xs : List α) (x : α) :
    distinct (xs ++ [x]) = if x ∈ distinct xs then distinct xs else distinct xs ++ [x] := by
  unfold distinct
  rw [List.foldl_append]
  rfl

@[simp] theorem mem_distinct {xs : List α} {a : α} : a ∈ distinct xs ↔ a ∈ xs := by
  induction xs using List.reverseRecOn with
  | nil => simp
  | append_singleton xs x ih =>
    rw [distinct_concat, List.mem_append, List.mem_singleton]
    split_ifs with h
    · rw [ih]
      constructor
      · exact Or.inl
      · rintro (ha | rfl)
        · exact ha
        · exact ih.mp h
    · rw [List.mem_append, List.mem_singleton, ih]

theorem nodup_distinct (xs : List α) : (distinct xs).Nodup := by
  induction xs using List.reverseRecOn with
  | nil => simp
  | append_singleton xs x ih =>
    rw [distinct_concat]
    split_ifs with h
    · exact ih
    · rw [← List.concat_eq_append]
      exact ih.concat h

/-- The number of distinct members. -/
theorem length_distinct (xs : List α) : (distinct xs).length = xs.toFinset.card := by
  rw [← List.toFinset_card_of_nodup (nodup_distinct xs)]
  congr 1
  ext a
  simp

/-- All members, counted by the distinct ones. -/
theorem sum_count_distinct (xs : List α) : ((distinct xs).map (xs.count ·)).sum = xs.length := by
  -- `dedup` keeps last places and `distinct` first ones, so they agree only up to order.
  have hperm : (distinct xs).Perm xs.dedup := by
    rw [List.perm_ext_iff_of_nodup (nodup_distinct xs) (List.nodup_dedup xs)]
    intro a
    rw [mem_distinct, List.mem_dedup]
  rw [(hperm.map _).sum_eq, List.sum_map_count_dedup_eq_length]

/-- The distinct members stand in the order of their first places. -/
theorem pairwise_idxOf_distinct (xs : List α) :
    (distinct xs).Pairwise fun a b => xs.idxOf a < xs.idxOf b := by
  induction xs using List.reverseRecOn with
  | nil => simp
  | append_singleton xs x ih =>
    -- A first place does not move when the list grows at the end.
    have hold : ∀ a ∈ distinct xs, (xs ++ [x]).idxOf a = xs.idxOf a := by
      intro a ha
      exact List.idxOf_append_of_mem (mem_distinct.mp ha)
    have hseen : (distinct xs).Pairwise fun a b => (xs ++ [x]).idxOf a < (xs ++ [x]).idxOf b := by
      refine ih.imp_of_mem ?_
      intro a b ha hb h
      rwa [hold a ha, hold b hb]
    rw [distinct_concat]
    split_ifs with h
    · exact hseen
    · -- The new member stands behind all others, whose first places are inside `xs`.
      rw [List.pairwise_append]
      refine ⟨hseen, List.pairwise_singleton _ _, ?_⟩
      intro a ha b hb
      rw [List.mem_singleton] at hb
      subst hb
      rw [hold a ha, List.idxOf_append_of_notMem (fun hb => h (mem_distinct.mpr hb))]
      have := List.idxOf_lt_length_of_mem (mem_distinct.mp ha)
      omega

/-- The first of the distinct members is the first of all. -/
theorem head?_distinct (xs : List α) : (distinct xs).head? = xs.head? := by
  induction xs using List.reverseRecOn with
  | nil => rfl
  | append_singleton xs x ih =>
    rw [distinct_concat, List.head?_append, ← ih]
    split_ifs with h
    · rw [Option.or_of_isSome]
      rw [List.isSome_head?]
      exact List.ne_nil_of_mem h
    · rw [List.head?_append]

/-- Members may be left out before or after. -/
theorem distinct_filter (p : α → Bool) (xs : List α) :
    distinct (xs.filter p) = (distinct xs).filter p := by
  induction xs using List.reverseRecOn with
  | nil => rfl
  | append_singleton xs x ih =>
    rw [List.filter_append, distinct_concat]
    by_cases hp : p x = true
    · rw [List.filter_cons_of_pos hp, List.filter_nil, distinct_concat, ih]
      have hmem : x ∈ (distinct xs).filter p ↔ x ∈ distinct xs := by simp [hp]
      simp only [hmem]
      split_ifs
      · rfl
      · rw [List.filter_append, List.filter_cons_of_pos hp, List.filter_nil]
    · rw [List.filter_cons_of_neg hp, List.filter_nil, List.append_nil, ih]
      split_ifs
      · rfl
      · rw [List.filter_append, List.filter_cons_of_neg hp, List.filter_nil, List.append_nil]

/-- Equal members may be dropped before an image is taken. -/
theorem distinct_map_distinct (f : α → β) (xs : List α) :
    distinct ((distinct xs).map f) = distinct (xs.map f) := by
  induction xs using List.reverseRecOn with
  | nil => rfl
  | append_singleton xs x ih =>
    rw [distinct_concat, List.map_append, List.map_singleton, distinct_concat, ← ih]
    split_ifs with h h' h'
    · rfl
    · exact absurd (mem_distinct.mpr (List.mem_map_of_mem h)) h'
    · rw [List.map_append, List.map_singleton, distinct_concat, if_pos h']
    · rw [List.map_append, List.map_singleton, distinct_concat, if_neg h']

/-- A second list adds its members that are not in the first one. -/
theorem distinct_append (xs ys : List α) :
    distinct (xs ++ ys) = distinct xs ++ (distinct ys).filter (· ∉ xs) := by
  induction ys using List.reverseRecOn with
  | nil => simp
  | append_singleton ys y ih =>
    have hmem : y ∈ distinct (xs ++ ys) ↔ y ∈ xs ∨ y ∈ ys := by
      rw [mem_distinct, List.mem_append]
    rw [← List.append_assoc, distinct_concat, distinct_concat]
    simp only [hmem, mem_distinct]
    by_cases hy : y ∈ ys
    · rw [if_pos (.inr hy), if_pos hy, ih]
    · rw [if_neg hy, List.filter_append, ih]
      by_cases hx : y ∈ xs
      · rw [if_pos (.inl hx), List.filter_cons_of_neg (by simp [hx]), List.filter_nil,
          List.append_nil]
      · rw [if_neg (by simp [hx, hy]), List.filter_cons_of_pos (by simp [hx]), List.filter_nil,
          List.append_assoc]

/-- Members that are distinct are kept as they are. -/
theorem distinct_of_nodup {xs : List α} (h : xs.Nodup) : distinct xs = xs := by
  induction xs using List.reverseRecOn with
  | nil => rfl
  | append_singleton xs x ih =>
    rw [← List.concat_eq_append, List.nodup_concat] at h
    rw [distinct_concat, ih h.2, if_neg h.1]

/-- Equal members may be dropped before others are added. -/
theorem distinct_distinct_append (xs ys : List α) :
    distinct (distinct xs ++ ys) = distinct (xs ++ ys) := by
  rw [distinct_append, distinct_append, distinct_of_nodup (nodup_distinct xs)]
  simp only [mem_distinct]

/-! ### Lists that are related member by member -/

variable {γ δ : Type*} {R : γ → δ → Prop} {xs : List γ} {ys : List δ}

/-- What a list is related to member by member holds something related to each of its members. -/
theorem exists_mem_of_forall₂ {x : γ} (h : List.Forall₂ R xs ys) (hx : x ∈ xs) :
    ∃ y ∈ ys, R x y := by
  induction h with
  | nil => exact absurd hx List.not_mem_nil
  | @cons a b as bs hab _ ih =>
    rcases List.mem_cons.mp hx with rfl | hx
    · exact ⟨b, List.mem_cons_self .., hab⟩
    · obtain ⟨y, hy, hxy⟩ := ih hx
      exact ⟨y, List.mem_cons_of_mem _ hy, hxy⟩

/-- Filtering with reports: members that pass are related to what they give. -/
theorem forall₂_filter_filterMap {p : γ → Bool} {f : γ → Option δ}
    (h : ∀ a ∈ xs, if p a then ∃ b, f a = some b ∧ R a b else f a = none) :
    List.Forall₂ R (xs.filter p) (xs.filterMap f) := by
  induction xs with
  | nil => exact .nil
  | cons a xs ih =>
    have ha := h a (List.mem_cons_self ..)
    have hrest := ih fun b hb => h b (List.mem_cons_of_mem _ hb)
    split_ifs at ha with hp
    · obtain ⟨b, hb, hR⟩ := ha
      rw [List.filter_cons_of_pos hp, List.filterMap_cons_some hb]
      exact .cons hR hrest
    · rw [List.filter_cons_of_neg hp, List.filterMap_cons_none ha]
      exact hrest

end ColumnLint

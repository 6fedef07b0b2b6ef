import ColumnLint.Proofs.Text.Case
import ColumnLint.Text.Blank
import Mathlib.Data.List.Basic
import Mathlib.Data.Nat.Bitwise
import Mathlib.Data.String.Basic

/-!
# Upper-case texts

The upper-case form of a text is its own upper-case form (`upper_upper`), it is empty only for the
empty text (`upper_eq_empty_iff`), a star only for the star (`upper_eq_star_iff`), and blank only
for a blank text (`isAllBlank_of_upper`).

All of this is read off the tables.  A character that is in neither table keeps its form, and all
others are sent to code points that the tables name (`mapChar_cases`).  For the first it is enough
that no code point is both an image and a source.  The tables name some fifteen hundred of each: as
numbers with one bit for each code point (`bits`), the two have no bit in common.
-/

namespace ColumnLint.Text

/-! ### Sets of numbers as bits -/

/-- The number whose bits are set at the given places. -/
def bits (ns : List ℕ) : ℕ :=
  ns.foldl (fun m n => m ||| 1 <<< n) 0

/-- The bits of numbers that are put together. -/
theorem testBit_foldl_or {α : Type*} (f : α → ℕ) (xs : List α) (m i : ℕ) :
    (xs.foldl (fun m x => m ||| f x) m).testBit i =
      (m.testBit i || xs.any fun x => (f x).testBit i) := by
  induction xs generalizing m with
  | nil => simp
  | cons x xs ih => rw [List.foldl_cons, ih, Nat.testBit_or, Bool.or_assoc, List.any_cons]

theorem testBit_bits (ns : List ℕ) (i : ℕ) : (bits ns).testBit i = decide (i ∈ ns) := by
  have hone : ∀ n : ℕ, (1 <<< n : ℕ).testBit i = decide (n = i) := fun n => by
    rw [Nat.one_shiftLeft, Nat.testBit_two_pow]
  rw [bits, testBit_foldl_or, Nat.zero_testBit, Bool.false_or]
  simp only [hone]
  rw [Bool.eq_iff_iff, List.any_eq_true, decide_eq_true_eq]
  simp

/-- Lists without a common bit have no common member. -/
theorem not_mem_of_bits {ns ms : List ℕ} (h : bits ns &&& bits ms = 0) {i : ℕ} (hi : i ∈ ns) :
    i ∉ ms := by
  intro hi'
  have hbit := congrArg (Nat.testBit · i) h
  simp only [Nat.testBit_and, testBit_bits, Nat.zero_testBit, hi, hi', decide_true,
    Bool.and_self, Bool.true_eq_false] at hbit

/-! ### What the tables name -/

/-- The places of a run, counted from its first one. -/
def CaseRun.places (r : CaseRun) : List ℕ :=
  (List.range ((r.last - r.first) / r.step + 1)).map (· * r.step)

/-- The code points that runs and expansions send to others. -/
def sourcesOf (runs : List CaseRun) (expansions : List (ℕ × List ℕ)) : List ℕ :=
  runs.flatMap (fun r => r.places.map (r.first + ·)) ++ expansions.map Prod.fst

/-- The code points to which runs and expansions send others. -/
def imagesOf (runs : List CaseRun) (expansions : List (ℕ × List ℕ)) : List ℕ :=
  runs.flatMap (fun r => r.places.map (r.image + ·)) ++ expansions.flatMap Prod.snd

/-- A code point with an image stands at a place of the run. -/
theorem CaseRun.exists_place {r : CaseRun} {n m : ℕ} (h : r.imageOf? n = some m) :
    ∃ i ∈ r.places, r.first + i = n ∧ r.image + i = m := by
  unfold CaseRun.imageOf? at h
  split_ifs at h with hn
  simp only [Bool.and_eq_true, decide_eq_true_eq, beq_iff_eq] at hn
  obtain ⟨⟨hfirst, hlast⟩, hstep⟩ := hn
  refine ⟨n - r.first, ?_, by omega, Option.some.inj h⟩
  refine List.mem_map.mpr ⟨(n - r.first) / r.step, ?_,
    Nat.div_mul_cancel (Nat.dvd_of_mod_eq_zero hstep)⟩
  rw [List.mem_range, Nat.lt_add_one_iff]
  exact Nat.div_le_div_right (by omega)

variable {runs : List CaseRun} {expansions : List (ℕ × List ℕ)} {c x : Char}

/-- A character keeps its form, or it is at a place of a run, or it has a longer image. -/
theorem mapChar_entries (runs : List CaseRun) (expansions : List (ℕ × List ℕ)) (c : Char) :
    mapChar runs expansions c = [c] ∨
      (∃ r ∈ runs, ∃ i ∈ r.places, r.first + i = c.toNat ∧
        mapChar runs expansions c = [Char.ofNat (r.image + i)]) ∨
      ∃ ns, (c.toNat, ns) ∈ expansions ∧ mapChar runs expansions c = ns.map Char.ofNat := by
  unfold mapChar
  cases hruns : runs.findSome? (·.imageOf? c.toNat) with
  | some m =>
    obtain ⟨r, hr, himage⟩ := List.exists_of_findSome?_eq_some hruns
    obtain ⟨i, hi, hsource, rfl⟩ := CaseRun.exists_place himage
    exact .inr (.inl ⟨r, hr, i, hi, hsource, rfl⟩)
  | none =>
    cases hexpansions : expansions.lookup c.toNat with
    | some ns =>
      obtain ⟨l₁, l₂, hsplit, -⟩ := List.lookup_eq_some_iff.mp hexpansions
      exact .inr (.inr ⟨ns, by simp [hsplit], rfl⟩)
    | none => exact .inl rfl

section Place

variable {r : CaseRun} {i : ℕ}

theorem mem_sourcesOf_of_place (hr : r ∈ runs) (hi : i ∈ r.places) :
    r.first + i ∈ sourcesOf runs expansions :=
  List.mem_append_left _ (List.mem_flatMap.mpr ⟨r, hr, List.mem_map_of_mem hi⟩)

theorem mem_imagesOf_of_place (hr : r ∈ runs) (hi : i ∈ r.places) :
    r.image + i ∈ imagesOf runs expansions :=
  List.mem_append_left _ (List.mem_flatMap.mpr ⟨r, hr, List.mem_map_of_mem hi⟩)

end Place

/-- A character keeps its form, or the tables name it and all code points of its image. -/
theorem mapChar_cases (runs : List CaseRun) (expansions : List (ℕ × List ℕ)) (c : Char) :
    mapChar runs expansions c = [c] ∨
      c.toNat ∈ sourcesOf runs expansions ∧
        ∃ ns : List ℕ, mapChar runs expansions c = ns.map Char.ofNat ∧
          ∀ n ∈ ns, n ∈ imagesOf runs expansions := by
  rcases mapChar_entries runs expansions c with hself | ⟨r, hr, i, hi, hsource, h⟩ | ⟨ns, hmem, h⟩
  · exact .inl hself
  · refine .inr ⟨hsource ▸ mem_sourcesOf_of_place hr hi, [r.image + i], h, fun n hn => ?_⟩
    rw [List.mem_singleton.mp hn]
    exact mem_imagesOf_of_place hr hi
  · exact .inr ⟨List.mem_append_right _ (List.mem_map_of_mem hmem), ns, h, fun n hn =>
      List.mem_append_right _ (List.mem_flatMap.mpr ⟨_, hmem, hn⟩)⟩

theorem mapChar_of_not_mem (h : c.toNat ∉ sourcesOf runs expansions) :
    mapChar runs expansions c = [c] :=
  (mapChar_cases runs expansions c).resolve_right fun hmem => h hmem.1

/-- A code point that is no character stands for the first one. -/
theorem toNat_ofNat (n : ℕ) : (Char.ofNat n).toNat = n ∨ Char.ofNat n = '\x00' := by
  by_cases h : n.isValidChar
  · have hofNat : Char.ofNat n = Char.ofNatAux n h := dif_pos h
    rw [hofNat]
    exact .inl rfl
  · exact .inr (dif_neg h)

/-- A character to which the tables send none is in its own image only. -/
theorem eq_of_mem_mapChar (hx : x.toNat ∉ imagesOf runs expansions) (hzero : x ≠ '\x00')
    (h : x ∈ mapChar runs expansions c) : x = c := by
  rcases mapChar_cases runs expansions c with hself | ⟨-, ns, hns, himages⟩
  · rw [hself] at h
    exact List.mem_singleton.mp h
  · rw [hns, List.mem_map] at h
    obtain ⟨n, hn, rfl⟩ := h
    rcases toNat_ofNat n with hofNat | hofNat
    · exact absurd (himages n hn) (hofNat ▸ hx)
    · exact absurd hofNat hzero

/-! ### Looking nearby -/

/-- The runs that reach into a range of code points. -/
def runsNear (runs : List CaseRun) (first last : ℕ) : List CaseRun :=
  runs.filter fun r => r.first ≤ last && first ≤ r.last

/-- Members without an image may be left out before one is looked for. -/
theorem findSome?_filter {α β : Type*} {p : α → Bool} {f : α → Option β} {xs : List α}
    (h : ∀ x ∈ xs, ¬ p x → f x = none) : (xs.filter p).findSome? f = xs.findSome? f := by
  induction xs with
  | nil => rfl
  | cons x xs ih =>
    obtain ⟨hx, hxs⟩ := List.forall_mem_cons.mp h
    by_cases hp : p x
    · rw [List.filter_cons_of_pos hp, List.findSome?_cons, List.findSome?_cons, ih hxs]
    · rw [List.filter_cons_of_neg hp, List.findSome?_cons_of_isNone (by rw [hx hp]; rfl), ih hxs]

/-- In a range of code points only the runs that reach into it matter. -/
theorem mapChar_runsNear {first last : ℕ} (hfirst : first ≤ c.toNat) (hlast : c.toNat ≤ last) :
    mapChar (runsNear runs first last) expansions c = mapChar runs expansions c := by
  have hfind : (runsNear runs first last).findSome? (·.imageOf? c.toNat) =
      runs.findSome? (·.imageOf? c.toNat) := by
    refine findSome?_filter fun r _ hfar => if_neg ?_
    simp only [Bool.and_eq_true, decide_eq_true_eq] at hfar ⊢
    omega
  unfold mapChar
  rw [hfind]

/-! ### Upper case -/

/-- Of the runs only one reaches into the first characters. -/
theorem runsNear_upper_ascii : runsNear upperRuns 0 127 = [⟨97, 122, 1, 65⟩] := by
  decide +kernel

theorem toUpper_ascii :
    ∀ n < 128, [(Char.ofNat n).toUpper] =
      mapChar [⟨97, 122, 1, 65⟩] upperExpansions (Char.ofNat n) := by
  decide +kernel

/-- The first characters, which are not looked up, have the form that the tables give. -/
theorem upperChar_eq_mapChar (c : Char) :
    upperChar c = mapChar upperRuns upperExpansions c := by
  unfold upperChar
  split_ifs with hascii
  · have hnear := toUpper_ascii c.toNat hascii
    rw [Char.ofNat_toNat, ← runsNear_upper_ascii] at hnear
    rw [hnear]
    exact mapChar_runsNear (Nat.zero_le _) (Nat.le_of_lt_succ hascii)
  · rfl

/-- No character that is an upper-case form has another upper-case form. -/
theorem not_mem_sourcesOf_upper {n : ℕ} (h : n ∈ imagesOf upperRuns upperExpansions) :
    n ∉ sourcesOf upperRuns upperExpansions :=
  not_mem_of_bits (by decide +kernel) h

/-- A character that the tables do not name keeps its form. -/
theorem upperChar_of_not_mem (h : c.toNat ∉ sourcesOf upperRuns upperExpansions) :
    upperChar c = [c] := by
  rw [upperChar_eq_mapChar, mapChar_of_not_mem h]

/-- The characters of an upper-case form are the character itself or named by the tables. -/
theorem mem_upperChar_cases (h : x ∈ upperChar c) :
    x = c ∧ upperChar c = [c] ∨ ∃ n ∈ imagesOf upperRuns upperExpansions, x = Char.ofNat n := by
  rw [upperChar_eq_mapChar] at h ⊢
  rcases mapChar_cases upperRuns upperExpansions c with hself | ⟨-, ns, hns, himages⟩
  · rw [hself, List.mem_singleton] at h
    exact .inl ⟨h, hself⟩
  · rw [hns, List.mem_map] at h
    obtain ⟨n, hn, rfl⟩ := h
    exact .inr ⟨n, himages n hn, rfl⟩

/-- The characters of an upper-case form keep their form. -/
theorem upperChar_of_mem (h : x ∈ upperChar c) : upperChar x = [x] := by
  rcases mem_upperChar_cases h with ⟨rfl, hself⟩ | ⟨n, himage, rfl⟩
  · exact hself
  · -- All code points of the tables are characters, but that need not be known here.
    rcases toNat_ofNat n with hn | hzero
    · exact upperChar_of_not_mem (hn.symm ▸ not_mem_sourcesOf_upper himage)
    · rw [hzero]
      decide

/-- Upper-casing twice is upper-casing once. -/
@[simp] theorem upper_upper (s : String) : upper (upper s) = upper s := by
  unfold upper
  rw [String.toList_ofList, List.flatMap_assoc]
  congr 1
  refine List.flatMap_congr fun c _ => ?_
  calc (upperChar c).flatMap upperChar
      = (upperChar c).flatMap fun x => [x] := List.flatMap_congr fun x hx => upperChar_of_mem hx
    _ = upperChar c := List.flatMap_singleton' _

theorem upperChar_ne_nil (c : Char) : upperChar c ≠ [] := by
  unfold upperChar
  split
  · simp
  · exact mapChar_ne_nil upperRuns (by decide) c

theorem flatMap_upperChar_eq_nil_iff (cs : List Char) : cs.flatMap upperChar = [] ↔ cs = [] := by
  rw [List.flatMap_eq_nil_iff, List.eq_nil_iff_forall_not_mem]
  exact forall_congr' fun c => imp_congr_right fun _ => iff_false_intro (upperChar_ne_nil c)

theorem upper_eq_empty_iff (s : String) : upper s = "" ↔ s = "" := by
  unfold upper
  rw [← String.toList_inj, String.toList_ofList, ← String.toList_inj]
  exact flatMap_upperChar_eq_nil_iff s.toList

/-- Texts that are put together are upper-cased part by part. -/
theorem upper_append (s s' : String) : upper (s ++ s') = upper s ++ upper s' := by
  rw [upper, String.toList_append, List.flatMap_append, String.ofList_append, upper, upper]

/-! ### Characters without case -/

/-- No upper-case form that the tables name is blank. -/
theorem isBlank_of_mem_images :
    ∀ n ∈ imagesOf upperRuns upperExpansions, isBlank (Char.ofNat n) = false := by
  decide +kernel

/-- A blank is in the upper-case form of blanks only. -/
theorem isBlank_of_mem_upperChar (hx : x ∈ upperChar c) (hblank : isBlank x = true) :
    isBlank c = true := by
  rcases mem_upperChar_cases hx with ⟨rfl, -⟩ | ⟨n, himage, rfl⟩
  · exact hblank
  · exact absurd hblank (by rw [isBlank_of_mem_images n himage]; exact Bool.false_ne_true)

/-- Upper-casing makes no text blank. -/
theorem isAllBlank_of_upper {s : String} (h : isAllBlank (upper s) = true) :
    isAllBlank s = true := by
  unfold isAllBlank upper at h
  rw [String.toList_ofList, List.all_eq_true] at h
  refine List.all_eq_true.mpr fun c hc => ?_
  obtain ⟨x, hx⟩ := List.exists_mem_of_ne_nil _ (upperChar_ne_nil c)
  exact isBlank_of_mem_upperChar hx (h x (List.mem_flatMap.mpr ⟨c, hc, hx⟩))

/-- A character to which the tables send none is in its own upper-case form only. -/
theorem eq_of_mem_upperChar (hx : x.toNat ∉ imagesOf upperRuns upperExpansions)
    (hzero : x ≠ '\x00') (h : x ∈ upperChar c) : x = c := by
  rw [upperChar_eq_mapChar] at h
  exact eq_of_mem_mapChar hx hzero h

/-- Only the star has the star as its upper-case form. -/
theorem upper_eq_star_iff (s : String) : upper s = "*" ↔ s = "*" := by
  constructor
  · intro h
    rw [upper, ← String.toList_inj, String.toList_ofList] at h
    rw [← String.toList_inj]
    cases hs : s.toList with
    | nil =>
      rw [hs] at h
      exact absurd h (by decide)
    | cons c cs =>
      -- The form of the first character is not empty, so it is the star and nothing follows.
      rw [hs, List.flatMap_cons] at h
      obtain ⟨hnil, -⟩ | ⟨hstar, hrest⟩ := List.append_eq_singleton_iff.mp h
      · exact absurd hnil (upperChar_ne_nil c)
      · have hc : '*' = c :=
          eq_of_mem_upperChar (by decide +kernel) (by decide) (hstar ▸ List.mem_singleton_self _)
        rw [(flatMap_upperChar_eq_nil_iff cs).mp hrest, ← hc]
        rfl
  · rintro rfl
    decide

end ColumnLint.Text

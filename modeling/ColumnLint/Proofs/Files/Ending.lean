import ColumnLint.Files.Source
import ColumnLint.Proofs.Text.Lower
import ColumnLint.Proofs.Text.Word

/-!
# Endings of paths

A file is read if its name ends in a point and the word for a kind of source, in any letter case,
with something before (`kindOf?_eq_some_iff`).  A name that is nothing but the point and the word
has no ending, as files of such a name are the hidden ones.

Lower-casing is that of all characters, but the letters of the words are the lower-case forms of
ASCII letters only (`lowerFrom_eq_iff`).
-/

namespace ColumnLint

open ColumnLint.Text

variable {c x : Char} {cs w : List Char} {name : String} {kind : SourceKind}

/-! ### Lower-case words -/

namespace Text

/-- The characters of the endings that are known. -/
def endingChars : List Char := ['.', 'j', 's', 'o', 'n', 'q', 'l']

/-- The characters of the endings are lower-case forms of ASCII characters only. -/
theorem toNat_lt_of_mem_lowerChar (hx : x ∈ endingChars) (h : x ∈ lowerChar c) :
    c.toNat < 128 := by
  have htable : endingChars.all (fun x => x.toNat < 128 ∧ x ≠ '\x00' ∧
      x.toNat ∉ imagesOf (runsNear lowerRuns 128 0x10FFFF) lowerExpansions) = true := by
    decide +kernel
  obtain ⟨hsmall, hzero, himage⟩ := of_decide_eq_true (List.all_eq_true.mp htable x hx)
  by_contra hlarge
  have hlast : c.toNat ≤ 0x10FFFF := by
    have hvalid : c.toNat < 0xD800 ∨ 0xDFFF < c.toNat ∧ c.toNat < 0x110000 := c.valid
    omega
  rw [← lowerChar_of_near (Nat.not_lt.mp hlarge) hlast] at h
  exact hlarge (eq_of_mem_mapChar himage hzero h ▸ hsmall)

theorem toLower_of_not_ascii (hc : ¬ c.toNat < 128) : c.toLower = c := by
  unfold Char.toLower
  rw [dif_neg]
  rintro ⟨-, hge⟩
  have hge' : c.toNat ≤ 90 := hge
  omega

/-- The form of a text that begins beyond ASCII has a character that the endings have not. -/
theorem exists_mem_lowerFrom (hc : ¬ c.toNat < 128) (b : Bool) (cs : List Char) :
    ∃ x ∈ lowerFrom b (c :: cs), x ∉ endingChars := by
  by_cases hsigma : c = 'Σ'
  · rw [hsigma, lowerFrom_sigma]
    refine ⟨_, List.mem_cons_self .., ?_⟩
    unfold sigmaForm
    split_ifs <;> decide
  · rw [lowerFrom_of_ne hsigma]
    obtain ⟨x, xs, hx⟩ := List.exists_cons_of_ne_nil (lowerChar_ne_nil c)
    have hmem : x ∈ lowerChar c := hx ▸ List.mem_cons_self ..
    exact ⟨x, List.mem_append_left _ hmem, fun h => hc (toNat_lt_of_mem_lowerChar h hmem)⟩

/-- For a word of such characters it is enough to lower-case ASCII letters. -/
theorem lowerFrom_eq_iff (hw : ∀ x ∈ w, x ∈ endingChars) (b : Bool) (cs : List Char) :
    lowerFrom b cs = w ↔ cs.map Char.toLower = w := by
  induction cs generalizing b w with
  | nil => rfl
  | cons c cs ih =>
    by_cases hc : c.toNat < 128
    · have hsigma : c ≠ 'Σ' := by
        rintro rfl
        exact absurd hc (by decide)
      have hform : lowerChar c = [c.toLower] := if_pos hc
      rw [lowerFrom_of_ne hsigma, hform, List.singleton_append, List.map_cons]
      cases w with
      | nil => exact iff_of_false (List.cons_ne_nil _ _) (List.cons_ne_nil _ _)
      | cons x w =>
        rw [List.cons.injEq, List.cons.injEq, ih fun y hy => hw y (List.mem_cons_of_mem _ hy)]
    · have htable : endingChars.all (·.toNat < 128) = true := by decide
      have hself : c ∉ endingChars := fun h =>
        hc (of_decide_eq_true (List.all_eq_true.mp htable c h))
      refine iff_of_false ?_ ?_
      · rintro rfl
        obtain ⟨x, hx, hnone⟩ := exists_mem_lowerFrom hc b cs
        exact hnone (hw x hx)
      · rintro rfl
        rw [List.map_cons, toLower_of_not_ascii hc] at hw
        exact hself (hw c (List.mem_cons_self ..))

end Text

/-! ### Endings -/

namespace SourceKind

/-- The word for a kind. -/
def word : SourceKind → String
  | .json => "json"
  | .sql => "sql"

/-- Whether the name that a path ends in has something in front and then a point and the word for
the kind, in any letter case. -/
def Ends (kind : SourceKind) (path : String) : Prop :=
  ∃ stem c word, path.toList = stem ++ c :: '.' :: word ∧ c ≠ '/' ∧
    word.map Char.toLower = kind.word.toList

theorem mem_endingChars (kind : SourceKind) :
    ∀ x ∈ '.' :: kind.word.toList, x ∈ endingChars := by
  have htable : ('.' :: kind.word.toList).all (· ∈ endingChars) = true := by
    cases kind <;> decide
  exact fun x hx => of_decide_eq_true (List.all_eq_true.mp htable x hx)

theorem ofSuffix?_eq_some_iff {suffix : String} :
    ofSuffix? suffix = some kind ↔ suffix.toList = '.' :: kind.word.toList := by
  have hjson : suffix.toList = ".json".toList ↔ suffix = ".json" := String.toList_inj
  have hsql : suffix.toList = ".sql".toList ↔ suffix = ".sql" := String.toList_inj
  unfold ofSuffix?
  cases kind with
  | json =>
    show _ ↔ suffix.toList = ".json".toList
    rw [hjson]
    split_ifs with h h' <;> simp [h]
  | sql =>
    show _ ↔ suffix.toList = ".sql".toList
    rw [hsql]
    split_ifs with h h'
    · simp [h]
    · simp [h']
    · simp [h']

end SourceKind

/-- The only character that is lower-cased to a point. -/
theorem toLower_eq_point_iff : c.toLower = '.' ↔ c = '.' := by
  refine ⟨fun h => ?_, fun h => by rw [h]; rfl⟩
  by_cases hc : c.toNat < 128
  · have htable : ∀ n < 128, (Char.ofNat n).toLower = '.' → Char.ofNat n = '.' := by decide
    have hrow := htable c.toNat hc
    rw [Char.ofNat_toNat] at hrow
    exact hrow h
  · rwa [toLower_of_not_ascii hc] at h

namespace Source

/-- What stands behind the last point of a text, if it has one. -/
theorem takeWhile_reverse_iff :
    cs.reverse.takeWhile (· ≠ '.') = w.reverse ∧ w.length < cs.length ↔
      '.' ∉ w ∧ ∃ stem, cs = stem ++ '.' :: w := by
  constructor
  · rintro ⟨htake, hlength⟩
    obtain ⟨hrun, hstop, hsplit⟩ := cut_iff.mp ⟨htake, rfl⟩
    have hpoint : '.' ∉ w := fun h => by
      have hpass := hrun '.' (List.mem_reverse.mpr h)
      simp at hpass
    generalize cs.reverse.dropWhile _ = rest at hstop hsplit
    have hcs : cs = rest.reverse ++ w := by
      rw [← List.reverse_inj, hsplit]
      simp
    cases rest with
    | nil => exact absurd hlength (by rw [hcs]; simp)
    | cons d rest =>
      have hd : d = '.' := by simpa using hstop d rfl
      refine ⟨hpoint, rest.reverse, ?_⟩
      rw [hcs, hd]
      simp
  · rintro ⟨hpoint, stem, rfl⟩
    have hreverse : (stem ++ '.' :: w).reverse = w.reverse ++ '.' :: stem.reverse := by simp
    refine ⟨(cut_iff.mpr ⟨fun d hd => ?_, ?_, hreverse⟩).1, by simp; omega⟩
    · have hne : d ≠ '.' := by
        rintro rfl
        exact hpoint (List.mem_reverse.mp hd)
      simpa using hne
    · rintro d ⟨⟩
      rfl

/-- A name has an ending from its last point on, unless nothing stands in front of the point or
behind it. -/
theorem suffix_eq_iff :
    suffix name = String.ofList ('.' :: w) ↔
      w ≠ [] ∧ '.' ∉ w ∧ ∃ stem c, name.toList = stem ++ c :: '.' :: w := by
  unfold suffix
  dsimp only
  constructor
  · intro h
    split_ifs at h with hshort
    · exact absurd (congrArg String.toList h) (by simp)
    · obtain ⟨-, hending⟩ := List.cons.inj (String.ofList_injective h)
      rw [List.reverse_eq_iff] at hending
      rw [hending] at hshort
      simp only [Bool.or_eq_true, List.isEmpty_iff, decide_eq_true_eq, not_or, not_le,
        List.reverse_eq_nil_iff, List.length_reverse] at hshort
      obtain ⟨hne, hlength⟩ := hshort
      obtain ⟨hpoint, stem, hname⟩ := takeWhile_reverse_iff.mp ⟨hending, by omega⟩
      rcases List.eq_nil_or_concat stem with rfl | ⟨stem, c, rfl⟩
      · rw [hname] at hlength
        simp at hlength
      · exact ⟨hne, hpoint, stem, c, by rw [hname]; simp⟩
  · rintro ⟨hne, hpoint, stem, c, hname⟩
    have hstem : name.toList = (stem ++ [c]) ++ '.' :: w := by rw [hname]; simp
    obtain ⟨hending, -⟩ := takeWhile_reverse_iff.mpr ⟨hpoint, _, hstem⟩
    have hlength : name.toList.length = stem.length + w.length + 2 := by
      rw [hname]
      simp
      omega
    rw [hending, if_neg, List.reverse_reverse]
    simp only [Bool.or_eq_true, List.isEmpty_iff, decide_eq_true_eq, List.reverse_eq_nil_iff,
      List.length_reverse, hne, false_or]
    omega

/-- The files that are read are those whose name has one of the known endings. -/
theorem kindOf?_eq_some_iff (hslash : '/' ∉ name.toList) :
    kindOf? name = some kind ↔ kind.Ends name := by
  have hform : kindOf? name = some kind ↔
      (suffix name).toList.map Char.toLower = '.' :: kind.word.toList := by
    unfold kindOf? lower
    rw [SourceKind.ofSuffix?_eq_some_iff, String.toList_ofList,
      lowerFrom_eq_iff kind.mem_endingChars]
  have hword : kind.word.toList ≠ [] ∧ '.' ∉ kind.word.toList := by
    cases kind <;> decide
  rw [hform, List.map_eq_cons_iff]
  constructor
  · rintro ⟨point, w, hsuffix, hpoint, hw⟩
    rw [toLower_eq_point_iff.mp hpoint] at hsuffix
    have hsuffix' : suffix name = String.ofList ('.' :: w) := by
      rw [← hsuffix, String.ofList_toList]
    obtain ⟨-, -, stem, c, hname⟩ := suffix_eq_iff.mp hsuffix'
    refine ⟨stem, c, w, hname, ?_, hw⟩
    rintro rfl
    exact hslash (by rw [hname]; simp)
  · rintro ⟨stem, c, w, hname, -, hw⟩
    have hne : w ≠ [] := by
      rintro rfl
      exact hword.1 hw.symm
    have hpoint : '.' ∉ w := fun h => hword.2 (hw ▸ List.mem_map.mpr ⟨'.', h, rfl⟩)
    refine ⟨'.', w, ?_, rfl, hw⟩
    rw [suffix_eq_iff.mpr ⟨hne, hpoint, stem, c, hname⟩, String.toList_ofList]

end Source

/-- A path has an ending iff the name that it ends in has. -/
theorem SourceKind.ends_iff {path : String} {front : List Char}
    (hpath : path.toList = front ++ name.toList) (hfront : ∀ c ∈ front.getLast?, c = '/') :
    kind.Ends path ↔ kind.Ends name := by
  constructor
  · rintro ⟨stem, c, w, hsplit, hc, hw⟩
    have hnoSlash : '/' ∉ c :: '.' :: w := by
      have hword : '/' ∉ kind.word.toList := by cases kind <;> decide
      have hletters : '/' ∉ w := fun h => hword (hw ▸ List.mem_map.mpr ⟨'/', h, rfl⟩)
      simp [hletters, hc.symm]
    rw [hpath] at hsplit
    rcases List.append_eq_append_iff.mp hsplit with ⟨between, rfl, hname⟩ | ⟨between, rfl, hending⟩
    · exact ⟨between, c, w, hname, hc, hw⟩
    · -- The slash in front of the name would stand in the ending.
      cases hlast : between.getLast? with
      | none =>
        rw [List.getLast?_eq_none_iff] at hlast
        subst hlast
        exact ⟨[], c, w, hending.symm, hc, hw⟩
      | some d =>
        have hd : d = '/' := hfront d (by rw [List.getLast?_append, hlast]; rfl)
        have hmem : d ∈ between := List.mem_of_getLast? hlast
        exact absurd (hending ▸ List.mem_append_left _ (hd ▸ hmem)) hnoSlash
  · rintro ⟨stem, c, w, hname, hc, hw⟩
    exact ⟨front ++ stem, c, w, by rw [hpath, hname, List.append_assoc], hc, hw⟩

end ColumnLint

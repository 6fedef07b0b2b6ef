import ColumnLint.Proofs.Text.Upper

/-!
# Lower-casing upper-case texts

The lower-case form of a text can be found from its upper-case form iff `refolds` holds of it
(`lower_upper_eq_iff`).  There are two reasons why it cannot.

* A character is sent elsewhere on the way, such as the sharp `ß` that becomes `SS` and then `ss`,
  or the dotless `ı` that becomes `I` and then `i` (`Refolds` fails).
* A small sigma has another form than a capital one would take in its place.

The induction is along the text.  A character that is sent elsewhere shows at once, because the two
forms already differ in their first characters, so the rest of the text does not matter.  All others
stay alone and keep their kind, and therefore what a sigma sees around it (`upperChar_spec`).

What has to be known of the characters is read off the tables, with two means against their size:
sets of code points are compared as numbers, bit by bit, and a code point is looked up only in the
runs that come near it (`mapChar_runsNear`).
-/

namespace ColumnLint.Text

variable {c : Char}

/-! ### Kinds of characters -/

/-- The number whose bits are set in ranges. -/
def rangeBits (rs : List CodeRange) : ℕ :=
  rs.foldl (fun m r => m ||| (2 ^ (r.last + 1 - r.first) - 1) <<< r.first) 0

theorem testBit_rangeBits (rs : List CodeRange) (c : Char) :
    (rangeBits rs).testBit c.toNat = CodeRange.anyHolds rs c := by
  rw [rangeBits, testBit_foldl_or, Nat.zero_testBit, Bool.false_or, CodeRange.anyHolds]
  congr 1
  funext r
  rw [Nat.testBit_shiftLeft, Nat.testBit_two_pow_sub_one, CodeRange.holds, Bool.eq_iff_iff]
  simp only [ge_iff_le, Bool.and_eq_true, decide_eq_true_eq]
  omega

/-- Letters that have case and are not passed over. -/
def IsLetter (c : Char) : Prop :=
  isCaseIgnorable c = false ∧ isCased c = true

/-- Numbers name letters if their bits are among those of the cased ranges and none is among those
that are passed over. -/
theorem isLetter_of_bits {ns : List ℕ} (hcased : bits ns &&& rangeBits casedRanges = bits ns)
    (hignorable : bits ns &&& rangeBits ignorableRanges = 0) (hc : c.toNat ∈ ns) : IsLetter c := by
  have hbit : (bits ns).testBit c.toNat = true := by
    rw [testBit_bits, decide_eq_true hc]
  have hand : ∀ rs : List CodeRange,
      (bits ns &&& rangeBits rs).testBit c.toNat = CodeRange.anyHolds rs c := fun rs => by
    rw [Nat.testBit_and, hbit, Bool.true_and, testBit_rangeBits]
  constructor
  · rw [isCaseIgnorable, ← hand, hignorable, Nat.zero_testBit]
  · rw [isCased, ← hand, hcased, hbit]

/-- The mark below a vowel: of the code points with one other as their upper-case form the only one
that is passed over. -/
def vowelMark : ℕ := 0x345

theorem isLetter_of_source (hc : c.toNat ∈ sourcesOf upperRuns []) (hmark : c.toNat ≠ vowelMark) :
    IsLetter c := by
  have hmem : c.toNat ∈ (sourcesOf upperRuns []).filter (· ≠ vowelMark) :=
    List.mem_filter.mpr ⟨hc, decide_eq_true hmark⟩
  exact isLetter_of_bits (by decide +kernel) (by decide +kernel) hmem

theorem isLetter_of_image (hc : c.toNat ∈ imagesOf upperRuns []) : IsLetter c :=
  isLetter_of_bits (by decide +kernel) (by decide +kernel) hc

/-- Two characters of which a sigma nearby sees the same. -/
structure SameKind (x c : Char) : Prop where
  ignorable : isCaseIgnorable x = isCaseIgnorable c
  cased : isCased x = isCased c

theorem IsLetter.sameKind {x : Char} (hx : IsLetter x) (hc : IsLetter c) : SameKind x c :=
  ⟨hx.1.trans hc.1.symm, hx.2.trans hc.2.symm⟩

/-! ### Lower-case forms -/

/-- Of the runs only one reaches into the first characters. -/
theorem runsNear_lower_ascii : runsNear lowerRuns 0 127 = [⟨65, 90, 1, 97⟩] := by
  decide +kernel

theorem toLower_ascii :
    ∀ n < 128, [(Char.ofNat n).toLower] =
      mapChar [⟨65, 90, 1, 97⟩] lowerExpansions (Char.ofNat n) := by
  decide +kernel

/-- The first characters, which are not looked up, have the form that the tables give. -/
theorem lowerChar_eq_mapChar (c : Char) :
    lowerChar c = mapChar lowerRuns lowerExpansions c := by
  unfold lowerChar
  split_ifs with hascii
  · have hnear := toLower_ascii c.toNat hascii
    rw [Char.ofNat_toNat, ← runsNear_lower_ascii] at hnear
    rw [hnear]
    exact mapChar_runsNear (Nat.zero_le _) (Nat.le_of_lt_succ hascii)
  · rfl

/-- The lower-case form of a character in a range of code points. -/
theorem lowerChar_of_near {first last : ℕ} (hfirst : first ≤ c.toNat) (hlast : c.toNat ≤ last) :
    mapChar (runsNear lowerRuns first last) lowerExpansions c = lowerChar c := by
  rw [lowerChar_eq_mapChar, mapChar_runsNear hfirst hlast]

/-! ### From upper to lower case -/

/-- Lower-casing the upper-case form of a character gives its lower-case form. -/
def Refolds (c : Char) : Prop :=
  (upperChar c).flatMap lowerChar = lowerChar c

instance : DecidablePred Refolds := fun _ => inferInstanceAs (Decidable (_ = _))

/-- The places of a run stay in its range. -/
theorem le_of_mem_places {r : CaseRun} {i : ℕ} (h : i ∈ r.places) : i ≤ r.last - r.first := by
  obtain ⟨k, hk, rfl⟩ := List.mem_map.mp h
  have hle : k ≤ (r.last - r.first) / r.step := Nat.le_of_lt_succ (List.mem_range.mp hk)
  calc k * r.step ≤ (r.last - r.first) / r.step * r.step := Nat.mul_le_mul_right _ hle
    _ ≤ r.last - r.first := Nat.div_mul_le_self _ _

/-- What a place of a run has to say about the character `c` there and its image `x`, given the
lower-case forms of both: only a sigma becomes a capital one, and the two forms either are the same,
with a letter at the place, or differ in front. -/
def PlaceAgrees (x c : Char) (lowered own : List Char) : Prop :=
  (x = 'Σ' → c = 'σ' ∨ c = 'ς') ∧
    (lowered = own ∧ c.toNat ≠ vowelMark ∨ lowered.head? ≠ own.head?)

instance (x c : Char) (lowered own : List Char) : Decidable (PlaceAgrees x c lowered own) :=
  inferInstanceAs (Decidable (_ ∧ _))

/-- The places of all runs say so. -/
theorem places_table :
    ∀ r ∈ upperRuns, ∀ i ∈ r.places,
      (Char.ofNat (r.image + i)).toNat = r.image + i ∧
        PlaceAgrees (Char.ofNat (r.image + i)) (Char.ofNat (r.first + i))
          (mapChar (runsNear lowerRuns r.image (r.image + (r.last - r.first))) lowerExpansions
            (Char.ofNat (r.image + i)))
          (mapChar (runsNear lowerRuns r.first (r.first + (r.last - r.first))) lowerExpansions
            (Char.ofNat (r.first + i))) := by
  decide +kernel

/-- The lower-case forms of the longer images differ in front. -/
theorem expansions_table :
    ∀ e ∈ upperExpansions, 'Σ' ∉ e.2.map Char.ofNat ∧
      ((e.2.map Char.ofNat).flatMap lowerChar).head? ≠ (lowerChar (Char.ofNat e.1)).head? := by
  decide +kernel

/-- What becomes of a character: either it stays a single one of the same kind with the same
lower-case form, or the difference shows in front.  Only a sigma becomes a capital one. -/
theorem upperChar_spec (c : Char) :
    ('Σ' ∈ upperChar c → c = 'Σ' ∨ c = 'σ' ∨ c = 'ς') ∧
      ((∃ x, upperChar c = [x] ∧ lowerChar x = lowerChar c ∧ SameKind x c) ∨
        ((upperChar c).flatMap lowerChar).head? ≠ (lowerChar c).head?) := by
  rw [upperChar_eq_mapChar]
  rcases mapChar_entries upperRuns upperExpansions c with
    hself | ⟨r, hr, i, hi, hsource, himage⟩ | ⟨ns, hmem, himage⟩
  · rw [hself, List.mem_singleton]
    exact ⟨fun h => .inl h.symm, .inl ⟨c, rfl, rfl, rfl, rfl⟩⟩
  · have hle := le_of_mem_places hi
    obtain ⟨hx, hsigma, hforms⟩ := places_table r hr i hi
    rw [hsource, Char.ofNat_toNat] at hsigma hforms
    rw [lowerChar_of_near (by omega) (by omega), lowerChar_of_near (by omega) (by omega)] at hforms
    rw [himage, List.mem_singleton, List.flatMap_singleton]
    refine ⟨fun h => .inr (hsigma h.symm), hforms.imp_left fun ⟨hsame, hmark⟩ => ?_⟩
    refine ⟨_, rfl, hsame, IsLetter.sameKind (isLetter_of_image ?_) (isLetter_of_source ?_ hmark)⟩
    · rw [hx]
      exact mem_imagesOf_of_place hr hi
    · rw [← hsource]
      exact mem_sourcesOf_of_place hr hi
  · obtain ⟨hsigma, hhead⟩ := expansions_table _ hmem
    rw [Char.ofNat_toNat] at hhead
    rw [himage]
    exact ⟨fun h => absurd h hsigma, .inr hhead⟩

/-- A character refolds iff it stays a single one of the same kind with the same form. -/
theorem refolds_iff_exists :
    Refolds c ↔ ∃ x, upperChar c = [x] ∧ lowerChar x = lowerChar c ∧ SameKind x c := by
  constructor
  · intro h
    exact (upperChar_spec c).2.resolve_right fun hhead => hhead (congrArg List.head? h)
  · rintro ⟨x, hx, hlower, -⟩
    unfold Refolds
    rw [hx, List.flatMap_singleton, hlower]

/-- A character that does not refold shows it in the first character of its form. -/
theorem head?_ne_of_not_refolds (h : ¬ Refolds c) :
    ((upperChar c).flatMap lowerChar).head? ≠ (lowerChar c).head? :=
  (upperChar_spec c).2.resolve_left fun hx => h (refolds_iff_exists.mpr hx)

/-! ### Texts -/

/-- The lower-case form of a capital sigma, with a letter with case before it or not and with the
rest of the text after it. -/
def sigmaForm (afterCased : Bool) (rest : List Char) : Char :=
  if afterCased && !startsCased rest then 'ς' else 'σ'

/-- The small forms of the sigma. -/
def IsSmallSigma (c : Char) : Prop :=
  c = 'σ' ∨ c = 'ς'

instance : DecidablePred IsSmallSigma := fun _ => inferInstanceAs (Decidable (_ ∨ _))

/-- Whether the lower-case form of the rest of a text can be found from its upper-case form: a small
sigma has the form that a capital one takes in its place, and all other characters refold. -/
def refoldsFrom (afterCased : Bool) : List Char → Bool
  | [] => true
  | c :: r =>
    (if IsSmallSigma c then decide (sigmaForm afterCased r = c) else decide (Refolds c)) &&
      refoldsFrom (afterCasedStep afterCased c) r

/-- Whether the lower-case form of a text can be found from its upper-case form. -/
def refolds (s : String) : Bool :=
  refoldsFrom false s.toList

variable {b : Bool} {r : List Char}

theorem refoldsFrom_cons :
    refoldsFrom b (c :: r) = true ↔
      (if IsSmallSigma c then sigmaForm b r = c else Refolds c) ∧
        refoldsFrom (afterCasedStep b c) r = true := by
  rw [refoldsFrom, Bool.and_eq_true]
  split_ifs <;> rw [decide_eq_true_eq]

theorem IsSmallSigma.upperChar (h : IsSmallSigma c) : upperChar c = ['Σ'] := by
  rcases h with rfl | rfl <;> decide +kernel

theorem IsSmallSigma.lowerChar (h : IsSmallSigma c) : lowerChar c = [c] := by
  rcases h with rfl | rfl <;> decide +kernel

theorem IsSmallSigma.ne_capital (h : IsSmallSigma c) : c ≠ 'Σ' := by
  rcases h with rfl | rfl <;> decide

theorem IsSmallSigma.sameKind (h : IsSmallSigma c) : SameKind 'Σ' c := by
  rcases h with rfl | rfl <;> exact ⟨by decide +kernel, by decide +kernel⟩

/-- The characters of a text that can be found from its upper-case form stay alone and keep their
kind. -/
theorem exists_upperChar_of_refoldsFrom (h : refoldsFrom b (c :: r) = true) :
    ∃ x, upperChar c = [x] ∧ SameKind x c := by
  obtain ⟨hc, -⟩ := refoldsFrom_cons.mp h
  split_ifs at hc with hsmall
  · exact ⟨'Σ', hsmall.upperChar, hsmall.sameKind⟩
  · obtain ⟨x, hx, -, hkind⟩ := refolds_iff_exists.mp hc
    exact ⟨x, hx, hkind⟩

/-- A sigma in front sees the same in the upper-case form of such a text. -/
theorem startsCased_flatMap_upperChar {cs : List Char} (h : refoldsFrom b cs = true) :
    startsCased (cs.flatMap upperChar) = startsCased cs := by
  induction cs generalizing b with
  | nil => rfl
  | cons c r ih =>
    obtain ⟨x, hx, hkind⟩ := exists_upperChar_of_refoldsFrom h
    have hrest := ih (refoldsFrom_cons.mp h).2
    rw [List.flatMap_cons, hx, List.singleton_append, startsCased, startsCased, hkind.ignorable,
      hkind.cased, hrest]

theorem sigmaForm_flatMap_upperChar {b' : Bool} (h : refoldsFrom b' r = true) :
    sigmaForm b (r.flatMap upperChar) = sigmaForm b r := by
  rw [sigmaForm, startsCased_flatMap_upperChar h, sigmaForm]

theorem afterCasedStep_of_sameKind {x : Char} (h : SameKind x c) :
    afterCasedStep b x = afterCasedStep b c := by
  rw [afterCasedStep, afterCasedStep, h.ignorable, h.cased]

theorem lowerFrom_sigma :
    lowerFrom b ('Σ' :: r) = sigmaForm b r :: lowerFrom (afterCasedStep b 'Σ') r := rfl

theorem lowerFrom_of_ne (h : c ≠ 'Σ') :
    lowerFrom b (c :: r) = lowerChar c ++ lowerFrom (afterCasedStep b c) r :=
  if_neg h

/-- The first character of a lower-case form is that of the first character. -/
theorem head?_lowerFrom {cs : List Char} (hne : cs ≠ []) (hsigma : 'Σ' ∉ cs) :
    (lowerFrom b (cs ++ r)).head? = (cs.flatMap lowerChar).head? := by
  cases cs with
  | nil => exact absurd rfl hne
  | cons x cs =>
    have hx : x ≠ 'Σ' := fun h => hsigma (h ▸ List.mem_cons_self ..)
    rw [List.cons_append, lowerFrom_of_ne hx, List.flatMap_cons,
      List.head?_append_of_ne_nil _ (lowerChar_ne_nil x),
      List.head?_append_of_ne_nil _ (lowerChar_ne_nil x)]

/-- The lower-case form of the rest of a text is found from its upper-case form iff the criterion
holds. -/
theorem lowerFrom_flatMap_upperChar_eq_iff (b : Bool) (cs : List Char) :
    lowerFrom b (cs.flatMap upperChar) = lowerFrom b cs ↔ refoldsFrom b cs = true := by
  induction cs generalizing b with
  | nil => exact iff_of_true rfl rfl
  | cons c r ih =>
    rw [refoldsFrom_cons, List.flatMap_cons]
    by_cases hsmall : IsSmallSigma c
    · -- A small sigma becomes a capital one, whose form depends on the place.
      have hleft : lowerFrom b (upperChar c ++ r.flatMap upperChar) =
          sigmaForm b (r.flatMap upperChar) ::
            lowerFrom (afterCasedStep b c) (r.flatMap upperChar) := by
        rw [hsmall.upperChar, List.singleton_append, lowerFrom_sigma,
          afterCasedStep_of_sameKind hsmall.sameKind]
      have hright : lowerFrom b (c :: r) = c :: lowerFrom (afterCasedStep b c) r := by
        rw [lowerFrom_of_ne hsmall.ne_capital, hsmall.lowerChar, List.singleton_append]
      rw [hleft, hright, List.cons.injEq, ih, if_pos hsmall]
      refine and_congr_left fun hrest => ?_
      rw [sigmaForm_flatMap_upperChar hrest]
    rw [if_neg hsmall]
    by_cases hcapital : c = 'Σ'
    · subst hcapital
      have hself : upperChar 'Σ' = ['Σ'] := by decide +kernel
      have hrefolds : Refolds 'Σ' := by decide +kernel
      rw [hself, List.singleton_append, lowerFrom_sigma, lowerFrom_sigma, List.cons.injEq, ih]
      refine ⟨fun h => ⟨hrefolds, h.2⟩, fun h => ⟨sigmaForm_flatMap_upperChar h.2, h.2⟩⟩
    have hsigma : 'Σ' ∉ upperChar c := fun h =>
      ((upperChar_spec c).1 h).elim hcapital hsmall
    by_cases hrefolds : Refolds c
    · obtain ⟨x, hx, hlower, hkind⟩ := refolds_iff_exists.mp hrefolds
      have hne : x ≠ 'Σ' := fun h => hsigma (hx ▸ h ▸ List.mem_singleton_self _)
      rw [hx, List.singleton_append, lowerFrom_of_ne hne, lowerFrom_of_ne hcapital, hlower,
        afterCasedStep_of_sameKind hkind, List.append_cancel_left_eq, ih]
      exact (and_iff_right hrefolds).symm
    · refine iff_of_false (fun h => head?_ne_of_not_refolds hrefolds ?_) fun h => hrefolds h.1
      have hhead := congrArg List.head? h
      rwa [head?_lowerFrom (upperChar_ne_nil c) hsigma, lowerFrom_of_ne hcapital,
        List.head?_append_of_ne_nil _ (lowerChar_ne_nil c)] at hhead

/-- Lower-casing the upper-case form of a text gives its lower-case form iff the criterion holds. -/
theorem lower_upper_eq_iff (s : String) : lower (upper s) = lower s ↔ refolds s = true := by
  unfold lower upper refolds
  rw [String.toList_ofList, String.ofList_inj]
  exact lowerFrom_flatMap_upperChar_eq_iff false s.toList

theorem refolds_ascii : ∀ n < 128, Refolds (Char.ofNat n) := by
  decide +kernel

/-- The criterion holds for texts of first characters. -/
theorem refolds_of_ascii {s : String} (h : ∀ c ∈ s.toList, c.toNat < 128) : refolds s = true := by
  have hall : ∀ (b : Bool) (cs : List Char), (∀ c ∈ cs, c.toNat < 128) →
      refoldsFrom b cs = true := by
    intro b cs hcs
    induction cs generalizing b with
    | nil => rfl
    | cons c r ih =>
      obtain ⟨hc, hr⟩ := List.forall_mem_cons.mp hcs
      have hsmall : ¬ IsSmallSigma c := by
        rintro (rfl | rfl) <;> exact absurd hc (by decide)
      have hrefolds := refolds_ascii c.toNat hc
      rw [Char.ofNat_toNat] at hrefolds
      exact refoldsFrom_cons.mpr ⟨(if_neg hsmall).symm ▸ hrefolds, ih _ hr⟩
  exact hall false s.toList h

end ColumnLint.Text

import ColumnLint.Proofs.Text.Lower
import ColumnLint.Text.Glob

/-!
# Patterns without sets

A pattern without an opening bracket has one item for each of its characters (`Glob.parse_eq`), so
patterns may be lower-cased item by item.  A text that a pattern matches is then matched in
lower-case form by the lower-case form of the pattern, if no character that a question mark stands
for becomes longer and no capital sigma of the text stands behind a letter with case
(`Glob.matches_lowerFrom`).

Both conditions are needed.  Along a pattern of single characters the places of the text are fixed
(`Glob.matches_place`), so a longer form finds no place, and neither does a sigma whose form is not
that in the text (`Glob.exists_pattern_of_sigma`).
-/

namespace ColumnLint.Text

variable {b b' : Bool} {c x y : Char} {cs p r u v : List Char}

/-! ### Sigmas behind letters -/

/-- Whether no capital sigma stands behind a letter with case. -/
def sigmasLead (b : Bool) : List Char → Bool
  | [] => true
  | c :: r => !(decide (c = 'Σ') && b) && sigmasLead (afterCasedStep b c) r

theorem sigmasLead_append (b : Bool) (u v : List Char) :
    sigmasLead b (u ++ v) = (sigmasLead b u && sigmasLead (afterCased b u) v) := by
  induction u generalizing b with
  | nil => rfl
  | cons c u ih => rw [List.cons_append, sigmasLead, sigmasLead, ih, Bool.and_assoc]; rfl

/-- Otherwise there is such a sigma. -/
theorem exists_sigma_of_not_sigmasLead (h : ¬ sigmasLead b cs = true) :
    ∃ u v, cs = u ++ 'Σ' :: v ∧ afterCased b u = true := by
  induction cs generalizing b with
  | nil => exact absurd rfl h
  | cons c cs ih =>
    by_cases hc : c = 'Σ' ∧ b = true
    · exact ⟨[], cs, by rw [hc.1]; rfl, hc.2⟩
    · have hrest : ¬ sigmasLead (afterCasedStep b c) cs = true := by
        intro hcs
        rw [sigmasLead, hcs] at h
        simp [hc] at h
      obtain ⟨u, v, rfl, hu⟩ := ih hrest
      exact ⟨c :: u, v, rfl, hu⟩

namespace Glob

/-! ### Items -/

/-- The item that a character stands for by itself. -/
def itemOf (c : Char) : GlobItem :=
  if c = '*' then .anyText else if c = '?' then .anyChar else .char c

theorem parseFrom_eq {n : ℕ} (hlength : p.length ≤ n) (h : '[' ∉ p) :
    parseFrom n p = p.map itemOf := by
  induction p generalizing n with
  | nil => cases n <;> rfl
  | cons c p ih =>
    rw [List.mem_cons, not_or] at h
    obtain ⟨hc, hp⟩ := h
    cases n with
    | zero => exact absurd hlength (by simp)
    | succ n =>
      rw [List.length_cons] at hlength
      rw [parseFrom, ih (by omega) hp, if_neg (Ne.symm hc), List.map_cons, itemOf]
      split_ifs <;> rfl

/-- A pattern without an opening bracket has one item for each character. -/
theorem parse_eq (h : '[' ∉ p) : parse p = p.map itemOf :=
  parseFrom_eq le_rfl h

/-- Whether the characters of a pattern, taken one by one, match the whole of a text. -/
def matchesChars (p cs : List Char) : Bool :=
  matchesItems (p.map itemOf) cs

theorem anySuffix_iff {test : List Char → Bool} :
    anySuffix test cs = true ↔ ∃ u v, cs = u ++ v ∧ test v = true := by
  induction cs with
  | nil => simp [anySuffix]
  | cons c cs ih =>
    rw [anySuffix, Bool.or_eq_true, ih]
    constructor
    · rintro (h | ⟨u, v, rfl, h⟩)
      · exact ⟨[], _, rfl, h⟩
      · exact ⟨c :: u, v, rfl, h⟩
    · rintro ⟨u, v, hsplit, h⟩
      cases u with
      | nil => exact .inl (hsplit ▸ h)
      | cons y u =>
        obtain ⟨-, rfl⟩ := List.cons.inj hsplit
        exact .inr ⟨u, v, rfl, h⟩

@[simp] theorem matchesChars_nil : matchesChars [] cs = cs.isEmpty := rfl

theorem matchesChars_star :
    matchesChars ('*' :: p) cs = true ↔ ∃ u v, cs = u ++ v ∧ matchesChars p v = true :=
  anySuffix_iff

theorem matchesChars_mark :
    matchesChars ('?' :: p) cs = true ↔ ∃ x r, cs = x :: r ∧ matchesChars p r = true := by
  cases cs with
  | nil => exact iff_of_false Bool.false_ne_true (by simp)
  | cons x r => exact ⟨fun h => ⟨x, r, rfl, h⟩, by rintro ⟨_, _, ⟨rfl, rfl⟩, h⟩; exact h⟩

/-- A character that stands for itself. -/
def IsPlain (c : Char) : Prop :=
  c ≠ '*' ∧ c ≠ '?'

instance : DecidablePred IsPlain := fun _ => inferInstanceAs (Decidable (_ ∧ _))

theorem matchesChars_plain (hc : IsPlain c) :
    matchesChars (c :: p) cs = true ↔ ∃ r, cs = c :: r ∧ matchesChars p r = true := by
  have hitem : itemOf c = .char c := by rw [itemOf, if_neg hc.1, if_neg hc.2]
  unfold matchesChars
  rw [List.map_cons, hitem]
  cases cs with
  | nil => exact iff_of_false (by simp [matchesItems]) (by simp)
  | cons x r =>
    rw [matchesItems, Bool.and_eq_true, decide_eq_true_eq]
    constructor
    · rintro ⟨rfl, h⟩
      exact ⟨r, rfl, h⟩
    · rintro ⟨_, ⟨rfl, rfl⟩, h⟩
      exact ⟨rfl, h⟩

/-- Plain characters match themselves. -/
theorem matchesChars_append (hu : ∀ c ∈ u, IsPlain c) :
    matchesChars (u ++ p) cs = true ↔ ∃ r, cs = u ++ r ∧ matchesChars p r = true := by
  induction u generalizing cs with
  | nil => simp
  | cons c u ih =>
    obtain ⟨hc, hu⟩ := List.forall_mem_cons.mp hu
    rw [List.cons_append, matchesChars_plain hc]
    constructor
    · rintro ⟨r, rfl, h⟩
      obtain ⟨r', rfl, h'⟩ := (ih hu).mp h
      exact ⟨r', rfl, h'⟩
    · rintro ⟨r, rfl, h⟩
      exact ⟨u ++ r, rfl, (ih hu).mpr ⟨r, rfl, h⟩⟩

/-- Plain characters with a star behind them match what starts with them. -/
theorem matchesChars_prefix (hu : ∀ c ∈ u, IsPlain c) :
    matchesChars (u ++ ['*']) cs = true ↔ u <+: cs := by
  rw [matchesChars_append hu]
  constructor
  · rintro ⟨r, rfl, -⟩
    exact List.prefix_append u r
  · rintro ⟨r, rfl⟩
    exact ⟨r, rfl, matchesChars_star.mpr ⟨r, [], (List.append_nil r).symm, rfl⟩⟩

/-! ### Lower-case forms -/

/-- The form of a plain character is plain. -/
theorem isPlain_of_mem_lowerFrom (hp : ∀ c ∈ p, IsPlain c) : ∀ c ∈ lowerFrom b p, IsPlain c := by
  have hstar : IsDelimiter '*' := isDelimiter_of_mem (by decide)
  have hmark : IsDelimiter '?' := isDelimiter_of_mem (by decide)
  refine fun c hc => ⟨?_, ?_⟩ <;> rintro rfl
  · exact (hp _ ((hstar.mem_lowerFrom_iff b p).mp hc)).1 rfl
  · exact (hp _ ((hmark.mem_lowerFrom_iff b p).mp hc)).2 rfl

theorem isPlain_of_mem_lowerChar (hc : IsPlain c) : ∀ x ∈ lowerChar c, IsPlain x := by
  have hstar : IsDelimiter '*' := isDelimiter_of_mem (by decide)
  have hmark : IsDelimiter '?' := isDelimiter_of_mem (by decide)
  refine fun x hx => ⟨?_, ?_⟩ <;> rintro rfl
  · exact hc.1 (hstar.eq_of_mem c hx)
  · exact hc.2 (hmark.eq_of_mem c hx)

/-- A step over one character keeps a letter with case in sight of the text if one is in sight of
the pattern. -/
theorem afterCasedStep_mono (h : b' = true → b = true) (c : Char) :
    afterCasedStep b' c = true → afterCasedStep b c = true := by
  unfold afterCasedStep
  split_ifs
  · exact h
  · exact id

/-- A text that a pattern matches is matched in lower-case form, if its sigmas lead and no question
mark stands for a character with a longer form. -/
theorem matches_lowerFrom (hb : b' = true → b = true) (hsigmas : sigmasLead b cs = true)
    (hlonger : 'İ' ∉ cs ∨ '?' ∉ p) (h : matchesChars p cs = true) :
    matchesChars (lowerFrom b' p) (lowerFrom b cs) = true := by
  have hstar : IsDelimiter '*' := isDelimiter_of_mem (by decide)
  have hmark : IsDelimiter '?' := isDelimiter_of_mem (by decide)
  -- Along the pattern, where a letter with case is in sight of the pattern, one is in sight of the
  -- text too: wildcards hide what the pattern has, and all else stands in both.
  induction p generalizing b b' cs with
  | nil =>
    rw [matchesChars_nil, List.isEmpty_iff] at h
    rw [h]
    rfl
  | cons c p ih =>
    by_cases hcstar : c = '*'
    · subst hcstar
      obtain ⟨u, v, rfl, hv⟩ := matchesChars_star.mp h
      obtain ⟨form, hform, -⟩ := exists_lowerFrom_append b u v
      rw [hstar.lowerFrom_cons, matchesChars_star]
      rw [sigmasLead_append, Bool.and_eq_true] at hsigmas
      refine ⟨form, _, hform, ih (fun hfalse => absurd hfalse (by decide)) hsigmas.2 ?_ hv⟩
      exact hlonger.imp (fun hnot hmem => hnot (List.mem_append_right u hmem))
        fun hnot hmem => hnot (List.mem_cons_of_mem _ hmem)
    by_cases hcmark : c = '?'
    · subst hcmark
      obtain ⟨x, r, rfl, hr⟩ := matchesChars_mark.mp h
      have hshort : 'İ' ∉ x :: r := hlonger.resolve_right fun hnot => hnot (List.mem_cons_self ..)
      rw [List.mem_cons, not_or] at hshort
      obtain ⟨hx, hshort⟩ := hshort
      rw [sigmasLead, Bool.and_eq_true] at hsigmas
      obtain ⟨form, hform, hlength⟩ := exists_lowerFrom_append b [x] r
      rw [List.count_singleton, if_neg (by simpa using Ne.symm hx)] at hlength
      obtain ⟨y, rfl⟩ := List.length_eq_one_iff.mp hlength
      rw [hmark.lowerFrom_cons, matchesChars_mark]
      exact ⟨y, _, hform, ih (fun hfalse => absurd hfalse (by decide)) hsigmas.2 (.inl hshort) hr⟩
    · have hplain : IsPlain c := ⟨hcstar, hcmark⟩
      obtain ⟨r, rfl, hr⟩ := (matchesChars_plain hplain).mp h
      rw [sigmasLead, Bool.and_eq_true] at hsigmas
      have hrest := ih (afterCasedStep_mono hb c) hsigmas.2
        (hlonger.imp (fun hnot hmem => hnot (List.mem_cons_of_mem _ hmem))
          fun hnot hmem => hnot (List.mem_cons_of_mem _ hmem)) hr
      by_cases hc : c = 'Σ'
      · subst hc
        have hbfalse : b = false := by simpa using hsigmas.1
        have hb'false : b' = false := by
          rw [← Bool.not_eq_true]
          exact fun h => Bool.false_ne_true (hbfalse.symm.trans (hb h))
        rw [lowerFrom_sigma, lowerFrom_sigma, hbfalse, hb'false, sigmaForm_false, sigmaForm_false]
        rw [hbfalse, hb'false] at hrest
        exact (matchesChars_plain (by decide)).mpr ⟨_, rfl, hrest⟩
      · rw [lowerFrom_of_ne hc, lowerFrom_of_ne hc,
          matchesChars_append (isPlain_of_mem_lowerChar hplain)]
        exact ⟨_, rfl, hrest⟩

/-! ### Patterns that lose their match -/

/-- A pattern without stars matches texts of its own length. -/
theorem length_eq_of_matches (hp : '*' ∉ p) (h : matchesChars p cs = true) :
    p.length = cs.length := by
  induction p generalizing cs with
  | nil =>
    rw [matchesChars_nil, List.isEmpty_iff] at h
    rw [h]
  | cons c p ih =>
    rw [List.mem_cons, not_or] at hp
    have hrest : ∃ x r, cs = x :: r ∧ matchesChars p r = true := by
      by_cases hc : c = '?'
      · subst hc
        exact matchesChars_mark.mp h
      · exact ⟨c, (matchesChars_plain ⟨Ne.symm hp.1, hc⟩).mp h⟩
    obtain ⟨x, r, rfl, hr⟩ := hrest
    rw [List.length_cons, List.length_cons, ih hp.2 hr]

/-- Behind single characters a plain character matches the one in its place. -/
theorem matches_place (hlength : u.length = v.length) (hu : '*' ∉ u) (hx : IsPlain x)
    (h : matchesChars (u ++ x :: p) (v ++ y :: r) = true) : x = y := by
  induction u generalizing v with
  | nil =>
    rw [List.length_nil, eq_comm, List.length_eq_zero_iff] at hlength
    subst hlength
    obtain ⟨_, hsplit, -⟩ := (matchesChars_plain hx).mp h
    exact (List.cons.inj hsplit).1.symm
  | cons c u ih =>
    cases v with
    | nil => exact absurd hlength (by simp)
    | cons d v =>
      rw [List.mem_cons, not_or] at hu
      rw [List.length_cons, List.length_cons, Nat.add_right_cancel_iff] at hlength
      rw [List.cons_append, List.cons_append] at h
      refine ih hlength hu.2 ?_
      by_cases hc : c = '?'
      · subst hc
        obtain ⟨_, _, hsplit, hrest⟩ := matchesChars_mark.mp h
        rwa [(List.cons.inj hsplit).2]
      · obtain ⟨_, hsplit, hrest⟩ := (matchesChars_plain ⟨Ne.symm hu.1, hc⟩).mp h
        rwa [(List.cons.inj hsplit).2]

/-- A way to write patterns for a text: each character by itself, if it is plain and opens no
bracket, or by a question mark. -/
def Masks (f : Char → Char) : Prop :=
  ∀ c, f c = '?' ∨ f c = c ∧ IsPlain c ∧ c ≠ '['

/-- All characters by question marks. -/
def hide (_ : Char) : Char := '?'

/-- Only those by question marks that need it. -/
def mask (c : Char) : Char := if c ∈ ['*', '?', '['] then '?' else c

theorem masks_hide : Masks hide := fun _ => .inl rfl

theorem masks_mask : Masks mask := by
  intro c
  unfold mask
  split_ifs with hc
  · exact .inl rfl
  · simp only [List.mem_cons, List.not_mem_nil, or_false, not_or] at hc
    exact .inr ⟨rfl, ⟨hc.1, hc.2.1⟩, hc.2.2⟩

section Masks

variable {f : Char → Char} (hf : Masks f)
include hf

/-- What is written so matches the text. -/
theorem Masks.matches (u : List Char) (h : matchesChars p cs = true) :
    matchesChars (u.map f ++ p) (u ++ cs) = true := by
  induction u with
  | nil => exact h
  | cons c u ih =>
    rw [List.map_cons, List.cons_append, List.cons_append]
    rcases hf c with hc | ⟨hc, hplain, -⟩
    · rw [hc]
      exact matchesChars_mark.mpr ⟨c, _, rfl, ih⟩
    · rw [hc]
      exact (matchesChars_plain hplain).mpr ⟨_, rfl, ih⟩

theorem Masks.notMem {x : Char} (hx : x = '*' ∨ x = '[' ) (u : List Char) : x ∉ u.map f := by
  rw [List.mem_map]
  rintro ⟨c, -, rfl⟩
  rcases hf c with hc | ⟨hc, hplain, hbracket⟩
  · rw [hc] at hx
    exact absurd hx (by decide)
  · rw [hc] at hx
    exact hx.elim hplain.1 hbracket

theorem Masks.longer_notMem (h : 'İ' ∉ u) : 'İ' ∉ u.map f := by
  rw [List.mem_map]
  rintro ⟨c, hc, hform⟩
  rcases hf c with hmark | ⟨hself, -⟩
  · exact absurd (hmark.symm.trans hform) (by decide)
  · exact h (hself.symm.trans hform ▸ hc)

end Masks

/-- Writing down what needs no question mark leaves in sight whether a letter with case stands
before. -/
theorem afterCased_map_mask (b : Bool) (u : List Char) :
    afterCased b (u.map mask) = afterCased b u := by
  unfold afterCased
  rw [List.foldl_map]
  congr 1
  funext b c
  unfold mask
  split_ifs with hc
  · have hmark : IsDelimiter '?' := isDelimiter_of_mem (by decide)
    have hmem : ['*', '?', '['] ⊆ delimiters := by simp [delimiters]
    have hdelimiter : IsDelimiter c := isDelimiter_of_mem (hmem hc)
    rw [hmark.afterCasedStep, hdelimiter.afterCasedStep]
  · rfl

/-- If question marks stand for all of a text, none is in sight. -/
theorem afterCased_map_hide (u : List Char) : afterCased false (u.map hide) = false := by
  have hmark : IsDelimiter '?' := isDelimiter_of_mem (by decide)
  induction u with
  | nil => rfl
  | cons c u ih =>
    rw [List.map_cons, hide, afterCased_cons, hmark.afterCasedStep, ih]

/-- A character with a longer form costs the pattern of question marks its match. -/
theorem exists_pattern_of_longer (h : 'İ' ∈ cs) :
    ∃ p, '[' ∉ p ∧ matchesChars p cs = true ∧
      ¬ matchesChars (lowerFrom false p) (lowerFrom false cs) = true := by
  have hstar : IsDelimiter '*' := isDelimiter_of_mem (by decide)
  have hnil : matchesChars [] [] = true := rfl
  have hmatches := masks_hide.matches cs hnil
  rw [List.append_nil, List.append_nil] at hmatches
  refine ⟨cs.map hide, masks_hide.notMem (.inr rfl) cs, hmatches, fun hlower => ?_⟩
  have hnostar : '*' ∉ lowerFrom false (cs.map hide) := by
    rw [hstar.mem_lowerFrom_iff]
    exact masks_hide.notMem (.inl rfl) cs
  have hlength := length_eq_of_matches hnostar hlower
  have hnone : (cs.map hide).count 'İ' = 0 := by
    rw [List.count_eq_zero, List.mem_map]
    rintro ⟨_, -, hform⟩
    have hmark : '?' = 'İ' := hform
    exact absurd hmark (by decide)
  rw [length_lowerFrom, length_lowerFrom, hnone, List.length_map] at hlength
  have hcount := List.count_pos_iff.mpr h
  omega

/-- A capital sigma behind a letter with case costs some pattern its match: with all before it
written down it is final in front of a star, and with all before it hidden it is not. -/
theorem exists_pattern_of_sigma (hshort : 'İ' ∉ u) (hu : afterCased false u = true) :
    ∃ p, '[' ∉ p ∧ matchesChars p (u ++ 'Σ' :: v) = true ∧
      ¬ matchesChars (lowerFrom false p) (lowerFrom false (u ++ 'Σ' :: v)) = true := by
  have hstar : IsDelimiter '*' := isDelimiter_of_mem (by decide)
  obtain ⟨f, hf, hforms⟩ : ∃ f, Masks f ∧
      sigmaForm (afterCased false (u.map f)) [] ≠ sigmaForm true v := by
    cases hv : startsCased v with
    | true =>
      refine ⟨mask, masks_mask, ?_⟩
      rw [afterCased_map_mask, hu, sigmaForm, sigmaForm, hv]
      decide
    | false =>
      refine ⟨hide, masks_hide, ?_⟩
      rw [afterCased_map_hide, sigmaForm, sigmaForm, hv]
      decide
  refine ⟨u.map f ++ ['Σ', '*'], ?_, ?_, fun hlower => hforms ?_⟩
  · rw [List.mem_append, not_or]
    exact ⟨hf.notMem (.inr rfl) u, by decide⟩
  · refine hf.matches u ((matchesChars_plain (by decide)).mpr ⟨v, rfl, ?_⟩)
    exact matchesChars_star.mpr ⟨v, [], (List.append_nil v).symm, rfl⟩
  -- The sigma has the same place in both forms, because nothing before it is longer.
  obtain ⟨form, hform, hlength⟩ := exists_lowerFrom_append false (u.map f) ['Σ']
  obtain ⟨form', hform', hlength'⟩ := exists_lowerFrom_append false u ('Σ' :: v)
  rw [List.length_map, List.count_eq_zero.mpr (hf.longer_notMem hshort)] at hlength
  rw [List.count_eq_zero.mpr hshort] at hlength'
  have hnostar : '*' ∉ lowerFrom false (u.map f ++ ['Σ']) := by
    rw [hstar.mem_lowerFrom_iff, List.mem_append, not_or]
    exact ⟨hf.notMem (.inl rfl) u, by decide⟩
  rw [hform, List.mem_append, not_or] at hnostar
  have hpattern : lowerFrom false (u.map f ++ ['Σ', '*']) =
      form ++ sigmaForm (afterCased false (u.map f)) [] :: ['*'] := by
    have hsplit : u.map f ++ ['Σ', '*'] = (u.map f ++ ['Σ']) ++ '*' :: [] := by simp
    rw [hsplit, hstar.lowerFrom_append, hform, List.append_assoc]
    rfl
  rw [hpattern, hform', lowerFrom_sigma, hu] at hlower
  refine matches_place (by rw [hlength, hlength']) hnostar.1 ?_ hlower
  rw [sigmaForm]
  split_ifs <;> decide

end Glob

end ColumnLint.Text

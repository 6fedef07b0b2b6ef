import ColumnLint.Document.Json.Printer
import ColumnLint.Document.Json.Reader
import Mathlib.Data.List.Basic
import Mathlib.Tactic.SplitIfs

/-!
# Texts in JSON are read back

What is written for a text is read as the text (`readText_written`).  A character is written as
itself, as a backslash with a letter, as the escape of its UTF-16 unit, or, beyond the first
`0x10000`, as the escapes of a pair of units; each of these is one step of the reader, which gives
the character again (`readText_escapedChar`).

Some text has to follow an escape of a unit for the reader to take it, so the steps are told for a
rest that is not empty, as at least the closing quote is still to come.
-/

namespace ColumnLint.Json

open ColumnLint.Text

variable {opening rest : List Char} {c : Char} {n : Nat}

/-! ### Units -/

theorem hexValue?_digitChar : ∀ d < 16, hexValue? d.digitChar = some d := by decide

/-- Four hexadecimal digits give the number again that they were made from. -/
theorem unit?_hexDigits (h : n < 0x10000) :
    ∃ a b c d, hexDigits 4 n = [a, b, c, d] ∧ unit? a b c d = some n := by
  refine ⟨_, _, _, _, rfl, ?_⟩
  have hdigit : ∀ k, hexValue? (k % 16).digitChar = some (k % 16) := fun k =>
    hexValue?_digitChar _ (Nat.mod_lt k (by decide))
  unfold unit?
  simp only [hdigit, Option.bind_eq_bind, Option.bind_some, Option.pure_def, Option.some.injEq]
  omega

/-- Where the codes of characters lie: none is a unit of a pair. -/
theorem toNat_char (c : Char) : c.toNat < 0xD800 ∨ 0xE000 ≤ c.toNat ∧ c.toNat < 0x110000 := by
  have hvalid : c.toNat < 0xD800 ∨ 0xDFFF < c.toNat ∧ c.toNat < 0x110000 := c.valid
  omega

theorem isHighUnit_toNat (c : Char) : isHighUnit c.toNat = false := by
  have hcode := toNat_char c
  simp only [isHighUnit, Bool.and_eq_false_iff, decide_eq_false_iff_not]
  omega

theorem charOfUnit_toNat (c : Char) : charOfUnit c.toNat = c := by
  have hcode := toNat_char c
  have hunit : (isHighUnit c.toNat || isLowUnit c.toNat) = false := by
    simp only [isHighUnit, isLowUnit, Bool.or_eq_false_iff, Bool.and_eq_false_iff,
      decide_eq_false_iff_not]
    omega
  unfold charOfUnit
  rw [hunit, if_neg Bool.false_ne_true, Char.ofNat_toNat]

/-- The high unit of the pair for a character beyond the first `0x10000`. -/
def highUnit (c : Char) : Nat := 0xD800 + (c.toNat - 0x10000) / 0x400

/-- The low unit of the pair. -/
def lowUnit (c : Char) : Nat := 0xDC00 + (c.toNat - 0x10000) % 0x400

/-- Beyond the first `0x10000` characters the two units are a pair, and it is that of the
character. -/
theorem pair_spec (h : 0x10000 ≤ c.toNat) :
    isHighUnit (highUnit c) = true ∧ isLowUnit (lowUnit c) = true ∧
      charOfPair (highUnit c) (lowUnit c) = c := by
  have hcode := toNat_char c
  unfold highUnit lowUnit
  refine ⟨?_, ?_, ?_⟩
  · simp only [isHighUnit, Bool.and_eq_true, decide_eq_true_eq]
    omega
  · simp only [isLowUnit, Bool.and_eq_true, decide_eq_true_eq]
    omega
  · have hsame : 0x10000 + (0xD800 + (c.toNat - 0x10000) / 0x400 - 0xD800) * 0x400 +
        (0xDC00 + (c.toNat - 0x10000) % 0x400 - 0xDC00) = c.toNat := by omega
    unfold charOfPair
    rw [hsame, Char.ofNat_toNat]

/-! ### Steps of the reader -/

/-- The outcome of reading on, with a character in front. -/
def withChar (c : Char) (r : Read (List Char)) : Read (List Char) :=
  r.map fun p => (c :: p.1, p.2)

theorem readText_plain (hquote : c ≠ '"') (hescape : c ≠ '\\') (hcode : 32 ≤ c.toNat) :
    readText opening (c :: rest) = withChar c (readText opening rest) := by
  rw [readText, if_neg (Nat.not_lt.mpr hcode)]
  · rfl
  all_goals simp [hquote, hescape]

theorem readText_simpleEscape {e : Char} (he : e ≠ 'u') (h : simpleEscape? e = some c) :
    readText opening ('\\' :: e :: rest) = withChar c (readText opening rest) := by
  rw [readText, h]
  · rfl
  all_goals simp [he]

theorem readText_unitEscape (hrest : rest ≠ []) (hcode : c.toNat < 0x10000) :
    readText opening (unitEscape c.toNat ++ rest) = withChar c (readText opening rest) := by
  obtain ⟨a, b, c', d, hdigits, hunit⟩ := unit?_hexDigits hcode
  rw [unitEscape, hdigits]
  show readText opening ('\\' :: 'u' :: a :: b :: c' :: d :: rest) = _
  rw [readText]
  simp [hrest, hunit, isHighUnit_toNat, charOfUnit_toNat, withChar]

theorem readText_pairEscape (hrest : rest ≠ []) (hcode : 0x10000 ≤ c.toNat) :
    readText opening (unitEscape (highUnit c) ++ unitEscape (lowUnit c) ++ rest) =
      withChar c (readText opening rest) := by
  obtain ⟨hhigh, hlow, hpair⟩ := pair_spec hcode
  have hbounds : highUnit c < 0x10000 ∧ lowUnit c < 0x10000 := by
    simp only [isHighUnit, isLowUnit, Bool.and_eq_true, decide_eq_true_eq] at hhigh hlow
    omega
  obtain ⟨a, b, c', d, hdigits, hunit⟩ := unit?_hexDigits hbounds.1
  obtain ⟨e, f, g, i, hdigits', hunit'⟩ := unit?_hexDigits hbounds.2
  have hsecond : lowUnit? ('\\' :: 'u' :: e :: f :: g :: i :: rest) =
      .ok (some (lowUnit c, rest)) := by
    simp [lowUnit?, hrest, hunit', hlow]
  rw [unitEscape, unitEscape, hdigits, hdigits']
  show readText opening
    ('\\' :: 'u' :: a :: b :: c' :: d :: '\\' :: 'u' :: e :: f :: g :: i :: rest) = _
  rw [readText]
  simp only [List.isEmpty_cons, Bool.false_eq_true, if_false, hunit, hhigh, if_true]
  split
  · next hread => rw [hsecond] at hread; cases hread
  · next hread =>
    rw [hsecond] at hread
    obtain ⟨rfl, rfl⟩ := Prod.mk.inj (Option.some.inj (Except.ok.inj hread))
    rw [hpair]
    rfl
  · next hread => rw [hsecond] at hread; cases hread

/-- What is written for a character is read as the character. -/
theorem readText_escapedChar (hrest : rest ≠ []) :
    readText opening (escapedChar c ++ rest) = withChar c (readText opening rest) := by
  unfold escapedChar
  split_ifs with hquote hescape hfeed hreturn htab hback hform hplain hshort
  · subst hquote; exact readText_simpleEscape (by decide) rfl
  · subst hescape; exact readText_simpleEscape (by decide) rfl
  · subst hfeed; exact readText_simpleEscape (by decide) rfl
  · subst hreturn; exact readText_simpleEscape (by decide) rfl
  · subst htab; exact readText_simpleEscape (by decide) rfl
  · obtain rfl : c = Char.ofNat 8 := by rw [← hback, Char.ofNat_toNat]
    exact readText_simpleEscape (by decide) rfl
  · obtain rfl : c = Char.ofNat 12 := by rw [← hform, Char.ofNat_toNat]
    exact readText_simpleEscape (by decide) rfl
  · simp only [Bool.and_eq_true, decide_eq_true_eq] at hplain
    exact readText_plain hquote hescape hplain.1
  · exact readText_unitEscape hrest hshort
  · exact readText_pairEscape hrest (Nat.not_lt.mp hshort)

/-- What is written for a text is read up to its closing quote as the text. -/
theorem readText_written (opening : List Char) (s : List Char) (rest : List Char) :
    readText opening (s.flatMap escapedChar ++ '"' :: rest) = .ok (s, rest) := by
  induction s with
  | nil =>
    show readText opening ('"' :: rest) = _
    rw [readText]
  | cons c s ih =>
    rw [List.flatMap_cons, List.append_assoc, readText_escapedChar (by simp), ih]
    rfl

end ColumnLint.Json

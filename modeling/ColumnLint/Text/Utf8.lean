import ColumnLint.Text.Quoted

/-!
# Texts in files

Reading UTF-8: a list of octets is a text, or it has a first place where no
character can be read. The fault at that place says which octets are to blame.
Texts from files are read with every line end as a single line feed.

The ranges admitted for the second octet leave out overlong forms, surrogates and
code points beyond U+10FFFF, so a leading octet and its continuations always
determine a character.
-/

namespace ColumnLint.Text

/-- Why no character can be read at some place. -/
inductive Utf8Fault where
  /-- The octet starts no character. -/
  | badStart
  /-- An octet that has to continue the character does not. -/
  | badContinuation
  /-- The octets end within the character. -/
  | truncated
  deriving DecidableEq, Repr

/-- The wording of a fault. -/
def Utf8Fault.message : Utf8Fault → String
  | .badStart => "invalid start byte"
  | .badContinuation => "invalid continuation byte"
  | .truncated => "unexpected end of data"

/-- The place of a fault: the octets `octets` from position `start` on cannot be read. -/
structure Utf8Error where
  start : Nat
  octets : List UInt8
  fault : Utf8Fault
  deriving DecidableEq, Repr

/-- The wording of an error: the octet, or the range of octets, and the fault. -/
def Utf8Error.message (e : Utf8Error) : String :=
  let place :=
    match e.octets with
    | [b] => "byte 0x" ++ String.ofList (hexDigits 2 b.toNat) ++ " in position " ++ toString e.start
    | _ =>
      "bytes in position " ++ toString e.start ++ "-" ++ toString (e.start + e.octets.length - 1)
  "'utf-8' codec can't decode " ++ place ++ ": " ++ e.fault.message

namespace Utf8

/-- How a leading octet goes on: the number of octets after it, the bits that it contributes and the
range of the octet after it. -/
structure Lead where
  more : Nat
  bits : Nat
  low : UInt8
  high : UInt8

/-- What a leading octet announces; `none` for an octet that starts no character. -/
def lead? (b : UInt8) : Option Lead :=
  if b < 0x80 then some ⟨0, b.toNat, 0, 0⟩
  else if b < 0xC2 then none
  else if b < 0xE0 then some ⟨1, b.toNat - 0xC0, 0x80, 0xBF⟩
  else if b < 0xF0 then
    some ⟨2, b.toNat - 0xE0, if b = 0xE0 then 0xA0 else 0x80, if b = 0xED then 0x9F else 0xBF⟩
  else if b < 0xF5 then
    some ⟨3, b.toNat - 0xF0, if b = 0xF0 then 0x90 else 0x80, if b = 0xF4 then 0x8F else 0xBF⟩
  else none

/-- Reads `n` continuations after `taken` octets, the next one within the given range. Gives the
code point, or the fault together with the number of octets to blame. -/
def continuations : Nat → UInt8 → UInt8 → Nat → Nat → List UInt8 → Except (Utf8Fault × Nat) Nat
  | 0, _, _, value, _, _ => .ok value
  | _ + 1, _, _, _, taken, [] => .error (.truncated, taken)
  | n + 1, low, high, value, taken, b :: bs =>
    if low ≤ b && b ≤ high then
      continuations n 0x80 0xBF (value * 64 + (b.toNat - 0x80)) (taken + 1) bs
    else
      .error (.badContinuation, taken)

/-- The characters of the octets from position `position` on, after `skip` octets that belong to a
character already read. -/
def decodeFrom : Nat → Nat → List UInt8 → Except Utf8Error (List Char)
  | _, _, [] => .ok []
  | position, skip + 1, _ :: bs => decodeFrom (position + 1) skip bs
  | position, 0, b :: bs =>
    match lead? b with
    | none => .error ⟨position, [b], .badStart⟩
    | some l =>
      match continuations l.more l.low l.high l.bits 1 bs with
      | .error (fault, n) => .error ⟨position, (b :: bs).take n, fault⟩
      | .ok value => (decodeFrom (position + 1) l.more bs).map (Char.ofNat value :: ·)

/-- The text that the octets spell. -/
def decode (octets : List UInt8) : Except Utf8Error String :=
  (decodeFrom 0 0 octets).map String.ofList

/-- The octets that spell a text. -/
def encode (s : String) : List UInt8 :=
  s.toUTF8.toList

end Utf8

/-! ### Line ends -/

/-- The text with `\r\n` and `\r` turned into `\n`. -/
def unifyLineEnds : List Char → List Char
  | '\r' :: '\n' :: r => '\n' :: unifyLineEnds r
  | '\r' :: r => '\n' :: unifyLineEnds r
  | c :: r => c :: unifyLineEnds r
  | [] => []

end ColumnLint.Text

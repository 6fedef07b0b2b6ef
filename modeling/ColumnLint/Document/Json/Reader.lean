import ColumnLint.Document.Value

/-!
# Reading JSON

The value that a JSON text spells, or the first fault with its place. Beside the grammar
of JSON the words `NaN`, `Infinity` and `-Infinity` are numbers; of members with the same
name the last one counts. Control characters have to be escaped.

While reading, a place is told by the number of characters left (`Failure`); the reader
of whole texts turns it into a position with line and column (`Json.parse`).
-/

namespace ColumnLint.Json

/-- What is wrong at some place of a JSON text. -/
inductive Fault where
  | noValue
  | noName
  | noColon
  | noComma
  | unterminated
  | controlCharacter
  | badEscape
  | badUnicodeEscape
  | extraData
  | byteOrderMark
  /-- An integer with this many digits, more than are read. -/
  | longInteger (digits : Nat)
  deriving DecidableEq, Repr

/-- The wording of a fault. -/
def Fault.message : Fault → String
  | .noValue => "Expecting value"
  | .noName => "Expecting property name enclosed in double quotes"
  | .noColon => "Expecting ':' delimiter"
  | .noComma => "Expecting ',' delimiter"
  | .unterminated => "Unterminated string starting at"
  | .controlCharacter => "Invalid control character at"
  | .badEscape => "Invalid \\escape"
  | .badUnicodeEscape => "Invalid \\uXXXX escape"
  | .extraData => "Extra data"
  | .byteOrderMark => "Unexpected UTF-8 BOM (decode using utf-8-sig)"
  | .longInteger digits => Value.longIntegerMessage digits

/-- A fault and the number of characters left at its place. -/
structure Failure where
  fault : Fault
  left : Nat
  deriving DecidableEq, Repr

/-- The outcome of reading a part of a text: what was read and the rest. -/
abbrev Read (α : Type) := Except Failure (α × List Char)

/-- A fault at the start of the given rest. -/
def failAt (fault : Fault) (rest : List Char) : Except Failure α :=
  .error ⟨fault, rest.length⟩

/-- The rest after white space. -/
def skipBlanks : List Char → List Char :=
  List.dropWhile fun c => c = ' ' || c = '\t' || c = '\n' || c = '\r'

/-! ### Texts -/

/-- The value of a hexadecimal digit. -/
def hexValue? (c : Char) : Option Nat :=
  if c.isDigit then some (c.toNat - '0'.toNat)
  else if 'a' ≤ c && c ≤ 'f' then some (c.toNat - 'a'.toNat + 10)
  else if 'A' ≤ c && c ≤ 'F' then some (c.toNat - 'A'.toNat + 10)
  else none

/-- The value of four hexadecimal digits. -/
def unit? (a b c d : Char) : Option Nat := do
  let a ← hexValue? a
  let b ← hexValue? b
  let c ← hexValue? c
  let d ← hexValue? d
  return a * 4096 + b * 256 + c * 16 + d

/-- The character that a letter stands for after a backslash. -/
def simpleEscape? : Char → Option Char
  | '"' => some '"'
  | '\\' => some '\\'
  | '/' => some '/'
  | 'b' => some (Char.ofNat 8)
  | 'f' => some (Char.ofNat 12)
  | 'n' => some '\n'
  | 'r' => some '\r'
  | 't' => some '\t'
  | _ => none

/-- Whether the unit opens a pair. -/
def isHighUnit (n : Nat) : Bool := 0xD800 ≤ n && n < 0xDC00

/-- Whether the unit closes a pair. -/
def isLowUnit (n : Nat) : Bool := 0xDC00 ≤ n && n < 0xE000

/-- The character of a unit; one half of a pair alone is replaced. -/
def charOfUnit (n : Nat) : Char :=
  if isHighUnit n || isLowUnit n then Char.ofNat 0xFFFD else Char.ofNat n

/-- The character of a pair of units. -/
def charOfPair (high low : Nat) : Char :=
  Char.ofNat (0x10000 + (high - 0xD800) * 0x400 + (low - 0xDC00))

/-- The low unit escaped at the start of the text and the rest. Its digits are looked at only if
more text follows them. -/
def lowUnit? : List Char → Except Failure (Option (Nat × List Char))
  | '\\' :: 'u' :: a :: b :: c :: d :: r =>
    if r.isEmpty then .ok none
    else
      match unit? a b c d with
      | none => failAt .badUnicodeEscape ('u' :: a :: b :: c :: d :: r)
      | some n => .ok (if isLowUnit n then some (n, r) else none)
  | _ => .ok none

/-- What follows a low unit is shorter. -/
theorem length_of_lowUnit? {cs r : List Char} {n : Nat} (h : lowUnit? cs = .ok (some (n, r))) :
    r.length < cs.length := by
  unfold lowUnit? at h
  split at h
  · split at h
    · simp at h
    · split at h
      · simp [failAt] at h
      · split at h
        · simp only [Except.ok.injEq, Option.some.injEq, Prod.mk.injEq] at h
          rw [← h.2]
          simp only [List.length_cons]
          omega
        · simp at h
  · simp at h

/-- Reads a text after its opening quote; `opening` is the text from that quote on. -/
def readText (opening : List Char) (cs : List Char) : Read (List Char) :=
  match cs with
  | [] => failAt .unterminated opening
  | '"' :: r => .ok ([], r)
  | '\\' :: 'u' :: a :: b :: c :: d :: r =>
    if r.isEmpty then failAt .badUnicodeEscape ('u' :: a :: b :: c :: d :: r)
    else
      match unit? a b c d with
      | none => failAt .badUnicodeEscape ('u' :: a :: b :: c :: d :: r)
      | some n =>
        if isHighUnit n then
          match h : lowUnit? r with
          | .error e => .error e
          | .ok (some (low, r')) =>
            have := length_of_lowUnit? h
            (readText opening r').map fun p => (charOfPair n low :: p.1, p.2)
          | .ok none => (readText opening r).map fun p => (charOfUnit n :: p.1, p.2)
        else (readText opening r).map fun p => (charOfUnit n :: p.1, p.2)
  | '\\' :: 'u' :: r => failAt .badUnicodeEscape ('u' :: r)
  | '\\' :: e :: r =>
    match simpleEscape? e with
    | some c => (readText opening r).map fun p => (c :: p.1, p.2)
    | none => failAt .badEscape ('\\' :: e :: r)
  | ['\\'] => failAt .unterminated opening
  | c :: r =>
    if c.toNat < 32 then failAt .controlCharacter (c :: r)
    else (readText opening r).map fun p => (c :: p.1, p.2)
termination_by cs.length
decreasing_by all_goals (simp_wf <;> omega)

/-! ### Numbers -/

/-- The value of decimal digits. -/
def natOfDigits (digits : List Char) : Nat :=
  digits.foldl (fun n c => n * 10 + (c.toNat - '0'.toNat)) 0

/-- The digits that a number begins with; after a zero there are no more. -/
def splitWhole (cs : List Char) : List Char × List Char :=
  match cs with
  | '0' :: r => (['0'], r)
  | _ => (cs.takeWhile Char.isDigit, cs.dropWhile Char.isDigit)

/-- The digits after a point, if there is one with digits. -/
def splitFraction (cs : List Char) : List Char × List Char :=
  match cs with
  | '.' :: r =>
    let digits := r.takeWhile Char.isDigit
    if digits.isEmpty then ([], cs) else (digits, r.dropWhile Char.isDigit)
  | _ => ([], cs)

/-- The exponent, if there is one with digits. -/
def splitExponent (cs : List Char) : Option Int × List Char :=
  match cs with
  | e :: r =>
    if e = 'e' || e = 'E' then
      let (negative, body) :=
        match r with
        | '-' :: b => (true, b)
        | '+' :: b => (false, b)
        | _ => (false, r)
      let digits := body.takeWhile Char.isDigit
      if digits.isEmpty then (none, cs)
      else
        let n : Int := natOfDigits digits
        (some (if negative then -n else n), body.dropWhile Char.isDigit)
    else (none, cs)
  | [] => (none, cs)

/-- Reads a number without its sign; `start` is the text from its sign on. An integer may have at
most `limit` digits, if there is a limit. -/
def readUnsigned (limit : Option Nat) (negative : Bool) (start cs : List Char) : Read Value :=
  let (whole, r) := splitWhole cs
  if whole.isEmpty then failAt .noValue start
  else
    let (fraction, r) := splitFraction r
    let (exponent, r) := splitExponent r
    if fraction.isEmpty && exponent.isNone then
      if limit.any (· < whole.length) then failAt (.longInteger whole.length) start
      else
        let n : Int := natOfDigits whole
        .ok (.int (if negative then -n else n), r)
    else
      .ok (.float (Binary64.ofDecimal negative (natOfDigits (whole ++ fraction))
        (exponent.getD 0 - fraction.length)), r)

/-! ### Values -/

/-- The rest after a word that the text starts with. -/
def afterWord? (word : String) (cs : List Char) : Option (List Char) :=
  if word.toList.isPrefixOf cs then some (cs.drop word.length) else none

/-- The words that are values. -/
def wordValues : List (String × Value) := [
  ("null", .null), ("true", .bool true), ("false", .bool false), ("NaN", .float .notANumber),
  ("Infinity", .float (.infinite false)), ("-Infinity", .float (.infinite true))]

/-- Reads a word or a number. -/
def readScalar (limit : Option Nat) (cs : List Char) : Read Value :=
  match wordValues.findSome? fun w => (afterWord? w.1 cs).map fun r => (w.2, r) with
  | some found => .ok found
  | none =>
    match cs with
    | '-' :: r => readUnsigned limit true cs r
    | _ => readUnsigned limit false cs cs

mutual

/-- Reads a value; at most `fuel` values and members deep. -/
def readValue (limit : Option Nat) : Nat → List Char → Read Value
  | 0, cs => failAt .noValue cs
  | fuel + 1, cs =>
    match cs with
    | '"' :: r => (readText cs r).map fun p => (.text (String.ofList p.1), p.2)
    | '[' :: r =>
      match skipBlanks r with
      | ']' :: r => .ok (.list [], r)
      | r => (readItems limit fuel r).map fun p => (.list p.1, p.2)
    | '\x7b' :: r =>
      match skipBlanks r with
      | '\x7d' :: r => .ok (.object [], r)
      | r => (readMembers limit fuel r).map fun p => (.object (Members.ofPairs p.1), p.2)
    | _ => readScalar limit cs

/-- Reads the elements of a list from its first one on. -/
def readItems (limit : Option Nat) : Nat → List Char → Read (List Value)
  | 0, cs => failAt .noValue cs
  | fuel + 1, cs =>
    match readValue limit fuel cs with
    | .error e => .error e
    | .ok (v, r) =>
      match skipBlanks r with
      | ']' :: r => .ok ([v], r)
      | ',' :: r => (readItems limit fuel (skipBlanks r)).map fun p => (v :: p.1, p.2)
      | r => failAt .noComma r

/-- Reads the members of an object from its first one on. -/
def readMembers (limit : Option Nat) : Nat → List Char → Read (List (String × Value))
  | 0, cs => failAt .noName cs
  | fuel + 1, cs =>
    match cs with
    | '"' :: r =>
      match readText cs r with
      | .error e => .error e
      | .ok (key, r) =>
        match skipBlanks r with
        | ':' :: r =>
          match readValue limit fuel (skipBlanks r) with
          | .error e => .error e
          | .ok (v, r) =>
            match skipBlanks r with
            | '\x7d' :: r => .ok ([(String.ofList key, v)], r)
            | ',' :: r =>
              (readMembers limit fuel (skipBlanks r)).map fun p =>
                ((String.ofList key, v) :: p.1, p.2)
            | r => failAt .noComma r
        | r => failAt .noColon r
    | _ => failAt .noName cs

end

/-! ### Texts as a whole -/

/-- A fault of a text with its position. -/
structure Error where
  fault : Fault
  line : Nat
  column : Nat
  position : Nat
  deriving DecidableEq, Repr

/-- The error of a failure in the text. -/
def Error.locate (cs : List Char) (e : Failure) : Error :=
  let position := cs.length - e.left
  let before := cs.take position
  { fault := e.fault
    line := before.count '\n' + 1
    column := (before.reverse.takeWhile (· ≠ '\n')).length + 1
    position := position }

/-- The wording of an error: the fault and, unless it speaks of a length, its place. -/
def Error.message (e : Error) : String :=
  match e.fault with
  | .longInteger _ => e.fault.message
  | _ =>
    e.fault.message ++ ": line " ++ toString e.line ++ " column " ++ toString e.column ++
      " (char " ++ toString e.position ++ ")"

/-- The value that the characters spell. Every value and every member takes at least one character,
so their number bounds the reading. -/
def parseChars (limit : Option Nat) (cs : List Char) : Except Failure Value :=
  match cs with
  | '\uFEFF' :: _ => failAt .byteOrderMark cs
  | _ =>
    match readValue limit (2 * cs.length + 2) (skipBlanks cs) with
    | .error e => .error e
    | .ok (v, r) =>
      match skipBlanks r with
      | [] => .ok v
      | r => failAt .extraData r

/-- The value that a JSON text spells, if its integers have at most `limit` digits. -/
def parseWithin (limit : Option Nat) (s : String) : Except Error Value :=
  (parseChars limit s.toList).mapError (Error.locate s.toList)

/-- The most digits that an integer may have. -/
def longestInteger : Nat := Value.longestInteger

/-- The value that a JSON text spells. -/
def parse (s : String) : Except Error Value :=
  parseWithin (some longestInteger) s

end ColumnLint.Json

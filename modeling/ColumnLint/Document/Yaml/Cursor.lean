/-!
# A place in a YAML text

What is left of a text, with the position of its first character, the classes of characters
that the token rules speak of, and the elementary steps: over one character, over a number
of them, over a line end. The end of the text reads as the character `Cursor.ending`, which
no text holds.
-/

namespace ColumnLint.Yaml

/-- What keeps a YAML text from being a value. -/
inductive Fault where
  /-- The text does not follow the rules of YAML, or names an unknown kind of value. -/
  | malformed
  /-- A text that should spell an integer to this base. -/
  | noInteger (base : Nat) (text : String)
  /-- A text that spells an integer with this many digits, more than are read. -/
  | longInteger (digits : Nat)
  /-- A text that should spell a floating point number. -/
  | noFloat (text : String)
  /-- An empty text that should spell a number. -/
  | noNumber
  /-- A word that should be a truth value. -/
  | noTruthValue (word : String)
  /-- A text that should spell a point in time. -/
  | noTimestamp
  /-- A part of a number or of a point in time beyond its range. -/
  | outOfRange (message : String)
  /-- Any other error, by its kind and wording. -/
  | other (kind message : String)
  deriving DecidableEq, Repr

/-- A place in a text. -/
structure Cursor where
  rest : List Char
  index : Nat
  line : Nat
  column : Nat
  deriving Repr

/-! ### Classes of characters -/

/-- Stands for the end of the text. -/
def ending : Char := Char.ofNat 0

/-- Characters that end a line, and the end of the text. -/
def isBreakOrEnd (c : Char) : Bool :=
  c = ending || c = '\r' || c = '\n' || c.toNat = 0x85 || c.toNat = 0x2028 || c.toNat = 0x2029

/-- Characters that end a line. -/
def isBreak (c : Char) : Bool := c ≠ ending && isBreakOrEnd c

/-- Blanks, ends of lines and the end of the text. -/
def isGapOrEnd (c : Char) : Bool := c = ' ' || c = '\t' || isBreakOrEnd c

/-- A space, the end of a line or of the text. -/
def isSpaceOrEnd (c : Char) : Bool := c = ' ' || isBreakOrEnd c

/-- Letters and digits of ASCII, the hyphen and the underscore. -/
def isNameChar (c : Char) : Bool := c.isAlphanum || c = '-' || c = '_'

/-- The comma and the brackets of flow structures. -/
def isFlowSign (c : Char) : Bool :=
  c = ',' || c = '[' || c = ']' || c = '\x7b' || c = '\x7d'

/-- The grave accent, which begins no token. -/
def graveAccent : Char := Char.ofNat 0x60

/-- Characters that may stand in a text at all. -/
def isAllowed (c : Char) : Bool :=
  let n := c.toNat
  n = 9 || n = 10 || n = 13 || (0x20 ≤ n && n ≤ 0x7E) || n = 0x85 || (0xA0 ≤ n && n ≤ 0xD7FF) ||
    (0xE000 ≤ n && n ≤ 0xFFFD) || 0x10000 ≤ n

namespace Cursor

/-- The start of a text. -/
def start (cs : List Char) : Cursor := ⟨cs, 0, 0, 0⟩

/-- The next character. -/
def peek (c : Cursor) : Char := c.rest.headD ending

/-- The character `n` places on. -/
def peekAt (c : Cursor) (n : Nat) : Char := (c.rest.drop n).headD ending

/-- Whether the text goes on with these characters. -/
def startsWith (c : Cursor) (s : String) : Bool := s.toList.isPrefixOf c.rest

/-- One character on. -/
def next (c : Cursor) : Cursor :=
  match c.rest with
  | [] => c
  | x :: r =>
    if (isBreak x && x ≠ '\r') || (x = '\r' && r.head? ≠ some '\n') then
      ⟨r, c.index + 1, c.line + 1, 0⟩
    else ⟨r, c.index + 1, c.line, if x.toNat = 0xFEFF then c.column else c.column + 1⟩

/-- A number of characters on. -/
def skip (c : Cursor) : Nat → Cursor
  | 0 => c
  | n + 1 => c.next.skip n

/-- The characters up to the first that does not pass the test, and the place after them. -/
def span (c : Cursor) (test : Char → Bool) : List Char × Cursor :=
  let taken := c.rest.takeWhile test
  (taken, c.skip taken.length)

/-- The place after the characters that pass the test. -/
def skipWhile (c : Cursor) (test : Char → Bool) : Cursor := (c.span test).2

/-- Over the end of a line: the characters it stands for, none if there is no line end here. -/
def lineEnd (c : Cursor) : List Char × Cursor :=
  let x := c.peek
  if x = '\r' && c.peekAt 1 = '\n' then (['\n'], c.skip 2)
  else if x = '\r' || x = '\n' || x.toNat = 0x85 then (['\n'], c.next)
  else if x.toNat = 0x2028 || x.toNat = 0x2029 then ([x], c.next)
  else ([], c)

/-- Whether a line with three such characters, `---` or `...`, begins here. -/
def atMarker (c : Cursor) : Bool :=
  (c.startsWith "---" || c.startsWith "...") && isGapOrEnd (c.peekAt 3)

/-- Over spaces and a comment to the end of the line, and over that end. -/
def restOfLine (c : Cursor) : Except Fault Cursor :=
  let c := c.skipWhile (· = ' ')
  let c := if c.peek = '#' then c.skipWhile (fun x => !isBreakOrEnd x) else c
  if isBreakOrEnd c.peek then .ok c.lineEnd.2 else .error .malformed

end Cursor

end ColumnLint.Yaml

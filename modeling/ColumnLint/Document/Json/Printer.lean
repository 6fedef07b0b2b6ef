import ColumnLint.Document.Value
import ColumnLint.Number.Shortest
import ColumnLint.Text.Quoted

/-!
# Writing JSON

Documents as JSON text of ASCII characters only: all others are written as escapes of
UTF-16 units. Members and elements stand on lines of their own, two blanks further in than
what holds them; empty lists and objects stay on one line.
-/

namespace ColumnLint.Json

open ColumnLint.Text

/-- A UTF-16 unit as an escape. -/
def unitEscape (unit : Nat) : List Char :=
  '\\' :: 'u' :: hexDigits 4 unit

/-- A character inside a JSON text. -/
def escapedChar (c : Char) : List Char :=
  if c = '"' then ['\\', '"']
  else if c = '\\' then ['\\', '\\']
  else if c = '\n' then ['\\', 'n']
  else if c = '\r' then ['\\', 'r']
  else if c = '\t' then ['\\', 't']
  else if c.toNat = 8 then ['\\', 'b']
  else if c.toNat = 12 then ['\\', 'f']
  else if 32 ≤ c.toNat && c.toNat < 127 then [c]
  else if c.toNat < 0x10000 then unitEscape c.toNat
  else
    unitEscape (0xD800 + (c.toNat - 0x10000) / 0x400) ++
      unitEscape (0xDC00 + (c.toNat - 0x10000) % 0x400)

/-- A text between double quotes. -/
def writeText (s : String) : List Char :=
  '"' :: s.toList.flatMap escapedChar ++ ['"']

/-- A line feed and the blanks of the given depth. -/
def lineBreak (depth : Nat) : List Char :=
  '\n' :: List.replicate (2 * depth) ' '

mutual

/-- A value at the given depth. -/
def write (depth : Nat) : Value → List Char
  | .null => "null".toList
  | .bool b => (if b then "true" else "false").toList
  | .int n => (toString n).toList
  | .float x => (x.textWith "Infinity" "NaN").toList
  | .text s => writeText s
  | .list items =>
    match items with
    | [] => ['[', ']']
    | x :: r =>
      '[' :: lineBreak (depth + 1) ++ write (depth + 1) x ++ writeItems (depth + 1) r ++
        lineBreak depth ++ [']']
  | .object members =>
    match members with
    | [] => ['\x7b', '\x7d']
    | (k, x) :: r =>
      '\x7b' :: lineBreak (depth + 1) ++ writeText k ++ [':', ' '] ++ write (depth + 1) x ++
        writeMembers (depth + 1) r ++ lineBreak depth ++ ['\x7d']
  | .foreign .. => "null".toList

/-- The elements after the first one. -/
def writeItems (depth : Nat) : List Value → List Char
  | [] => []
  | x :: r => ',' :: lineBreak depth ++ write depth x ++ writeItems depth r

/-- The members after the first one. -/
def writeMembers (depth : Nat) : List (String × Value) → List Char
  | [] => []
  | (k, x) :: r =>
    ',' :: lineBreak depth ++ writeText k ++ [':', ' '] ++ write depth x ++ writeMembers depth r

end

/-- A document as JSON text. -/
def print (v : Value) : String :=
  String.ofList (write 0 v)

end ColumnLint.Json

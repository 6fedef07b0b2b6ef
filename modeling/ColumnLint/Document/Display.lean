import ColumnLint.Document.Value
import ColumnLint.Number.Shortest
import ColumnLint.Text.Quoted

/-!
# Values as text

How a value reads when it is put into a text: a text is itself, all else is written
out, with the texts inside lists and objects between quotes.
-/

namespace ColumnLint.Value

open ColumnLint.Text

mutual

/-- The value written out, texts between quotes. -/
def writtenOut : Value → String
  | .null => "None"
  | .bool b => if b then "True" else "False"
  | .int n => toString n
  | .float x => x.textWith "inf" "nan"
  | .text s => quoted s
  | .list items => "[" ++ ", ".intercalate (itemsWrittenOut items) ++ "]"
  | .object members => "\x7b" ++ ", ".intercalate (membersWrittenOut members) ++ "\x7d"
  | .foreign kind items =>
    let inner := ", ".intercalate (itemsWrittenOut items)
    if kind = .tuple then "(" ++ inner ++ ")" else "\x7b" ++ inner ++ "\x7d"

/-- The values of a list written out. -/
def itemsWrittenOut : List Value → List String
  | [] => []
  | x :: r => writtenOut x :: itemsWrittenOut r

/-- The members of an object written out. -/
def membersWrittenOut : List (String × Value) → List String
  | [] => []
  | (k, x) :: r => (quoted k ++ ": " ++ writtenOut x) :: membersWrittenOut r

end

/-- The value as part of a text. -/
def display : Value → String
  | .text s => s
  | v => writtenOut v

end ColumnLint.Value

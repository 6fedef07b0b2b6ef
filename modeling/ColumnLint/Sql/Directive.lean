import ColumnLint.Text.Blank
import ColumnLint.Text.Case
import ColumnLint.Text.Word

/-!
# Suppressing rules in comments

A comment such as `colcheck: ignore SRD0047` at a column's definition suppresses rules for
the column: those it lists, or all of them if it lists none. The first directive of a comment
counts (`Directive.rules`).
-/

namespace ColumnLint.Sql.Directive

open ColumnLint.Text

/-- What follows a directive at the start of a text: `colcheck:`, blanks and the whole word
`ignore`. -/
def after? (cs : List Char) : Option (List Char) := do
  let cs ← dropWord? "colcheck:".toList cs
  let cs ← dropWord? "ignore".toList (cs.dropWhile isBlank)
  if (cs.head?.map isWordChar).getD false then none else some cs

/-- What follows the first directive of a text. -/
def firstAfter? : List Char → Option (List Char)
  | [] => none
  | c :: r => (after? (c :: r)).or (firstAfter? r)

/-- The character that stands between listed rules. -/
def isSeparator (c : Char) : Bool := isBlank c || c = ','

/-- The rules listed at the start of a text, in upper case; `*` if there are none. -/
def listed (cs : List Char) : List String :=
  let list := cs.takeWhile fun c => isWordChar c || isSeparator c
  let rules := (fieldsOf isSeparator list).map fun r => upper (String.ofList r)
  if rules.isEmpty then ["*"] else rules

/-- The rules that a comment suppresses. -/
def rules (comment : String) : List String :=
  match firstAfter? comment.toList with
  | some cs => listed cs
  | none => []

end ColumnLint.Sql.Directive

import ColumnLint.Files.Source
import ColumnLint.Text.Blank
import ColumnLint.Text.Word

/-!
# Preparing scripts

Rewritings of the text of a script before it is read. Some dialects have forms that are no
statements of their own, such as the lines that separate batches, or that are written in one
more way than the others write them. Each dialect name has a list of preparations, which run
one after another (`prepare`); one that fails is left out and leaves a notice.
-/

namespace ColumnLint.Sql

open ColumnLint.Text

/-! ### Batch separators -/

/-- The blanks that may be taken before the end of a line: all of them at the end of the text,
otherwise those before the last line feed among them. The second part is the rest; `none` if no
line ends there. -/
def blanksToLineEnd? (cs : List Char) : Option (List Char × List Char) :=
  let blanks := cs.takeWhile isBlank
  let rest := cs.dropWhile isBlank
  if rest.isEmpty then some (blanks, [])
  else
    match blanks.reverse.span (· ≠ '\n') with
    | (_, []) => none
    | (after, _ :: before) => some (before.reverse, '\n' :: after.reverse ++ rest)

/-- What remains after a batch separator at the start of a line: blanks, the word `GO`, a count
that may be missing, and blanks up to the end of a line. The flag tells whether the remainder
starts a line. -/
def afterSeparator? (cs : List Char) : Option (Bool × List Char) := do
  let tail ← dropWord? "GO".toList (cs.dropWhile isBlank)
  let counted := tail.dropWhile isBlank
  let digits := counted.takeWhile isDecimalDigit
  let ended := if digits.isEmpty then none else blanksToLineEnd? (counted.drop digits.length)
  let (blanks, rest) ← ended.or (blanksToLineEnd? tail)
  return (blanks.getLast? == some '\n', rest)

/-- The text with its batch separators as semicolons; the flag tells whether it starts a line. -/
def markSeparators : Nat → Bool → List Char → List Char
  | 0, _, cs => cs
  | _ + 1, _, [] => []
  | n + 1, lineStart, c :: r =>
    match if lineStart then afterSeparator? (c :: r) else none with
    | some (next, rest) => ';' :: markSeparators n next rest
    | none => c :: markSeparators n (c = '\n') r

/-- Turns the lines that separate batches into ends of statements. -/
def separateBatches (s : String) : String :=
  String.ofList (markSeparators s.length true s.toList)

/-! ### Changes of a column's type -/

/-- The rest after at least one blank and all that follow. -/
def dropBlanks? : List Char → Option (List Char)
  | [] => none
  | c :: r => if isBlank c then some (r.dropWhile isBlank) else none

/-- A run of characters that are not blank, and the rest. -/
def takeRun? (cs : List Char) : Option (List Char × List Char) :=
  let run := cs.takeWhile (!isBlank ·)
  if run.isEmpty then none else some (run, cs.drop run.length)

/-- Two runs, each after blanks, and the rest. -/
def takeTwoRuns? (cs : List Char) : Option (List Char × List Char × List Char) := do
  let (first, rest) ← takeRun? (← dropBlanks? cs)
  let (second, rest) ← takeRun? (← dropBlanks? rest)
  return (first, second, rest)

/-- The change of a column at the start of a text, rewritten, and the rest. -/
def changedColumn? (cs : List Char) : Option (List Char × List Char) := do
  let cs ← dropWord? "ALTER".toList cs
  let cs ← dropWord? "TABLE".toList (← dropBlanks? cs)
  let (table, cs) ← takeRun? (← dropBlanks? cs)
  let cs ← dropWord? "MODIFY".toList (← dropBlanks? cs)
  let named := do takeTwoRuns? (← dropWord? "COLUMN".toList (← dropBlanks? cs))
  let (column, type, rest) ← named.or (takeTwoRuns? cs)
  return ("ALTER TABLE ".toList ++ table ++ " ALTER COLUMN ".toList ++ column ++
    " TYPE ".toList ++ type, rest)

/-- The text with all changes of columns rewritten. -/
def changeColumns : Nat → List Char → List Char
  | 0, cs => cs
  | _ + 1, [] => []
  | n + 1, c :: r =>
    match changedColumn? (c :: r) with
    | some (change, rest) => change ++ changeColumns n rest
    | none => c :: changeColumns n r

/-- Turns `ALTER TABLE t MODIFY [COLUMN] c X` into `ALTER TABLE t ALTER COLUMN c TYPE X`. -/
def modifyToAlter (s : String) : String :=
  String.ofList (changeColumns s.length s.toList)

/-! ### Preparations by dialect -/

/-- A rewriting of script text, which may fail with a reason. -/
structure Preparation where
  name : String
  rewrite : String → Except String String

/-- The preparations that are always there, with the names of their dialects. -/
def standardPreparations : List (String × Preparation) := [
  ("tsql", ⟨"separateBatches", fun s => .ok (separateBatches s)⟩),
  ("snowflake", ⟨"modifyToAlter", fun s => .ok (modifyToAlter s)⟩)]

/-- Runs the preparations of a dialect name in order. A failing one leaves the text as it is. -/
def prepare (preparations : List (String × Preparation)) (dialect text : String) :
    String × List Notice :=
  (preparations.filter (·.1 = dialect)).foldl
    (fun (s, notices) p =>
      match p.2.rewrite s with
      | .ok t => (t, notices)
      | .error reason => (s, notices ++ [.preparationFailed p.2.name reason]))
    (text, [])

end ColumnLint.Sql

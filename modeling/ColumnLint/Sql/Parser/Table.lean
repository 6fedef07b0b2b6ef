import ColumnLint.Sql.Parser.Column
import ColumnLint.Text.Blank

/-!
# Parsing the creation of tables

A table is created by its name and a list of columns and constraints. Options of the table may
follow the list; if anything else follows, the statement is not understood and left out.
-/

namespace ColumnLint.Sql

open ColumnLint.Text

namespace Parser

/-! ### Names of tables -/

/-- The tokens that belong to a name because no gap lies between them and the token before. -/
def joinedTokens (rest : List Token) : List Token :=
  rest.takeWhile fun t => t.joined && !t.isSign "." && !t.isSign "("

/-- Reads what is joined to a part of a name with dashes, where dialects allow it. -/
def dashedPart (start : String) : Parser String := do
  let d ← read
  let rest := (← get).rest
  if d = .bigquery && ((rest.head?).map (·.isSign "-")).getD false then
    let tail := joinedTokens rest
    tail.forM fun _ => advance
    return tail.foldl (fun s t => s ++ t.text) start
  else return start

/-- Reads a part of the name of a table, if there is one. -/
def namePart? : Parser (Option String) := do
  let d ← read
  if d = .tsql then
    if ← sign "#" then
      let _ ← sign "#"
  let some t ← peek | return none
  if t.kind = .string then
    advance
    return some t.text
  else if t.mayName d then
    advance
    return some (← dashedPart t.text)
  else if d = .bigquery && t.kind = .number then
    advance
    let tail := ((← get).rest.take 1).filter fun u => u.joined && u.kind = .word
    tail.forM fun _ => advance
    return some (tail.foldl (fun s u => s ++ u.text) t.text)
  else return none

/-- Reads the parts of a name that follow points. A part may be missing. -/
def namePartsUpTo : Nat → Parser (List (Option String))
  | 0 => return []
  | n + 1 => do
    if ← sign "." then
      let part ← namePart?
      return part :: (← namePartsUpTo n)
    else return []

/-- The name of a table by its parts: the last one names the table, and the first two of more
tell where it is. -/
def tableNameOf : List String → TableName
  | [] => ⟨none, none, ""⟩
  | [name] => ⟨none, none, name⟩
  | [schema, name] => ⟨none, some schema, name⟩
  | database :: schema :: rest => ⟨some database, some schema, rest.getLastD ""⟩

/-- The parts of a name, divided again at the points within quotes where dialects allow it. -/
def dividedParts (d : Dialect) (parts : List String) : List String :=
  if d = .bigquery && parts.length ≤ 3 && parts.any fun p => p.toList.contains '.' then
    (piecesOf '.' (".".intercalate parts).toList).map String.ofList
  else parts

/-- Reads the name of a table, of which the last part has to be there. -/
def tableName : Parser TableName := do
  let d ← read
  let first ← namePart?
  let rest ← namePartsUpTo (← get).rest.length
  let parts := first :: rest
  if (parts.getLast?.bind id).isNone then failure
  return tableNameOf (dividedParts d (parts.map (·.getD "")))

/-! ### Options -/

/-- How what follows the words of an option is read. -/
inductive OptionValue where
  | nothing
  /-- A group between brackets. -/
  | group
  /-- A group between brackets, if there is one. -/
  | groupIfAny
  /-- A value, with an equals sign before it or none. -/
  | value
  /-- A value, which groups may follow. -/
  | division
  /-- A group between brackets, or names. -/
  | names
  deriving DecidableEq, Repr

/-- The options that a table may have, each with the words it begins with. -/
def tableOptions : List (List String × OptionValue) := [
  (["ON", "COMMIT", "PRESERVE", "ROWS"], .nothing), (["ON", "COMMIT", "DELETE", "ROWS"], .nothing),
  (["ON"], .division),
  (["WITH", "DATA"], .nothing), (["WITH", "NO", "DATA"], .nothing), (["WITH", "TAG"], .group),
  (["WITH"], .group),
  (["PARTITION BY"], .division), (["PARTITIONED BY"], .division), (["PARTITIONED_BY"], .division),
  (["CLUSTER BY"], .names), (["ORDER BY"], .names), (["CLUSTERED", "BY"], .division),
  (["PRIMARY KEY"], .group),
  (["USING"], .value), (["STORED", "AS"], .value), (["STORED", "BY"], .value),
  (["ROW_FORMAT"], .value), (["FORMAT"], .value), (["ENGINE"], .value), (["LOCATION"], .value),
  (["LANGUAGE"], .value), (["COMMENT"], .value), (["COLLATE"], .value), (["CHARSET"], .value),
  (["CHARACTER SET"], .value), (["AUTO_INCREMENT"], .value), (["TABLESPACE"], .value),
  (["DISTSTYLE"], .value), (["DISTKEY"], .group), (["COMPOUND", "SORTKEY"], .group),
  (["SORTKEY"], .group), (["BACKUP"], .value), (["TBLPROPERTIES"], .group), (["OPTIONS"], .group),
  (["INHERITS"], .group), (["LIKE"], .division), (["COPY", "GRANTS"], .nothing),
  (["COPY"], .value), (["CLONE"], .value), (["DUPLICATE", "KEY"], .group)]

/-- The options that may be said to be defaults. -/
def defaultableOptions : List String := ["CHARSET", "CHARACTER SET", "COLLATE"]

/-- Reads a value of an option, which has to be there. -/
def optionValue : Parser Unit := do
  let d ← read
  let some t ← peek | failure
  if t.kind = .string || t.kind = .number then advance
  else if t.isSign "(" then group 0
  else if t.mayName d || t.isOneOf valueWords then
    tableReference 0
    groupIfAny 0
  else failure

/-- Reads what follows the words of an option. -/
def optionTail : OptionValue → Parser Unit
  | .nothing => pure ()
  | .group => group 0
  | .groupIfAny => groupIfAny 0
  | .value => do
    let _ ← sign "="
    optionValue
  | .division => do
    optionValue
    groupIfAny 0
  | .names => do
    if ← nextIs (·.isSign "(") then group 0 else separated optionValue

/-- Reads the first of the given options that comes next. -/
def optionAmong : List (List String × OptionValue) → Parser Bool
  | [] => return false
  | (words, tail) :: r => do
    if ← phrase words then
      optionTail tail
      return true
    else optionAmong r

/-- Reads an option of a table, if there is one: one that is known, or any word with a value after
an equals sign. -/
def tableOption : Parser Bool := do
  let d ← read
  if (← nextIs (·.isWord "DEFAULT")) && (← secondIs (·.isOneOf defaultableOptions)) then advance
  if ← optionAmong tableOptions then return true
  else if (← nextIs fun t => t.mayName d) && (← secondIs (·.isSign "=")) then
    advance
    advance
    optionValue
    return true
  else return false

/-! ### Creation -/

/-- The words that may stand between `CREATE` and the sort of thing that is created. -/
def creationWords : List String := [
  "EXTERNAL", "GLOBAL", "ICEBERG", "LOCAL", "MATERIALIZED", "MULTISET", "SECURE", "SET", "TEMP",
  "TEMPORARY", "TRANSIENT", "UNLOGGED", "VOLATILE"]

/-- The sorts of things that are created by a name and may have a list of columns. -/
def listedSorts : List String := [
  "DATABASE", "DICTIONARY", "MODEL", "NAMESPACE", "SEQUENCE", "STAGE", "STREAM", "TABLE", "TAG",
  "VIEW", "WAREHOUSE"]

/-- Reads the list of columns of a table after its bracket. -/
def columnList : Parser (List ColumnDefinition) := do
  let item : Parser (Option ColumnDefinition) := do
    if ← tableConstraint then return none else columnDefinition?
  let columns ← listOf item annotated
  require ")"
  return columns

/-- Whether a query follows an opening bracket. -/
def queryInBrackets : Parser Bool := do
  let inner := (← get).rest.dropWhile (·.isSign "(")
  return (inner.head?.map (·.isOneOf ["SELECT", "WITH"])).getD false

/-- Reads the query that fills a table, or the table that it is named for. -/
def creationSource : Parser Unit := do
  let d ← read
  let named ← word "AS"
  if named then whileSo tableOption
  if ← nextIs (·.isOneOf ["SELECT", "VALUES", "WITH"]) then skipBalanced
  else if ← nextIs (·.isSign "(") then
    if ← queryInBrackets then skipBalanced else failure
  else if named && (← nextIs fun t => t.mayName d) then tableReference 0

/-- Reads what may follow the name of a table and its columns, up to the end. The result tells
whether all of it is understood; a bracket or comma that does not belong there makes the script
unreadable. -/
def creationEnd : Parser Bool := do
  whileSo tableOption
  creationSource
  whileSo tableOption
  if ← nextIs fun t => t.isSign ")" || t.isSign "," then failure
  let understood ← atEnd
  skipAll
  return understood

/-- Reads a statement that creates something, after its first word. What is not understood, has
no list of columns or is filled by a query says nothing about columns. -/
def creation : Parser Statement := do
  if ← word "OR" then
    let _ ← oneOf? ["REPLACE", "ALTER", "REFRESH"]
  whileSo do return (← oneOf? creationWords).isSome
  match ← oneOf? listedSorts with
  | none =>
    if ← nextIs (·.isOneOf ["INDEX", "UNIQUE"]) then skipBalanced else skipAll
    return .other
  | some _ =>
    let ifAbsent ← phrase ["IF", "NOT", "EXISTS"]
    let table ← tableName
    let _ ← sign ","
    if !(← nextIs (·.isSign "(")) then
      let _ ← creationEnd
      return .other
    else if ← queryInBrackets then
      skipBalanced
      return .other
    else if ← secondIs (·.isSign "(") then failure
    else
      advance
      let columns ← columnList
      if ← creationEnd then return .createTable table columns ifAbsent else return .other

end Parser

end ColumnLint.Sql

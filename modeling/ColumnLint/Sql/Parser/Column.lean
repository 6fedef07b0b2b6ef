import ColumnLint.Sql.Directive
import ColumnLint.Sql.Parser.Constraint
import ColumnLint.Sql.Statement

/-!
# Parsing columns

A definition is a name with a type, a value that is computed, constraints or several of these.
What has none of them is no column. Definitions stand in lists; the comments of a comma count
for the column before it (`listOf`).
-/

namespace ColumnLint.Sql

open ColumnLint.Text

namespace Parser

/-! ### Names -/

/-- What stands where the name of a column is expected. -/
structure Field where
  /-- The name; empty if the field is not one name. -/
  name : String
  /-- Whether it is written as a name, so that the word after it tells the type. -/
  spelled : Bool

/-- A field without a name. -/
def Field.unnamed : Field := ⟨"", false⟩

/-- Reads a word or quoted name that has to name a column. -/
def fieldName : Parser Field := do
  let some t ← peek | failure
  unless t.mustName do failure
  advanceTaking 1
  return ⟨t.text, true⟩

/-- Reads a field that begins with a word. -/
def wordField? (t : Token) : Parser (Option Field) := do
  let strict : Reading := ⟨true, true, 1⟩
  let size := 4 * (← get).rest.length + 8
  let called ← secondIs (·.isSign "(")
  if t.isWord "NULL" then
    advanceTaking 1
    return some ⟨"NULL", false⟩
  else if t.isWord "CASE" then
    caseUpTo strict size
    return some .unnamed
  else if t.isWord "ANY" then
    advance
    needed (arithmetic 2)
    return some .unnamed
  else if t.isWord "IF" && !called then failure
  else if t.isOneOf valueWords && !called then
    advanceTaking 1
    return some .unnamed
  else if t.isWord "SELECT" then return none
  else if called then
    advanceTaking 1
    callUpTo strict t.upperText size
    return some .unnamed
  else return some (← fieldName)

/-- Reads a field, if there is one. -/
def field? : Parser (Option Field) := do
  let d ← read
  let some t ← peek | return none
  match t.kind with
  | .string =>
    let many := d ≠ .bigquery && (← secondIs (·.kind = .string))
    let _ ← texts 1
    return some (if many then .unnamed else ⟨t.text, false⟩)
  | .number =>
    advanceTaking 1
    return some ⟨t.text, false⟩
  | .word | .name => wordField? t
  | .sign =>
    if t.text = "(" then
      groupUpTo ⟨true, true, 1⟩ (4 * (← get).rest.length + 8)
      return some .unnamed
    else if t.text = "*" then
      advanceTaking 1
      return some ⟨"*", false⟩
    else if d = .tsql && t.text = "#" then
      advance
      let _ ← sign "#"
      return some (← fieldName)
    else return none

/-! ### Definitions -/

/-- The type of a column as it is reported; `afterName` is what follows the name of the column. -/
def declaredType (d : Dialect) (field : Field) (afterName : List Token) (t : DataType) :
    DeclaredType :=
  let spelled := if field.spelled then spelledType? afterName else none
  let base :=
    match t.head with
    | .named name => some (upper name)
    | .unnamed => none
    | .builtIn _ | .span => spelled.or (t.word? d)
  ⟨base, t.parameters d⟩

/-- Reads the value of a column that is computed. -/
def computedValue : Parser Unit := do
  needed (logical 3)
  let _ ← phrase ["PERSISTED"]
  unless ← phrase ["AUTO"] do
    let _ ← columnType? false
  let _ ← phrase ["NOT", "NULL"]
  take 1

/-- Reads what computes the value of a column, if it is computed. -/
def computation (typed : Bool) : Parser Bool := do
  let d ← read
  if ← (pure !typed <&&> word "AS") <||> phraseAmong [["ALIAS"], ["MATERIALIZED"]] then
    computedValue
    return true
  else if typed && (← nextIs (·.isWord "AS")) && (d = .snowflake || (← secondIs (·.isSign "(")))
    then
    advance
    needed (logical 3)
    let _ ← oneOf? ["STORED", "VIRTUAL"]
    take 1
    return true
  else return false

/-- Reads the definition of a column after its name; `none` if nothing is said about it. -/
def definitionAfter (field : Field) : Parser (Option ColumnDefinition) := do
  let d ← read
  let afterName := (← get).rest
  let type ← columnType? true
  let computed ← computation type.isSome
  let told ← columnConstraints ((← get).rest.length + 1)
  if type.isNone && !computed && told.isEmpty then return none
  take 0
  return some {
    name := field.name
    type := (type.map (declaredType d field afterName)).getD ⟨none, []⟩
    nullable := ((told.filterMap id).head?).getD true
    ignored := [] }

/-- Reads the definition of a column, if there is one. A bare name is read but defines nothing. -/
def columnDefinition? : Parser (Option ColumnDefinition) := do
  match ← field? with
  | some field => definitionAfter field
  | none => return none

/-! ### Lists -/

/-- Reads a part and gives the comments taken for it, those of its outer parts first. -/
def collecting (part : Parser α) : Parser (α × List String) := do
  modify fun p => { p with taken := [] }
  let a ← part
  let taken := (← get).taken.mergeSort fun x y => x.1 ≤ y.1
  return (a, taken.map (·.2))

/-- Reads at most so many items between commas; an item may be missing. Each gets the comments
that were taken for it and those of the comma after it. -/
def listUpTo (item : Parser (Option α)) (annotate : α → List String → α) :
    Nat → Parser (List α)
  | 0 => return []
  | n + 1 => do
    let ((found, more), comments) ← collecting do
      let found ← item
      let more ← sign ","
      if more && found.isSome then take 0
      return (found, more)
    let rest ← if more then listUpTo item annotate n else pure []
    return (found.map fun a => annotate a comments).toList ++ rest

/-- Reads items between commas. -/
def listOf (item : Parser (Option α)) (annotate : α → List String → α) : Parser (List α) := do
  listUpTo item annotate ((← get).rest.length + 1)

/-- A definition with the rules that the comments at it suppress. -/
def annotated (c : ColumnDefinition) (comments : List String) : ColumnDefinition :=
  { c with ignored := comments.flatMap Directive.rules }

end Parser

end ColumnLint.Sql

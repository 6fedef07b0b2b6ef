import ColumnLint.Sql.Parser.Table

/-!
# Parsing the alteration of tables

An alteration names a table and lists actions. Dialects differ in whether one `ADD` or `DROP`
may be followed by several columns and in which actions may stand in one list. An alteration
counts only if all of it is understood (`alteration`).
-/

namespace ColumnLint.Sql

/-! ### What the dialects differ in -/

/-- Whether one `ADD` stands before all columns that are added. -/
def Dialect.addsTogether : Dialect → Bool
  | .tsql | .snowflake | .oracle => true
  | _ => false

/-- Whether one `DROP COLUMN` stands before all columns that are dropped. -/
def Dialect.dropsTogether : Dialect → Bool
  | .tsql | .snowflake => true
  | _ => false

/-- Whether actions of several sorts may stand in one list. -/
def Dialect.mixesActions : Dialect → Bool
  | .postgres | .mysql | .redshift => true
  | _ => false

/-- Whether a new type of a column has to follow the word `TYPE`. -/
def Dialect.requiresTypeWord : Dialect → Bool
  | .postgres | .redshift => true
  | _ => false

/-- The words that begin a constraint where a column could be added. -/
def Dialect.addedConstraintWords (d : Dialect) : List String :=
  ["CONSTRAINT", "FOREIGN KEY", "INDEX", "PRIMARY KEY", "UNIQUE"] ++
    (if d = .mysql then ["KEY"] else [])

namespace Parser

/-! ### Columns -/

/-- Reads what refers to a column, if there is something: its name, or an empty text for what is
no name. -/
def columnReference? (depth : Nat) : Parser (Option String) := do
  let d ← read
  let some t ← peek | return none
  if t.isSign "(" then
    groupUpTo ⟨true, true, depth⟩ (4 * (← get).rest.length + 8)
    return some ""
  else if t.kind = .string || t.kind = .number then
    advanceTaking depth
    return some t.text
  else if t.mayName d then
    advanceTaking depth
    let mut name := t.text
    for _ in (← get).rest do
      if ← sign "." then
        let some u ← peek | failure
        unless u.mustName do failure
        advanceTaking depth
        name := u.text
    return some name
  else return none

/-- Reads the word for a column, if it is there. -/
def columnWord : Parser Bool := do
  let d ← read
  skipIf (·.isOneOf (if d = .oracle then ["COLUMN", "COLUMNS"] else ["COLUMN"]))

/-- A change with the rules that the comments at it suppress for an added column. -/
def annotatedChange (change : TableChange) (comments : List String) : TableChange :=
  match change with
  | .addColumn c ifAbsent => .addColumn (annotated c comments) ifAbsent
  | c => c

/-! ### Additions -/

/-- Reads a column to be added, with its place. -/
def addedColumn? : Parser (Option TableChange) := do
  let start ← get
  let _ ← columnWord
  let ifAbsent ← phrase ["IF", "NOT", "EXISTS"]
  match ← columnDefinition? with
  | none =>
    backTo start
    return none
  | some column =>
    if (← oneOf? ["FIRST", "AFTER"]).isSome then
      take 1
      let _ ← columnReference? 2
    return some (.addColumn column ifAbsent)

/-- Reads the constraints that are added. The first one has to be there. -/
def addedConstraints : Parser Unit := do
  let words := (← read).addedConstraintWords
  needed tableConstraint
  whileSo do
    if (← nextIs (·.isSign ",")) && (← secondIs (·.isOneOf words)) then
      advance
      tableConstraint
    else return false

/-- Reads one addition: a column after the word `ADD`, or constraints. -/
def addition? : Parser (Option TableChange) := do
  let d ← read
  let said ← phrase ["ADD"]
  if ← nextIs (·.isOneOf d.addedConstraintWords) then
    addedConstraints
    return some .other
  else if said then addedColumn?
  else return none

/-- Reads additions that share one word `ADD`. -/
def additionsTogether : Parser (List TableChange) := do
  if ← sign "(" then
    let _ ← columnList
    return [.other]
  else listOf addedColumn? annotatedChange

/-! ### Removals -/

/-- The things besides columns that are dropped by a name. -/
def droppedSorts : List String :=
  ["CONSTRAINT", "FOREIGN KEY", "FUNCTION", "INDEX", "PROCEDURE", "TABLE", "TRIGGER", "VIEW"]

/-- Reads what may follow a name that is dropped. -/
def removalEnd : Parser Unit := do
  let _ ← oneOf? ["CASCADE", "RESTRICT"]
  let _ ← oneOf? ["CONSTRAINTS"]
  let _ ← oneOf? ["PURGE"]

/-- Reads one removal after the word `DROP`, with further columns where they may follow. What is
not understood is left out with all that follows. -/
def removalAfter : Parser TableChange := do
  let d ← read
  if ← word "COLUMN" then
    let _ ← phrase ["IF", "EXISTS"]
    let first ← columnReference? 0
    let more ← pure d.dropsTogether <&&> sign ","
    let names ← if more then listOf (columnReference? 0) fun name _ => name else pure []
    removalEnd
    return .dropColumns ((first.toList ++ names).filter (· ≠ ""))
  else if ← skipIf (·.isOneOf droppedSorts) then
    let _ ← phrase ["IF", "EXISTS"]
    tableReference 0
    removalEnd
    return .other
  else if d.mixesActions && (← nextIs fun t => t.mayName d) then
    let name ← columnReference? 0
    removalEnd
    return .dropColumns name.toList
  else
    skipAll
    return .other

/-- Reads one removal, if there is one. -/
def removal? : Parser (Option TableChange) := do
  if ← word "DROP" then return some (← removalAfter) else return none

/-! ### Other actions -/

/-- Reads a renaming; only that of a column counts. -/
def rename : Parser TableChange := do
  if ← word "COLUMN" then
    let _ ← phrase ["IF", "EXISTS"]
    let old ← columnReference? 0
    let said ← phrase ["TO"]
    let new ← columnReference? 0
    match old, said, new with
    | some old, true, some new => return .renameColumn old new
    | _, _, _ => return .other
  else
    let _ ← phrase ["TO"]
    if (← peek).isSome then tableReference 0
    return .other

/-- Reads whether a column may be null, if that is told. -/
def nullability? : Parser (Option Bool) := do
  if ← phrase ["NOT", "NULL"] then return some false
  else if ← word "NULL" then return some true
  else return none

/-- Reads a new type of a column, with what may follow it. -/
def newType (column : Field) (afterName : List Token) : Parser TableChange := do
  let d ← read
  let _ ← phrase ["SET", "DATA"]
  let said ← phrase ["TYPE"]
  let type ← if said || !d.requiresTypeWord then columnType? false else pure none
  let nullable ← if d = .tsql then nullability? else pure none
  if ← word "COLLATE" then let _ ← arithmetic 0
  if ← word "USING" then let _ ← logical 0
  return .alterColumn column.name (type.map (declaredType d column afterName)) nullable

/-- Reads the change of a column. -/
def columnChange : Parser TableChange := do
  let _ ← columnWord
  let some column ← field? | return .other
  let afterName := (← get).rest
  if ← phrase ["DROP", "DEFAULT"] then return .other
  else if ← phrase ["SET", "DEFAULT"] then
    needed (logical 0)
    return .other
  else if ← word "COMMENT" then
    if ← nextIs (·.kind = .string) then let _ ← texts 0
    return .other
  else if ← phrase ["DROP", "NOT", "NULL"] then return .alterColumn column.name none (some true)
  else if ← phrase ["SET", "NOT", "NULL"] then return .alterColumn column.name none (some false)
  else if ← phraseAmong [["SET", "VISIBLE"], ["SET", "INVISIBLE"]] then return .other
  else newType column afterName

/-- Reads a column's new name, which is not taken up, and its new type. -/
def redefinition : Parser TableChange := do
  let d ← read
  let _ ← columnWord
  let some column ← field? | failure
  let afterName := (← get).rest
  if ← phrase ["TYPE"] then
    let type ← columnType? true
    return .alterColumn column.name (type.map (declaredType d column afterName)) none
  else
    let some _ ← field? | failure
    let some type ← columnType? true | failure
    if ← word "COMMENT" then
      if ← nextIs (·.kind = .string) then let _ ← texts 0
    return .alterColumn column.name (some (declaredType d column afterName type)) none

/-- Reads one action of any sort, if there is one. -/
def action? : Parser (Option TableChange) := do
  let d ← read
  if ← nextIs fun t => t.spells "ADD" || t.isOneOf d.addedConstraintWords then addition?
  else if ← nextIs (·.isWord "DROP") then removal?
  else if ← word "ALTER" then return some (← columnChange)
  else if ← phrase ["RENAME"] then return some (← rename)
  else return none

/-! ### Alterations -/

/-- Reads the actions of an alteration. Those of unknown sorts are not understood. -/
def actions : Parser (List TableChange) := do
  let d ← read
  if (← nextIs (·.spells "ADD")) &&
      (← secondIs fun t => t.spells "COLUMNS" || d.addsTogether && !t.isOneOf d.addedConstraintWords)
    then
    advance
    unless d.addsTogether do advance
    additionsTogether
  else if d.mixesActions then listOf action? annotatedChange
  else if ← nextIs (·.spells "ADD") then listOf addition? annotatedChange
  else if ← nextIs (·.isWord "DROP") then
    if d.dropsTogether then return (← removal?).toList
    else listOf removal? annotatedChange
  else if ← pure (d == .databricks) <&&> phrase ["CHANGE"] then return [← redefinition]
  else if ← pure (d == .tsql) <&&> phrase ["SET", "TBLPROPERTIES"] then failure
  else return (← action?).toList

/-- Reads a statement that alters something, after its first word. It says nothing about tables
unless all of it is understood. -/
def alteration : Parser Statement := do
  let _ ← phrase ["ICEBERG"]
  if ← skipIf (·.isOneOf ["INDEX", "TABLE", "VIEW"]) then
    let _ ← phrase ["IF", "EXISTS"]
    let _ ← phrase ["ONLY"]
    let table ← tableName
    let listed ← nextIs (·.isSign "(")
    let _ ← phrase ["WITH", "CHECK"]
    let short := (← get).rest.length < 2
    let changes ← if listed || short then pure [] else actions
    let _ ← phrase ["NOT", "VALID"]
    separated do
      let _ ← tableOption
    if (← atEnd) && !changes.isEmpty then return .alterTable table changes
    else
      skipAll
      return .other
  else
    skipAll
    return .other

end Parser

end ColumnLint.Sql

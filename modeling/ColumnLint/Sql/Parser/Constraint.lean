import ColumnLint.Sql.Parser.Expression

/-!
# Parsing constraints

What follows the type of a column, and the constraints of a table. Only `NULL` and `NOT NULL`
tell something about a column; all others are read to find their ends.
-/

namespace ColumnLint.Sql.Parser

/-! ### Parts of constraints -/

/-- Reads the name of a table with all its parts, taking comments. -/
def tableReference (depth : Nat) : Parser Unit := do
  let d ← read
  let part : Parser Bool := do
    if d = .tsql then
      let _ ← sign "#"
      let _ ← sign "#"
    if ← nextIs fun t => t.mayName d || t.kind = .string then
      advanceTaking depth
      return true
    else return false
  needed part
  whileSo do
    if ← sign "." then
      let _ ← part
      return true
    else return false

/-- The options of keys that are words. -/
def keyOptionWords : List (List String) := [
  ["NOT", "ENFORCED"], ["MATCH", "FULL"], ["MATCH", "PARTIAL"], ["MATCH", "SIMPLE"],
  ["INITIALLY", "DEFERRED"], ["INITIALLY", "IMMEDIATE"], ["USING", "BTREE"], ["USING", "HASH"],
  ["DEFERRABLE"], ["NORELY"], ["RELY"]]

/-- What may happen to a row when the row that it refers to changes. -/
def keyActions : List (List String) :=
  [["NO", "ACTION"], ["CASCADE"], ["RESTRICT"], ["SET", "NULL"], ["SET", "DEFAULT"]]

/-- Reads the first of the given sequences of words that comes next. -/
def phraseAmong (options : List (List String)) : Parser Bool :=
  match options with
  | [] => return false
  | o :: r => do if ← phrase o then return true else phraseAmong r

/-- Reads the options of a key. The token behind them is looked at, so that the comments of the
last one are free again. -/
def keyOptions : Parser Unit := do
  whileSo do
    if ← word "ON" then
      advance
      needed (phraseAmong keyActions)
      return true
    else phraseAmong keyOptionWords
  modify fun p => { p with free := p.free || !p.rest.isEmpty }

/-- Reads a function, or a value that is called without brackets. -/
def callOrValue (depth : Nat) : Parser Bool := do
  let d ← read
  if (← nextIs fun t => t.mayName d) && (← secondIs (·.isSign "(")) then
    advanceTaking depth
    group depth
    take depth
    return true
  else if ← nextIs fun t => t.isOneOf valueWords then
    advanceTaking depth
    return true
  else return false

/-- Reads a word or a text, which has to be there. -/
def wordOrText (depth : Nat) : Parser Unit := do
  unless ← skipIf (·.mustName) do failure
  take depth

/-- Reads the group that comes next, if there is one. -/
def groupIfAny (depth : Nat) : Parser Unit := do
  if ← nextIs (·.isSign "(") then
    group depth
    take depth

/-! ### Kinds of constraints -/

/-- The start and the step of a counter. -/
def counter : Parser Unit := do
  if ← nextIs (·.isSign "(") then group 3
  else if ← word "START" <||> word "START WITH" then
    let _ ← arithmetic 3
    if ← phrase ["INCREMENT"] then
      let _ ← word "BY"
      let _ ← arithmetic 3
    let _ ← oneOf? ["ORDER", "NOORDER"]

/-- A value that the database generates. -/
def generated : Parser Unit := do
  if ← phrase ["BY", "DEFAULT"] then
    let _ ← phrase ["ON", "NULL"]
  else
    let _ ← phrase ["ALWAYS"]
  let _ ← word "AS"
  if ← phrase ["ROW"] then
    let _ ← oneOf? ["START", "END"]
    let _ ← phrase ["HIDDEN"]
  else
    let _ ← phrase ["IDENTITY"]
    groupIfAny 3
    let _ ← oneOf? ["STORED", "VIRTUAL"]

/-- The primary key: of a column, or of the columns in brackets. -/
def primaryKey : Parser Unit := do
  let _ ← oneOf? ["ASC", "DESC"]
  groupIfAny 3
  if ← phrase ["INCLUDE"] then group 3
  keyOptions

/-- Values that differ; in most dialects a name may follow. -/
def distinctValues : Parser Unit := do
  let d ← read
  let _ ← oneOf? ["KEY", "INDEX"]
  let _ ← phrase ["NULLS", "NOT", "DISTINCT"]
  if d ≠ .postgres && d ≠ .redshift && (← nextIs fun t => t.mayName d) then advanceTaking 3
  groupIfAny 3
  if ← phrase ["INCLUDE"] then group 3
  keyOptions

/-- The table that a column refers to. The comments at the end of its columns count for the
columns and for the constraint. -/
def reference : Parser Unit := do
  tableReference 5
  groupIfAny 3
  keyOptions

/-- Columns that refer to another table. -/
def foreignKey : Parser Unit := do
  unless ← nextIs (·.isWord "REFERENCES") do group 3
  if ← word "REFERENCES" then reference

/-- An index within the definition of a table. -/
def index : Parser Unit := do
  let d ← read
  if ← nextIs fun t => t.mayName d then advance
  if ← word "USING" then advance
  group 3
  whileSo do
    if ← phrase ["KEY_BLOCK_SIZE"] then
      let _ ← sign "="
      needed (skipIf (·.kind = .number))
      return true
    else if ← word "USING" then
      advance
      return true
    else if ← phrase ["COMMENT"] then
      needed (skipIf (·.kind = .string))
      return true
    else phraseAmong [["VISIBLE"], ["INVISIBLE"]]

/-- The table that a definition copies. -/
def likeTable : Parser Unit := do
  tableReference 5
  groupIfAny 4
  whileSo do
    if (← oneOf? ["INCLUDING", "EXCLUDING"]).isSome then
      advance
      return true
    else return false

/-- Rows that exclude one another. -/
def exclusion : Parser Unit := do
  if ← word "USING" then advance
  groupIfAny 3
  if ← word "WHERE" then group 3

/-- Policies and tags. -/
def policy : Parser Bool := do
  let _ ← word "WITH"
  if ← phraseAmong [["MASKING", "POLICY"], ["PROJECTION", "POLICY"]] then
    tableReference 3
    if ← word "USING" then group 3
    return true
  else if ← phrase ["TAG"] then
    group 3
    return true
  else return false

/-! ### Constraints -/

/-- What a constraint tells about a column: whether it may be null, or nothing. -/
abbrev Telling := Option Bool

/-- Reads the constraint whose first token has been read; `none` if there is none after all. -/
def constraintAfter (keyword : String) : Parser (Option Telling) := do
  let d ← read
  match keyword with
  | "NULL" =>
    take 2
    return some (some true)
  | "NOT" =>
    if ← phrase ["NULL"] then
      take 2
      return some (some false)
    else if ← phraseAmong [["CASESPECIFIC"], ["FOR", "REPLICATION"]] then return some none
    else return none
  | "DEFAULT" | "EPHEMERAL" | "TTL" => needed (arithmetic 3)
  | "CHECK" =>
    group 3
    let _ ← phrase ["ENFORCED"]
  | "COLLATE" =>
    if ← nextIs (·.kind = .name) then advanceTaking 3 else needed (operandUpTo ⟨false, false, 3⟩ 9)
  | "COMMENT" | "PATH" =>
    unless ← nextIs (·.kind = .string) do failure
    let _ ← texts 3
  | "IDENTITY" | "AUTO_INCREMENT" | "AUTOINCREMENT" => counter
  | "GENERATED" => generated
  | "PRIMARY KEY" => primaryKey
  | "UNIQUE" => distinctValues
  | "REFERENCES" => reference
  | "FOREIGN KEY" => foreignKey
  | "ON" => if ← word "UPDATE" then needed (callOrValue 3) else wordOrText 2
  | "CHARACTER SET" | "FORMAT" | "TITLE" => wordOrText 3
  | "ENCODE" =>
    unless ← skipIf (·.isPlain d) do failure
    take 3
  | "COMPRESS" => if ← nextIs (·.isSign "(") then group 3 else needed (arithmetic 3)
  | "CLUSTERED" | "NONCLUSTERED" => group 3
  | "EXCLUDE" => exclusion
  | "LIKE" => likeTable
  | "CASESPECIFIC" | "UPPERCASE" => pure ()
  | "PERIOD" => if ← word "FOR SYSTEM_TIME" then group 3 else return none
  | "WITH" =>
    if d = .snowflake then
      unless ← policy do return none
    else group 3
  | "MASKING" | "PROJECTION" | "TAG" | "OPTIONS" | "KEY" | "INDEX" | "FULLTEXT" | "SPATIAL"
  | "ZEROFILL" => return none
  | _ => return none
  return some none

/-- Reads a constraint that only one dialect knows; the next token is its first. -/
def localConstraint (keyword : String) : Parser Bool := do
  let d ← read
  match d, keyword with
  | .snowflake, "MASKING" | .snowflake, "PROJECTION" | .snowflake, "TAG" => policy
  | .bigquery, "OPTIONS" =>
    advance
    group 3
    return true
  | .mysql, "KEY" | .mysql, "INDEX" =>
    advance
    index
    return true
  | .mysql, "FULLTEXT" | .mysql, "SPATIAL" =>
    advance
    let _ ← oneOf? ["INDEX", "KEY"]
    index
    return true
  | .mysql, "ZEROFILL" =>
    advance
    return true
  | _, _ => return false

/-- Reads a constraint, if there is one. -/
def unnamedConstraint? : Parser (Option Telling) := do
  let some t ← peek | return none
  if t.kind = .string || t.kind = .number || t.kind = .sign then return none
  let before ← get
  if ← localConstraint t.upperText then return some none
  else
    advance
    match ← constraintAfter t.upperText with
    | some told => return some told
    | none =>
      backTo before
      return none

/-- Reads a constraint of a column, which may have a name, if there is one. -/
def columnConstraint? : Parser (Option Telling) := do
  let named ← word "CONSTRAINT"
  let hasName ← if named then skipIf (·.mustName) else pure false
  if hasName then take 2
  match ← unnamedConstraint? with
  | some told =>
    take 1
    return some told
  | none => return if hasName then some none else none

/-- Reads the constraints of a column and gives what they tell, the first one first. -/
def columnConstraints : Nat → Parser (List Telling)
  | 0 => return []
  | n + 1 => do
    match ← columnConstraint? with
    | some told => return told :: (← columnConstraints n)
    | none => return []

/-- The words that begin a constraint of a table without a name. -/
def tableConstraintWords (d : Dialect) : List String :=
  ["CHECK", "EXCLUDE", "FOREIGN KEY", "LIKE", "PERIOD", "PRIMARY KEY", "UNIQUE"] ++
    (if d = .mysql then ["FULLTEXT", "INDEX", "KEY", "SPATIAL"] else [])

/-- Reads a constraint of a table, if there is one. A named one may have several parts. -/
def tableConstraint : Parser Bool := do
  let d ← read
  if ← word "CONSTRAINT" then
    unless ← skipIf (·.mustName) do failure
    let part : Parser Bool := do
      if ← nextIs (·.kind = .name) then callOrValue 2
      else if (← unnamedConstraint?).isSome then return true
      else callOrValue 2
    needed part
    whileSo part
    return true
  else if ← nextIs fun t => t.isOneOf (tableConstraintWords d) then
    return (← unnamedConstraint?).isSome
  else return false

end ColumnLint.Sql.Parser

import ColumnLint.Sql.DataType
import ColumnLint.Sql.Lexer
import ColumnLint.Sql.Parser

/-!
# Parsing types

A type is a word that the dialect knows or, in the dialects that have types of their users, any
plain word or quoted name. Its arguments follow between brackets, further words may follow
those, and brackets behind all of it make an array.
-/

namespace ColumnLint.Sql

open ColumnLint.Text

/-- Whether plain words and quoted names may be types. -/
def Dialect.hasNamedTypes : Dialect → Bool
  | .tsql | .postgres | .oracle | .standard => true
  | _ => false

/-- A text between quotes as a dialect writes it. -/
def Dialect.writtenText (d : Dialect) (s : String) : String :=
  let escape (c : Char) : List Char :=
    if c = '\'' then
      if d.stringEscapes.head? = some '\\' then ['\\', '\''] else ['\'', '\'']
    else if !d.hasBackslash then [c]
    else
      match "abfnrtv\\".toList.find? fun x => Lexer.escapeSequence? x = some c with
      | some x => ['\\', x]
      | none => [c]
  String.ofList ('\'' :: s.toList.flatMap escape ++ ['\''])

/-- A name between quotes as a dialect writes it. -/
def Dialect.writtenName (d : Dialect) (s : String) : String :=
  let (first, last) :=
    match d with
    | .tsql => ('[', ']')
    | .mysql | .bigquery | .databricks => (Char.ofNat 0x60, Char.ofNat 0x60)
    | _ => ('"', '"')
  String.ofList (first :: s.toList.flatMap (fun c => if c = last then [c, c] else [c]) ++ [last])

/-- The units of stretches of time. -/
def intervalUnits : List String := [
  "YEAR", "YEARS", "QUARTER", "QUARTERS", "MONTH", "MONTHS", "WEEK", "WEEKS", "DAY", "DAYS",
  "HOUR", "HOURS", "MINUTE", "MINUTES", "SECOND", "SECONDS", "MILLISECOND", "MILLISECONDS",
  "MICROSECOND", "MICROSECONDS", "NANOSECOND", "NANOSECONDS"]

namespace Parser

/-- Reads the texts between quotes that come next and joins them; the first must be there. -/
def texts (depth : Nat) : Parser String := do
  let d ← read
  let some first ← peek | failure
  advanceTaking depth
  let mut parts := [d.writtenText first.text]
  for t in (← get).rest.takeWhile (·.kind = .string) do
    if d ≠ .bigquery then
      advanceTaking depth
      parts := parts ++ [d.writtenText t.text]
  return match parts with
    | [s] => s
    | _ => "CONCAT(" ++ ", ".intercalate parts ++ ")"

/-- Reads a token whose comments are lost. -/
def advanceLosing : Parser Unit := do
  advance
  modify fun p => { p with free := false }

/-- Reads what may be a size of a type: a number, a text, a star or a word. -/
def sizeValue? : Parser (Option String) := do
  let d ← read
  let some t ← peek | return none
  match t.kind with
  | .number =>
    advanceTaking 3
    return some t.text
  | .string => return some (← texts 3)
  | .sign => if ← sign "*" then return some "*" else return none
  | .word | .name =>
    let leadsOn ← secondIs fun u => u.isSign "(" || u.isSign "."
    if t.mayName d && !leadsOn then
      advanceLosing
      return some t.upperText
    else return none

/-- Reads a size of a type. A further word says what the size counts; only one dialect keeps it. -/
def size? : Parser (Option String) := do
  let d ← read
  let some size ← sizeValue? | return none
  let some u ← peek | return some size
  if u.mustName then
    advanceTaking 3
    return some (if d = .oracle then size ++ " " ++ u.text else size)
  else return some size

/-- Reads a value of a type that lists its values. -/
def value? : Parser (Option String) := do
  let some t ← peek | return none
  match t.kind with
  | .string => return some (← texts 2)
  | .sign => return none
  | _ =>
    advanceTaking 2
    return some t.text

/-- Reads arguments between commas and gives those that are there. -/
def arguments (argument : Parser (Option α)) : Parser (List α) := do
  let first ← argument
  let mut found := first.toList
  let mut more := true
  for _ in (← get).rest do
    if more then
      if ← sign "," then
        take 2
        found := found ++ (← argument).toList
      else more := false
  return found

/-- What is said of a field behind its type. -/
def remark? : Parser (Option String) := do
  if ← phrase ["NOT", "NULL"] then return some "NOT NULL"
  else if (← nextIs (·.isWord "COMMENT")) && (← secondIs (·.kind = .string)) then
    advance
    return some ("COMMENT " ++ (← texts 3))
  else return none

/-- The name at the start of a type, with the text that it is reported by. -/
def namedType (first : Token) : Parser DataType := do
  let d ← read
  advanceLosing
  if d = .postgres then modify fun p => { p with free := true }
  take 2
  let mut name := first.text
  let mut parts := 1
  for _ in (← get).rest do
    if ← sign "." then
      let some t ← peek | failure
      unless t.mustName do failure
      if d = .postgres then advanceTaking 2 else advance
      name := name ++ "." ++ t.text
      parts := parts + 1
  return .plain
    (.named
      (if d = .postgres && parts = 1 && first.kind = .name then (Dialect.writtenName d name)
        else name)) []

/-- The start of a type: the type without arguments. -/
def typeStart? : Parser (Option DataType) := do
  let d ← read
  let some t ← peek | return none
  match t.typeName? d with
  | some name =>
    advance
    return some
      (.plain (if name.standard = "USER-DEFINED" then .unnamed else .builtIn name) [])
  | none =>
    if t.kind = .name then
      let inner := ((tokensOf d t.text).getD []).filterMap fun u => some (u.typeName? d)
      match inner with
      | [some name] =>
        advanceLosing
        return some (.plain (.builtIn name) [])
      | _ => if d.hasNamedTypes then return some (← namedType t) else return none
    else if t.isPlain d && d.hasNamedTypes then return some (← namedType t)
    else return none

/-- Reads what may follow a built-in type and its sizes: a time zone, units or a sign. -/
def typeSuffix (name : TypeName) (sizes : List String) : Parser DataType := do
  let d ← read
  if name.takesZone d then
    if ← phrase ["WITH", "TIME", "ZONE"] then
      return .plain (.builtIn ⟨if name.isTimeOfDay then "TIMETZ" else "TIMESTAMPTZ"⟩) sizes
    if ← phrase ["WITH", "LOCAL", "TIME", "ZONE"] then
      return .plain (.builtIn ⟨"TIMESTAMPLTZ"⟩) sizes
    let _ ← phrase ["WITHOUT", "TIME", "ZONE"]
  if name.standard = "INTERVAL" then
    if ← nextIs fun t => t.isPlain d && intervalUnits.contains t.upperText then
      advanceTaking 3
      if ← phrase ["TO"] then
        if ← nextIs (·.isPlain d) then advanceTaking 4
      return .plain .span sizes
  if ← phrase ["UNSIGNED"] then
    match name.unsigned? with
    | some u => return .plain (.builtIn u) sizes
    | none => failure
  return .plain (.builtIn name) sizes

/-- The sizes of a vector: the first one is a type. -/
def vectorSizes (d : Dialect) : List String → Option (List String)
  | [] => none
  | s :: r => (TypeName.ofWord? d s).map fun t => t.written d [] :: r

/-- Reads sizes or values up to the closing bracket; `none` if they do not end there. -/
def sizes? (head : TypeHead) : Parser (Option (List String)) := do
  let found ← match head with
    | .builtIn name => if name.holdsValues then arguments value? else arguments size?
    | _ => arguments size?
  if ← sign ")" then
    match head with
    | .builtIn ⟨"VECTOR"⟩ =>
      match vectorSizes (← read) found with
      | some s => return some s
      | none => failure
    | _ => return some found
  else return none

/-- Reads the brackets that make arrays of a type. In a definition they may hold a size. -/
def arraySuffix (inDefinition : Bool) : Nat → DataType → Parser DataType
  | 0, t => return t
  | n + 1, t => do
    let before ← get
    if ← sign "[" then
      if !inDefinition && !(← nextIs (·.isSign "]")) then
        backTo before
        return t
      skipOpen 3 ((← get).rest.length + 1) 1
      arraySuffix inDefinition n (.holding ⟨"ARRAY"⟩ [(none, t, [])])
    else return t

/-- Reads the word that makes an array of a type. -/
def arrayWord (t : DataType) : Parser DataType := do
  if ← word "ARRAY" then
    if ← nextIs (·.isSign ",") then failure
    let _ ← phrase ["NOT", "NULL"]
    return .holding ⟨"ARRAY"⟩ [(none, t, [])]
  else return t

/-- The type as a dialect takes it: one gives numbers a size, another drops the bounds of texts
outside definitions. -/
def adjustedType (d : Dialect) (inDefinition : Bool) (t : DataType) : DataType :=
  match t with
  | .plain (.builtIn name) sizes =>
    if d = .snowflake && name.standard = "DECIMAL" && sizes.isEmpty then
      .plain (.builtIn name) ["38", "0"]
    else if d = .databricks && !inDefinition &&
        (name.standard = "CHAR" || name.standard = "VARCHAR") then
      .plain (.builtIn ⟨"TEXT"⟩) []
    else t
  | _ => t

/-- The name of a field and the colon after it, if a type follows. -/
def fieldName? (d : Dialect) : Parser (Option String) := do
  let some t ← peek | return none
  if (t.kind = .word && t.mustName) || t.kind = .name then
    let before ← get
    advanceTaking 2
    let _ ← sign ":"
    if ← nextIs fun u => (u.typeName? d).isSome then
      return some (if t.kind = .name then Dialect.writtenName d t.text else t.text)
    else
      backTo before
      return none
  else return none

/-- Reads what a type that holds others holds, between round or pointed brackets; `none` if the
round ones do not end there. -/
def holdingType? (name : TypeName)
    (held : Parser (Option (Option String × DataType × List String))) :
    Parser (Option DataType) := do
  if ← sign "(" then
    let found ← arguments held
    if ← sign ")" then return some (.holding name found) else return none
  else if ← sign "<" then
    let found ← arguments held
    require ">"
    return some (.holding name found)
  else
    if name.standard = "ARRAY" then let _ ← phrase ["[", "]"]
    return some (.holding name [])

/-- Reads the sizes of a type and what may follow them; `none` if their brackets do not end. -/
def sizedType? (head : TypeHead) : Parser (Option DataType) := do
  let bracketed ← sign "("
  let sizes ← if bracketed then sizes? head else pure (some [])
  match sizes, head with
  | none, _ => return none
  | some sizes, .builtIn name => return some (← typeSuffix name sizes)
  | some sizes, _ => return some (.plain head sizes)

/-- Reads the rest of a type after its first word or name; `none` if it is no type after all. -/
def typeRest? (start : DataType)
    (inner : Parser (Option DataType)) : Parser (Option DataType) := do
  let d ← read
  let unnamed : Parser (Option (Option String × DataType × List String)) := do
    return (← inner).map fun t => (none, t, [])
  let field : Parser (Option (Option String × DataType × List String)) := do
    let name ← fieldName? d
    let some t ← inner | return none
    let first ← remark?
    let second ← remark?
    return some (name, t, first.toList ++ second.toList)
  match start.head with
  | .builtIn name =>
    if name.holdsFields then holdingType? name field
    else if name.holdsTypes then holdingType? name unnamed
    else sizedType? start.head
  | head => sizedType? head

/-- Reads a type, if there is one, at most so many types deep. -/
def type? (inDefinition : Bool) : Nat → Parser (Option DataType)
  | 0 => failure
  | n + 1 => do
    let d ← read
    let before ← get
    let some start ← typeStart? | return none
    if start.isBare then return some start
    match ← typeRest? start (type? inDefinition n) with
    | none =>
      backTo before
      return none
    | some t =>
      let t ← arrayWord t
      let whole ← arraySuffix inDefinition ((← get).rest.length) t
      return some (adjustedType d inDefinition whole)

/-- Reads the type of a column, if there is one. -/
def columnType? (inDefinition : Bool) : Parser (Option DataType) := do
  type? inDefinition ((← get).rest.length + 1)

end Parser

/-- Whether a text looks like a word for a type: letters of ASCII and the underscore begin one, word
characters and spaces go on, and a line feed may end it. -/
def looksLikeType : List Char → Bool
  | [] => false
  | c :: r =>
    let r := if r.getLast? = some '\n' then r.dropLast else r
    (c.isAlpha || c = '_') && r.all fun x => isWordChar x || x = ' '

/-- The word for a type as the script spells it: the first token after a column's name that is
none of the words which may lead up to the type, if it looks like a word. -/
def spelledType? (afterName : List Token) : Option String :=
  match afterName.dropWhile fun t => ["SET", "DATA", "TYPE"].contains t.upperText with
  | [] => none
  | t :: _ => if looksLikeType t.text.toList then some t.upperText else none

end ColumnLint.Sql

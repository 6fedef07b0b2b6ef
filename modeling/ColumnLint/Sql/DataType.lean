import ColumnLint.Sql.TypeName
import ColumnLint.Text.Case

/-!
# Types of columns

A type with its arguments: sizes or values, which are kept as text, or types again. The
arguments of a column's type are written in the dialect of the script
(`DataType.parameters`), whatever words the script uses for them.
-/

namespace ColumnLint.Sql

open ColumnLint.Text

/-- What a type is without its arguments. -/
inductive TypeHead where
  | builtIn (name : TypeName)
  /-- A type that users have defined, by the name as it is reported. -/
  | named (name : String)
  /-- A stretch of time with its units, which has no name. -/
  | span
  /-- A type that is only said to be defined by users. -/
  | unnamed
  deriving DecidableEq, Repr

/-- A type. -/
inductive DataType where
  /-- A type with sizes or values. -/
  | plain (head : TypeHead) (sizes : List String)
  /-- A type that holds others, each with a name or none and with what is said of it. -/
  | holding (name : TypeName) (held : List (Option String × DataType × List String))
  deriving Repr

namespace DataType

/-- The type without its arguments. -/
def head : DataType → TypeHead
  | .plain h _ => h
  | .holding name _ => .builtIn name

/-- Whether the type takes neither sizes nor brackets. -/
def isBare (t : DataType) : Bool :=
  match t.head with
  | .builtIn name => name.isBare
  | _ => false

/-- A field: its type between its name and what is said of it. -/
def fieldText (separator : String) (name : Option String) (type : String)
    (remarks : List String) : String :=
  " ".intercalate
    ((match name with
      | some n => n ++ separator ++ type
      | none => type) :: remarks)

/-- A type that holds others, which are given as they are written. -/
def holdingText (d : Dialect) (name : TypeName) (held : List String) : String :=
  let inner := ", ".intercalate held
  let word := name.spelling d
  if held.isEmpty then word
  else if name.standard = "ARRAY" && (d = .postgres || d = .redshift) then inner ++ "[]"
  else if d = .snowflake then word ++ "(" ++ inner ++ ")"
  else word ++ "<" ++ inner ++ ">"

mutual

/-- A type as it is written within another. -/
def written (d : Dialect) : DataType → String
  | .plain (.builtIn name) sizes => name.written d sizes
  | .plain (.named name) sizes =>
    name ++ (if sizes.isEmpty then "" else "(" ++ ", ".intercalate sizes ++ ")")
  | .plain _ _ => "INTERVAL"
  | .holding name held => holdingText d name (writtenAll d held)

/-- Fields as they are written within a type. -/
def writtenAll (d : Dialect) : List (Option String × DataType × List String) → List String
  | [] => []
  | (name, t, remarks) :: r =>
    fieldText (if d = .databricks then ": " else " ") name (written d t) remarks ::
      writtenAll d r

end

/-- The arguments of a column's type. -/
def parameters (d : Dialect) : DataType → List String
  | .plain _ sizes => sizes
  | .holding _ held => held.map fun (name, t, remarks) => fieldText " " name (t.written d) remarks

/-- The word for a type where the script's own word is not known. -/
def word? (d : Dialect) (t : DataType) : Option String :=
  match t.head with
  | .builtIn name => some (upper (name.written d []))
  | .named name => some (upper name)
  | .span | .unnamed => none

end DataType

end ColumnLint.Sql

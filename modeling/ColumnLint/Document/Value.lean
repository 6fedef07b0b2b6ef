import ColumnLint.Number.Binary64

/-!
# Document values

The values that a JSON or YAML document can hold. JSON has the first seven forms; YAML
also has dates, octets, sets, tuples and mappings whose keys are no texts, which
matter here only for their kind and for what they yield when they are gone through.
-/

namespace ColumnLint

/-- The kinds of value that only YAML has. -/
inductive ForeignKind where
  | date
  | timestamp
  | octets
  | set
  | tuple
  /-- A mapping with a key that is no text. -/
  | mapping
  deriving DecidableEq, Repr

/-- A value of a document. -/
inductive Value where
  | null
  | bool (b : Bool)
  | int (n : Int)
  | float (x : Binary64)
  | text (s : String)
  | list (items : List Value)
  /-- Members in order of first appearance, with distinct keys. -/
  | object (members : List (String × Value))
  /-- A value that only YAML has, with the elements, keys or octets it yields. -/
  | foreign (kind : ForeignKind) (items : List Value)
  deriving Repr, Inhabited

/-- The members of an object. -/
abbrev Members := List (String × Value)

namespace Members

/-- The members with `key` set to `value`: in place if the key is there, else at the end. -/
def put (members : Members) (key : String) (value : Value) : Members :=
  match members with
  | [] => [(key, value)]
  | m :: r => if m.1 = key then (key, value) :: r else m :: put r key value

/-- The members of a list of pairs: a repeated key keeps its place and takes the last value. -/
def ofPairs (pairs : List (String × Value)) : Members :=
  pairs.foldl (fun members p => members.put p.1 p.2) []

end Members

namespace Value

/-- The name under which messages speak of a value's kind. -/
def kindName : Value → String
  | .null => "NoneType"
  | .bool _ => "bool"
  | .int _ => "int"
  | .float _ => "float"
  | .text _ => "str"
  | .list _ => "list"
  | .object _ => "dict"
  | .foreign .date _ => "datetime.date"
  | .foreign .timestamp _ => "datetime.datetime"
  | .foreign .octets _ => "bytes"
  | .foreign .set _ => "set"
  | .foreign .tuple _ => "tuple"
  | .foreign .mapping _ => "dict"

/-- Whether the value counts as something: zero, nothing and the empty values do not. -/
def isTruthy : Value → Bool
  | .null => false
  | .bool b => b
  | .int n => n ≠ 0
  | .float (.finite _ m _) => m ≠ 0
  | .float _ => true
  | .text s => s ≠ ""
  | .list items => !items.isEmpty
  | .object members => !members.isEmpty
  | .foreign .date _ | .foreign .timestamp _ => true
  | .foreign _ items => !items.isEmpty

/-- What the value yields when it is gone through: a text its characters, an object its keys.
`none` for a value that has no elements. -/
def elements? : Value → Option (List Value)
  | .text s => some (s.toList.map fun c => .text (String.singleton c))
  | .list items => some items
  | .object members => some (members.map fun m => .text m.1)
  | .foreign .date _ | .foreign .timestamp _ => none
  | .foreign _ items => some items
  | _ => none

/-- The most digits that an integer may have in decimal notation. -/
def longestInteger : Nat := 4300

/-- The wording for an integer with more digits. -/
def longIntegerMessage (digits : Nat) : String :=
  "Exceeds the limit (" ++ toString longestInteger ++
    " digits) for integer string conversion: value has " ++ toString digits ++
    " digits; use sys.set_int_max_str_digits() to increase the limit"

end Value

end ColumnLint

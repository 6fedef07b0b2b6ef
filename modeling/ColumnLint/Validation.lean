import ColumnLint.Document.Value
import ColumnLint.Text.Utf8
import ColumnLint.Text.Blank

/-!
# Reading structures from documents

A document is read into a structure field by field. All faults are collected, each with
the path to the value at fault, so a reader is an applicative that keeps the problems of
both sides (`Validated`).
-/

namespace ColumnLint

open ColumnLint.Text

/-! ### Problems -/

/-- A step into a document. -/
inductive Step where
  | key (name : String)
  | index (n : Nat)
  deriving DecidableEq, Repr

/-- The step as part of a path. -/
def Step.text : Step → String
  | .key name => name
  | .index n => toString n

/-- What is wrong with a value. -/
inductive Fault where
  | missing
  | notText
  | undecodableText
  | notList
  | notObject
  | notModel (model : String)
  | notBool
  | unreadableBool
  | notInt
  | unreadableInt
  | fractionalInt
  | infiniteInt
  | oversizedInt
  | notOneOf (choices : List String)
  | extraField
  | refused (reason : String)
  deriving DecidableEq, Repr

/-- The choices between quotes, the last one after "or". -/
def choicesText : List String → String
  | [] => ""
  | [c] => "'" ++ c ++ "'"
  | [c, d] => "'" ++ c ++ "' or '" ++ d ++ "'"
  | c :: cs => "'" ++ c ++ "', " ++ choicesText cs

/-- The wording of a fault. -/
def Fault.message : Fault → String
  | .missing => "Field required"
  | .notText => "Input should be a valid string"
  | .undecodableText => "Input should be a valid string, unable to parse raw data as a unicode string"
  | .notList => "Input should be a valid list"
  | .notObject => "Input should be a valid dictionary"
  | .notModel model => "Input should be a valid dictionary or instance of " ++ model
  | .notBool => "Input should be a valid boolean"
  | .unreadableBool => "Input should be a valid boolean, unable to interpret input"
  | .notInt => "Input should be a valid integer"
  | .unreadableInt => "Input should be a valid integer, unable to parse string as an integer"
  | .fractionalInt => "Input should be a valid integer, got a number with a fractional part"
  | .infiniteInt => "Input should be a finite number"
  | .oversizedInt => "Unable to parse input string as an integer, exceeded maximum size"
  | .notOneOf choices => "Input should be " ++ choicesText choices
  | .extraField => "Extra inputs are not permitted"
  | .refused reason => "Value error, " ++ reason

/-- The kind of a fault in one word. -/
def Fault.code : Fault → String
  | .missing => "missing"
  | .notText => "string_type"
  | .undecodableText => "string_unicode"
  | .notList => "list_type"
  | .notObject => "dict_type"
  | .notModel _ => "model_type"
  | .notBool => "bool_type"
  | .unreadableBool => "bool_parsing"
  | .notInt => "int_type"
  | .unreadableInt => "int_parsing"
  | .fractionalInt => "int_from_float"
  | .infiniteInt => "finite_number"
  | .oversizedInt => "int_parsing_size"
  | .notOneOf _ => "enum"
  | .extraField => "extra_forbidden"
  | .refused _ => "value_error"

/-- A fault and where it lies. -/
structure Problem where
  path : List Step
  fault : Fault
  deriving DecidableEq, Repr

/-- The two lines of a problem: its path and its wording. -/
def Problem.message (p : Problem) : String :=
  ".".intercalate (p.path.map Step.text) ++ "\n  " ++ p.fault.message ++
    " [type=" ++ p.fault.code ++ "]"

/-- The problem seen from one step further out. -/
def Problem.under (s : Step) (p : Problem) : Problem :=
  { p with path := s :: p.path }

/-- The report on all problems of a structure. -/
def problemsMessage (model : String) (problems : List Problem) : String :=
  "\n".intercalate
    ((toString problems.length ++ " validation error" ++ (if problems.length = 1 then "" else "s") ++
      " for " ++ model) :: problems.map Problem.message)

/-! ### Collecting problems -/

/-- A structure, or the problems that keep a document from being one. -/
inductive Validated (α : Type) where
  | valid (a : α)
  | invalid (problems : List Problem)
  deriving Repr

namespace Validated

/-- A single problem at the value itself. -/
def fault (f : Fault) : Validated α :=
  .invalid [⟨[], f⟩]

/-- Keeps the problems of both sides, the left ones first. -/
def both (f : Validated (α → β)) (x : Validated α) : Validated β :=
  match f, x with
  | .valid f, .valid a => .valid (f a)
  | .valid _, .invalid ps => .invalid ps
  | .invalid ps, .valid _ => .invalid ps
  | .invalid ps, .invalid qs => .invalid (ps ++ qs)

instance : Applicative Validated where
  pure := .valid
  seq f x := both f (x ())

/-- Applies a further check to a valid structure. -/
def andThen (x : Validated α) (check : α → Validated β) : Validated β :=
  match x with
  | .valid a => check a
  | .invalid ps => .invalid ps

/-- The structure as seen from one step further out. -/
def under (s : Step) : Validated α → Validated α
  | .valid a => .valid a
  | .invalid ps => .invalid (ps.map (Problem.under s))

end Validated

/-! ### Readers of single values -/

/-- A reader of a value. -/
abbrev Reader (α : Type) := Value → Validated α

namespace Reader

/-- The octets of a value that holds them. -/
def octets? (items : List Value) : List UInt8 :=
  items.filterMap fun
    | .int n => some (UInt8.ofNat n.toNat)
    | _ => none

/-- Any value. -/
def anything : Reader Value := .valid

/-- A text; octets count as the text that they spell. -/
def text : Reader String
  | .text s => .valid s
  | .foreign .octets items =>
    match Utf8.decode (octets? items) with
    | .ok s => .valid s
    | .error _ => .fault .undecodableText
  | _ => .fault .notText

/-- Nothing, or what the given reader reads. -/
def nullable (read : Reader α) : Reader (Option α)
  | .null => .valid none
  | v => some <$> read v

/-- A word for a truth value, in any case. -/
def boolWord? (s : String) : Option Bool :=
  let w := String.ofList (s.toList.map Char.toLower)
  if ["0", "off", "f", "false", "n", "no"].contains w then some false
  else if ["1", "on", "t", "true", "y", "yes"].contains w then some true
  else none

/-- A truth value: itself, zero or one, or a word for it. -/
def boolean : Reader Bool
  | .bool b => .valid b
  | .int n =>
    if n = 0 then .valid false else if n = 1 then .valid true else .fault .unreadableBool
  | .float x =>
    if x.toInt? = some 0 then .valid false
    else if x.toInt? = some 1 then .valid true
    else .fault .notBool
  | .text s =>
    match boolWord? s with
    | some b => .valid b
    | none => .fault .unreadableBool
  | .foreign .octets items =>
    match Utf8.decode (octets? items) with
    | .ok s =>
      match boolWord? s with
      | some b => .valid b
      | none => .fault .unreadableBool
    | .error _ => .fault .unreadableBool
  | _ => .fault .notBool

/-- The value of the digits read so far and the rest, with single underscores between digits. -/
def digitsFrom (afterDigit : Bool) (n : Nat) : List Char → Option Nat
  | [] => if afterDigit then some n else none
  | c :: r =>
    if c.isDigit then digitsFrom true (n * 10 + (c.toNat - '0'.toNat)) r
    else if c = '_' && afterDigit then digitsFrom false n r
    else none

/-- The white space that may stand around a number in a text: the blanks without the separators
U+001C to U+001F. -/
def isMargin (c : Char) : Bool :=
  isBlank c && !(28 ≤ c.toNat && c.toNat ≤ 31)

/-- A whole number in a text: an optional sign, digits, and an optional point with zeros. -/
def wholeNumber? (s : String) : Option Int :=
  let cs := ((s.toList.dropWhile isMargin).reverse.dropWhile isMargin).reverse
  let (negative, cs) :=
    match cs with
    | '-' :: r => (true, r)
    | '+' :: r => (false, r)
    | _ => (false, cs)
  let whole := cs.takeWhile (· ≠ '.')
  let fraction := cs.dropWhile (· ≠ '.')
  if (fraction.drop 1).all (· = '0') then
    (digitsFrom false 0 whole).map fun n => if negative then -(n : Int) else (n : Int)
  else
    none

/-- A whole number: itself, a truth value, a float without a fractional part within 64 bits, or a
text that spells one. -/
def integer : Reader Int
  | .int n => .valid n
  | .bool b => .valid (if b then 1 else 0)
  | .float x =>
    match x.toInt? with
    | some n => if -Int.pow 2 63 ≤ n && n < Int.pow 2 63 then .valid n else .fault .oversizedInt
    | none => if x.isFinite then .fault .fractionalInt else .fault .infiniteInt
  | .text s =>
    match wholeNumber? s with
    | some n => .valid n
    | none => .fault .unreadableInt
  | _ => .fault .notInt

/-- The elements read one by one, each problem under its index. -/
def items (read : Reader α) : Nat → List Value → Validated (List α)
  | _, [] => .valid []
  | n, v :: vs => List.cons <$> (read v).under (.index n) <*> items read (n + 1) vs

/-- A list; the elements of a set or a tuple count as one. -/
def list (read : Reader α) : Reader (List α)
  | .list vs => items read 0 vs
  | .foreign .set vs => items read 0 vs
  | .foreign .tuple vs => items read 0 vs
  | _ => .fault .notList

/-- An object with any members. -/
def object : Reader Members
  | .object members => .valid members
  | _ => .fault .notObject

/-- A structure inside a structure; `model` is the name of its kind. -/
def nested (model : String) (read : Members → Validated α) : Reader α
  | .object members => read members
  | _ => .fault (.notModel model)

/-- One of the named choices. -/
def oneOf (choices : List (String × α)) : Reader α
  | .text s =>
    match choices.lookup s with
    | some a => .valid a
    | none => .fault (.notOneOf (choices.map Prod.fst))
  | _ => .fault (.notOneOf (choices.map Prod.fst))

end Reader

/-! ### Fields -/

namespace Members

/-- A field that has to be there. -/
def required (members : Members) (key : String) (read : Reader α) : Validated α :=
  match members.lookup key with
  | some v => (read v).under (.key key)
  | none => (Validated.fault .missing).under (.key key)

/-- A field with a value for its absence. -/
def optional (members : Members) (key : String) (absent : α) (read : Reader α) : Validated α :=
  match members.lookup key with
  | some v => (read v).under (.key key)
  | none => .valid absent

/-- No other fields than the named ones. -/
def onlyFields (members : Members) (keys : List String) : Validated Unit :=
  match members.filter (fun m => !keys.contains m.1) with
  | [] => .valid ()
  | extra => .invalid (extra.map fun m => ⟨[.key m.1], .extraField⟩)

end Members

/-! ### Structures -/

/-- Why a document is no structure of the kind asked for. -/
inductive Rejection where
  | notMapping (home kind : String)
  | invalid (model : String) (problems : List Problem)
  deriving DecidableEq, Repr

/-- The wording of a rejection. -/
def Rejection.message : Rejection → String
  | .notMapping home kind => home ++ "() argument after ** must be a mapping, not " ++ kind
  | .invalid model problems => problemsMessage model problems

/-- A kind of structure: the names under which messages speak of it, and how it is read. -/
structure Shape (α : Type) where
  name : String
  home : String
  read : Members → Validated α

namespace Shape

/-- The structure that the members make. -/
def ofMembers (shape : Shape α) (members : Members) : Except Rejection α :=
  match shape.read members with
  | .valid a => .ok a
  | .invalid ps => .error (.invalid shape.name ps)

/-- The structure that a document is. -/
def ofValue (shape : Shape α) : Value → Except Rejection α
  | .object members => shape.ofMembers members
  | v => .error (.notMapping (shape.home ++ "." ++ shape.name) v.kindName)

/-- Reads the structure as part of another one. -/
def nested (shape : Shape α) : Reader α :=
  Reader.nested shape.name shape.read

end Shape

end ColumnLint

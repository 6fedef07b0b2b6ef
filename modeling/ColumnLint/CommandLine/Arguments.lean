import ColumnLint.CommandLine.Choice
import ColumnLint.Text.Quoted
import ColumnLint.Text.Word

/-!
# Reading arguments

Arguments are first told apart without regard to their order (`classify`): options, which begin
with a dash, operands, and the mark `--`, after which there are only operands. A long option may
be cut short as long as only one option begins so, and its value may be joined to it by an
equals sign. Then they are taken one after another (`lintRequest`, `request`).
-/

namespace ColumnLint.CommandLine

open ColumnLint.Text

/-- Why arguments cannot be taken. -/
inductive UsageError where
  | ambiguous (argument : String) (names : List String)
  | missingValue (option : Choice)
  | unusedValue (option : Choice) (value : String)
  | wrongValue (option : Choice) (value : String)
  | unknownCommand (word : String)
  | missingPaths
  | unrecognized (arguments : List String)
  deriving DecidableEq, Repr

/-- How a message speaks of an option. -/
def Choice.title (o : Choice) : String := "/".intercalate o.names

/-- The words that a value may be, in a message. -/
def listedValues (values : List String) : String :=
  " (choose from " ++ ", ".intercalate (values.map quoted) ++ ")"

/-- The wording of an error. -/
def UsageError.message : UsageError → String
  | .ambiguous argument names =>
    "ambiguous option: " ++ argument ++ " could match " ++ ", ".intercalate names
  | .missingValue o => "argument " ++ o.title ++ ": expected one argument"
  | .unusedValue o value => "argument " ++ o.title ++ ": ignored explicit argument " ++ quoted value
  | .wrongValue o value =>
    "argument " ++ o.title ++ ": invalid choice: " ++ quoted value ++ listedValues o.values
  | .unknownCommand word =>
    "argument command: invalid choice: " ++ quoted word ++ listedValues ["lint"]
  | .missingPaths => "the following arguments are required: paths"
  | .unrecognized arguments => "unrecognized arguments: " ++ " ".intercalate arguments

/-! ### Telling arguments apart -/

/-- What an argument is. -/
inductive Piece where
  | operand
  /-- The mark that ends the options. -/
  | mark
  /-- An option by one of its names, with the value that is joined to it. -/
  | option (o : Choice) (name : String) (value : Option String)
  /-- It looks like an option, but there is none of its name. -/
  | unknown
  deriving DecidableEq, Repr

/-- The options of a list by their names. -/
def namedOptions (options : List Choice) : List (String × Choice) :=
  options.flatMap fun o => o.names.map fun name => (name, o)

/-- The parts of an argument around its first equals sign. -/
def splitValue (argument : String) : String × Option String :=
  let cs := argument.toList
  let name := cs.takeWhile (· ≠ '=')
  (String.ofList name,
    if name.length < cs.length then some (String.ofList (cs.drop (name.length + 1))) else none)

/-- The options that an argument can be short for. A long option may be cut short; what follows
the letter of a short one is joined to it. -/
def shortened (options : List Choice) (argument : String) :
    List (String × Choice × Option String) :=
  if argument.startsWith "--" then
    let (start, value) := splitValue argument
    (namedOptions options).filterMap fun (name, o) =>
      if name.startsWith start then some (name, o, value) else none
  else
    let letter := String.ofList (argument.toList.take 2)
    (namedOptions options).filterMap fun (name, o) =>
      if name = letter then some (name, o, some (String.ofList (argument.toList.drop 2)))
      else if name.startsWith argument then some (name, o, none)
      else none

/-- Whether digits, with at most one point among them and one digit behind it, stand after a dash.
A line feed may follow. -/
def isNegativeNumber (argument : String) : Bool :=
  match argument.toList with
  | '-' :: cs =>
    let cs := if cs.getLast? = some '\n' then cs.dropLast else cs
    let whole := cs.takeWhile isDecimalDigit
    match cs.drop whole.length with
    | [] => !whole.isEmpty
    | '.' :: r => !r.isEmpty && r.all isDecimalDigit
    | _ => false
  | _ => false

/-- What an argument is by itself. -/
def pieceOf (options : List Choice) (argument : String) : Except UsageError Piece :=
  let (start, value) := splitValue argument
  let named := namedOptions options
  if !argument.startsWith "-" then .ok .operand
  else if let some o := named.lookup argument then .ok (.option o argument none)
  else if argument = "-" then .ok .operand
  else if let (some o, some v) := (named.lookup start, value) then
    .ok (.option o start (some v))
  else
    match shortened options argument with
    | [(name, o, v)] => .ok (.option o name v)
    | _ :: _ :: _ => .error (.ambiguous argument ((shortened options argument).map (·.1)))
    | [] =>
      if isNegativeNumber argument || argument.toList.contains ' ' then .ok .operand
      else .ok .unknown

/-- All arguments with what they are. After the mark there are only operands. -/
def classify (options : List Choice) : List String → Except UsageError (List (String × Piece))
  | [] => .ok []
  | a :: r =>
    if a = "--" then .ok ((a, .mark) :: r.map fun a => (a, .operand))
    else do
      let piece ← pieceOf options a
      return (a, piece) :: (← classify options r)

/-! ### Options -/

/-- The options that one argument holds, each with the value that is joined to it: a short option
that takes no value may be followed by the letters of others. -/
def expand (options : List Choice) (o : Choice) (name : String) :
    List Char → Except UsageError (List (Choice × Option String))
  | [] => if o.takesValue then .ok [(o, some "")] else .error (.unusedValue o "")
  | c :: r =>
    let value := String.ofList (c :: r)
    if o.takesValue then .ok [(o, some value)]
    else if name.startsWith "--" then .error (.unusedValue o value)
    else
      let next := String.ofList ['-', c]
      match (namedOptions options).lookup next with
      | none => .error (.unusedValue o value)
      | some o' =>
        if r.isEmpty then .ok [(o, none), (o', none)]
        else (expand options o' next r).map ((o, none) :: ·)

/-- The options that an argument holds with their values, and the arguments left. A value that is
not joined is the next argument, which has to be an operand. -/
def taken (options : List Choice) (o : Choice) (name : String) (value : Option String)
    (rest : List (String × Piece)) :
    Except UsageError (List (Choice × Option String) × List (String × Piece)) := do
  let found ←
    match value with
    | some v => expand options o name v.toList
    | none => .ok [(o, none)]
  match found.find? fun f => f.1.takesValue && f.2.isNone, rest with
  | none, _ => return (found, rest)
  | some _, (a, .operand) :: rest =>
    return (found.map fun f => if f.1.takesValue && f.2.isNone then (f.1, some a) else f, rest)
  | some (o, _), _ => .error (.missingValue o)

/-! ### Requests -/

/-- In which form a report is printed. -/
inductive Format where
  | json
  | markdown
  deriving DecidableEq, Repr

/-- What the command that lints is told. -/
structure LintRequest where
  paths : List String := []
  config : Option String := none
  dialect : Option String := none
  format : Format := .json
  severity : Option String := none
  failOn : Option String := none
  minorityOnly : Bool := false
  excludeTables : List String := []
  excludeColumns : List String := []
  verbose : Bool := false
  deriving DecidableEq, Repr

/-- The request with an option taken in; `none` if it asks for help instead. -/
def LintRequest.set (q : LintRequest) (value : String) : Choice → Option LintRequest
  | .help => none
  | .config => some { q with config := some value }
  | .dialect => some { q with dialect := some value }
  | .format => some { q with format := if value = "markdown" then .markdown else .json }
  | .severity => some { q with severity := some value }
  | .failOn => some { q with failOn := some value }
  | .minorityOnly => some { q with minorityOnly := true }
  | .excludeTable => some { q with excludeTables := q.excludeTables ++ [value] }
  | .excludeColumn => some { q with excludeColumns := q.excludeColumns ++ [value] }
  | .verbose => some { q with verbose := true }

/-- The request with options taken in one after another; `none` if one asks for help. -/
def LintRequest.setAll (q : LintRequest) :
    List (Choice × Option String) → Except UsageError (Option LintRequest)
  | [] => .ok (some q)
  | (o, value) :: r =>
    let value := value.getD ""
    if !o.values.isEmpty && !o.values.contains value then .error (.wrongValue o value)
    else
      match q.set value o with
      | none => .ok none
      | some q => q.setAll r

/-- Whether an argument is an option. -/
def Piece.isOption : Piece → Bool
  | .option .. | .unknown => true
  | .operand | .mark => false

/-- The request of classified arguments, with those that find no place; `none` if they ask for
help. Only the first run of operands gives paths. -/
def lintRequestFrom : Nat → LintRequest → List String → List (String × Piece) →
    Except UsageError (Option (LintRequest × List String))
  | 0, q, extra, _ => .ok (some (q, extra))
  | _, q, extra, [] => .ok (some (q, extra))
  | n + 1, q, extra, (a, piece) :: rest =>
    match piece with
    | .unknown => lintRequestFrom n q (extra ++ [a]) rest
    | .option o name value => do
      let (found, rest) ← taken Choice.ofLint o name value rest
      match ← q.setAll found with
      | none => return none
      | some q => lintRequestFrom n q extra rest
    | .operand | .mark =>
      let run := (a, piece) :: rest.takeWhile (!·.2.isOption)
      let rest := rest.dropWhile (!·.2.isOption)
      if q.paths.isEmpty && run.any (·.2 = .operand) then
        lintRequestFrom n { q with paths := (run.filter (·.2 = .operand)).map (·.1) } extra rest
      else lintRequestFrom n q (extra ++ run.map (·.1)) rest

/-- The request of the arguments after the command, with those that find no place; `none` if they
ask for help. -/
def lintRequest (arguments : List String) :
    Except UsageError (Option (LintRequest × List String)) := do
  let pieces ← classify Choice.ofLint arguments
  match ← lintRequestFrom pieces.length {} [] pieces with
  | none => return none
  | some (q, extra) => if q.paths.isEmpty then .error .missingPaths else return some (q, extra)

/-- What arguments ask for. -/
inductive Request where
  | help
  | lintHelp
  /-- No command is given. -/
  | nothing
  | lint (q : LintRequest)
  | wrong (e : UsageError)
  /-- The arguments of the command are wrong. -/
  | lintWrong (e : UsageError)
  deriving DecidableEq, Repr

/-- The request of a command with its arguments; `extra` are those before it that find no place. -/
def commandRequest (extra : List String) : List String → Request
  | "lint" :: arguments =>
    match lintRequest arguments with
    | .error e => .lintWrong e
    | .ok none => .lintHelp
    | .ok (some (q, more)) =>
      if (extra ++ more).isEmpty then .lint q else .wrong (.unrecognized (extra ++ more))
  | word :: _ => .wrong (.unknownCommand word)
  | [] => if extra.isEmpty then .nothing else .wrong (.unrecognized extra)

/-- The request of classified arguments; the first operand is the command. -/
def requestFrom (extra : List String) : List (String × Piece) → Request
  | [] => commandRequest extra []
  | (a, .unknown) :: rest => requestFrom (extra ++ [a]) rest
  | (_, .option o name value) :: rest =>
    match taken Choice.general o name value rest with
    | .error e => .wrong e
    | .ok _ => .help
  | (a, .operand) :: rest => commandRequest extra (a :: rest.map (·.1))
  | (a, .mark) :: rest =>
    if rest.isEmpty then commandRequest (extra ++ [a]) []
    else commandRequest extra (a :: rest.map (·.1))

/-- What arguments ask for. -/
def request (arguments : List String) : Request :=
  match classify Choice.general arguments with
  | .error e => .wrong e
  | .ok pieces => requestFrom [] pieces

end ColumnLint.CommandLine

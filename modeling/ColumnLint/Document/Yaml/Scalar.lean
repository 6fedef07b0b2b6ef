import ColumnLint.Document.Value
import ColumnLint.Document.Yaml.Cursor
import ColumnLint.Text.Blank
import ColumnLint.Text.Case
import ColumnLint.Text.Word

/-!
# Kinds of YAML values

The tag of a value tells its kind. A plain text without a tag gets the kind that its
spelling shows (`Tag.ofPlain`), and a text of a known kind is turned into the value it
spells (`Scalar.value`).
-/

namespace ColumnLint.Yaml

/-- The kind of a value. -/
inductive Tag where
  | null
  | bool
  | int
  | float
  | binary
  | timestamp
  | text
  | sequence
  | mapping
  | set
  | orderedMap
  | pairs
  /-- The sign for merging mappings. -/
  | merge
  /-- The sign for a default value. -/
  | default
  /-- Any other kind. -/
  | unknown (name : String)
  deriving DecidableEq, Repr

namespace Tag

/-- The names of the known kinds. -/
def names : List (String × Tag) := [
  ("tag:yaml.org,2002:null", null), ("tag:yaml.org,2002:bool", bool),
  ("tag:yaml.org,2002:int", int), ("tag:yaml.org,2002:float", float),
  ("tag:yaml.org,2002:binary", binary), ("tag:yaml.org,2002:timestamp", timestamp),
  ("tag:yaml.org,2002:str", text), ("tag:yaml.org,2002:seq", sequence),
  ("tag:yaml.org,2002:map", mapping), ("tag:yaml.org,2002:set", set),
  ("tag:yaml.org,2002:omap", orderedMap), ("tag:yaml.org,2002:pairs", pairs),
  ("tag:yaml.org,2002:merge", merge), ("tag:yaml.org,2002:value", default)]

/-- The kind of a full tag. -/
def ofName (name : String) : Tag :=
  (names.lookup name).getD (unknown name)

/-! ### Plain texts -/

/-- The rest after an optional sign. -/
def dropSign : List Char → List Char
  | '+' :: r => r
  | '-' :: r => r
  | r => r

/-- Digits and underscores. -/
def isDigitOrLow (c : Char) : Bool := c.isDigit || c = '_'

/-- The rest after parts of sixty, each a colon and one or two digits below sixty; `none` if there
is no such part. -/
def dropSixtieths? : List Char → Option (List Char)
  | ':' :: a :: b :: r =>
    if '0' ≤ a && a ≤ '5' && b.isDigit then some ((dropSixtieths? r).getD r)
    else if a.isDigit then some ((dropSixtieths? (b :: r)).getD (b :: r))
    else none
  | [':', a] => if a.isDigit then some [] else none
  | _ => none

/-- Whether the text spells an integer: binary, octal, decimal, hexadecimal or in parts of
sixty. -/
def spellsInt (cs : List Char) : Bool :=
  match dropSign cs with
  | ['0'] => true
  | '0' :: 'b' :: r => !r.isEmpty && r.all fun c => c = '0' || c = '1' || c = '_'
  | '0' :: 'x' :: r =>
    !r.isEmpty && r.all fun c =>
      isDigitOrLow c || ('a' ≤ c && c ≤ 'f') || ('A' ≤ c && c ≤ 'F')
  | '0' :: r => r.all fun c => ('0' ≤ c && c ≤ '7') || c = '_'
  | c :: r =>
    c.isDigit &&
      match r.dropWhile isDigitOrLow with
      | [] => true
      | rest => dropSixtieths? rest = some []
  | [] => false

/-- Whether the text is empty or an exponent with its sign. -/
def isExponent : List Char → Bool
  | [] => true
  | e :: sign :: r =>
    (e = 'e' || e = 'E') && (sign = '+' || sign = '-') && !r.isEmpty && r.all Char.isDigit
  | _ => false

/-- Whether the text spells a floating point number. -/
def spellsFloat (cs : List Char) : Bool :=
  let body := dropSign cs
  [".inf", ".Inf", ".INF"].contains (String.ofList body) ||
    [".nan", ".NaN", ".NAN"].contains (String.ofList cs) ||
    match cs with
    | '.' :: d :: r => d.isDigit && isExponent (r.dropWhile isDigitOrLow)
    | _ =>
      match body with
      | d :: r =>
        d.isDigit &&
          match r.dropWhile isDigitOrLow with
          | '.' :: fraction => isExponent (fraction.dropWhile isDigitOrLow)
          | rest =>
            match dropSixtieths? rest with
            | some ('.' :: fraction) => fraction.all isDigitOrLow
            | _ => false
      | [] => false

/-- The words for truth values. -/
def boolWords : List String := [
  "yes", "Yes", "YES", "no", "No", "NO", "true", "True", "TRUE", "false", "False", "FALSE",
  "on", "On", "ON", "off", "Off", "OFF"]

/-- The spellings of nothing. -/
def nullWords : List String := ["~", "null", "Null", "NULL", ""]

end Tag

/-! ### Points in time -/

/-- A point in time as written. -/
structure TimeText where
  year : Nat
  month : Nat
  day : Nat
  /-- Hour, minute and second. -/
  clock : Option (Nat × Nat × Nat)
  /-- Whether the zone is to the west, and its hours and minutes. -/
  zone : Option (Bool × Nat × Nat)
  /-- Whether month and day have two digits each. -/
  padded : Bool
  deriving Repr

namespace TimeText

/-- Between `least` and `most` digits, as many as there are, and the rest. -/
def digits? (least most : Nat) (cs : List Char) : Option (List Char × List Char) :=
  let taken := (cs.take most).takeWhile Char.isDigit
  if taken.length < least then none else some (taken, cs.drop taken.length)

/-- The number that digits spell. -/
def number (cs : List Char) : Nat := cs.foldl (fun n c => n * 10 + (c.toNat - '0'.toNat)) 0

/-- The rest after one character. -/
def expect? (x : Char) : List Char → Option (List Char)
  | c :: r => if c = x then some r else none
  | [] => none

/-- The zone at the end of a point in time. -/
def zone? (cs : List Char) : Option (Option (Bool × Nat × Nat)) :=
  match cs.dropWhile fun c => c = ' ' || c = '\t' with
  | [] => if cs.isEmpty then some none else none
  | ['Z'] => some none
  | sign :: r =>
    if sign = '+' || sign = '-' then do
      let (hour, r) ← digits? 1 2 r
      match r with
      | [] => return some (sign = '-', number hour, 0)
      | _ =>
        let r ← expect? ':' r
        let (minute, r) ← digits? 2 2 r
        if r.isEmpty then return some (sign = '-', number hour, number minute) else none
    else none

/-- Reads a date, or a date with a time and an optional zone. -/
def parse? (cs : List Char) : Option TimeText := do
  let (year, r) ← digits? 4 4 cs
  let r ← expect? '-' r
  let (month, r) ← digits? 1 2 r
  let r ← expect? '-' r
  let (day, r) ← digits? 1 2 r
  let padded := month.length = 2 && day.length = 2
  match r with
  | [] => return ⟨number year, number month, number day, none, none, padded⟩
  | x :: more =>
    let r ←
      if x = 'T' || x = 't' then some more
      else if x = ' ' || x = '\t' then some (more.dropWhile fun c => c = ' ' || c = '\t')
      else none
    let (hour, r) ← digits? 1 2 r
    let r ← expect? ':' r
    let (minute, r) ← digits? 2 2 r
    let r ← expect? ':' r
    let (second, r) ← digits? 2 2 r
    let r := match r with
      | '.' :: f => f.dropWhile Char.isDigit
      | _ => r
    let zone ← zone? r
    return ⟨number year, number month, number day,
      some (number hour, number minute, number second), zone, padded⟩

/-- The number of days of a month. -/
def daysIn (year month : Nat) : Nat :=
  if month = 2 then
    if year % 4 = 0 && (year % 100 ≠ 0 || year % 400 = 0) then 29 else 28
  else if [4, 6, 9, 11].contains month then 30
  else 31

/-- A span of minutes, to the west or east, in days and seconds. -/
def spanText (west : Bool) (minutes : Nat) : String :=
  let total : Int := if west then -(60 * minutes : Int) else 60 * minutes
  let days := total.fdiv 86400
  let seconds := total.fmod 86400
  "datetime.timedelta(days=" ++ toString days ++
    (if seconds = 0 then "" else ", seconds=" ++ toString seconds) ++ ")"

/-- What is out of range in a point in time, if anything. -/
def outOfRange? (t : TimeText) : Option String :=
  let zoneMinutes := match t.zone with
    | some (_, h, m) => h * 60 + m
    | none => 0
  if 1440 ≤ zoneMinutes then
    some ("offset must be a timedelta strictly between -timedelta(hours=24) and " ++
      "timedelta(hours=24), not " ++
      spanText ((t.zone.map (·.1)).getD false) zoneMinutes ++ ".")
  else if t.year = 0 then some "year 0 is out of range"
  else if t.month = 0 || 12 < t.month then some "month must be in 1..12"
  else if t.day = 0 || daysIn t.year t.month < t.day then some "day is out of range for month"
  else
    match t.clock with
    | none => none
    | some (h, m, s) =>
      if 24 ≤ h then some "hour must be in 0..23"
      else if 60 ≤ m then some "minute must be in 0..59"
      else if 60 ≤ s then some "second must be in 0..59"
      else none

end TimeText

/-- Whether the text spells a point in time: a date alone needs two digits for month and day. -/
def Tag.spellsTime (cs : List Char) : Bool :=
  match TimeText.parse? cs with
  | some t => t.clock.isSome || t.padded
  | none => false

/-- The kind that a plain text shows. -/
def Tag.ofPlain (s : String) : Tag :=
  if boolWords.contains s then .bool
  else if nullWords.contains s then .null
  else if s = "<<" then .merge
  else if s = "=" then .default
  else if spellsFloat s.toList then .float
  else if spellsInt s.toList then .int
  else if spellsTime s.toList then .timestamp
  else .text

/-! ### Values -/

namespace Scalar

/-- The rest after a sign, and whether it is a minus. -/
def signed : List Char → Bool × List Char
  | '-' :: r => (true, r)
  | '+' :: r => (false, r)
  | r => (false, r)

/-- A character as it counts in a number: blanks and decimal digits of all scripts count as those of
ASCII, and no other character beyond ASCII can stand in one. -/
def numberChar (c : Char) : Char :=
  if c.toNat < 127 then c
  else if Text.isBlank c then ' '
  else
    match Text.decimalValue? c with
    | some n => Nat.digitChar n
    | none => '?'

/-- What a text says as a number: its characters without the spaces of ASCII at both ends. -/
def numberText (cs : List Char) : List Char :=
  let isSpace (c : Char) : Bool := c = ' ' || (9 ≤ c.toNat && c.toNat ≤ 13)
  (((cs.map numberChar).dropWhile isSpace).reverse.dropWhile isSpace).reverse

/-- The value of a digit. -/
def digitValue? (base : Nat) (c : Char) : Option Nat :=
  let n :=
    if c.isDigit then c.toNat - '0'.toNat
    else if 'a' ≤ c.toLower && c.toLower ≤ 'z' then c.toLower.toNat - 'a'.toNat + 10
    else base
  if n < base then some n else none

/-- The letter that announces a base after a zero. -/
def baseLetter? : Nat → Option Char
  | 2 => some 'b'
  | 8 => some 'o'
  | 16 => some 'x'
  | _ => none

/-- The rest after the sign of its base, if a number begins with it. -/
def dropBase (base : Nat) (cs : List Char) : List Char :=
  match cs with
  | '0' :: c :: r => if baseLetter? base = some c.toLower then r else cs
  | _ => cs

/-- The integer that a text spells to a base, with blanks around it, a sign, and the sign of the
base. In decimal notation its digits are counted before anything else of it is looked at. -/
def intOf (base : Nat) (cs : List Char) : Except Fault Int :=
  let (negative, body) := signed (numberText cs)
  let body := dropBase base body
  let digits := body.takeWhile fun c => (digitValue? base c).isSome
  if base = 10 && Value.longestInteger < digits.length then .error (.longInteger digits.length)
  else if digits.isEmpty || digits.length < body.length then
    .error (.noInteger base (String.ofList cs))
  else
    let n := digits.foldl (fun n c => n * base + (digitValue? base c).getD 0) 0
    .ok (if negative then -(n : Int) else n)

/-- The integer that a text of the kind `int` spells. -/
def int (s : String) : Except Fault Int := do
  let (negative, cs) := signed (s.toList.filter (· ≠ '_'))
  let sign (n : Int) : Int := if negative then -n else n
  match cs with
  | [] => .error .noNumber
  | ['0'] => .ok 0
  | '0' :: 'b' :: r => return sign (← intOf 2 r)
  | '0' :: 'x' :: r => return sign (← intOf 16 r)
  | '0' :: _ => return sign (← intOf 8 cs)
  | _ =>
    if cs.contains ':' then
      let parts ← (Text.piecesOf ':' cs).mapM (intOf 10)
      return sign (parts.foldl (fun n part => n * 60 + part) 0)
    else return sign (← intOf 10 cs)

/-- A decimal number as digits and a power of ten. -/
def decimal? (cs : List Char) : Option (Nat × Int) :=
  let whole := cs.takeWhile Char.isDigit
  let r := cs.dropWhile Char.isDigit
  let (fraction, r) := match r with
    | '.' :: f => (f.takeWhile Char.isDigit, f.dropWhile Char.isDigit)
    | _ => ([], r)
  if whole.isEmpty && fraction.isEmpty then none
  else
    let digits := TimeText.number (whole ++ fraction)
    match r with
    | [] => some (digits, -(fraction.length : Int))
    | 'e' :: r =>
      let (negative, body) := signed r
      if body.isEmpty || !body.all Char.isDigit then none
      else
        let e : Int := TimeText.number body
        some (digits, (if negative then -e else e) - fraction.length)
    | _ => none

/-- The floating point number that a text in lower case spells, with blanks around it and a sign. -/
def floatOf (cs : List Char) : Except Fault Binary64 :=
  let (negative, body) := signed (numberText cs)
  if ["inf", "infinity"].contains (String.ofList body) then .ok (.infinite negative)
  else if String.ofList body = "nan" then .ok .notANumber
  else
    match decimal? body with
    | some (digits, e) => .ok (Binary64.ofDecimal negative digits e)
    | none => .error (.noFloat (String.ofList cs))

/-- Adds up parts of sixty, the last one first; `weight` is what the next part counts. -/
def sumSixtieths (weight : Nat) (sum : Binary64) : List Binary64 → Except Fault Binary64
  | [] => .ok sum
  | part :: parts =>
    match part.timesNat? weight with
    | some product => sumSixtieths (weight * 60) (sum.add product) parts
    | none => .error (.other "OverflowError" "int too large to convert to float")

/-- The floating point number that a text of the kind `float` spells. -/
def float (s : String) : Except Fault Binary64 := do
  let (negative, body) := signed (Text.lower (String.ofList (s.toList.filter (· ≠ '_')))).toList
  let sign (x : Binary64) : Binary64 := if negative then x.negate else x
  if s.toList.all (· = '_') then .error .noNumber
  else if body = ".inf".toList then return sign (.infinite false)
  else if body = ".nan".toList then return .notANumber
  else if body.contains ':' then
    let parts ← (Text.piecesOf ':' body).mapM floatOf
    return sign (← sumSixtieths 1 (Binary64.ofDecimal false 0 0) parts.reverse)
  else return sign (← floatOf body)

/-- The words for truth values with their values. -/
def truthValues : List (String × Bool) :=
  [("yes", true), ("no", false), ("true", true), ("false", false), ("on", true), ("off", false)]

/-- The value of six bits in a text of octets. -/
def sextet? (c : Char) : Option Nat :=
  if 'A' ≤ c && c ≤ 'Z' then some (c.toNat - 'A'.toNat)
  else if 'a' ≤ c && c ≤ 'z' then some (c.toNat - 'a'.toNat + 26)
  else if c.isDigit then some (c.toNat - '0'.toNat + 52)
  else if c = '+' then some 62
  else if c = '/' then some 63
  else none

/-- The octets of groups of four characters; `filled` tells how many of a group are read, `bits`
what they hold, and `pads` how many signs of padding came last. Other characters are passed
over. -/
def octetsFrom (filled bits pads : Nat) : List Char → Option (List Nat)
  | [] => if filled = 0 then some [] else none
  | c :: r =>
    if c = '=' then
      if 2 ≤ filled && 4 ≤ filled + pads + 1 then some [] else octetsFrom filled bits
        (if 2 ≤ filled then pads + 1 else pads) r
    else
      match sextet? c with
      | none => octetsFrom filled bits pads r
      | some v =>
        match filled with
        | 0 => octetsFrom 1 v 0 r
        | 1 => (octetsFrom 2 (v % 16) 0 r).map ((bits * 4 + v / 16) :: ·)
        | 2 => (octetsFrom 3 (v % 4) 0 r).map ((bits * 16 + v / 4) :: ·)
        | _ => (octetsFrom 0 0 0 r).map ((bits * 64 + v) :: ·)

/-- The characters without a line feed at their end. -/
def dropFinalLineFeed (cs : List Char) : List Char :=
  if cs.getLast? = some '\n' then cs.dropLast else cs

/-- The value that a text of a kind spells. A point in time may end with a line feed. -/
def value (tag : Tag) (s : String) : Except Fault Value :=
  match tag with
  | .null => .ok .null
  | .bool =>
    let word := Text.lower s
    match truthValues.lookup word with
    | some b => .ok (.bool b)
    | none => .error (.noTruthValue word)
  | .int => (int s).map .int
  | .float => (float s).map .float
  | .binary =>
    if s.toList.all (·.toNat < 128) then
      match octetsFrom 0 0 0 s.toList with
      | some octets => .ok (.foreign .octets (octets.map fun n => .int (n : Nat)))
      | none => .error .malformed
    else .error .malformed
  | .timestamp =>
    match TimeText.parse? (dropFinalLineFeed s.toList) with
    | none => .error .noTimestamp
    | some t =>
      match t.outOfRange? with
      | some message => .error (.outOfRange message)
      | none => .ok (.foreign (if t.clock.isSome then .timestamp else .date) [])
  | .text => .ok (.text s)
  | _ => .error .malformed

end Scalar

end ColumnLint.Yaml

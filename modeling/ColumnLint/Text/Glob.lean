/-!
# Wildcard patterns

Wildcard patterns: `*` stands for any text, `?` for any character and `[...]` for
a character of a set. There is no escape character, and a bracket that is never
closed stands for itself.

A pattern is read into a list of items (`Glob.parse`) and matched against the whole
of a text (`Glob.accepts`).
-/

namespace ColumnLint.Text

/-- A set of characters: the single members, the ranges, and whether the set is the complement. -/
structure GlobSet where
  negated : Bool
  members : List Char
  ranges : List (Char × Char)
  deriving DecidableEq, Repr

/-- Whether the character belongs to the set. -/
def GlobSet.holds (set : GlobSet) (c : Char) : Bool :=
  let listed := set.members.contains c || set.ranges.any fun r => r.1 ≤ c && c ≤ r.2
  listed != set.negated

/-- One item of a pattern. -/
inductive GlobItem where
  /-- Any text, also the empty one. -/
  | anyText
  /-- Any single character. -/
  | anyChar
  /-- This character. -/
  | char (c : Char)
  /-- A character of the set. -/
  | oneOf (set : GlobSet)
  deriving DecidableEq, Repr

namespace Glob

/-! ### Sets -/

/-- The position of the first `-` at or after `start`. -/
def hyphenFrom (body : List Char) (start : Nat) : Option Nat :=
  ((body.drop start).findIdx? (· = '-')).map (· + start)

/-- Cuts the body of a set at the hyphens that stand for a range: a hyphen needs a character before
it, `start` is where the search for the next one begins, and the two characters after a range
hyphen cannot be one. A hyphen at the very end is a member of the set. -/
def chunksFrom : Nat → List Char → Nat → List (List Char)
  | 0, body, _ => [body]
  | fuel + 1, body, start =>
    match hyphenFrom body start with
    | none => [body]
    | some k =>
      let rest := body.drop (k + 1)
      if rest.isEmpty then [body]
      else body.take k :: chunksFrom fuel rest 2

/-- Drops the ranges that run backwards, from the last to the first: the two characters that would
bound such a range vanish and the pieces around it become one. -/
def dropEmptyRanges : List (List Char) → List (List Char)
  | [] => []
  | chunk :: rest =>
    match dropEmptyRanges rest with
    | [] => [chunk]
    | next :: more =>
      match chunk.getLast?, next.head? with
      | some lo, some hi =>
        if hi < lo then (chunk.dropLast ++ next.drop 1) :: more else chunk :: next :: more
      | _, _ => chunk :: next :: more

/-- The ranges between neighbouring pieces; a piece without characters leaves its hyphen as a
member. -/
def rangesBetween : List (List Char) → List (Char × Char) × List Char
  | chunk :: next :: more =>
    let (ranges, members) := rangesBetween (next :: more)
    match chunk.getLast?, next.head? with
    | some lo, some hi => ((lo, hi) :: ranges, members)
    | _, _ => (ranges, '-' :: members)
  | _ => ([], [])

/-- The set between two brackets. A leading `!` asks for the complement; a set without members
matches nothing, its complement everything. -/
def setOf (body : List Char) : GlobSet :=
  let start := if body.head? = some '!' then 2 else 1
  let chunks := dropEmptyRanges (chunksFrom body.length body start)
  match chunks with
  | ('!' :: first) :: more =>
    let (ranges, members) := rangesBetween (first :: more)
    ⟨true, (first :: more).flatten ++ members, ranges⟩
  | _ =>
    let (ranges, members) := rangesBetween chunks
    ⟨false, chunks.flatten ++ members, ranges⟩

/-- The length of the body of a set that starts here: up to the first `]`, which does not count as
the end in first place or after a leading `!`. -/
def bodyLength? (cs : List Char) : Option Nat :=
  let skip := if cs.head? = some '!' then 1 else 0
  let skip := if (cs.drop skip).head? = some ']' then skip + 1 else skip
  ((cs.drop skip).findIdx? (· = ']')).map (· + skip)

/-! ### Patterns -/

/-- The items of a pattern. -/
def parseFrom : Nat → List Char → List GlobItem
  | 0, _ => []
  | _ + 1, [] => []
  | fuel + 1, c :: r =>
    if c = '*' then .anyText :: parseFrom fuel r
    else if c = '?' then .anyChar :: parseFrom fuel r
    else if c = '[' then
      match bodyLength? r with
      | none => .char '[' :: parseFrom fuel r
      | some n => .oneOf (setOf (r.take n)) :: parseFrom fuel (r.drop (n + 1))
    else .char c :: parseFrom fuel r

/-- The items of a pattern. Every item takes at least one character, so the length of the pattern
bounds the reading. -/
def parse (pattern : List Char) : List GlobItem :=
  parseFrom pattern.length pattern

/-- Whether the test holds for some end of the text, the whole text and the empty one included. -/
def anySuffix (test : List Char → Bool) : List Char → Bool
  | [] => test []
  | c :: r => test (c :: r) || anySuffix test r

/-- Whether the items match the whole of the text. -/
def matchesItems : List GlobItem → List Char → Bool
  | [], cs => cs.isEmpty
  | .anyText :: p, cs => anySuffix (matchesItems p) cs
  | .anyChar :: p, _ :: r => matchesItems p r
  | .char x :: p, c :: r => x = c && matchesItems p r
  | .oneOf set :: p, c :: r => set.holds c && matchesItems p r
  | _ :: _, [] => false

/-- Whether the pattern matches the whole of the text. -/
def accepts (pattern text : String) : Bool :=
  matchesItems (parse pattern.toList) text.toList

end Glob

end ColumnLint.Text

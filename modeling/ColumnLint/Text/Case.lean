import ColumnLint.Text.CaseTable

/-!
# Upper and lower case

Full case mapping of texts. Upper-casing works character by character and may
lengthen the text; lower-casing depends on the neighbours in one place only, the
sigma: at the end of a word it takes its final form. What a lower-cased text
looks like is therefore told by `lowerFrom`, which knows whether a letter with
case stands before.
-/

namespace ColumnLint.Text

/-! ### Single characters -/

/-- The image of a character under a table of runs and a table of longer images; a character in
neither keeps its form. -/
def mapChar (runs : List CaseRun) (expansions : List (Nat × List Nat)) (c : Char) : List Char :=
  match runs.findSome? (·.imageOf? c.toNat) with
  | some n => [Char.ofNat n]
  | none =>
    match expansions.lookup c.toNat with
    | some ns => ns.map Char.ofNat
    | none => [c]

/-- The upper-case form of a character, one to three characters long. -/
def upperChar (c : Char) : List Char :=
  if c.toNat < 128 then [c.toUpper] else mapChar upperRuns upperExpansions c

/-- The lower-case form of a character away from the end of a word. -/
def lowerChar (c : Char) : List Char :=
  if c.toNat < 128 then [c.toLower] else mapChar lowerRuns lowerExpansions c

/-- Letters that have case. -/
def isCased (c : Char) : Bool :=
  CodeRange.anyHolds casedRanges c

/-- Characters that are passed over when the letters around a sigma are looked at. -/
def isCaseIgnorable (c : Char) : Bool :=
  CodeRange.anyHolds ignorableRanges c

/-! ### Texts -/

/-- The upper-case form of a text. -/
def upper (s : String) : String :=
  String.ofList (s.toList.flatMap upperChar)

/-- Whether the first character that is not passed over has case. -/
def startsCased : List Char → Bool
  | [] => false
  | c :: r => if isCaseIgnorable c then startsCased r else isCased c

/-- Whether the last character that is not passed over has case, after `c` is read. -/
def afterCasedStep (afterCased : Bool) (c : Char) : Bool :=
  if isCaseIgnorable c then afterCased else isCased c

/-- The lower-case form of the rest of a text; `afterCased` tells whether the last character before
it that is not passed over has case. A capital sigma after such a character and before none is
final. -/
def lowerFrom (afterCased : Bool) : List Char → List Char
  | [] => []
  | c :: r =>
    if c = 'Σ' then
      (if afterCased && !startsCased r then 'ς' else 'σ') :: lowerFrom (afterCasedStep afterCased c) r
    else
      lowerChar c ++ lowerFrom (afterCasedStep afterCased c) r

/-- The lower-case form of a text. -/
def lower (s : String) : String :=
  String.ofList (lowerFrom false s.toList)

end ColumnLint.Text

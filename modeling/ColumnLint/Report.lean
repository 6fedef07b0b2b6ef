import ColumnLint.Lint
import ColumnLint.Text.Quoted

/-!
# Reports

The findings of a run with its warnings, counted by severity and classified by the most
severe one. A run fails at a threshold when its class reaches it.
-/

namespace ColumnLint

open ColumnLint.Text

/-- The outcome of a run. -/
structure Report where
  findings : List Finding
  warnings : List String
  tablesScanned : Int
  deriving Repr

namespace Report

/-- The numbers of findings with one more of the severity. -/
def tally (counts : List (Severity × Nat)) (s : Severity) : List (Severity × Nat) :=
  counts.map fun c => if c.1 = s then (c.1, c.2 + 1) else c

/-- How many findings have each severity: all numbers start at zero, and the findings are counted
one after another. -/
def counts (r : Report) : List (Severity × Nat) :=
  r.findings.foldl (fun counts f => tally counts f.severity) (Severity.all.map fun s => (s, 0))

/-- The greater severity, the first one if they are the same. -/
def worse (s t : Severity) : Severity :=
  if s.rank < t.rank then t else s

/-- The greatest severity among findings. -/
def worstOf : List Finding → Option Severity
  | [] => none
  | f :: fs => some (fs.foldl (fun s f => worse s f.severity) f.severity)

/-- The greatest severity of the report's findings. -/
def classification (r : Report) : Option Severity :=
  worstOf r.findings

/-- The word for a class; a report without findings has one of its own. -/
def className : Option Severity → String
  | none => "NONE"
  | some s => s.name

/-- Whether some finding reaches the threshold. -/
def fails (r : Report) : Threshold → Bool
  | .never => false
  | .atLeast s =>
    match r.classification with
    | none => false
    | some worst => s.rank ≤ worst.rank

/-- Why a word is no threshold. -/
structure UnknownSeverity where
  word : String
  deriving DecidableEq, Repr

/-- The wording of the fault. -/
def UnknownSeverity.message (e : UnknownSeverity) : String :=
  quoted e.word ++ " is not a valid Severity"

/-- Whether the report fails at the threshold of a word. The word is looked at only if there are
findings. -/
def failsAt (r : Report) (word : String) : Except UnknownSeverity Bool :=
  match Threshold.ofName? word with
  | some t => .ok (r.fails t)
  | none => if r.classification.isNone then .ok false else .error ⟨word⟩

end Report

/-- The report on tables: the findings of all rules, and a warning if there are no tables. -/
def analyze (tables : List Table) (s : Settings) (warnings : List String) : Report where
  findings := lint tables s
  warnings := if tables.isEmpty then warnings ++ ["No tables found in input."] else warnings
  tablesScanned := tables.length

end ColumnLint

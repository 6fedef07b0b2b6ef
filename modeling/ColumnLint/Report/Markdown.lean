import ColumnLint.Report
import ColumnLint.Document.Display

/-!
# Reports as Markdown

A report for readers: a heading with the counts, the warnings, and a section with a table
for every column name. Sections stand in order of their worst severity, those of equal
severity in order of appearance, and the rows of a section in report order.

Findings can come with any evidence, so a report has this form only if the evidence holds
what the sections show (`Report.toMarkdown`).
-/

namespace ColumnLint

open ColumnLint.Text

/-- Why evidence cannot be shown. -/
inductive EvidenceFault where
  /-- There is no entry of this name. -/
  | absent (key : String)
  /-- An entry that has to be a text is of another kind. -/
  | notText (kind : String)
  deriving DecidableEq, Repr

/-- The wording of a fault. -/
def EvidenceFault.message : EvidenceFault → String
  | .absent key => quoted key
  | .notText kind => quoted kind ++ " object has no attribute 'lower'"

namespace Finding

/-- An entry of the evidence. -/
def entry (f : Finding) (key : String) : Except EvidenceFault Value :=
  match f.evidence.lookup key with
  | some v => .ok v
  | none => .error (.absent key)

/-- An entry of the evidence as part of a text. -/
def shown (f : Finding) (key : String) : Except EvidenceFault String :=
  (f.entry key).map Value.display

/-- An entry of the evidence that is a text, in lower case. -/
def lowered (f : Finding) (key : String) : Except EvidenceFault String :=
  match f.entry key with
  | .error e => .error e
  | .ok (.text s) => .ok (lower s)
  | .ok v => .error (.notText v.kindName)

/-- Whether the finding has the dominant signature. -/
def matchesDominant (f : Finding) : Except EvidenceFault Bool := do
  let this ← f.lowered "this_signature"
  let dominant ← f.lowered "dominant_signature"
  return this = dominant

/-- The row of a finding. -/
def row (f : Finding) : Except EvidenceFault String := do
  let agrees ← f.matchesDominant
  let signature ← f.shown "this_signature"
  let occurrences ← f.shown "occurrence_of_this_signature"
  return "| " ++ f.location.qualifiedName ++ " | `" ++ signature ++ "` | " ++ occurrences ++ " | " ++
    (if agrees then "Yes" else "No") ++ " |"

end Finding

namespace Markdown

/-- The sign for a class. -/
def sign : Option Severity → String
  | some .high => "🔴"
  | some .medium => "🟡"
  | some .low => "🟢"
  | none => "✅"

/-- The findings on one column name. -/
structure Section where
  name : String
  first : Finding
  others : List Finding
  deriving Repr

namespace Section

/-- All findings of the section. -/
def findings (s : Section) : List Finding := s.first :: s.others

/-- The place of the section's worst severity. -/
def rank (s : Section) : Nat :=
  s.others.foldl (fun n f => max n f.severity.rank) s.first.severity.rank

/-- The lines of a section. -/
def lines (s : Section) : Except EvidenceFault (List String) := do
  let f := s.first
  let column ← f.shown "column"
  let definitions ← f.shown "definition_count"
  let total ← f.shown "total_occurrences"
  let dominant ← f.shown "dominant_signature"
  let count ← f.shown "dominant_count"
  let rows ← s.findings.mapM Finding.row
  return [
    "### " ++ sign (some f.severity) ++ " " ++ column ++ " (" ++ f.rule ++ ")",
    "- **Definitions:** " ++ definitions ++ " across " ++ total ++ " tables",
    "- **Dominant Signature:** `" ++ dominant ++ "` (" ++ count ++ " tables)",
    "",
    "| Location | Signature | Tables With Signature | Matches Dominant |",
    "|----------|-----------|-----------------------|------------------|"] ++ rows ++ [""]

end Section

/-- Puts a finding on a name into its section; the first one opens it. -/
def addTo (sections : List Section) (name : String) (f : Finding) : List Section :=
  match sections with
  | [] => [⟨name, f, []⟩]
  | s :: r =>
    if s.name = name then { s with others := s.others ++ [f] } :: r else s :: addTo r name f

/-- The sections of findings, in order of appearance. -/
def sectionsOf (findings : List Finding) : Except EvidenceFault (List Section) :=
  findings.foldlM (fun sections f => (f.lowered "column").map (addTo sections · f)) []

/-- The sections in order of their worst severity. -/
def ordered (sections : List Section) : List Section :=
  sections.mergeSort fun s t => t.rank ≤ s.rank

end Markdown

namespace Report

/-- The lines before the findings. -/
def headLines (r : Report) : List String :=
  [ "# Column Consistency Report",
    "**Tables Scanned:** " ++ toString r.tablesScanned,
    "**Findings:** " ++ toString r.findings.length,
    "**Classification:** " ++ Markdown.sign r.classification ++ " " ++ className r.classification,
    ""] ++
  (if r.warnings.isEmpty then []
    else "### ⚠️ Warnings" :: r.warnings.map ("- " ++ ·) ++ [""]) ++
  ["## Findings", ""]

/-- A report as Markdown. -/
def toMarkdown (r : Report) : Except EvidenceFault String :=
  if r.findings.isEmpty then
    .ok ("\n".intercalate (r.headLines ++ ["No mismatched columns detected."]))
  else do
    let sections ← Markdown.sectionsOf r.findings
    let body ← (Markdown.ordered sections).mapM Markdown.Section.lines
    return "\n".intercalate (r.headLines ++ body.flatten)

end Report

end ColumnLint

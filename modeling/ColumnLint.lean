import ColumnLint.Main
import ColumnLint.Proofs.Bucket
import ColumnLint.Proofs.Catalog
import ColumnLint.Proofs.Catalog.Chain
import ColumnLint.Proofs.Catalog.Evolution
import ColumnLint.Proofs.Catalog.Growth
import ColumnLint.Proofs.Catalog.Idle
import ColumnLint.Proofs.Catalog.Ownership
import ColumnLint.Proofs.Catalog.Position
import ColumnLint.Proofs.Catalog.Replay
import ColumnLint.Proofs.Catalog.Statement
import ColumnLint.Proofs.Catalog.Target
import ColumnLint.Proofs.Catalog.Unchanged
import ColumnLint.Proofs.Contested
import ColumnLint.Proofs.Decision
import ColumnLint.Proofs.Document.Json.RoundTrip
import ColumnLint.Proofs.Document.Json.Text
import ColumnLint.Proofs.Dominance
import ColumnLint.Proofs.Exclusion
import ColumnLint.Proofs.Files.Ending
import ColumnLint.Proofs.Files.Path
import ColumnLint.Proofs.Files.Source
import ColumnLint.Proofs.Files.Tree
import ColumnLint.Proofs.Finding
import ColumnLint.Proofs.Lookup
import ColumnLint.Proofs.Minority
import ColumnLint.Proofs.Monotonicity
import ColumnLint.Proofs.NameGroup
import ColumnLint.Proofs.Naming
import ColumnLint.Proofs.Offense
import ColumnLint.Proofs.Origin
import ColumnLint.Proofs.Partition
import ColumnLint.Proofs.Pruning
import ColumnLint.Proofs.Rearrangement
import ColumnLint.Proofs.Report
import ColumnLint.Proofs.Report.Counts
import ColumnLint.Proofs.Report.Json
import ColumnLint.Proofs.Report.Markdown
import ColumnLint.Proofs.Report.Row
import ColumnLint.Proofs.Report.Section
import ColumnLint.Proofs.Separation
import ColumnLint.Proofs.Settings.Entry
import ColumnLint.Proofs.Settings.Merge
import ColumnLint.Proofs.Settings.Outcome
import ColumnLint.Proofs.Settings.Override
import ColumnLint.Proofs.Signature
import ColumnLint.Proofs.Snapshot
import ColumnLint.Proofs.Sql.Alteration
import ColumnLint.Proofs.Sql.Batch
import ColumnLint.Proofs.Sql.Declaration
import ColumnLint.Proofs.Sql.Directive
import ColumnLint.Proofs.Sql.Modification
import ColumnLint.Proofs.Sql.Reads
import ColumnLint.Proofs.Sql.Separator
import ColumnLint.Proofs.Sql.TypeReading
import ColumnLint.Proofs.Sql.WrittenType
import ColumnLint.Proofs.Text.Decimal
import ColumnLint.Proofs.Text.Glob
import ColumnLint.Proofs.Text.Lines
import ColumnLint.Proofs.Text.Lower
import ColumnLint.Proofs.Text.Pieces
import ColumnLint.Proofs.Text.Refold
import ColumnLint.Proofs.Text.Word
import ColumnLint.Proofs.Validation

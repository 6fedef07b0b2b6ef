import ColumnLint.Schema
import ColumnLint.Signature

/-!
# Column occurrences

One declaration of a column somewhere in a schema. Occurrences are compared by their key,
the lower-case name with the lower-case signature; an occurrence without a type has an
empty signature in its key and takes no part in any count.
-/

namespace ColumnLint

open ColumnLint.Text

/-- Where an occurrence comes from. -/
inductive Origin where
  /-- From a column of a table. -/
  | declared (table : Table) (column : Column)
  /-- From a document, with what it says about the table and the column. -/
  | described (table column : Value)
  deriving Repr

/-- One declaration of a column. -/
structure Occurrence where
  table : String
  name : String
  base : Option String
  params : List String
  origin : Origin
  deriving Repr

/-- What makes two occurrences count as the same definition. -/
structure DefinitionKey where
  name : String
  signature : String
  deriving DecidableEq, Repr

namespace Occurrence

/-- Whether the occurrence has a base type that is not blank. -/
def isTyped (o : Occurrence) : Bool :=
  match o.base with
  | some b => !isAllBlank b
  | none => false

/-- The signature of a typed occurrence. -/
def signature? (o : Occurrence) : Option String :=
  if o.isTyped then o.base.map (Signature.write · o.params) else none

/-- The signature, or nothing for an occurrence without a type. -/
def signature (o : Occurrence) : String :=
  o.signature?.getD ""

/-- The name without regard to case. -/
def loweredName (o : Occurrence) : String :=
  lower o.name

/-- The name and the signature without regard to case. -/
def key (o : Occurrence) : DefinitionKey :=
  ⟨o.loweredName, lower o.signature⟩

/-- The occurrence that the members describe. -/
def read (m : Members) : Validated Occurrence :=
  (fun table name base params t c => ⟨table, name, base, params, .described t c⟩)
    <$> m.required "table_name" Reader.text
    <*> m.required "column_name" Reader.text
    <*> m.optional "base_type" none (Reader.nullable Reader.text)
    <*> m.optional "type_parameters" [] (Reader.list Reader.text)
    <*> m.optional "table" .null Reader.anything
    <*> m.optional "column" .null Reader.anything

/-- Occurrences as documents describe them. -/
def shape : Shape Occurrence :=
  ⟨"ColumnRecord", "colcheck.models.columns", read⟩

/-- The occurrence of a column in its table; an empty type counts as none. -/
def ofColumn (t : Table) (c : Column) : Occurrence :=
  ⟨t.name, c.name, c.type.filter (· ≠ ""), c.params, .declared t c⟩

end Occurrence

end ColumnLint

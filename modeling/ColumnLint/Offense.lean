import ColumnLint.NameGroup

/-!
# Offenses

An offense is an occurrence of a contested name together with the statistics of that
name. Occurrences with the dominant signature are offenses too; those that deviate from it
are in the minority.
-/

namespace ColumnLint

open ColumnLint.Text

/-- An occurrence of a contested name with the statistics of the name. -/
structure Offense where
  origin : Origin
  table : String
  name : String
  signature : String
  definitionCount : Int
  occurrencesOfSignature : Int
  totalOccurrences : Int
  dominantCount : Int
  dominantSignature : String
  deriving Repr

namespace Offense

/-- Whether the occurrence deviates from the dominant signature. -/
def isMinority (o : Offense) : Bool :=
  lower o.signature ≠ lower o.dominantSignature

/-- The sentence on an offense. -/
def message (o : Offense) : String :=
  "Column name " ++ o.name ++ " has " ++ toString o.definitionCount ++
    " definition(s) across " ++ toString o.totalOccurrences ++ " tables. The definition '" ++
    o.signature ++ "' differs from '" ++ o.dominantSignature ++ "' by size or type."

/-- The offense that the members describe. -/
def read (m : Members) : Validated Offense :=
  (fun t c table name signature definitions occurrences total count dominant =>
      ⟨.described t c, table, name, signature, definitions, occurrences, total, count, dominant⟩)
    <$> m.optional "table" .null Reader.anything
    <*> m.optional "column" .null Reader.anything
    <*> m.required "table_name" Reader.text
    <*> m.required "column_name" Reader.text
    <*> m.required "this_signature" Reader.text
    <*> m.required "definition_count" Reader.integer
    <*> m.required "occurrence_of_this_signature" Reader.integer
    <*> m.required "total_occurrences" Reader.integer
    <*> m.required "dominant_count" Reader.integer
    <*> m.required "dominant_signature" Reader.text

/-- Offenses as documents describe them. -/
def shape : Shape Offense :=
  ⟨"Offense", "colcheck.models.columns", read⟩

/-- The offense of an occurrence, if the groups hold its name and the group its signature. -/
def of? (groups : NameGroups) (o : Occurrence) : Option Offense :=
  if !o.isTyped then none
  else
    match groups.lookup o.loweredName with
    | none => none
    | some g =>
      (g.bucketFor? o.signature).map fun b =>
        { origin := o.origin
          table := o.table
          name := o.name
          signature := o.signature
          definitionCount := g.definitionCount
          occurrencesOfSignature := b.count
          totalOccurrences := g.totalOccurrences
          dominantCount := g.dominantCount
          dominantSignature := g.dominantSignature }

/-- The offenses of the occurrences against the groups, in the order of the occurrences. -/
def select (occurrences : List Occurrence) (groups : NameGroups) : List Offense :=
  occurrences.filterMap (of? groups)

end Offense

/-- The occurrences of every contested name, in order, with the statistics of the name. -/
def mismatchedColumns (occurrences : List Occurrence) : List Offense :=
  Offense.select occurrences (contestedGroups occurrences)

end ColumnLint

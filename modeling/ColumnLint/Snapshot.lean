import ColumnLint.Catalog
import ColumnLint.Document.Json.Reader
import ColumnLint.Files.Source
import ColumnLint.Text.Blank
import ColumnLint.Text.Utf8

/-!
# Snapshots of a schema

The tables of all sources, taken in one after another. The tables of a JSON source are added to
those that are there; an SQL source is run on them, so that it may alter tables of earlier
sources. A script that leaves all tables as they were gives a warning (`Snapshot.addScript`).
-/

namespace ColumnLint

open ColumnLint.Text

/-- Why a source cannot be taken in. -/
inductive SnapshotError where
  | undecodable (e : Utf8Error)
  | malformed (e : Json.Error)
  | rejected (e : Rejection)
  deriving DecidableEq, Repr

/-- The wording of an error. -/
def SnapshotError.message : SnapshotError → String
  | .undecodable e => e.message
  | .malformed e => e.message
  | .rejected e => e.message

/-- The tables of the sources so far, and what there is to warn of. -/
structure Snapshot where
  tables : List Table
  warnings : List String
  deriving Repr

namespace Snapshot

/-- The snapshot of no sources. -/
def empty : Snapshot := ⟨[], []⟩

/-- The text in a file's octets. -/
def textOf (octets : List UInt8) : Except SnapshotError String :=
  match Utf8.decode octets with
  | .error e => .error (.undecodable e)
  | .ok s => .ok (String.ofList (unifyLineEnds s.toList))

/-- The tables that a document describes: those of a list, or one. -/
def tablesOf (v : Value) : Except SnapshotError (List Table) :=
  let table (v : Value) : Except SnapshotError Table :=
    (Table.shape.ofValue v).mapError .rejected
  match v with
  | .list items => items.mapM table
  | v => (table v).map ([·])

/-- The snapshot with the tables of a JSON text added. -/
def addDocument (s : Snapshot) (text : String) : Except SnapshotError Snapshot :=
  match Json.parse text with
  | .error e => .error (.malformed e)
  | .ok v => (tablesOf v).map fun tables => { s with tables := s.tables ++ tables }

/-- The warning about a script from which nothing was taken. -/
def nothingTaken (path : String) : String := "No table definitions parsed from " ++ path

/-- The snapshot after a script from a path. -/
def addScript (dialect : String) (s : Snapshot) (path text : String) : Snapshot × List Notice :=
  let (c, notices) :=
    (Catalog.ofTables s.tables).applyScript Sql.standardPreparations dialect text
  let unused := c.tables = s.tables && !isAllBlank text
  (⟨c.tables, if unused then s.warnings ++ [nothingTaken path] else s.warnings⟩, notices)

/-- The snapshot with a source taken in. -/
def add (dialect : String) (s : Snapshot) (source : Source) :
    Except SnapshotError Snapshot × List Notice :=
  match textOf source.octets with
  | .error e => (.error e, [])
  | .ok text =>
    match source.kind with
    | .json => (s.addDocument text, [])
    | .sql =>
      let (s', notices) := s.addScript dialect source.path text
      (.ok s', notices)

/-- The snapshot with sources taken in up to the first that cannot be, with all notices. -/
def addAll (dialect : String) (s : Snapshot) :
    List Source → Except SnapshotError Snapshot × List Notice
  | [] => (.ok s, [])
  | source :: rest =>
    match s.add dialect source with
    | (.error e, notices) => (.error e, notices)
    | (.ok s', notices) =>
      let (outcome, more) := addAll dialect s' rest
      (outcome, notices ++ more)

/-- The snapshot of sources in a dialect, given by its name. -/
def ofSources (dialect : String) (sources : List Source) :
    Except SnapshotError Snapshot × List Notice :=
  empty.addAll dialect sources

end Snapshot

end ColumnLint

import ColumnLint.Files.Tree
import ColumnLint.Text.Case

/-!
# Sources of a schema

The files that paths stand for. A file stands for itself and needs one of the two known
endings; a directory stands for all files with such an ending beneath it, in the order of the
names on the way to them. What a run remarks on its sources without failing is a notice.
-/

namespace ColumnLint

open ColumnLint.Text

/-! ### Notices -/

/-- A remark on a source. -/
inductive Notice where
  /-- A directory holds no schema files. -/
  | noSchemaFiles (directory : String)
  /-- A preparation of SQL text failed and was left out. -/
  | preparationFailed (name reason : String)
  /-- A script could not be read and was left out as a whole. -/
  | unreadableScript (reason : String)
  /-- A table is created without columns and left out. -/
  | noColumns (table : String)
  /-- A table to be altered exists in several databases and is left alone. -/
  | ambiguousTable (schema table : String)
  deriving DecidableEq, Repr

/-- The wording of a notice. -/
def Notice.message : Notice → String
  | .noSchemaFiles directory => "No .json or .sql files found in " ++ directory
  | .preparationFailed name reason => "Preprocessor " ++ name ++ " failed: " ++ reason
  | .unreadableScript reason => "DDL parsing failed: " ++ reason
  | .noColumns table => "CREATE TABLE " ++ table ++ " has no columns"
  | .ambiguousTable schema table =>
    "ALTER TABLE " ++ schema ++ "." ++ table ++ " is ambiguous across databases; skipped"

/-! ### Kinds of sources -/

/-- What a source holds. -/
inductive SourceKind where
  | json
  | sql
  deriving DecidableEq, Repr

/-- The kind that an ending stands for. -/
def SourceKind.ofSuffix? (suffix : String) : Option SourceKind :=
  if suffix = ".json" then some .json else if suffix = ".sql" then some .sql else none

/-- A file to be read. -/
structure Source where
  kind : SourceKind
  path : String
  octets : List UInt8
  deriving Repr

/-- Why paths give no sources. -/
inductive SourceError where
  | noPaths
  | notFound (path : String)
  | unsupported (path : String)
  | nothingFound (paths : List String)
  deriving DecidableEq, Repr

/-- The wording of an error. -/
def SourceError.message : SourceError → String
  | .noPaths => "No input paths given."
  | .notFound path => "Input file not found: " ++ path
  | .unsupported path => "Unsupported input file: " ++ path ++ ". Supported: .json, .sql"
  | .nothingFound paths => "No schema files found in: " ++ ", ".intercalate paths

namespace Source

/-- The ending of a name: from its last point on, unless the name begins or ends there. -/
def suffix (name : String) : String :=
  let cs := name.toList
  let ending := cs.reverse.takeWhile (· ≠ '.')
  if ending.isEmpty || cs.length ≤ ending.length + 1 then ""
  else String.ofList ('.' :: ending.reverse)

/-- The kind of a file of this name, in any case. -/
def kindOf? (name : String) : Option SourceKind :=
  SourceKind.ofSuffix? (lower (suffix name))

/-- The parts of a path that say something: empty ones and `.` do not. -/
def properParts (path : String) : List String :=
  (FileTree.parts path).filter fun p => p ≠ "" && p ≠ "."

/-- The path of a file in a directory given by its path. -/
def joined (directory : String) (names : List String) : String :=
  let body := "/".intercalate (properParts directory ++ names)
  if directory.startsWith "//" && !directory.startsWith "///" then "//" ++ body
  else if directory.startsWith "/" then "/" ++ body
  else body

/-- Whether the names of one file come before those of another, name by name. -/
def namesBefore : List String → List String → Bool
  | [], _ => true
  | _ :: _, [] => false
  | a :: as, b :: bs => if a = b then namesBefore as bs else a < b

/-- The sources in a directory, in order of the names on the way to them. -/
def ofDirectory (path : String) (t : FileTree) : List Source :=
  (t.files.mergeSort fun f g => namesBefore f.1 g.1).filterMap fun f =>
    (kindOf? ((f.1.getLast?).getD "")).map fun kind => ⟨kind, joined path f.1, f.2⟩

/-- The sources of one path with what is to be remarked on them. -/
def ofPath (entryAt : String → Option FileTree) (path : String) :
    Except SourceError (List Source × List Notice) :=
  match entryAt path with
  | none => .error (.notFound path)
  | some (.directory children) =>
    let found := ofDirectory path (.directory children)
    .ok (found, if found.isEmpty then [.noSchemaFiles path] else [])
  | some (.file octets) =>
    match kindOf? ((properParts path).getLast?.getD "") with
    | some kind => .ok ([⟨kind, path, octets⟩], [])
    | none => .error (.unsupported path)

/-- The sources of the paths, path by path up to the first error, with all notices. -/
def ofPathsFrom (entryAt : String → Option FileTree) :
    List String → Except SourceError (List Source) × List Notice
  | [] => (.ok [], [])
  | p :: ps =>
    match ofPath entryAt p with
    | .error e => (.error e, [])
    | .ok (found, notices) =>
      let (more, later) := ofPathsFrom entryAt ps
      (more.map (found ++ ·), notices ++ later)

/-- The sources of the paths: there have to be paths, and some source among them. -/
def ofPaths (entryAt : String → Option FileTree) (paths : List String) :
    Except SourceError (List Source) × List Notice :=
  if paths.isEmpty then (.error .noPaths, [])
  else
    match ofPathsFrom entryAt paths with
    | (.ok [], notices) => (.error (.nothingFound paths), notices)
    | outcome => outcome

end Source

end ColumnLint

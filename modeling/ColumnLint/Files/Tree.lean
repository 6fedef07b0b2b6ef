import ColumnLint.Text.Blank

/-!
# Trees of files

A tree of files and directories, and what a path leads to. A path is walked part by part: a
name goes down, `..` goes up, and an empty part or `.` stays, which only a directory can.
-/

namespace ColumnLint

open ColumnLint.Text

/-- A file with its octets, or a directory with what it holds. -/
inductive FileTree where
  | file (octets : List UInt8)
  | directory (children : List (String × FileTree))
  deriving Repr

namespace FileTree

/-- An empty directory. -/
def empty : FileTree := .directory []

/-- The member of a directory with the name. -/
def child? (t : FileTree) (name : String) : Option FileTree :=
  match t with
  | .file _ => none
  | .directory children => children.lookup name

/-- Whether the tree is a directory. -/
def isDirectory : FileTree → Bool
  | .directory _ => true
  | .file _ => false

/-- The parts of a path between its slashes. -/
def parts (path : String) : List String :=
  (piecesOf '/' path.toList).map String.ofList

/-- One step along a path from the place that the directories above, the nearest first, lead to. -/
def step (place : List FileTree) (part : String) : Option (List FileTree) :=
  match place with
  | [] => none
  | t :: above =>
    if !t.isDirectory then none
    else if part = "" || part = "." then some place
    else if part = ".." then some (if above.isEmpty then place else above)
    else (t.child? part).map (· :: place)

/-- What the parts lead to from a place. -/
def walk (place : List FileTree) (names : List String) : Option FileTree :=
  (names.foldlM step place).bind List.head?

/-- What a path leads to in the tree, from a working directory given by its path. -/
def entryAt (root : FileTree) (workingDirectory path : String) : Option FileTree :=
  if path = "" then none
  else if path.startsWith "/" then walk [root] (parts path)
  else walk [root] (parts workingDirectory ++ parts path)

mutual

/-- All files of the tree, each with the names on the way to it. -/
def files : FileTree → List (List String × List UInt8)
  | .file octets => [([], octets)]
  | .directory children => childFiles children

/-- All files of the members of a directory. -/
def childFiles : List (String × FileTree) → List (List String × List UInt8)
  | [] => []
  | (name, t) :: r => (files t).map (fun f => (name :: f.1, f.2)) ++ childFiles r

end

/-- The tree with a file or an empty directory put in under the names, with the directories on the
way. -/
def insert (t : FileTree) (names : List String) (leaf : FileTree) : FileTree :=
  match names with
  | [] => leaf
  | name :: r =>
    let children :=
      match t with
      | .file _ => []
      | .directory children => children
    let inner := insert ((children.lookup name).getD empty) r leaf
    .directory (if children.any (·.1 = name) then
        children.map fun c => if c.1 = name then (name, inner) else c
      else children ++ [(name, inner)])

end FileTree

/-- What a run sees of the system around it. -/
structure Surroundings where
  /-- What a path leads to. -/
  entryAt : String → Option FileTree
  /-- The values of environment variables. -/
  environment : String → Option String
  workingDirectory : String
  homeDirectory : String

end ColumnLint

import ColumnLint.Document.Yaml.Node

/-!
# Reading YAML

The document that a YAML text spells. Mappings are merged before their values are made: the
entries of what a merge sign refers to stand before the mapping's own, and of several
mappings the first one wins.
-/

namespace ColumnLint.Yaml

namespace Node

/-- The entries that the value of a merge sign refers to: those of a mapping, or of several, the
last one first. -/
def mergeSources : Node → Except Fault (List (Node × Node))
  | .mapping _ entries => .ok entries
  | .sequence _ items =>
    items.foldlM (fun later n =>
      match n with
      | .mapping _ entries => .ok (entries ++ later)
      | _ => .error .malformed) []
  | .scalar .. => .error .malformed

/-- The entries with those of the merge signs in front, and with the sign for a default value as a
plain text. -/
def mergeEntries (entries : List (Node × Node)) : Except Fault (List (Node × Node)) := do
  let (merged, own) ← entries.foldlM (fun (merged, own) (k, v) =>
    match k with
    | .scalar .merge _ => do return (merged ++ (← mergeSources v), own)
    | .scalar .default s => .ok (merged, own ++ [(Node.scalar .text s, v)])
    | _ => .ok (merged, own ++ [(k, v)])) (([], []) : List (Node × Node) × List (Node × Node))
  return merged ++ own

mutual

/-- The tree with the entries of merge signs put in, inner mappings first. -/
def merged : Node → Except Fault Node
  | .scalar tag s => .ok (.scalar tag s)
  | .sequence tag items => (mergedItems items).map (.sequence tag)
  | .mapping tag entries => do
    let inner ← mergedEntries entries
    if tag = .mapping || tag = .set then return .mapping tag (← mergeEntries inner)
    else return .mapping tag inner

/-- The items with the entries of merge signs put in. -/
def mergedItems : List Node → Except Fault (List Node)
  | [] => .ok []
  | n :: r => do return (← merged n) :: (← mergedItems r)

/-- The entries with those of inner merge signs put in. -/
def mergedEntries : List (Node × Node) → Except Fault (List (Node × Node))
  | [] => .ok []
  | (k, v) :: r => do return (← merged k, ← merged v) :: (← mergedEntries r)

end

end Node

/-! ### Keys -/

/-- The number that a value counts as when keys are compared. -/
def keyNumber? : Value → Option Int
  | .int n => some n
  | .bool b => some (if b then 1 else 0)
  | .float x => x.toInt?
  | _ => none

/-- Whether two keys are the same: texts by their characters, numbers and truth values by their
value. -/
def sameKey (a b : Value) : Bool :=
  match a, b with
  | .text s, .text t => s = t
  | .null, .null => true
  | .float x, .float y => x = y || (x.toInt?.isSome && x.toInt? = y.toInt?)
  | _, _ => (keyNumber? a).isSome && keyNumber? a = keyNumber? b

/-- Whether a value can be a key. -/
def canBeKey : Value → Bool
  | .list _ => false
  | .object _ => false
  | .foreign .set _ => false
  | .foreign .mapping _ => false
  | _ => true

/-- Sets an entry: in place if the key is there, else at the end. -/
def putEntry (k v : Value) : List (Value × Value) → List (Value × Value)
  | [] => [(k, v)]
  | e :: r => if sameKey e.1 k then (e.1, v) :: r else e :: putEntry k v r

/-- The entries with repeated keys put together. -/
def entriesOf (pairs : List (Value × Value)) : Except Fault (List (Value × Value)) :=
  pairs.foldlM (fun entries (k, v) =>
    if canBeKey k then .ok (putEntry k v entries) else .error .malformed) []

/-- The members with text keys, if all keys are texts. -/
def members? (entries : List (Value × Value)) : Option Members :=
  entries.mapM fun
    | (.text k, v) => some (k, v)
    | _ => none

/-- A mapping as a value. -/
def mappingValue (entries : List (Value × Value)) : Value :=
  match members? entries with
  | some members => .object members
  | none => .foreign .mapping (entries.map Prod.fst)

/-! ### Values -/

/-- The text under the sign for a default value, if a mapping has one. -/
def defaultText? (entries : List (Node × Node)) : Option String :=
  entries.findSome? fun
    | (.scalar .default _, .scalar _ s) => some s
    | _ => none

mutual

/-- The value of a node. -/
def valueOf : Node → Except Fault Value
  | .scalar tag s => Scalar.value tag s
  | .sequence tag items =>
    match tag with
    | .sequence => (valuesOf items).map .list
    | .orderedMap => (tuplesOf items).map .list
    | .pairs => (tuplesOf items).map .list
    | _ => .error .malformed
  | .mapping tag entries =>
    match tag with
    | .mapping => do return mappingValue (← entriesOf (← pairsOf entries))
    | .set => do return .foreign .set ((← entriesOf (← pairsOf entries)).map Prod.fst)
    | _ =>
      match defaultText? entries with
      | some s => Scalar.value tag s
      | none => .error .malformed

/-- The values of a list of nodes. -/
def valuesOf : List Node → Except Fault (List Value)
  | [] => .ok []
  | n :: r => do return (← valueOf n) :: (← valuesOf r)

/-- The keys and values of entries. -/
def pairsOf : List (Node × Node) → Except Fault (List (Value × Value))
  | [] => .ok []
  | (k, v) :: r => do return (← valueOf k, ← valueOf v) :: (← pairsOf r)

/-- The tuples of a sequence of mappings with one entry each. -/
def tuplesOf : List Node → Except Fault (List Value)
  | [] => .ok []
  | .mapping _ entries :: r => do
    match ← pairsOf entries with
    | [(k, v)] => return .foreign .tuple [k, v] :: (← tuplesOf r)
    | _ => .error .malformed
  | _ => .error .malformed

end

/-! ### Texts as a whole -/

/-- What a text holds. -/
inductive Document where
  /-- Nothing, or a value that stands for nothing. -/
  | nothing
  /-- A mapping with its entries. -/
  | mapping (entries : List (Value × Value))
  /-- Any other value. -/
  | other
  deriving Repr

/-- The document that a YAML text spells. -/
def parse (s : String) : Except Fault Document := do
  match ← Node.ofTokens (← Token.ofText s.toList) with
  | none => return .nothing
  | some n =>
    match ← n.merged with
    | .mapping .mapping entries => return .mapping (← entriesOf (← pairsOf entries))
    | n =>
      match ← valueOf n with
      | .null => return .nothing
      | _ => return .other

end ColumnLint.Yaml

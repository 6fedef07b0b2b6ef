import ColumnLint.Document.Yaml.Stream
import ColumnLint.Document.Yaml.Scalar

/-!
# The tree of a YAML text

The tree that the tokens of a text describe, with the kind of every node and with aliases
put in for what they stand for. A text holds one document at most.
-/

namespace ColumnLint.Yaml

/-- A node of the tree. -/
inductive Node where
  | scalar (tag : Tag) (text : String)
  | sequence (tag : Tag) (items : List Node)
  | mapping (tag : Tag) (entries : List (Node × Node))
  deriving Repr

namespace Node

/-- An empty plain text. -/
def nothing : Node := .scalar .null ""

/-- What is left of the tokens, and what was named so far. -/
structure Reading where
  tokens : List Token
  /-- What the handles of tags stand for. -/
  handles : List (String × String)
  anchors : List (String × Node)

namespace Reading

/-- The next token. -/
def next? (r : Reading) : Option Token := r.tokens.head?

/-- Whether the next token is one of these; the end of the tokens counts as one if asked for. -/
def isAt (r : Reading) (ts : List Token) : Bool :=
  match r.tokens with
  | [] => false
  | t :: _ => ts.contains t

/-- The state after the next token. -/
def skip (r : Reading) : Reading := { r with tokens := r.tokens.drop 1 }

/-- Names a node; a name may be given only once. -/
def name (r : Reading) (anchor : Option String) (n : Node) : Reading :=
  match anchor with
  | none => r
  | some a => { r with anchors := (a, n) :: r.anchors.filter (·.1 ≠ a) }

/-- The full name of a tag as written. -/
def fullTag (r : Reading) (t : TagText) : Except Fault String :=
  match t.handle with
  | none => .ok t.suffix
  | some h =>
    match r.handles.lookup h with
    | some target => .ok (target ++ t.suffix)
    | none => .error .malformed

end Reading

/-- A node with the state after it. -/
abbrev Outcome := Except Fault (Node × Reading)

/-- What stands before a node: its anchor and its tag. -/
structure Properties where
  anchor : Option String
  tag : Option String

/-- The properties before a node, in either order. -/
def properties (r : Reading) : Except Fault (Properties × Reading) :=
  match r.tokens with
  | .anchor a :: .tag t :: rest => do
    return (⟨some a, some (← r.fullTag t)⟩, { r with tokens := rest })
  | .tag t :: .anchor a :: rest => do
    return (⟨some a, some (← r.fullTag t)⟩, { r with tokens := rest })
  | .anchor a :: rest => .ok (⟨some a, none⟩, { r with tokens := rest })
  | .tag t :: rest => do return (⟨none, some (← r.fullTag t)⟩, { r with tokens := rest })
  | _ => .ok (⟨none, none⟩, r)

namespace Properties

/-- The kind of a text. -/
def scalarTag (p : Properties) (plain : Bool) (text : String) : Tag :=
  match p.tag with
  | none => if plain then Tag.ofPlain text else .text
  | some "!" => Tag.ofPlain text
  | some t => Tag.ofName t

/-- The kind of a structure. -/
def structureTag (p : Properties) (usual : Tag) : Tag :=
  match p.tag with
  | none => usual
  | some "!" => usual
  | some t => Tag.ofName t

/-- The kind of a node without content. -/
def emptyTag (p : Properties) : Tag :=
  match p.tag with
  | none => .null
  | some "!" => .null
  | some t => Tag.ofName t

end Properties

mutual

/-- A node: one that stands on lines of its own if `block`, and a sequence that is no deeper than
the key before it if `flat`. -/
def read : Nat → Bool → Bool → Reading → Outcome
  | 0, _, _, _ => .error .malformed
  | fuel + 1, block, flat, r =>
    match r.tokens with
    | .alias a :: _ =>
      match r.anchors.lookup a with
      | some n => .ok (n, r.skip)
      | none => .error .malformed
    | _ =>
      match properties r with
      | .error e => .error e
      | .ok (p, r) =>
        if (match p.anchor with
            | some a => (r.anchors.lookup a).isSome
            | none => false) then .error .malformed
        else
          let finish (make : Node) (r : Reading) : Outcome := .ok (make, r.name p.anchor make)
          let sequence (usual : Except Fault (List Node × Reading)) : Outcome :=
            match usual with
            | .error e => .error e
            | .ok (items, r) => finish (.sequence (p.structureTag .sequence) items) r
          let mapping (usual : Except Fault (List (Node × Node) × Reading)) : Outcome :=
            match usual with
            | .error e => .error e
            | .ok (entries, r) => finish (.mapping (p.structureTag .mapping) entries) r
          -- inside a structure its own name stands for an empty one
          let openSequence := r.skip.name p.anchor (.sequence (p.structureTag .sequence) [])
          let openMapping := r.skip.name p.anchor (.mapping (p.structureTag .mapping) [])
          match r.tokens with
          | .blockEntry :: _ =>
            if flat then
              sequence (readFlat fuel (r.name p.anchor (.sequence (p.structureTag .sequence) [])))
            else if p.anchor.isSome || p.tag.isSome then finish (.scalar p.emptyTag "") r
            else .error .malformed
          | .scalar text plain :: _ => finish (.scalar (p.scalarTag plain text) text) r.skip
          | .flowSequenceStart :: _ => sequence (readFlowItems fuel true openSequence)
          | .flowMappingStart :: _ => mapping (readFlowPairs fuel true openMapping)
          | .blockSequenceStart :: _ =>
            if block then sequence (readItems fuel openSequence)
            else if p.anchor.isSome || p.tag.isSome then finish (.scalar p.emptyTag "") r
            else .error .malformed
          | .blockMappingStart :: _ =>
            if block then mapping (readPairs fuel openMapping)
            else if p.anchor.isSome || p.tag.isSome then finish (.scalar p.emptyTag "") r
            else .error .malformed
          | _ =>
            if p.anchor.isSome || p.tag.isSome then finish (.scalar p.emptyTag "") r
            else .error .malformed

/-- The node here, or nothing if one of these tokens follows. -/
def readUnless : Nat → List Token → Bool → Bool → Reading → Outcome
  | 0, _, _, _, _ => .error .malformed
  | fuel + 1, stops, block, flat, r =>
    if r.isAt stops then .ok (nothing, r) else read fuel block flat r

/-- The items of a sequence on lines of its own, up to and over its end. -/
def readItems : Nat → Reading → Except Fault (List Node × Reading)
  | 0, _ => .error .malformed
  | fuel + 1, r =>
    match r.next? with
    | some .blockEntry =>
      match readUnless fuel [.blockEntry, .blockEnd] true false r.skip with
      | .error e => .error e
      | .ok (n, r) => (readItems fuel r).map fun p => (n :: p.1, p.2)
    | some .blockEnd => .ok ([], r.skip)
    | _ => .error .malformed

/-- The items of a sequence that is no deeper than the key before it. -/
def readFlat : Nat → Reading → Except Fault (List Node × Reading)
  | 0, _ => .error .malformed
  | fuel + 1, r =>
    match r.next? with
    | some .blockEntry =>
      match readUnless fuel [.blockEntry, .key, .value, .blockEnd] true false r.skip with
      | .error e => .error e
      | .ok (n, r) => (readFlat fuel r).map fun p => (n :: p.1, p.2)
    | _ => .ok ([], r)

/-- The entries of a mapping on lines of its own, up to and over its end. -/
def readPairs : Nat → Reading → Except Fault (List (Node × Node) × Reading)
  | 0, _ => .error .malformed
  | fuel + 1, r =>
    match r.next? with
    | some .key =>
      match readUnless fuel [.key, .value, .blockEnd] true true r.skip with
      | .error e => .error e
      | .ok (k, r) =>
        let value :=
          if r.isAt [.value] then readUnless fuel [.key, .value, .blockEnd] true true r.skip
          else .ok (nothing, r)
        match value with
        | .error e => .error e
        | .ok (v, r) => (readPairs fuel r).map fun p => ((k, v) :: p.1, p.2)
    | some .blockEnd => .ok ([], r.skip)
    | _ => .error .malformed

/-- The items of a sequence between brackets, up to and over its end. -/
def readFlowItems : Nat → Bool → Reading → Except Fault (List Node × Reading)
  | 0, _, _ => .error .malformed
  | fuel + 1, first, r =>
    if r.isAt [.flowSequenceEnd] then .ok ([], r.skip)
    else if !first && !r.isAt [.flowEntry] then .error .malformed
    else
      let r := if first then r else r.skip
      match r.next? with
      | some .flowSequenceEnd => .ok ([], r.skip)
      | some .key =>
        match readUnless fuel [.value, .flowEntry, .flowSequenceEnd] false false r.skip with
        | .error e => .error e
        | .ok (k, r) =>
          let value :=
            if r.isAt [.value] then
              readUnless fuel [.flowEntry, .flowSequenceEnd] false false r.skip
            else .ok (nothing, r)
          match value with
          | .error e => .error e
          | .ok (v, r) =>
            (readFlowItems fuel false r).map fun p => (.mapping .mapping [(k, v)] :: p.1, p.2)
      | _ =>
        match read fuel false false r with
        | .error e => .error e
        | .ok (n, r) => (readFlowItems fuel false r).map fun p => (n :: p.1, p.2)

/-- The entries of a mapping between brackets, up to and over its end. -/
def readFlowPairs : Nat → Bool → Reading → Except Fault (List (Node × Node) × Reading)
  | 0, _, _ => .error .malformed
  | fuel + 1, first, r =>
    if r.isAt [.flowMappingEnd] then .ok ([], r.skip)
    else if !first && !r.isAt [.flowEntry] then .error .malformed
    else
      let r := if first then r else r.skip
      match r.next? with
      | some .flowMappingEnd => .ok ([], r.skip)
      | some .key =>
        match readUnless fuel [.value, .flowEntry, .flowMappingEnd] false false r.skip with
        | .error e => .error e
        | .ok (k, r) =>
          let value :=
            if r.isAt [.value] then
              readUnless fuel [.flowEntry, .flowMappingEnd] false false r.skip
            else .ok (nothing, r)
          match value with
          | .error e => .error e
          | .ok (v, r) => (readFlowPairs fuel false r).map fun p => ((k, v) :: p.1, p.2)
      | _ =>
        match read fuel false false r with
        | .error e => .error e
        | .ok (k, r) => (readFlowPairs fuel false r).map fun p => ((k, nothing) :: p.1, p.2)

end

/-! ### Documents -/

/-- The handles that every document knows. -/
def usualHandles : List (String × String) := [("!", "!"), ("!!", "tag:yaml.org,2002:")]

/-- Whether a token ends a document. -/
def endsDocument : Option Token → Bool
  | none => true
  | some (.directive _) => true
  | some .documentStart => true
  | some .documentEnd => true
  | _ => false

/-- Reads the directives before a document: one version at most, of the first main edition, and one
target per handle. -/
def readDirectives (versioned : Bool) (handles : List (String × String)) :
    List Token → Except Fault (List (String × String) × List Token)
  | .directive (.version major _) :: r =>
    if versioned || major ≠ 1 then .error .malformed else readDirectives true handles r
  | .directive (.tag handle target) :: r =>
    if (handles.lookup handle).isSome then .error .malformed
    else readDirectives versioned ((handle, target) :: handles) r
  | .directive .unknown :: r => readDirectives versioned handles r
  | r => .ok (handles ++ usualHandles, r)

/-- The tokens after the ends of documents. -/
def dropEnds (ts : List Token) : List Token := ts.dropWhile (· = .documentEnd)

/-- The node of a document's content. -/
def ofContent (handles : List (String × String)) (ts : List Token) :
    Except Fault (Node × List Token) :=
  (read (4 * ts.length + 8) true false ⟨ts, handles, []⟩).map fun p => (p.1, p.2.tokens)

/-- The node of the only document, if there is one. -/
def ofTokens (ts : List Token) : Except Fault (Option Node) := do
  let finish (n : Node) (rest : List Token) : Except Fault (Option Node) :=
    if (dropEnds rest).isEmpty then .ok (some n) else .error .malformed
  match ts with
  | [] => return none
  | .directive _ :: _ | .documentStart :: _ =>
    let (handles, rest) ← readDirectives false [] ts
    match rest with
    | .documentStart :: rest =>
      if endsDocument rest.head? then finish nothing rest
      else
        let (n, rest) ← ofContent handles rest
        finish n rest
    | _ => .error .malformed
  | _ =>
    let (n, rest) ← ofContent usualHandles ts
    finish n rest

end Node

end ColumnLint.Yaml

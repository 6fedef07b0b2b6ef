import ColumnLint.Occurrence

/-!
# Groups of one name

The typed occurrences of a schema fall into buckets of equal keys, and the buckets of
one lower-case name make a group with the statistics of that name. The definition with
the most occurrences dominates; of several the one with the least signature, without
regard to case. A name is contested when it has several definitions and the dominant one
does not account for all occurrences.

Buckets and groups stand in the order in which their first occurrence was met, and each is
spelled as that occurrence is.
-/

namespace ColumnLint

open ColumnLint.Text

/-- The occurrences of one name with one signature. -/
structure Bucket where
  signature : String
  occurrences : List Occurrence
  deriving Repr

/-- How many occurrences the bucket holds. -/
def Bucket.count (b : Bucket) : Nat :=
  b.occurrences.length

/-! ### Buckets -/

/-- Buckets under their keys, in order of first occurrence. -/
abbrev Buckets := List (DefinitionKey × Bucket)

/-- Puts an occurrence into the bucket of its key; the first one opens the bucket and gives it its
spelling. -/
def Buckets.add (buckets : Buckets) (o : Occurrence) : Buckets :=
  match buckets with
  | [] => [(o.key, ⟨o.signature, [o]⟩)]
  | (k, b) :: r =>
    if k = o.key then (k, { b with occurrences := b.occurrences ++ [o] }) :: r
    else (k, b) :: Buckets.add r o

/-- The typed occurrences in buckets of equal keys. -/
def bucketsOf (occurrences : List Occurrence) : Buckets :=
  (occurrences.filter Occurrence.isTyped).foldl Buckets.add []

/-! ### Groups -/

/-- The statistics of one column name. -/
structure NameGroup where
  name : String
  buckets : List Bucket
  definitionCount : Int
  totalOccurrences : Int
  dominantSignature : String
  dominantCount : Int
  deriving Repr

namespace NameGroup

/-- Whether bucket `b` outranks bucket `a`: by more occurrences, or by as many and a lesser
signature. -/
def outranks (b a : Bucket) : Bool :=
  a.count < b.count || (a.count == b.count && lower b.signature < lower a.signature)

/-- The bucket that no other outranks, the first one if there are several. -/
def dominant (first : Bucket) (others : List Bucket) : Bucket :=
  others.foldl (fun best b => if outranks b best then b else best) first

/-- The group of a bucket and the further buckets of the same name. -/
def ofBuckets (first : Bucket) (others : List Bucket) : NameGroup :=
  let all := first :: others
  let best := dominant first others
  { name := ((first.occurrences.head?).map Occurrence.name).getD ""
    buckets := all
    definitionCount := all.length
    totalOccurrences := (all.foldr (·.count + ·) 0 : Nat)
    dominantSignature := best.signature
    dominantCount := best.count }

/-- Whether the name has several definitions of which none accounts for all occurrences. -/
def isContested (g : NameGroup) : Bool :=
  1 < g.definitionCount && g.dominantCount ≠ g.totalOccurrences

/-- The first bucket with the signature, without regard to case. -/
def bucketFor? (g : NameGroup) (signature : String) : Option Bucket :=
  g.buckets.find? fun b => lower b.signature = lower signature

/-- The bucket that the members describe. -/
def readBucket (m : Members) : Validated Bucket :=
  Bucket.mk
    <$> m.required "signature" Reader.text
    <*> m.optional "records" [] (Reader.list Occurrence.shape.nested)

/-- The group that the members describe. -/
def read (m : Members) : Validated NameGroup :=
  NameGroup.mk
    <$> m.required "column_name" Reader.text
    <*> m.required "buckets"
      (Reader.list (Shape.nested ⟨"SignatureBucket", "colcheck.models.columns", readBucket⟩))
    <*> m.required "definition_count" Reader.integer
    <*> m.required "total_occurrences" Reader.integer
    <*> m.required "dominant_signature" Reader.text
    <*> m.required "dominant_count" Reader.integer

/-- Groups as documents describe them. -/
def shape : Shape NameGroup :=
  ⟨"NameGroup", "colcheck.models.columns", read⟩

end NameGroup

/-- Groups under their lower-case names. -/
abbrev NameGroups := List (String × NameGroup)

/-- The distinct members of a list in order of first appearance. -/
def distinct [DecidableEq α] (xs : List α) : List α :=
  xs.foldl (fun seen x => if x ∈ seen then seen else seen ++ [x]) []

/-- The group of every name of the buckets. -/
def groupsOfBuckets (buckets : Buckets) : NameGroups :=
  (distinct (buckets.map (·.1.name))).filterMap fun n =>
    match (buckets.filter (·.1.name = n)).map Prod.snd with
    | [] => none
    | first :: others => some (n, NameGroup.ofBuckets first others)

/-- The group of every name that a typed occurrence has, contested or not. -/
def nameGroups (occurrences : List Occurrence) : NameGroups :=
  groupsOfBuckets (bucketsOf occurrences)

/-- The groups of the names with several definitions of which none accounts for all
occurrences. -/
def contestedGroups (occurrences : List Occurrence) : NameGroups :=
  (nameGroups occurrences).filter fun g =>
    g.2.definitionCount ≠ 1 && g.2.dominantCount ≠ g.2.totalOccurrences

end ColumnLint

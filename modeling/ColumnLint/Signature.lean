import ColumnLint.Text.Blank
import ColumnLint.Document.Display

/-!
# Type signatures

The signature of a type is its base name followed by its parameters in parentheses.
Parameters are trimmed, and a length of `-1` is the word `MAX`. Without parameters the
signature is the base name alone. Letter case is kept: signatures are compared without
regard to it.
-/

namespace ColumnLint.Signature

open ColumnLint.Text

/-- The length that stands for an unbounded one. -/
def unboundedLength : String := "-1"

/-- The word for an unbounded length. -/
def unboundedWord : String := "MAX"

/-- A parameter as the signature writes it. -/
def parameter (p : String) : String :=
  let t := trim p
  if t = unboundedLength then unboundedWord else t

/-- The signature of a base type with parameters. -/
def write (base : String) (params : List String) : String :=
  if params.isEmpty then base
  else base ++ "(" ++ ",".intercalate (params.map parameter) ++ ")"

/-- A type without parameters is its own signature. -/
@[simp] theorem write_nil (base : String) : write base [] = base := rfl

/-- Why values make no signature: the parameters have no elements. -/
structure NotIterable where
  kind : String
  deriving DecidableEq, Repr

/-- The wording of the fault. -/
def NotIterable.message (e : NotIterable) : String :=
  quoted e.kind ++ " object is not iterable"

/-- The signature of any two values: empty parameters leave the base as it is, others are gone
through element by element. -/
def ofValues (base params : Value) : Except NotIterable Value :=
  if !params.isTruthy then .ok base
  else
    match params.elements? with
    | some items => .ok (.text (write base.display (items.map Value.display)))
    | none => .error ⟨params.kindName⟩

end ColumnLint.Signature

/-!
# Binary floating point numbers

Binary floating point numbers of 64 bits, given by their exact value. Decimal
notation is read by exact arithmetic on naturals: the quotient is rounded once, to
the nearest number and on a tie to the even mantissa. Sums and products are exact
quotients too before they are rounded.
-/

namespace ColumnLint

/-- A floating point number: `mantissa * 2 ^ exponent` with a sign, an infinity, or no number. A
finite number made by `Binary64.ofQuotient` has a mantissa below `2 ^ 53`. -/
inductive Binary64 where
  | finite (negative : Bool) (mantissa : Nat) (exponent : Int)
  | infinite (negative : Bool)
  | notANumber
  deriving DecidableEq, Repr

namespace Binary64

/-! ### Rounding -/

/-- The quotient rounded to the nearest natural, a tie to the even one. -/
def roundDiv (num den : Nat) : Nat :=
  let q := num / den
  let r := num % den
  if 2 * r < den then q
  else if den < 2 * r then q + 1
  else q + q % 2

/-- The exponent of the numbers next to zero. -/
def leastExponent : Int := -1074

/-- The exponent of the largest numbers. -/
def greatestExponent : Int := 971

/-- The quotient of `num` and `den` scaled by `2 ^ (-exponent)`, as a fraction. -/
def scaled (num den : Nat) (exponent : Int) : Nat × Nat :=
  if exponent ≤ 0 then (num * Nat.pow 2 (-exponent).toNat, den)
  else (num, den * Nat.pow 2 exponent.toNat)

/-- The exponent at which the quotient has a mantissa of 53 binary digits, or the least one. -/
def exponentOf (num den : Nat) : Int :=
  let e : Int := (Nat.log2 num : Int) - (Nat.log2 den : Int) - 53
  let (n, d) := scaled num den e
  max leastExponent (if Nat.pow 2 53 ≤ n / d then e + 1 else e)

/-- The number nearest to `num / den`. -/
def ofQuotient (negative : Bool) (num den : Nat) : Binary64 :=
  if num = 0 then .finite negative 0 leastExponent
  else
    let e := exponentOf num den
    let (n, d) := scaled num den e
    let m := roundDiv n d
    let (m, e) := if m = Nat.pow 2 53 then (Nat.pow 2 52, e + 1) else (m, e)
    if greatestExponent < e then .infinite negative else .finite negative m e

/-- The number nearest to `digits * 10 ^ exponent`. Magnitudes far outside the range are settled
without computing the power. -/
def ofDecimal (negative : Bool) (digits : Nat) (exponent : Int) : Binary64 :=
  let size : Int := (Nat.log2 digits : Int) / 4 + exponent
  if digits = 0 then .finite negative 0 leastExponent
  else if 400 < size then .infinite negative
  else if (Nat.log2 digits : Int) + exponent < -400 then .finite negative 0 leastExponent
  else if 0 ≤ exponent then ofQuotient negative (digits * Nat.pow 10 exponent.toNat) 1
  else ofQuotient negative digits (Nat.pow 10 (-exponent).toNat)

/-! ### Exact values -/

/-- The whole number that the value is, if it is one. -/
def toInt? : Binary64 → Option Int
  | .finite negative m e =>
    let magnitude : Option Nat :=
      if 0 ≤ e then some (m * Nat.pow 2 e.toNat)
      else if m % Nat.pow 2 (-e).toNat = 0 then some (m / Nat.pow 2 (-e).toNat) else none
    magnitude.map fun n => if negative then -(n : Int) else (n : Int)
  | _ => none

/-- Whether the value is a finite number. -/
def isFinite : Binary64 → Bool
  | .finite .. => true
  | _ => false

/-! ### Arithmetic -/

/-- The number with the other sign. -/
def negate : Binary64 → Binary64
  | .finite negative m e => .finite (!negative) m e
  | .infinite negative => .infinite (!negative)
  | .notANumber => .notANumber

/-- A mantissa with its sign and exponent as a fraction. -/
def fractionOf (negative : Bool) (mantissa : Nat) (exponent : Int) : Int × Nat :=
  let (n, d) := if 0 ≤ exponent then (mantissa * Nat.pow 2 exponent.toNat, 1)
    else (mantissa, Nat.pow 2 (-exponent).toNat)
  (if negative then -(n : Int) else n, d)

/-- The sum, rounded once. Opposite infinities have none, and what cancels out is a zero without a
sign. -/
def add (x y : Binary64) : Binary64 :=
  match x, y with
  | .notANumber, _ | _, .notANumber => .notANumber
  | .infinite a, .infinite b => if a = b then .infinite a else .notANumber
  | .infinite a, _ | _, .infinite a => .infinite a
  | .finite a m e, .finite b k f =>
    let (n, d) := fractionOf a m e
    let (n', d') := fractionOf b k f
    let sum := n * d' + n' * d
    ofQuotient (if sum = 0 then a && b else sum < 0) sum.natAbs (d * d')

/-- The product with a natural number that is not zero: the number is rounded first, then the
product. `none` if the number is beyond the range. -/
def timesNat? (x : Binary64) (factor : Nat) : Option Binary64 :=
  match ofQuotient false factor 1 with
  | .finite _ k f =>
    match x with
    | .finite negative m e =>
      let (n, d) := fractionOf false (m * k) (e + f)
      some (ofQuotient negative n.natAbs d)
    | _ => some x
  | _ => none

end Binary64

end ColumnLint

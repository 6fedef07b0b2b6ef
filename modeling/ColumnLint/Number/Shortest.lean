import ColumnLint.Number.Binary64

/-!
# Shortest decimal digits

The fewest decimal digits that read back as the same floating point number, and of
those the nearest to it. All numbers that round to `m * 2 ^ q` form an interval, whose
ends belong to it exactly if `m` is even. For one, two, … seventeen digits the two
neighbours of the value on that decimal grid are tried; the first grid with a hit
wins, of two hits the nearer, and a tie goes to the even digit.
-/

namespace ColumnLint

/-- Decimal digits with the place of the point: the value is `0.d₁d₂… * 10 ^ point`. -/
structure DecimalDigits where
  digits : List Char
  point : Int
  deriving DecidableEq, Repr

namespace Shortest

/-- The interval of values that round to a number, in quarters of the last binary place. -/
structure Interval where
  low : Nat
  value : Nat
  high : Nat
  closed : Bool

/-- The interval of `mantissa * 2 ^ exponent`: half a place on each side, but a quarter below where
the places get finer. -/
def Interval.around (mantissa : Nat) (exponent : Int) : Interval :=
  let finer := mantissa = Nat.pow 2 52 && Binary64.leastExponent < exponent
  ⟨if finer then 4 * mantissa - 1 else 4 * mantissa - 2, 4 * mantissa, 4 * mantissa + 2,
    mantissa % 2 = 0⟩

/-- Whether the number `candidate`, given in the interval's units times `scale`, lies in the
interval. -/
def Interval.holds (i : Interval) (scale candidate : Nat) : Bool :=
  if i.closed then i.low * scale ≤ candidate && candidate ≤ i.high * scale
  else i.low * scale < candidate && candidate < i.high * scale

/-- The power `p` with `10 ^ (p - 1) ≤ num / den < 10 ^ p`. -/
def magnitude (num den : Nat) : Int :=
  let p : Int := ((Nat.toDigits 10 num).length : Int) - ((Nat.toDigits 10 den).length : Int)
  let reached := if 0 ≤ p then den * Nat.pow 10 p.toNat ≤ num else den ≤ num * Nat.pow 10 (-p).toNat
  if reached then p + 1 else p

/-- The neighbour of the value on the grid of multiples of `10 ^ place` that lies in the interval;
`num / den` is the unit of the interval. -/
def onGrid? (i : Interval) (num den : Nat) (place : Int) : Option Nat :=
  -- in units of the grid the value is `a / b`
  let (a, b) := if 0 ≤ place then (i.value * num, den * Nat.pow 10 place.toNat)
    else (i.value * num * Nat.pow 10 (-place).toNat, den)
  let below := a / b
  let above := below + 1
  -- a grid point `g` lies at `g * b / (a / i.value)` units
  let unit := if 0 ≤ place then num else num * Nat.pow 10 (-place).toNat
  let lowHit := i.holds unit (below * b)
  let highHit := i.holds unit (above * b)
  if lowHit && highHit then
    let r := 2 * (a % b)
    if r < b then some below
    else if b < r then some above
    else some (if below % 2 = 0 then below else above)
  else if lowHit then some below
  else if highHit then some above
  else none

/-- The digits of a natural without the zeros at the end. -/
def significant (n : Nat) : List Char :=
  ((Nat.toDigits 10 n).reverse.dropWhile (· = '0')).reverse

/-- The digits on the first grid from `count` places on, for at most `more` grids, that has a
hit. -/
def search (i : Interval) (num den : Nat) (power : Int) : Nat → Nat → DecimalDigits
  | 0, _ => ⟨['0'], 1⟩
  | more + 1, count =>
    match onGrid? i num den (power - count) with
    | some g =>
      let text := Nat.toDigits 10 g
      ⟨significant g, power + (text.length : Int) - count⟩
    | none => search i num den power more (count + 1)

/-- The shortest digits of the positive number `mantissa * 2 ^ exponent`. -/
def digitsOf (mantissa : Nat) (exponent : Int) : DecimalDigits :=
  let i := Interval.around mantissa exponent
  let unit : Nat × Nat :=
    if 2 ≤ exponent then (Nat.pow 2 (exponent - 2).toNat, 1) else (1, Nat.pow 2 (2 - exponent).toNat)
  search i unit.1 unit.2 (magnitude (i.value * unit.1) unit.2) 17 1

end Shortest

/-- How numbers are written: the range of the point's place for positional notation. -/
structure FloatNotation where
  /-- Positional notation needs a point beyond this place. -/
  abovePoint : Int
  /-- Positional notation needs a point up to this place. -/
  uptoPoint : Int
  /-- The least number of digits of an exponent. -/
  exponentWidth : Nat

/-- Positional from `0.0001` to below `10 ^ 16`; exponents have a sign and two digits at least. -/
def FloatNotation.standard : FloatNotation := ⟨-4, 16, 2⟩

namespace FloatNotation

/-- The digits with a point, and a zero on a side that has none. -/
def positional (d : DecimalDigits) : List Char :=
  if d.point ≤ 0 then '0' :: '.' :: List.replicate (-d.point).toNat '0' ++ d.digits
  else
    let n := d.point.toNat
    if d.digits.length ≤ n then
      d.digits ++ List.replicate (n - d.digits.length) '0' ++ ['.', '0']
    else
      d.digits.take n ++ '.' :: d.digits.drop n

/-- The digits with a point after the first one, if more follow, and the power of ten. -/
def scientific (style : FloatNotation) (d : DecimalDigits) : List Char :=
  let power := d.point - 1
  let size := Nat.toDigits 10 power.natAbs
  d.digits.take 1 ++ (if d.digits.length ≤ 1 then [] else '.' :: d.digits.drop 1) ++
    'e' :: (if power < 0 then '-' else '+') ::
      (List.replicate (style.exponentWidth - size.length) '0' ++ size)

/-- The text of decimal digits. -/
def write (style : FloatNotation) (d : DecimalDigits) : List Char :=
  if style.abovePoint < d.point && d.point ≤ style.uptoPoint then positional d
  else scientific style d

end FloatNotation

/-- The text of a finite number or, from the two words given, of an infinity or no number. -/
def Binary64.textWith (infinity noNumber : String) : Binary64 → String
  | .finite negative m e =>
    let body :=
      if m = 0 then ['0', '.', '0'] else FloatNotation.standard.write (Shortest.digitsOf m e)
    String.ofList (if negative then '-' :: body else body)
  | .infinite negative => if negative then "-" ++ infinity else infinity
  | .notANumber => noNumber

end ColumnLint

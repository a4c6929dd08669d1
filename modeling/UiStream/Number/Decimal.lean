import UiStream.Number.Double

/-!
# Decimal forms of doubles

The shortest decimal digits that read back as a double, and the ways to lay them out.

A decimal `d * 10 ^ k` reads back as `x` when it lies in the interval of numbers that round to
`x`: from halfway to the pattern below to halfway to the pattern above, ends included exactly
for an even pattern.  `Double.onGrid?` looks for such a `d` at one `k`, and
`Double.shortest` takes the first grid, from one digit up, that has one.
-/

namespace UiStream

/-- Significant decimal digits, the first of them at `10 ^ exponent`.  There is at least one
digit, and for a nonzero number neither the first nor the last is zero. -/
structure Decimal where
  digits : List Char
  exponent : Int
deriving DecidableEq, Repr

namespace Decimal

/-- The decimal `coefficient * 10 ^ scale`, without trailing zeros. -/
def ofScaled (coefficient : Nat) (scale : Int) : Decimal :=
  let all := Nat.toDigits 10 coefficient
  { digits := (all.reverse.dropWhile (· == '0')).reverse
    exponent := scale + all.length - 1 }

/-- The digits in places, without an exponent: `0.0012`, `1200`, `1.25`. -/
def positional (d : Decimal) : List Char :=
  if d.exponent < 0 then
    '0' :: '.' :: List.replicate (d.exponent.natAbs - 1) '0' ++ d.digits
  else
    let places := d.exponent.natAbs + 1
    let whole := d.digits.take places
    let fraction := d.digits.drop places
    whole ++ List.replicate (places - whole.length) '0' ++
      (if fraction.isEmpty then [] else '.' :: fraction)

/-- One digit before the point and a signed exponent: `1.25e-7`, `1e+21`. -/
def scientific (d : Decimal) : List Char :=
  let sign := if d.exponent < 0 then '-' else '+'
  d.digits.take 1 ++
    (if d.digits.length ≤ 1 then [] else '.' :: d.digits.drop 1) ++
    'e' :: sign :: Nat.toDigits 10 d.exponent.natAbs

end Decimal

/-- The greatest `t` with `10 ^ t ≤ num / den`, for positive operands. -/
def floorLog10 (num den : Nat) : Int :=
  let t : Int := ((Nat.toDigits 10 num).length : Int) - (Nat.toDigits 10 den).length
  let power := Nat.pow 10 t.natAbs
  let above := if t < 0 then den ≤ num * power else den * power ≤ num
  if above then t else t - 1

namespace Double

/-- A multiple `d` of `10 ^ k` that reads back as the nonzero magnitude, the nearer one if both
neighbours on the grid do, and of two equally near the even one. -/
def onGrid? (x : Double) (k : Int) : Option Nat :=
  let floor := magnitudeUnits (x.magnitude - 1) + x.units
  let ceiling := x.units + magnitudeUnits (x.magnitude + 1)
  let step := unitsPerOne * Nat.pow 10 k.toNat
  let parts := Nat.pow 10 (-k).toNat
  let exact := x.units * parts
  let low := exact / step
  let readsBack (d : Nat) : Bool :=
    let place := 2 * d * step
    if x.magnitude % 2 = 0 then floor * parts ≤ place && place ≤ ceiling * parts
    else floor * parts < place && place < ceiling * parts
  match readsBack low, readsBack (low + 1) with
  | true, true => some (roundDiv exact step)
  | true, false => some low
  | false, true => some (low + 1)
  | false, false => none

/-- The fewest digits that read back, and of those the nearest.  Seventeen always do. -/
def shortest (x : Double) : Decimal :=
  if x.magnitude = 0 then ⟨['0'], 0⟩
  else
    let first := floorLog10 x.units unitsPerOne
    let grid (n : Nat) : Option Decimal :=
      (x.onGrid? (first - n)).map (Decimal.ofScaled · (first - n))
    ((List.range 17).findSome? grid).getD ⟨['0'], 0⟩

/-- A minus sign before a negative number, the negative zero included. -/
def sign (x : Double) : List Char := if x.negative then ['-'] else []

end Double

end UiStream

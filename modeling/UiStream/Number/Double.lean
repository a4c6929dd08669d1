/-!
# Finite doubles

`Double` is a finite 64-bit binary floating-point number, held as a sign and the 63-bit
pattern of its magnitude.  Every such number is a whole multiple of `2 ^ -1074`, and
`Double.scaled` is that multiple, so comparing two doubles is comparing two integers.

`nearestMagnitude num den` is the pattern of the magnitude nearest to the quotient
`num / den`, a tie going to the even pattern.  Everything that rounds is a call of it:
`Double.ofInt`, `Double.mul?` and `Double.div?`.
-/

namespace UiStream

/-- The first pattern that is not a finite magnitude. -/
def magnitudeLimit : Nat := 0x7FF0000000000000

/-- The number of patterns between a power of two and the next, which is `2 ^ 52`. -/
def patternsPerStep : Nat := 0x10000000000000

/-- One, as a multiple of `2 ^ -1074`. -/
def unitsPerOne : Nat := Nat.pow 2 1074

/-- The magnitude a pattern stands for, as a multiple of `2 ^ -1074`. -/
def magnitudeUnits (magnitude : Nat) : Nat :=
  if magnitude < patternsPerStep then magnitude
  else
    (patternsPerStep + magnitude % patternsPerStep) *
      Nat.pow 2 (magnitude / patternsPerStep - 1)

/-- A finite double.  The magnitude is the 63-bit pattern of exponent and fraction, so larger
patterns are larger numbers. -/
structure Double where
  negative : Bool
  magnitude : Nat
  finite : magnitude < magnitudeLimit
deriving DecidableEq, Repr

namespace Double

/-- Zero, with the given sign. -/
def zero (negative : Bool) : Double := ⟨negative, 0, by decide⟩

instance : Inhabited Double := ⟨zero false⟩

/-- The magnitude as a multiple of `2 ^ -1074`. -/
def units (x : Double) : Nat := magnitudeUnits x.magnitude

/-- The number as a multiple of `2 ^ -1074`. -/
def scaled (x : Double) : Int := if x.negative then -(x.units : Int) else x.units

/-- Equal as numbers: the two zeros are one number. -/
def numEq (x y : Double) : Bool := x.scaled == y.scaled

/-- Less than, as numbers. -/
def numLt (x y : Double) : Bool := decide (x.scaled < y.scaled)

/-- Less than or equal, as numbers. -/
def numLe (x y : Double) : Bool := decide (x.scaled ≤ y.scaled)

/-- Neither of the two zeros. -/
def isNonzero (x : Double) : Bool := x.magnitude != 0

/-- Has no fractional part. -/
def isWhole (x : Double) : Bool := x.units % unitsPerOne == 0

/-- The magnitude without its fractional part. -/
def wholePart (x : Double) : Nat := x.units / unitsPerOne

end Double

/-! ## Rounding -/

/-- `num / den` to the nearest natural number, a half going to the even neighbour. -/
def roundDiv (num den : Nat) : Nat :=
  let low := num / den
  let twice := 2 * (num % den)
  if twice < den then low
  else if twice = den then low + low % 2
  else low + 1

/-- The greatest `t` with `2 ^ t ≤ num / den`, for positive operands. -/
def floorLog2 (num den : Nat) : Int :=
  let t : Int := (Nat.log2 num : Int) - Nat.log2 den
  let power := Nat.pow 2 t.natAbs
  let above := if t < 0 then den ≤ num * power else den * power ≤ num
  if above then t else t - 1

/-- The pattern of the magnitude nearest to `num / den`; `magnitudeLimit` or more when the
quotient is too large for a finite double.  With `k` the exponent step (`0` for the numbers
below the normal range) the spacing there is `2 ^ (k - 1074)`, and a step adds
`patternsPerStep` patterns; a significand that rounds up to `2 ^ 53` carries into the next step by
itself. -/
def nearestMagnitude (num den : Nat) : Nat :=
  if num = 0 then 0
  else
    let k := (floorLog2 num den + 1022).toNat
    k * patternsPerStep + roundDiv (num * unitsPerOne) (den * Nat.pow 2 k)

namespace Double

/-- The double of a pattern, absent when the pattern is not finite. -/
def ofMagnitude? (negative : Bool) (magnitude : Nat) : Option Double :=
  if h : magnitude < magnitudeLimit then some ⟨negative, magnitude, h⟩ else none

/-- The largest finite double of a sign. -/
def largest (negative : Bool) : Double := ⟨negative, magnitudeLimit - 1, by decide⟩

/-- The double nearest to an integer.  Integers too large for a finite double give the largest
one; no integer of 64 bits is. -/
def ofInt (n : Int) : Double :=
  (ofMagnitude? (decide (n < 0)) (nearestMagnitude n.natAbs 1)).getD (largest (decide (n < 0)))

/-- The product, rounded to nearest; absent when it overflows. -/
def mul? (x y : Double) : Option Double :=
  ofMagnitude? (x.negative != y.negative)
    (nearestMagnitude (x.units * y.units) (unitsPerOne * unitsPerOne))

/-- The quotient by a nonzero double, rounded to nearest; absent when it overflows. -/
def div? (x y : Double) : Option Double :=
  ofMagnitude? (x.negative != y.negative) (nearestMagnitude x.units y.units)

end Double

end UiStream

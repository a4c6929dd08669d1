import UiStream.Number.Double

/-!
# Reading decimal numbers

A decimal literal is read as a significand of at most 64 bits and a power of ten.  The result
is the significand, rounded to a double, multiplied or divided by the rounded power: two or
three roundings, so it may differ in its last bit from the double nearest to the literal.
-/

namespace UiStream

/-- One past the largest significand. -/
def significandLimit : Nat := 0x10000000000000000

/-- Digits taken into a significand for as long as it fits: the significand, how many digits
it took, and the digits left over. -/
def absorbDigits (significand taken : Nat) : List Char → Nat × Nat × List Char
  | [] => (significand, taken, [])
  | c :: rest =>
    let next := significand * 10 + (c.toNat - '0'.toNat)
    if next < significandLimit then absorbDigits next (taken + 1) rest
    else (significand, taken, c :: rest)

namespace Double

/-- The double nearest to a power of ten.  The largest exponent asked for is 308. -/
def powerOfTen (n : Nat) : Double := ofInt (Nat.pow 10 n)

/-- `x * 10 ^ exponent` in double arithmetic, absent on overflow.  An exponent below the range
of the powers is worked off in divisions by `10 ^ 308`. -/
def scaleByTen? (x : Double) (exponent : Int) : Option Double :=
  if 308 < exponent then
    if x.isNonzero then none else some x
  else if exponent < -308 then
    if x.isNonzero then (x.div? (powerOfTen 308)).bind (scaleByTen? · (exponent + 308))
    else some x
  else if 0 ≤ exponent then x.mul? (powerOfTen exponent.natAbs)
  else x.div? (powerOfTen exponent.natAbs)
termination_by exponent.natAbs
decreasing_by omega

/-- The double written as digits before the point, digits after it and an exponent; absent when
it is too large.  Digits that do not fit the significand count as zeros before the point and
are dropped after it. -/
def ofDecimal? (negative : Bool) (whole fraction : List Char) (exponent : Int) :
    Option Double :=
  let (high, _, skipped) := absorbDigits 0 0 whole
  let (significand, places, _) := absorbDigits high 0 fraction
  let unsigned := ofInt significand
  (scaleByTen? unsigned (skipped.length - places + exponent)).map fun x =>
    { x with negative := negative }

end Double

end UiStream

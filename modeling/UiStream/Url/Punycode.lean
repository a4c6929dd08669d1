/-!
# Names in the letters of ASCII

A name with other letters has a form in ASCII: first its ASCII letters, then, behind the last
hyphen, numbers that tell which letter goes where.  A number is written in digits of base 36, the
lowest first, and a digit below its threshold is the last.  The thresholds follow the numbers
read so far.
-/

namespace UiStream.Url.Punycode

/-- The value of a digit: the letters and then the decimal digits. -/
def digit? (c : Char) : Option Nat :=
  if 'a' ≤ c ∧ c ≤ 'z' then some (c.toNat - 'a'.toNat)
  else if 'A' ≤ c ∧ c ≤ 'Z' then some (c.toNat - 'A'.toNat)
  else if '0' ≤ c ∧ c ≤ '9' then some (c.toNat - '0'.toNat + 26)
  else none

/-- The threshold of the digit at a place. -/
def threshold (bias place : Nat) : Nat := min 26 (max 1 (place - bias))

/-- Divides a difference down to the range of the bias, counting the divisions by 36. -/
def scaleDown (difference : Nat) : Nat × Nat :=
  if 455 < difference then
    let (rest, places) := scaleDown (difference / 35)
    (rest, places + 36)
  else (difference, 0)
termination_by difference
decreasing_by exact Nat.div_lt_self (by omega) (by omega)

/-- The bias after a number, by the difference that it stands for. -/
def nextBias (difference length : Nat) (first : Bool) : Nat :=
  let halved := difference / (if first then 700 else 2)
  let (rest, places) := scaleDown (halved + halved / length)
  places + 36 * rest / (rest + 38)

/-- Reads a number from digits, the first of which has the given place and weight. -/
def readNumber? (bias : Nat) : List Char → Nat → Nat → Option (Nat × List Char)
  | [], _, _ => none
  | c :: rest, place, weight => do
    let digit ← digit? c
    let limit := threshold bias place
    if digit < limit then return (digit * weight, rest)
    let (more, rest) ← readNumber? bias rest (place + 36) (weight * (36 - limit))
    return (digit * weight + more, rest)

/-- Where the next letter goes, and which is the smallest that it can be. -/
structure Insertion where
  letters : List Char
  code : Nat := 128
  place : Nat := 0
  bias : Nat := 72
  first : Bool := true
deriving DecidableEq, Repr

/-- Inserts the letter that is so many steps ahead. -/
def Insertion.insert? (state : Insertion) (steps : Nat) : Option Insertion :=
  let length := state.letters.length + 1
  let target := state.place + steps
  let code := state.code + target / length
  let place := target % length
  if code.isValidChar then
    some {
      letters := state.letters.insertIdx place (Char.ofNat code)
      code
      place := place + 1
      bias := nextBias steps length state.first
      first := false }
  else none

/-- Inserts the letters that numbers tell.  Every number takes a digit, so their text bounds
their count. -/
def insertAll? : Nat → Insertion → List Char → Option (List Char)
  | _, state, [] => some state.letters
  | 0, _, _ :: _ => none
  | count + 1, state, text => do
    let (steps, rest) ← readNumber? state.bias text 36 1
    insertAll? count (← state.insert? steps) rest

/-- The name that a text in ASCII stands for.  A hyphen has a letter in front of it. -/
def decode? (text : List Char) : Option (List Char) :=
  let numbers := (text.reverse.takeWhile (· != '-')).reverse
  let letters := text.take (text.length - numbers.length - 1)
  if letters.all (·.toNat < 0x80) && (!letters.isEmpty || numbers == text) then
    insertAll? numbers.length { letters } numbers
  else none

end UiStream.Url.Punycode

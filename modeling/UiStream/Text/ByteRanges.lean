/-!
# Ranges of bytes

The bytes of a range of characters in UTF-8 are described by sequences of byte ranges, each of
which describes every text that takes one byte from each of its ranges.
-/

namespace UiStream

namespace ByteRanges

/-- The ranges of digits to base 64 that numbers in a range have, where so many digits come behind
the first. -/
def digits : Nat → Nat → Nat → List (List (Nat × Nat))
  | 0, first, last => [[(first, last)]]
  | places + 1, first, last =>
    let block := Nat.pow 64 (places + 1)
    let low := first / block
    let high := last / block
    if low = high then
      (digits places (first % block) (last % block)).map ((low, low) :: ·)
    else
      let isWhole := first % block = 0
      let endsWhole := last % block = block - 1
      let front :=
        if isWhole then [] else (digits places (first % block) (block - 1)).map ((low, low) :: ·)
      let back :=
        if endsWhole then [] else (digits places 0 (last % block)).map ((high, high) :: ·)
      let from' := if isWhole then low else low + 1
      let to' := if endsWhole then high + 1 else high
      let middle :=
        if from' < to' then [(from', to' - 1) :: List.replicate (places + 1) (0, 63)] else []
      front ++ middle ++ back

/-- The characters whose text has each number of bytes: their first and last code, the number of
bytes behind the first, and what the first byte adds to its digit. -/
def sizes : List (Nat × Nat × Nat × Nat) :=
  [(0, 0x7F, 0, 0), (0x80, 0x7FF, 1, 0xC0), (0x800, 0xD7FF, 2, 0xE0), (0xE000, 0xFFFF, 2, 0xE0),
   (0x10000, 0x10FFFF, 3, 0xF0)]

/-- Digits as bytes: the first is marked by the number of bytes, and the others as such. -/
def marked (mark : Nat) : List (Nat × Nat) → List (Nat × Nat)
  | [] => []
  | (first, last) :: rest =>
    (first + mark, last + mark) :: rest.map fun (first, last) => (first + 0x80, last + 0x80)

/-- The sequences of byte ranges of a range of characters. -/
def ofRange (first last : Nat) : List (List (Nat × Nat)) :=
  sizes.flatMap fun (least, most, places, mark) =>
    if max first least ≤ min last most then
      (digits places (max first least) (min last most)).map (marked mark)
    else []

end ByteRanges

end UiStream

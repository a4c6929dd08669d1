/-!
# Decoding UTF-8 a byte at a time

`Utf8.step` takes one byte and the bytes held back before it, which are the beginning of one
character's sequence, and gives the characters that are settled and the bytes now held back.  A
byte that cannot continue the sequence turns what was held back into one replacement
character and is then looked at afresh.  `Utf8.feed` takes many bytes, and `Utf8.decodeLossy` a
whole text, in which a sequence left unfinished at the end is one replacement character too.
-/

namespace UiStream.Utf8

/-- The character that stands for bytes that are not UTF-8. -/
def replacement : Char := '\uFFFD'

/-- The number of bytes of the sequence a byte begins; none for a byte that begins none. -/
def sequenceLength? (lead : UInt8) : Option Nat :=
  if lead < 0x80 then some 1
  else if lead < 0xC2 then none
  else if lead < 0xE0 then some 2
  else if lead < 0xF0 then some 3
  else if lead < 0xF5 then some 4
  else none

/-- Whether a byte may come second after a lead byte: the ranges keep out overlong forms,
surrogates and codes past the last character. -/
def maySecond (lead b : UInt8) : Bool :=
  if lead = 0xE0 then 0xA0 ≤ b && b ≤ 0xBF
  else if lead = 0xED then 0x80 ≤ b && b ≤ 0x9F
  else if lead = 0xF0 then 0x90 ≤ b && b ≤ 0xBF
  else if lead = 0xF4 then 0x80 ≤ b && b ≤ 0x8F
  else 0x80 ≤ b && b ≤ 0xBF

/-- Whether a byte continues the sequence begun by the bytes held back. -/
def continues (held : List UInt8) (b : UInt8) : Bool :=
  match held with
  | [] => false
  | [lead] => maySecond lead b
  | _ => 0x80 ≤ b && b ≤ 0xBF

/-- The bits of the code that a lead byte carries. -/
def leadBits (lead : UInt8) : Nat :=
  if lead < 0x80 then lead.toNat
  else if lead < 0xE0 then lead.toNat % 0x20
  else if lead < 0xF0 then lead.toNat % 0x10
  else lead.toNat % 0x08

/-- The character of a complete sequence. -/
def character : List UInt8 → Char
  | [] => replacement
  | lead :: rest => Char.ofNat (rest.foldl (fun n b => n * 0x40 + b.toNat % 0x40) (leadBits lead))

/-- Takes a byte with nothing held back. -/
def start (b : UInt8) : List Char × List UInt8 :=
  match sequenceLength? b with
  | none => ([replacement], [])
  | some 1 => ([character [b]], [])
  | some _ => ([], [b])

/-- Takes a byte after the bytes held back. -/
def step (held : List UInt8) (b : UInt8) : List Char × List UInt8 :=
  match held with
  | [] => start b
  | lead :: _ =>
    if continues held b then
      if sequenceLength? lead = some (held.length + 1) then ([character (held ++ [b])], [])
      else ([], held ++ [b])
    else
      let (settled, held) := start b
      (replacement :: settled, held)

/-- Takes bytes in order. -/
def feed (held : List UInt8) : List UInt8 → List Char × List UInt8
  | [] => ([], held)
  | b :: rest =>
    let (settled, held) := step held b
    let (later, held) := feed held rest
    (settled ++ later, held)

/-- What the bytes held back amount to when no more come. -/
def finish (held : List UInt8) : List Char := if held.isEmpty then [] else [replacement]

/-- The text of bytes, with replacement characters for what is not UTF-8. -/
def decodeLossy (bytes : List UInt8) : List Char :=
  let (settled, held) := feed [] bytes
  settled ++ finish held

theorem feed_append (held a b : List UInt8) :
    feed held (a ++ b) =
      ((feed held a).1 ++ (feed (feed held a).2 b).1, (feed (feed held a).2 b).2) := by
  induction a generalizing held with
  | nil => simp [feed]
  | cons c rest ih => simp [feed, ih]

end UiStream.Utf8

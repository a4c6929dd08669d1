import UiStream.Character.CombiningClass
import UiStream.Character.Composition

/-!
# Normal form of texts

The same text can be written with composed characters or with marks behind plain ones, and marks of
different classes can be written in any order.  `normalForm` takes characters apart, orders the
marks, and composes what it can.  Syllables of Hangul are composed by calculation.

Characters that are no part of a normal form whatever stands around them are not taken apart.
-/

namespace UiStream

namespace NormalForm

/-! ## Hangul -/

/-- The first syllable. -/
def firstSyllable : Nat := 0xAC00

/-- The first initial letter. -/
def firstInitial : Nat := 0x1100

/-- The first vowel. -/
def firstVowel : Nat := 0x1161

/-- The code in front of the first final letter. -/
def beforeFinal : Nat := 0x11A7

/-- The number of syllables with the same initial letter and vowel. -/
def finals : Nat := 28

/-- The number of syllables with the same initial letter. -/
def vowels : Nat := 21

/-- The number of syllables. -/
def syllables : Nat := 19 * 21 * 28

/-- The letters of a syllable. -/
def syllableLetters? (code : Nat) : Option (List Nat) :=
  if firstSyllable ≤ code ∧ code < firstSyllable + syllables then
    let index := code - firstSyllable
    let final := index % finals
    let start :=
      [firstInitial + index / finals / vowels, firstVowel + index / finals % vowels]
    some (if final = 0 then start else start ++ [beforeFinal + final])
  else none

/-- The syllable of an initial letter and a vowel, or of a syllable and a final letter. -/
def syllable? (a b : Nat) : Option Nat :=
  if firstInitial ≤ a ∧ a < firstInitial + 19 ∧ firstVowel ≤ b ∧ b < firstVowel + vowels then
    some (firstSyllable + ((a - firstInitial) * vowels + (b - firstVowel)) * finals)
  else if firstSyllable ≤ a ∧ a < firstSyllable + syllables ∧ (a - firstSyllable) % finals = 0 ∧
      beforeFinal < b ∧ b < beforeFinal + finals then
    some (a + (b - beforeFinal))
  else none

/-! ## Pairs -/

/-- What two characters make. -/
def composed? (a b : Nat) : Option Nat :=
  syllable? a b <|> (compositions.lookup b).bind (·.lookup a)

/-- The two characters that one is made of. -/
def pair? (code : Nat) : Option (Nat × Nat) :=
  compositions.findSome? fun (b, pairs) =>
    (pairs.find? fun (_, made) => made = code).map fun (a, _) => (a, b)

/-- Takes a character apart, at most so many times. -/
def takenApart : Nat → Nat → List Nat
  | 0, code => [code]
  | times + 1, code =>
    match syllableLetters? code, pair? code with
    | some letters, _ => letters
    | none, some (a, b) => takenApart times a ++ [b]
    | none, none => [code]

/-! ## Order -/

/-- Puts a mark in front of those of higher classes, in marks with the last one first. -/
def insertMark (code : Nat) : List Nat → List Nat
  | [] => [code]
  | last :: before =>
    if combiningClass code < combiningClass last then last :: insertMark code before
    else code :: last :: before

/-! ## Composition -/

/-- A text that is being composed: what is complete, the base that may be composed with marks, and
the marks that stay behind it.  Both lists have the last character first. -/
structure State where
  complete : List Nat := []
  base? : Option Nat := none
  marks : List Nat := []

namespace State

/-- What has been read, with the last character first. -/
def all (state : State) : List Nat :=
  state.marks ++ state.base?.toList ++ state.complete

/-- Adds a character.  A mark of the same or a higher class keeps it from the base. -/
def add (state : State) (code : Nat) : State :=
  let isNext := state.marks.head?.all fun last => combiningClass last < combiningClass code
  match if isNext then state.base?.bind (composed? · code) else none with
  | some made => { state with base? := some made }
  | none =>
    if combiningClass code = 0 then { complete := state.all, base? := some code }
    else { state with marks := code :: state.marks }

end State

/-- Orders the marks behind each base, in a text with the last character first. -/
def addOrdered (reversed : List Nat) (code : Nat) : List Nat :=
  if combiningClass code = 0 then code :: reversed
  else
    let marks := reversed.takeWhile (combiningClass · != 0)
    insertMark code marks ++ reversed.drop marks.length

end NormalForm

open NormalForm in
/-- The normal form of a text, by codes.  No character is composed of more than four. -/
def normalForm (text : List Nat) : List Nat :=
  let apart := text.flatMap (takenApart 4)
  let ordered := (apart.foldl addOrdered []).reverse
  ((ordered.foldl State.add {}).all).reverse

end UiStream

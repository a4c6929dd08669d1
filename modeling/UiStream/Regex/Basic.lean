import UiStream.Character.Property

/-!
# Regular expressions

A regular expression describes texts by characters, sequences, alternatives and repetitions, and
by assertions about the gap between two characters.

`Regex.ends` says in which gaps of a text a described part can end that begins in one of given
gaps, and `Regex.search` asks whether some part of a text is described.  A set of gaps is a number:
its bit at a place says whether the gap in front of the character at that place belongs to it.
-/

namespace UiStream

/-- The gap between two characters of a text, at whose ends there is none. -/
structure Gap where
  before? : Option Char
  after? : Option Char
deriving DecidableEq, Repr

/-- What can be asserted about a gap.  A word is one of all letters, or of ASCII letters only. -/
inductive Assertion where
  | textStart
  | textEnd
  | lineStart
  | lineEnd
  | lineStartCrlf
  | lineEndCrlf
  | wordBoundary (ascii : Bool)
  | noWordBoundary (ascii : Bool)
  | wordStart (ascii : Bool)
  | wordEnd (ascii : Bool)
  | noWordBefore (ascii : Bool)
  | noWordAfter (ascii : Bool)
deriving DecidableEq, Repr

/-- Whether there is a character of a word. -/
def isWordChar? (ascii : Bool) : Option Char → Bool
  | none => false
  | some c => if ascii then c.isAlphanum || c == '_' else CharProperty.word.has c.toNat

/-- Whether an assertion holds in a gap. -/
def Assertion.holds (gap : Gap) : Assertion → Bool
  | textStart => gap.before? == none
  | textEnd => gap.after? == none
  | lineStart => gap.before? == none || gap.before? == some '\n'
  | lineEnd => gap.after? == none || gap.after? == some '\n'
  | lineStartCrlf =>
    gap.before? == none || gap.before? == some '\n' ||
      (gap.before? == some '\r' && gap.after? != some '\n')
  | lineEndCrlf =>
    gap.after? == none || gap.after? == some '\r' ||
      (gap.after? == some '\n' && gap.before? != some '\r')
  | wordBoundary ascii => isWordChar? ascii gap.before? != isWordChar? ascii gap.after?
  | noWordBoundary ascii => isWordChar? ascii gap.before? == isWordChar? ascii gap.after?
  | wordStart ascii => !isWordChar? ascii gap.before? && isWordChar? ascii gap.after?
  | wordEnd ascii => isWordChar? ascii gap.before? && !isWordChar? ascii gap.after?
  | noWordBefore ascii => !isWordChar? ascii gap.before?
  | noWordAfter ascii => !isWordChar? ascii gap.after?

/-- A regular expression.  A repetition without a greatest number has no end; one that is greedy
prefers more rounds.  A group keeps the part of the text that it describes, under a number. -/
inductive Regex where
  | empty
  | literal (text : List Char)
  | set (set : CodeRanges)
  | assertion (assertion : Assertion)
  | times (r : Regex) (least : Nat) (most? : Option Nat) (greedy : Bool)
  | group (number : Nat) (r : Regex)
  | seq (rs : List Regex)
  | choice (rs : List Regex)
deriving Repr

namespace Regex

/-! ## Sets of gaps -/

/-- The set of one gap. -/
def gapBit (place : Nat) : Nat := 1 <<< place

/-- The gaps of a set in which an assertion holds. -/
def gapsWhere (text : Array Char) (assertion : Assertion) (gaps : Nat) : Nat :=
  (List.range (text.size + 1)).foldl (fun found place =>
    let gap : Gap := ⟨if place = 0 then none else text[place - 1]?, text[place]?⟩
    if gaps.testBit place && assertion.holds gap then found ||| gapBit place else found) 0

/-- The gaps behind the characters that follow a gap of a set and pass a test. -/
def gapsBehind (text : Array Char) (accepts : Char → Bool) (gaps : Nat) : Nat :=
  (List.range text.size).foldl (fun found place =>
    if gaps.testBit place && text[place]?.any accepts then found ||| gapBit (place + 1)
    else found) 0

/-- The gaps after exactly so many rounds.  A round that leads to where it began may be repeated
without end. -/
def afterRounds (round : Nat → Nat) : Nat → Nat → Nat
  | 0, gaps => gaps
  | count + 1, gaps =>
    let next := round gaps
    if next = gaps then gaps else afterRounds round count next

/-- The gaps after at most so many rounds, of which those reached last are given apart.  Only they
can lead on to further ones. -/
def withinRounds (round : Nat → Nat) : Nat → Nat → Nat → Nat
  | 0, reached, _ => reached
  | count + 1, reached, latest =>
    let fresh := (reached ||| round latest) ^^^ reached
    if fresh = 0 then reached else withinRounds round count (reached ||| fresh) fresh

/-! ## Search -/

mutual

/-- The gaps in which a described part of the text can end that begins in a gap of a set. -/
def ends (text : Array Char) : Regex → Nat → Nat
  | empty, gaps => gaps
  | literal cs, gaps => cs.foldl (fun gaps c => gapsBehind text (· == c) gaps) gaps
  | set s, gaps => gapsBehind text (fun c => s.has c.toNat) gaps
  | assertion a, gaps => gapsWhere text a gaps
  | times r least most? _, gaps =>
    let due := afterRounds (ends text r) least gaps
    let more := match most? with
      | some most => most - least
      | none => text.size + 1
    withinRounds (ends text r) more due due
  | group _ r, gaps => ends text r gaps
  | seq rs, gaps => endsOfSeq text rs gaps
  | choice rs, gaps => endsOfChoice text rs gaps

/-- The gaps in which a part can end that expressions describe one behind the other. -/
def endsOfSeq (text : Array Char) : List Regex → Nat → Nat
  | [], gaps => gaps
  | r :: rest, gaps => endsOfSeq text rest (ends text r gaps)

/-- The gaps in which a part can end that one of several expressions describes. -/
def endsOfChoice (text : Array Char) : List Regex → Nat → Nat
  | [], _ => 0
  | r :: rest, gaps => ends text r gaps ||| endsOfChoice text rest gaps

end

/-- Whether an expression describes some part of a text. -/
def search (r : Regex) (text : List Char) : Bool :=
  r.ends text.toArray (gapBit (text.length + 1) - 1) != 0

end Regex

end UiStream

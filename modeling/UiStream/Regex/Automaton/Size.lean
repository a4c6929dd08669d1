import UiStream.Regex.Automaton.Sets
import UiStream.Regex.Automaton.Words
import UiStream.Regex.Normal

/-!
# Automata of regular expressions

An expression is searched for by two automata, one of which reads the text forwards and keeps what
groups describe, while the other reads it backwards.  `Regex.fits` says whether both are small
enough.
-/

namespace UiStream

namespace Regex

/-- The text of an expression that is a literal. -/
def asWord? : Regex → Option (List Char)
  | literal text => some text
  | _ => none

/-- The bytes of a text in the order in which they are read. -/
def bytesRead (backward : Bool) (text : List Char) : List Nat :=
  let bytes := (text.flatMap String.utf8EncodeChar).map UInt8.toNat
  if backward then bytes.reverse else bytes

/-- Builds a repetition of a part. -/
def buildTimes (part : AutomatonSize → AutomatonPart) (mayBeEmpty : Bool) (least : Nat)
    (most? : Option Nat) (size : AutomatonSize) : AutomatonPart :=
  match least, most? with
  | 0, some 1 => .optional part size
  | least, none => .atLeast part mayBeEmpty least size
  | least, some most => .between part least most size

mutual

/-- Builds an expression. -/
def build (backward : Bool) : Regex → AutomatonSize → AutomatonPart
  | empty, size | assertion _, size => { size := size.addStates 1 }
  | literal text, size => { size := size.addStates (textSize text) }
  | set s, size => AutomatonSets.build backward s size
  | times r least most? _, size =>
    buildTimes (build backward r) ((least? r).all (· == 0)) least most? size
  | group _ r, size =>
    if backward then build backward r size
    else { size := (build backward r (size.addStates 1)).connected.addStates 1 }
  | seq rs, size => buildSeq backward rs { size }
  | choice rs, size =>
    match rs.mapM asWord? with
    | some words => buildWords (words.map (bytesRead backward)) size
    | none => { size := buildChoice backward rs 0 size }

/-- Builds expressions one behind the other, behind a part. -/
def buildSeq (backward : Bool) : List Regex → AutomatonPart → AutomatonPart
  | [], part => part
  | r :: rest, part =>
    if backward then
      let part := buildSeq backward rest part
      part.followedBy (build backward r part.size)
    else buildSeq backward rest (part.followedBy (build backward r part.size))

/-- Builds the alternatives of a fork, of which some are there.  The fork and its end come behind
the second one. -/
def buildChoice (backward : Bool) : List Regex → Nat → AutomatonSize → AutomatonSize
  | [], _, size => size
  | r :: rest, earlier, size =>
    let size := (build backward r size).connected.addBranches 1
    buildChoice backward rest (earlier + 1) (if earlier = 1 then size.addStates 2 else size)

end

/-- The size of the automaton that reads forwards.  In front of an expression that need not stand at
the start of a text comes a loop over any bytes. -/
def forwardSize (r : Regex) : AutomatonSize :=
  let isFixed := r.startsText
  let loop : AutomatonSize :=
    if isFixed then { states := 1 } else { states := 3, branches := 2, ranges := 1 }
  (build false r (loop.addStates 1)).connected.addStates 2

/-- The size of the automaton that reads backwards.  In front of an expression that need not stand
at the end of a text comes a loop over any bytes. -/
def backwardSize (r : Regex) : AutomatonSize :=
  let isFixed := r.endsText
  let loop : AutomatonSize :=
    if isFixed then { states := 1 } else { states := 3, branches := 2, ranges := 1 }
  (build true r loop).connected.addStates 1

/-- Whether the automata of an expression are small enough. -/
def fits (r : Regex) : Bool := r.forwardSize.fits && r.backwardSize.fits

end Regex

end UiStream

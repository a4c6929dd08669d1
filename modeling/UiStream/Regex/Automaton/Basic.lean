/-!
# Sizes of automata

An automaton that searches for a regular expression has states of a fixed size, of which some take
more room: a fork for each of its branches, and a switch for each of its byte ranges.

An automaton is built part by part, and only its size is kept.  `AutomatonPart.followedBy` is how
two parts are joined: a fork at the end of the first gets one more branch.
-/

namespace UiStream

/-- The size of an automaton that is being built. -/
structure AutomatonSize where
  states : Nat := 0
  branches : Nat := 0
  ranges : Nat := 0
deriving DecidableEq, Repr

namespace AutomatonSize

/-- The room that an automaton takes, in bytes. -/
def bytes (size : AutomatonSize) : Nat := 32 * size.states + 4 * size.branches + 8 * size.ranges

/-- The most bytes that an automaton may take. -/
def limit : Nat := 10 * 1024 * 1024

/-- Whether an automaton may be that large. -/
def fits (size : AutomatonSize) : Bool := size.bytes ≤ limit

/-- Adds states. -/
def addStates (size : AutomatonSize) (count : Nat) : AutomatonSize :=
  { size with states := size.states + count }

/-- Adds branches to forks. -/
def addBranches (size : AutomatonSize) (count : Nat) : AutomatonSize :=
  { size with branches := size.branches + count }

/-- Adds a switch with so many ranges. -/
def addSwitch (size : AutomatonSize) (ranges : Nat) : AutomatonSize :=
  { size with states := size.states + 1, ranges := size.ranges + ranges }

theorem bytes_le_addStates (size : AutomatonSize) (count : Nat) :
    size.bytes ≤ (size.addStates count).bytes := by
  simp only [bytes, addStates]; omega

theorem bytes_le_addBranches (size : AutomatonSize) (count : Nat) :
    size.bytes ≤ (size.addBranches count).bytes := by
  simp only [bytes, addBranches]; omega

theorem bytes_le_addSwitch (size : AutomatonSize) (ranges : Nat) :
    size.bytes ≤ (size.addSwitch ranges).bytes := by
  simp only [bytes, addSwitch]; omega

end AutomatonSize

/-- The size of an automaton up to a part of it, and whether that part ends in a fork. -/
structure AutomatonPart where
  size : AutomatonSize
  forked : Bool := false
deriving DecidableEq, Repr

namespace AutomatonPart

/-- The number of branches that a connection from the end of a part adds. -/
def branch (part : AutomatonPart) : Nat := if part.forked then 1 else 0

/-- The size after the end of a part has been connected. -/
def connected (part : AutomatonPart) : AutomatonSize := part.size.addBranches part.branch

/-- A part whose start the end of an earlier one leads to. -/
def followedBy (earlier part : AutomatonPart) : AutomatonPart :=
  { part with size := part.size.addBranches earlier.branch }

/-! ## Repetitions -/

variable (build : AutomatonSize → AutomatonPart)

/-- Builds so many parts behind another.  What does not fit any more need not be built to its
end. -/
def chain : Nat → AutomatonPart → AutomatonPart
  | 0, part => part
  | count + 1, part =>
    if part.size.fits then chain count (part.followedBy (build part.size)) else part

/-- Builds so many parts one behind the other, and a state of its own for none. -/
def exactly (count : Nat) (size : AutomatonSize) : AutomatonPart :=
  match count with
  | 0 => { size := size.addStates 1 }
  | count + 1 => chain build count (build size)

/-- Builds a part that may be passed over. -/
def optional (size : AutomatonSize) : AutomatonPart :=
  { size := (((build (size.addStates 1)).connected).addStates 1).addBranches 2 }

/-- Builds so many parts behind another, each of which may be the first to be passed over with those
behind it. -/
def optionalChain : Nat → AutomatonPart → AutomatonPart
  | 0, part => part
  | count + 1, part =>
    if part.size.fits then
      let next := build ((part.connected.addStates 1).addBranches 2)
      optionalChain count next
    else part

/-- Builds at least and at most so many parts. -/
def between (least most : Nat) (size : AutomatonSize) : AutomatonPart :=
  let due := exactly build least size
  if least = most then due
  else { size := (optionalChain build (most - least)
    { due with size := due.size.addStates 1 }).connected }

/-- Builds a part that may be repeated without end, or passed over.  One that can be empty gets a
fork of its own for being passed over. -/
def anyNumber (mayBeEmpty : Bool) (size : AutomatonSize) : AutomatonPart :=
  if mayBeEmpty then { size := (((build size).connected).addStates 3).addBranches 4 }
  else
    { size := ((build (size.addStates 1)).connected).addBranches 1, forked := true }

/-- Builds at least so many parts, of which the last may be repeated without end. -/
def atLeast (mayBeEmpty : Bool) (least : Nat) (size : AutomatonSize) : AutomatonPart :=
  match least with
  | 0 => anyNumber build mayBeEmpty size
  | least + 1 =>
    let last := chain build least (build size)
    { size := (last.connected.addStates 1).addBranches 1, forked := true }

end AutomatonPart

end UiStream

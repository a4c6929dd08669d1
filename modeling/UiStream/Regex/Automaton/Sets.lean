import Std.Data.HashMap
import UiStream.Character.Ranges
import UiStream.Regex.Automaton.Basic
import UiStream.Text.ByteRanges

/-!
# Sets in automata

A set of ASCII characters is one switch.  Any other is the tree of its byte sequences, in which
equal parts are shared as far as the table of latest parts shows them: a part takes the slot of an
earlier one with the same hash.  Forwards the tree is made of switches, and its ends are shared;
backwards, where the last byte comes first, it is a fork to chains of bytes, whose ends are shared.

States are known by their numbers, which count up from the first one of the automaton, and take part
in the hash.
-/

namespace UiStream

namespace AutomatonSets

/-- The byte sequences of a set. -/
def sequences (set : CodeRanges) : List (List (Nat × Nat)) :=
  set.flatMap fun (first, last) => ByteRanges.ofRange first last

/-- The slot of a part, told by numbers, among so many: their hash by exclusive or and
multiplication. -/
def slotOf (slots : Nat) (numbers : List Nat) : Nat :=
  let hash := numbers.foldl (fun (hash : UInt64) n => (hash ^^^ UInt64.ofNat n) * 1099511628211)
    14695981039346656037
  hash.toNat % slots

/-- The parts of a set that may be shared, by slot, each with the number of its state. -/
structure Shared where
  size : AutomatonSize
  table : Std.HashMap Nat (List Nat × Nat) := {}

namespace Shared

/-- Whether the part in a slot is told by given numbers, and its state. -/
def known? (shared : Shared) (slot : Nat) (numbers : List Nat) : Option Nat :=
  (shared.table.get? slot).bind fun (known, state) => if known = numbers then some state else none

/-- Adds the next state, for the part in a slot. -/
def add (shared : Shared) (slot : Nat) (numbers : List Nat)
    (grow : AutomatonSize → AutomatonSize) : Nat × Shared :=
  let { size, table } := shared
  (size.states, { size := grow size, table := table.insert slot (numbers, size.states) })

/-- The state of a part that is told by numbers, one that is there or a new one. -/
def state (shared : Shared) (slots : Nat) (numbers : List Nat)
    (grow : AutomatonSize → AutomatonSize) : Nat × Shared :=
  let slot := slotOf slots numbers
  match shared.known? slot numbers with
  | some state => (state, shared)
  | none => shared.add slot numbers grow

end Shared

/-! ## Forwards -/

/-- Sequences by their first range.  Neighbours with the same one are taken together. -/
def byFirst : List (List (Nat × Nat)) → List ((Nat × Nat) × List (List (Nat × Nat)))
  | [] => []
  | [] :: rest => byFirst rest
  | (range :: behind) :: rest =>
    match byFirst rest with
    | (range', behinds) :: groups =>
      if range = range' then (range, behind :: behinds) :: groups
      else (range, [behind]) :: (range', behinds) :: groups
    | [] => [(range, [behind])]

/-- The number of slots for switches. -/
def switchSlots : Nat := 10000

/-- The state of a switch between sequences of at most so many ranges, which all lead to a target.
The states behind a switch come before it. -/
def switch (target : Nat) : Nat → List (List (Nat × Nat)) → Shared → Nat × Shared
  | 0, _, shared => (target, shared)
  | length + 1, sequences, shared =>
    let (arms, shared) := (byFirst sequences).foldl (fun (arms, shared) (range, behinds) =>
      let (next, shared) :=
        if behinds.all List.isEmpty then (target, shared)
        else switch target length behinds shared
      ((range.1, range.2, next) :: arms, shared)) ([], shared)
    shared.state switchSlots (arms.reverse.flatMap fun (first, last, next) => [first, last, next])
      (·.addSwitch arms.length)

/-! ## Backwards -/

/-- The number of slots for chains. -/
def chainSlots : Nat := 1000

/-- The state with which a chain of byte ranges begins that ends in a given state. -/
def chain (last : Nat) (sequence : List (Nat × Nat)) (shared : Shared) : Nat × Shared :=
  sequence.foldl (fun (next, shared) range =>
    shared.state chainSlots [next, range.1, range.2] (·.addStates 1)) (last, shared)

/-! ## Sets -/

/-- Builds a set.  The longest sequence has four ranges. -/
def build (backward : Bool) (set : CodeRanges) (size : AutomatonSize) : AutomatonPart :=
  if set.isAscii then { size := (size.addStates 1).addSwitch set.length }
  else if backward then
    let fork (shared : Shared) (sequence : List (Nat × Nat)) : Shared :=
      let (_, shared) := chain (size.states + 1) sequence shared
      { shared with size := shared.size.addBranches 1 }
    { size := ((sequences set).foldl fork { size := size.addStates 2 }).size }
  else { size := (switch size.states 4 (sequences set) { size := size.addStates 1 }).2.size }

end AutomatonSets

end UiStream

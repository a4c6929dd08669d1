import UiStream.Json.Basic

/-!
# Fresh identifiers

A value may ask for identifiers: each string `"$id"` and each object with the one member `$id`
stands for a new one.  An identifier is a reading of the clock and a running number, and the
number alone keeps it apart from all others.
-/

namespace UiStream

/-- A source of identifiers.  `clock` is the reading when the identifier with a number is made,
and `issued` counts those made so far. -/
structure IdSource where
  clock : Nat → Nat
  issued : Nat := 0

namespace IdSource

/-- The identifier with a number. -/
def idOf (source : IdSource) (number : Nat) : String :=
  toString (source.clock number) ++ "-" ++ toString number

/-- The next identifier. -/
def next (source : IdSource) : String × IdSource :=
  (source.idOf (source.issued + 1), { source with issued := source.issued + 1 })

end IdSource

/-- The text that stands for an identifier, and the member of an object that does. -/
def idRequest : String := "$id"

namespace Json

mutual

/-- Puts an identifier for each request in a value, in the order of the document. -/
def withIds (source : IdSource) : Json → Json × IdSource
  | .string s =>
    if s = idRequest then
      let (id, source) := source.next
      (.string id, source)
    else (.string s, source)
  | .array items =>
    let (items, source) := itemsWithIds source items
    (.array items, source)
  | .object [(key, v)] =>
    if key = idRequest then
      let (id, source) := source.next
      (.string id, source)
    else
      let (v, source) := withIds source v
      (.object [(key, v)], source)
  | .object members =>
    let (members, source) := membersWithIds source members
    (.object members, source)
  | v => (v, source)

/-- `withIds` through the items of an array. -/
def itemsWithIds (source : IdSource) : List Json → List Json × IdSource
  | [] => ([], source)
  | v :: rest =>
    let (v, source) := withIds source v
    let (rest, source) := itemsWithIds source rest
    (v :: rest, source)

/-- `withIds` through the members of an object. -/
def membersWithIds (source : IdSource) :
    List (String × Json) → List (String × Json) × IdSource
  | [] => ([], source)
  | (key, v) :: rest =>
    let (v, source) := withIds source v
    let (rest, source) := membersWithIds source rest
    ((key, v) :: rest, source)
end

end Json

end UiStream

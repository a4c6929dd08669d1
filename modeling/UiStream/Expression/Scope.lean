import UiStream.Pointer.Lookup

/-!
# What an expression can see

A `Scope` is the state of the interface and, inside a repeated element, the item it is repeated
for.  An item is addressed by a path of its own, and `Scope.itemPointer?` is the pointer to the
same place from the root of the state.
-/

namespace UiStream

/-- The item that an element is repeated for: its value, its position, and the pointer to it in
the state. -/
structure RepeatScope where
  item : Json
  index : Nat
  basePath : String
deriving DecidableEq, Repr

/-- The values that expressions and conditions read. -/
structure Scope where
  state : Json
  repeated? : Option RepeatScope := none
deriving DecidableEq, Repr

namespace Scope

/-- The value at a pointer in the state. -/
def stateAt? (scope : Scope) (pointer : String) : Option Json := scope.state.at? pointer

/-- The value at a path in the item.  The empty path is the whole item. -/
def itemAt? (scope : Scope) (path : String) : Option Json :=
  scope.repeated?.bind fun repeated => repeated.item.at? path

/-- The position of the item. -/
def index? (scope : Scope) : Option Json :=
  scope.repeated?.map fun repeated => .ofNat repeated.index

/-- The pointer from the root of the state to a path in the item. -/
def itemPointer? (scope : Scope) (path : String) : Option String :=
  scope.repeated?.map fun repeated => Pointer.join repeated.basePath path

end Scope

end UiStream

import UiStream.Json.Basic

/-!
# Patches

A patch is one change of a document.  `Patch.add` inserts into an array where `Patch.replace`
overwrites, `Patch.move` and `Patch.copy` take their value from another place, and `Patch.test`
changes nothing but fails unless the document holds the given value.
-/

namespace UiStream

/-- A change of a document.  Places are given as pointers. -/
inductive Patch where
  | add (path : String) (value : Json)
  | remove (path : String)
  | replace (path : String) (value : Json)
  | move (source path : String)
  | copy (source path : String)
  | test (path : String) (value : Option Json)
deriving DecidableEq, Repr

namespace Patch

/-- The name of the operation. -/
def op : Patch → String
  | add _ _ => "add"
  | remove _ => "remove"
  | replace _ _ => "replace"
  | move _ _ => "move"
  | copy _ _ => "copy"
  | test _ _ => "test"

/-- The place the patch changes or tests. -/
def path : Patch → String
  | add path _ | remove path | replace path _ | move _ path | copy _ path | test path _ => path

/-- The place a moved or copied value comes from. -/
def source? : Patch → Option String
  | move source _ | copy source _ => some source
  | _ => none

/-- The value the patch carries. -/
def value? : Patch → Option Json
  | add _ value | replace _ value => some value
  | test _ value => value
  | _ => none

end Patch

end UiStream

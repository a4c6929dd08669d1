import UiStream.Json.Basic
import UiStream.Pointer.Basic

/-!
# Reading a document at a pointer

A token selects the item of an array at that index or the member of an object with that key.
A token that selects nothing makes the value at the pointer absent.
-/

namespace UiStream.Json

/-- The child a token selects. -/
def child? (token : String) : Json → Option Json
  | .array items => (Pointer.index? token).bind fun i => items[i]?
  | .object members => Members.find? token members
  | _ => none

/-- The value the tokens lead to. -/
def get? : List String → Json → Option Json
  | [], doc => some doc
  | token :: rest, doc => (doc.child? token).bind (get? rest)

/-- The value at a pointer. -/
def at? (doc : Json) (pointer : String) : Option Json := doc.get? (Pointer.tokens pointer)

end UiStream.Json

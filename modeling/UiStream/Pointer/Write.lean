import UiStream.Pointer.Lookup
import UiStream.Text.Quoted

/-!
# Writing to a document at a pointer

A write makes the containers that are missing on its way: an array where the next token is a
number or the append token, an object otherwise.  Before anything is written
`checkWritable` looks at every token that would act on an array: it must be a number, not too
far past the end, or the append token.  So a write that fails has written nothing, and
`writeTokens` need not fail.
-/

namespace UiStream

/-- Why a place cannot be written. -/
inductive PointerError where
  | invalidIndex (pointer token : String)
  | indexOutOfRange (pointer : String) (index : Nat)
deriving DecidableEq, Repr

/-- The wording of the error. -/
def PointerError.message : PointerError → String
  | invalidIndex pointer token =>
    "invalid array index " ++ quoted token ++ " in pointer " ++ quoted pointer
  | indexOutOfRange pointer index =>
    "array index " ++ toString index ++ " in pointer " ++ quoted pointer ++
      " is too far past the end of the array"

namespace Pointer

/-- How far past the end of an array an index may lie. -/
def maxPadding : Nat := 1024

/-- A token may act on an array of the given length. -/
def checkIndex (pointer token : String) (length : Nat) : Except PointerError Unit :=
  if token = append then .ok ()
  else
    match index? token with
    | none => .error (.invalidIndex pointer token)
    | some i => if length + maxPadding < i then .error (.indexOutOfRange pointer i) else .ok ()

/-- Every token may act on what it finds, and a number on the array it would make. -/
def checkWritable (pointer : String) : List String → Option Json → Except PointerError Unit
  | [], _ => .ok ()
  | token :: rest, some (.array items) => do
    checkIndex pointer token items.length
    checkWritable pointer rest ((index? token).bind fun i => items[i]?)
  | token :: rest, some (.object members) =>
    checkWritable pointer rest (Members.find? token members)
  | token :: rest, _ => do
    if isNumeric token then checkIndex pointer token 0
    checkWritable pointer rest none

/-- A value as a container for the given token: arrays and objects as they are, anything else
replaced by an empty one. -/
def vivify (token : String) : Json → Json
  | .array items => .array items
  | .object members => .object members
  | _ => if isArrayToken token then .array [] else .object []

/-- The items, with `null` up to the given length. -/
def padTo (length : Nat) (items : List Json) : List Json :=
  items ++ List.replicate (length - items.length) .null

/-- The index a token has in an array of the given length. -/
def slot (token : String) (length : Nat) : Nat := (index? token).getD length

/-- Replaces an item, or puts it past the end behind `null`s. -/
def setItem (token : String) (value : Json) (items : List Json) : List Json :=
  match index? token with
  | some i => if i < items.length then items.set i value else padTo i items ++ [value]
  | none => items ++ [value]

/-- Inserts an item, at the end when the index lies past it. -/
def addItem (token : String) (value : Json) (items : List Json) : List Json :=
  match index? token with
  | some i => if i ≤ items.length then items.insertIdx i value else items ++ [value]
  | none => items ++ [value]

/-- Writes along the tokens.  `place` says what the last token does to an array; in an object it
sets the member. -/
def writeTokens (place : String → Json → List Json → List Json) (value : Json) :
    List String → Json → Json
  | [], _ => value
  | [token], doc =>
    match vivify token doc with
    | .array items => .array (place token value items)
    | .object members => .object (Members.insert token value members)
    | other => other
  | token :: next :: rest, doc =>
    match vivify token doc with
    | .array items =>
      let i := slot token items.length
      let items := padTo (i + 1) items
      .array (items.modify i (writeTokens place value (next :: rest)))
    | .object members =>
      let old := (Members.find? token members).getD .null
      .object (Members.insert token (writeTokens place value (next :: rest) old) members)
    | other => other

/-- Takes away the value the tokens lead to: what it was and what is left. -/
def removeTokens? : List String → Json → Option (Json × Json)
  | [], _ => none
  | [token], .array items =>
    (index? token).bind fun i => items[i]?.map fun old => (old, .array (items.eraseIdx i))
  | [token], .object members =>
    (Members.find? token members).map fun old => (old, .object (Members.erase token members))
  | [_], _ => none
  | token :: next :: rest, .array items =>
    (index? token).bind fun i => items[i]?.bind fun inner =>
      (removeTokens? (next :: rest) inner).map fun (old, inner) =>
        (old, .array (items.set i inner))
  | token :: next :: rest, .object members =>
    (Members.find? token members).bind fun inner =>
      (removeTokens? (next :: rest) inner).map fun (old, inner) =>
        (old, .object (Members.insert token inner members))
  | _ :: _ :: _, _ => none

/-- Overwrites the value the tokens lead to, if there is one. -/
def assignTokens? (value : Json) : List String → Json → Option Json
  | [], _ => some value
  | token :: rest, .array items =>
    (index? token).bind fun i => items[i]?.bind fun inner =>
      (assignTokens? value rest inner).map fun inner => .array (items.set i inner)
  | token :: rest, .object members =>
    (Members.find? token members).bind fun inner =>
      (assignTokens? value rest inner).map fun inner =>
        .object (Members.insert token inner members)
  | _ :: _, _ => none

end Pointer

namespace Json

/-- The document with the value written at the pointer, over what is there. -/
def setAt (doc : Json) (pointer : String) (value : Json) : Except PointerError Json :=
  match Pointer.tokens pointer with
  | [] => .ok value
  | tokens => do
    Pointer.checkWritable pointer tokens (some doc)
    return Pointer.writeTokens Pointer.setItem value tokens doc

/-- The document with the value added at the pointer: inserted into an array, set in an object. -/
def addAt (doc : Json) (pointer : String) (value : Json) : Except PointerError Json :=
  match Pointer.tokens pointer with
  | [] => .ok value
  | tokens => do
    Pointer.checkWritable pointer tokens (some doc)
    return Pointer.writeTokens Pointer.addItem value tokens doc

/-- What is at the pointer and the document without it.  The document itself cannot be
removed. -/
def removeAt? (doc : Json) (pointer : String) : Option (Json × Json) :=
  Pointer.removeTokens? (Pointer.tokens pointer) doc

/-- The document with the value in place of the one at the pointer, which must be there. -/
def assignAt? (doc : Json) (pointer : String) (value : Json) : Option Json :=
  Pointer.assignTokens? value (Pointer.tokens pointer) doc

end Json

end UiStream

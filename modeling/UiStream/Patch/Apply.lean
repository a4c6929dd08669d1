import UiStream.Json.Equal
import UiStream.Patch.Basic
import UiStream.Pointer.Write

/-!
# Applying patches

`Patch.apply` gives the document after a patch and, if the patch failed, the reason.  A patch
that fails leaves the document as it was; only a failed move may have put its object member
back at the end of its object.
-/

namespace UiStream

/-- Why a patch cannot be applied. -/
inductive PatchError where
  | testFailed (path : String)
  | sourceNotFound (source : String)
  | moveIntoSelf (source path : String)
  | pointer (error : PointerError)
deriving DecidableEq, Repr

/-- The wording of the error. -/
def PatchError.message : PatchError → String
  | testFailed path => "test failed: value at " ++ quoted path ++ " does not match"
  | sourceNotFound source => "source " ++ quoted source ++ " does not exist"
  | moveIntoSelf source path =>
    "cannot move " ++ quoted source ++ " into its own descendant " ++ quoted path
  | pointer error => error.message

/-- The document after a patch, and why the patch failed if it did. -/
structure Applied where
  document : Json
  error : Option PatchError
deriving DecidableEq, Repr

namespace Applied

/-- A patch that was applied. -/
def done (document : Json) : Applied := ⟨document, none⟩

/-- A patch that failed. -/
def failed (document : Json) (error : PatchError) : Applied := ⟨document, some error⟩

/-- The outcome of a write: on failure the document is the given one. -/
def ofWrite (document : Json) : Except PointerError Json → Applied
  | .ok written => done written
  | .error error => failed document (.pointer error)

/-- The document after patches that were all applied. -/
def toExcept (after : Applied) : Except PatchError Json :=
  match after.error with
  | none => .ok after.document
  | some error => .error error

end Applied

namespace Patch

/-- Whether one pointer leads strictly below the place of another. -/
def isStrictlyBelow (source path : String) : Bool :=
  (Pointer.tokens source).isPrefixOf (Pointer.tokens path) &&
    (Pointer.tokens source).length < (Pointer.tokens path).length

/-- Moves a value.  When it cannot be added at its new place it goes back to its old one. -/
def applyMove (source path : String) (document : Json) : Applied :=
  if isStrictlyBelow source path then .failed document (.moveIntoSelf source path)
  else
    match document.removeAt? source with
    | none => .failed document (.sourceNotFound source)
    | some (value, rest) =>
      match rest.addAt path value with
      | .ok moved => .done moved
      | .error error =>
        match rest.addAt source value with
        | .ok restored => .failed restored (.pointer error)
        | .error error => .failed rest (.pointer error)

/-- Applies a patch to a document. -/
def apply (patch : Patch) (document : Json) : Applied :=
  match patch with
  | .add path value => .ofWrite document (document.addAt path value)
  | .replace path value => .ofWrite document (document.setAt path value)
  | .remove path =>
    match document.removeAt? path with
    | some (_, rest) => .done rest
    | none => .done document
  | .copy source path =>
    match document.at? source with
    | some value => .ofWrite document (document.addAt path value)
    | none => .failed document (.sourceNotFound source)
  | .move source path => applyMove source path document
  | .test path value =>
    if Json.equal? (document.at? path) value then .done document
    else .failed document (.testFailed path)

/-- Applies patches in order, up to the first that fails. -/
def applyAll : List Patch → Json → Applied
  | [], document => .done document
  | patch :: rest, document =>
    let after := patch.apply document
    match after.error with
    | none => applyAll rest after.document
    | some _ => after

end Patch

end UiStream

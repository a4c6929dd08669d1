import UiStream.Validation.Problem

/-!
# Repairing misplaced fields

`repair` moves the fields of an element that stand among its properties to the element itself.
It works on a document, so that it can run before decoding.  A field that is moved replaces one
of the same name.
-/

namespace UiStream

/-- A field that has been moved. -/
structure Relocation where
  key : String
  field : ElementField
deriving DecidableEq, Repr

/-- The report of a relocation. -/
def Relocation.message (moved : Relocation) : String :=
  "Moved \"" ++ moved.field.name ++ "\" from props to element level on \"" ++ moved.key ++ "\"."

/-- Takes the given fields out of properties: those that were there, with their values, and the
properties that are left. -/
def takeFields : List ElementField → Members → List (ElementField × Json) × Members
  | [], props => ([], props)
  | field :: rest, props =>
    match Members.find? field.name props with
    | none => takeFields rest props
    | some v =>
      let (taken, props) := takeFields rest (Members.erase field.name props)
      ((field, v) :: taken, props)

/-- Moves the misplaced fields of one element: which ones, and the element. -/
def repairElement : Json → List ElementField × Json
  | .object members =>
    match Members.find? "props" members with
    | some (.object props) =>
      let (taken, props) := takeFields ElementField.all props
      let members := Members.insert "props" (.object props) members
      (taken.map (·.1),
       .object (taken.foldl (fun members (field, v) => Members.insert field.name v members)
         members))
    | _ => ([], .object members)
  | v => ([], v)

/-- Moves the misplaced fields of each element. -/
def repairElements : Members → List Relocation × Members
  | [] => ([], [])
  | (key, v) :: rest =>
    let (fields, v) := repairElement v
    let (later, rest) := repairElements rest
    (fields.map (⟨key, ·⟩) ++ later, (key, v) :: rest)

/-- Moves the misplaced fields in a document: the relocations in order, and the document. -/
def repair (document : Json) : List Relocation × Json :=
  match document with
  | .object members =>
    match Members.find? "elements" members with
    | some (.object elements) =>
      let (moved, elements) := repairElements elements
      (moved, .object (Members.insert "elements" (.object elements) members))
    | _ => ([], document)
  | _ => ([], document)

end UiStream

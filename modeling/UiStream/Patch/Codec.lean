import UiStream.Patch.Basic
import UiStream.Text.Quoted

/-!
# Patches as JSON objects

`Patch.encode` writes a patch as an object with the members `op`, `from`, `path` and `value`,
and `Patch.decode` reads one.  A missing value is `null`, except for `test`, where a missing
value stays absent; `Patch.decode_encode` says that decoding undoes encoding.
-/

namespace UiStream

/-- Why an object is not a patch. -/
inductive OperationFault where
  | notObject
  | missing (member : String)
  | notString (member : String)
  | unknownOp (op : String)
deriving DecidableEq, Repr

/-- The wording of the fault. -/
def OperationFault.message (fault : OperationFault) : String :=
  "invalid patch operation: " ++
    match fault with
    | notObject => "operation must be an object"
    | missing member => "missing " ++ member
    | notString member => member ++ " must be a string"
    | unknownOp op => "unknown op " ++ quoted op

namespace Patch

/-- A member that must be a string. -/
def stringMember (members : Members) (key : String) : Except OperationFault String :=
  match Members.find? key members with
  | some (.string s) => .ok s
  | some _ => .error (.notString key)
  | none => .error (.missing key)

/-- The value of a patch, `null` when it is missing. -/
def valueMember (members : Members) : Json := (Members.find? "value" members).getD .null

/-- Reads a patch.  The operation is looked at first, then the path, then the name of the
operation, and then the source. -/
def decode : Json → Except OperationFault Patch
  | .object members => do
    let op ← stringMember members "op"
    let path ← stringMember members "path"
    if op = "add" then return .add path (valueMember members)
    else if op = "remove" then return .remove path
    else if op = "replace" then return .replace path (valueMember members)
    else if op = "move" then return .move (← stringMember members "from") path
    else if op = "copy" then return .copy (← stringMember members "from") path
    else if op = "test" then return .test path (Members.find? "value" members)
    else .error (.unknownOp op)
  | _ => .error .notObject

/-- The object of a patch. -/
def encode : Patch → Json
  | add path value =>
    .object [("op", .string "add"), ("path", .string path), ("value", value)]
  | remove path => .object [("op", .string "remove"), ("path", .string path)]
  | replace path value =>
    .object [("op", .string "replace"), ("path", .string path), ("value", value)]
  | move source path =>
    .object [("op", .string "move"), ("from", .string source), ("path", .string path)]
  | copy source path =>
    .object [("op", .string "copy"), ("from", .string source), ("path", .string path)]
  | test path (some value) =>
    .object [("op", .string "test"), ("path", .string path), ("value", value)]
  | test path none => .object [("op", .string "test"), ("path", .string path)]

/-- Decoding undoes encoding. -/
theorem decode_encode (patch : Patch) : decode patch.encode = .ok patch := by
  cases patch with
  | test path value => cases value <;> rfl
  | _ => rfl

end Patch

end UiStream

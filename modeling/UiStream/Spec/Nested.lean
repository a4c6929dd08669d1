import UiStream.Spec.Basic

/-!
# Nested trees

A generator may write the elements one inside the other.  `flatten` turns such a tree into the
document of a specification: the nodes are numbered in the order in which they begin, `el-0` for
the whole tree, and each lists its children by key.  A child counts if it is an object with a
type; other members of a node stay with its element.
-/

namespace UiStream

/-- Nodes that have been flattened: their keys, the elements of them and of all nodes inside
them, and the first number that is still free. -/
structure Flattened where
  keys : List String
  elements : Members
  next : Nat
deriving DecidableEq, Repr

namespace Flattened

/-- The key of the node with a number. -/
def key (number : Nat) : String := "el-" ++ toString number

/-- The element of a node, with its children by key. -/
def element (node : Members) (children : List String) : Json :=
  .object <|
    [("type", (Members.find? "type" node).getD (.string "unknown")),
     ("props", (Members.find? "props" node).getD .emptyObject),
     ("children", .array (children.map .string))] ++
    node.filter fun (field, _) => !(["type", "props", "children", "state"].contains field)

/-- A node around children that have been flattened.  Its element comes behind theirs. -/
def around (number : Nat) (node : Members) (children : Flattened) : Flattened :=
  { keys := [key number]
    elements := children.elements ++ [(key number, element node children.keys)]
    next := children.next }

mutual

/-- Flattens a node, numbering from `number`.  What is no object is a node without members. -/
def node (number : Nat) : Json → Flattened
  | .object members => around number members (childrenIn (number + 1) members)
  | _ => around number [] ⟨[], [], number + 1⟩

/-- Flattens the children that the members of a node list. -/
def childrenIn (number : Nat) : List (String × Json) → Flattened
  | [] => ⟨[], [], number⟩
  | (field, v) :: rest => if field = "children" then listed number v else childrenIn number rest

/-- Flattens a list of children. -/
def listed (number : Nat) : Json → Flattened
  | .array items => nodes number items
  | _ => ⟨[], [], number⟩

/-- Flattens those of some values that are nodes. -/
def nodes (number : Nat) : List Json → Flattened
  | [] => ⟨[], [], number⟩
  | v :: rest =>
    if (v.member? "type").isSome then
      let first := node number v
      let later := nodes first.next rest
      ⟨first.keys ++ later.keys, first.elements ++ later.elements, later.next⟩
    else nodes number rest
end

end Flattened

/-- The document of the specification that a nested tree describes.  An object `state` on the
outermost node becomes the state. -/
def flatten (tree : Json) : Json :=
  let state := match tree.member? "state" with
    | some (.object members) => [("state", .object members)]
    | _ => []
  .object <|
    [("root", .string (Flattened.key 0)),
     ("elements", .object (Flattened.node 0 tree).elements)] ++ state

/-- Why there is no specification. -/
inductive SpecError where
  | decode (fault : DecodeFault)
  | notObject
deriving DecidableEq, Repr

/-- The wording of the error. -/
def SpecError.message : SpecError → String
  | decode fault => "spec document does not decode: " ++ fault.message
  | notObject => "nested spec tree must be a JSON object"

namespace Spec

/-- Reads the specification in a document. -/
def ofDocument (document : Json) : Except SpecError Spec :=
  match decode document with
  | .ok spec => .ok spec
  | .error fault => .error (.decode fault)

/-- Reads the specification in a nested tree. -/
def ofNested (tree : Json) : Except SpecError Spec :=
  match tree with
  | .object _ => ofDocument (flatten tree)
  | _ => .error .notObject

end Spec

end UiStream

import UiStream.Spec.Basic
import UiStream.Validation.Problem

/-!
# The outline of a specification

What validation looks at: the root, and of each element its children, its properties and the
faults of its fields.  `Spec.outline` takes it from a specification and `Outline.ofDocument`
from a document that need not decode, so that one malformed element hides no problem elsewhere.

`Outline.reachable` lists the elements that a chain of children connects to the root.
-/

namespace UiStream

/-- What validation looks at in an element. -/
structure ElementOutline where
  children : List String
  props? : Option Members
  faults : List ElementFault
deriving Repr

/-- What validation looks at in a specification. -/
structure Outline where
  root : String
  elements : List (String × ElementOutline)
deriving Repr

namespace ElementOutline

/-- The outline of an element. -/
def ofElement (element : Element) : ElementOutline :=
  { children := element.children, props? := some element.props, faults := [] }

/-- The outline of an element in a document.  Children that are no strings are left out. -/
def ofJson : Json → ElementOutline
  | .object members =>
    { children := (((Members.find? "children" members).bind Json.items?).getD []).filterMap
        Json.text?
      props? := (Members.find? "props" members).bind Json.members?
      faults := (Element.faultsIn ⟨"Element", Element.fields, members, none⟩).filterMap
        fun (name, fault?) => fault?.map (.field name) }
  | _ => { children := [], props? := none, faults := [.notObject] }

end ElementOutline

/-- The outline of a specification. -/
def Spec.outline (spec : Spec) : Outline :=
  { root := spec.root
    elements := spec.elements.map fun (key, element) => (key, .ofElement element) }

namespace Outline

/-- The outline of the specification in a document. -/
def ofDocument (document : Json) : Outline :=
  { root := ((document.member? "root").bind Json.text?).getD ""
    elements := (((document.member? "elements").bind Json.members?).getD []).map
      fun (key, v) => (key, .ofJson v) }

/-- The keys of the elements. -/
def keys (outline : Outline) : List String := outline.elements.map (·.1)

/-- The children of the element with a key. -/
def childrenOf (outline : Outline) (key : String) : List String :=
  ((outline.elements.lookup key).map (·.children)).getD []

/-- The keys that can be reached from those pending, among those not visited yet.  Each step
visits a key or drops one that is not there to visit. -/
def explore (outline : Outline) (unvisited : List String) : List String → List String
  | [] => []
  | key :: pending =>
    if key ∈ unvisited then
      key :: explore outline (unvisited.erase key) (outline.childrenOf key ++ pending)
    else explore outline unvisited pending
termination_by pending => (unvisited.length, pending.length)
decreasing_by
  · rename_i h
    have := List.length_erase_of_mem h
    have := List.length_pos_of_mem h
    exact Prod.Lex.left _ _ (by omega)
  · exact Prod.Lex.right _ (by simp)

/-- The keys of the elements that can be reached from the root. -/
def reachable (outline : Outline) : List String := outline.explore outline.keys [outline.root]

end Outline

end UiStream

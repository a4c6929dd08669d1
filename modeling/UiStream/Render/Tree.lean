import UiStream.Expression.Resolve
import UiStream.Spec.Basic

/-!
# Render trees

`Spec.render` turns a specification and a state into the tree that is drawn: hidden elements are
gone, properties and the parameters of events are resolved, and the children of a repeated
element appear once for each item.

An element below itself is left out, so the keys on a way down the tree are distinct and no way
is longer than there are elements.  That number is what `nodeIn` counts down.
-/

namespace UiStream

/-- An element as it is drawn.  `repeatKey?` tells which item of a repeated element it is for. -/
inductive RenderNode where
  | mk (key type : String) (props : Members) (bindings : List (String × String))
      (events : List (String × List Binding)) (repeatKey? : Option String)
      (children : List RenderNode)
deriving Repr

namespace RenderNode

/-- The key of the element. -/
def key : RenderNode → String
  | mk key _ _ _ _ _ _ => key

/-- The type of the element. -/
def type : RenderNode → String
  | mk _ type _ _ _ _ _ => type

/-- The resolved properties. -/
def props : RenderNode → Members
  | mk _ _ props _ _ _ _ => props

/-- The pointers that properties are bound to, by the property's name. -/
def bindings : RenderNode → List (String × String)
  | mk _ _ _ bindings _ _ _ => bindings

/-- The bindings of each event, their parameters resolved. -/
def events : RenderNode → List (String × List Binding)
  | mk _ _ _ _ events _ _ => events

/-- The item of a repeated element that the node is for. -/
def repeatKey? : RenderNode → Option String
  | mk _ _ _ _ _ repeatKey? _ => repeatKey?

/-- The nodes inside. -/
def children : RenderNode → List RenderNode
  | mk _ _ _ _ _ _ children => children

/-- The bindings of one event. -/
def eventBindings (node : RenderNode) (event : String) : List Binding :=
  (node.events.lookup event).getD []

mutual

/-- The nodes of a tree, each before those inside it. -/
def nodes : RenderNode → List RenderNode
  | mk key type props bindings events repeatKey? children =>
    mk key type props bindings events repeatKey? children :: nodesOf children

/-- The nodes of several trees. -/
def nodesOf : List RenderNode → List RenderNode
  | [] => []
  | node :: rest => nodes node ++ nodesOf rest
end

/-- The first node for the element with a key. -/
def find? (tree : RenderNode) (key : String) : Option RenderNode :=
  tree.nodes.find? (·.key == key)

end RenderNode

/-! ## Rendering -/

/-- The key of an item: its key field, unless that is missing or `null`, or else its position. -/
def Repetition.itemKey (repetition : Repetition) (index : Nat) (item : Json) : String :=
  match repetition.key?.bind fun field => item.member? field with
  | none | some .null => toString index
  | some v => v.displayText

/-- The scope for the item at a position. -/
def Repetition.itemScope (repetition : Repetition) (state : Json) (index : Nat) (item : Json) :
    Scope :=
  { state
    repeated? := some ⟨item, index, repetition.statePath ++ "/" ++ toString index⟩ }

/-- The scopes that children are drawn in, with the key of the item: one for each item, and none
if there is no array at the path. -/
def Repetition.scopes (repetition : Repetition) (state : Json) : List (String × Scope) :=
  match state.at? repetition.statePath with
  | some (.array items) =>
    items.zipIdx.map fun (item, index) =>
      (repetition.itemKey index item, repetition.itemScope state index item)
  | _ => []

/-- A binding with its parameters resolved; undefined ones are left out. -/
def Binding.inScope (scope : Scope) (binding : Binding) : Binding :=
  { binding with
    params := binding.params.filterMap fun (key, v) =>
      (v.resolveParam scope).map fun value => (key, value) }

/-- The bindings of each event, with their parameters resolved. -/
def Element.eventsInScope (scope : Scope) (element : Element) : List (String × List Binding) :=
  (element.events?.getD []).map fun (event, bindings) =>
    (event, bindings.toList.map (·.inScope scope))

/-- The nodes for the children of an element, given how a child is drawn. -/
def Element.renderChildren (element : Element) (scope : Scope)
    (child : Scope → Option String → String → Option RenderNode) : List RenderNode :=
  match element.repetition? with
  | none => element.children.filterMap (child scope none)
  | some repetition =>
    (repetition.scopes scope.state).flatMap fun (itemKey, inner) =>
      element.children.filterMap (child inner (some itemKey))

namespace Spec

/-- The node for the element with a key, below the elements on `path`; none if it is missing,
hidden, or on the path.  At most `depth` elements nest. -/
def nodeIn (spec : Spec) : Nat → List String → Scope → Option String → String → Option RenderNode
  | 0, _, _, _, _ => none
  | depth + 1, path, scope, repeatKey?, key =>
    match spec.element? key with
    | none => none
    | some element =>
      if path.contains key || !visible scope element.visible? then none
      else
        some (.mk key element.type (resolveProps scope element.props)
          (boundProps scope element.props) (element.eventsInScope scope) repeatKey?
          (element.renderChildren scope (nodeIn spec depth (key :: path))))

/-- The tree that is drawn in a state; none if the root is missing or hidden. -/
def render (spec : Spec) (state : Json) : Option RenderNode :=
  spec.nodeIn spec.elements.length [] { state } none spec.root

end Spec

end UiStream

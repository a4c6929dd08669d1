import UiStream.Action.Binding

/-!
# Specifications of an interface

A specification is a flat tree: elements by key, each naming its children, and the key of the
root.  It may bring the state that the interface begins with.

`Spec.decode` reads a specification from a document and `Spec.encode` writes it in a normal
form: the fields in their order, without the absent ones, and behind them whatever else an
element carries.
-/

namespace UiStream

/-- Repeats the children of an element for each item of an array in the state.  The field
`key?` of an item identifies it; without one its position does. -/
structure Repetition where
  statePath : String
  key? : Option String := none
deriving DecidableEq, Repr

/-- An element of an interface. -/
structure Element where
  type : String := ""
  props : Members := []
  children? : Option (List String) := none
  visible? : Option Condition := none
  events? : Option (List (String × Bindings)) := none
  repetition? : Option Repetition := none
  extra : Members := []
deriving Repr

/-- A specification of an interface. -/
structure Spec where
  root : String := ""
  elements : List (String × Element) := []
  state? : Option Json := none
deriving Repr

/-- The keys of the children of an element. -/
def Element.children (element : Element) : List String := element.children?.getD []

namespace Spec

/-- The element with a key. -/
def element? (spec : Spec) (key : String) : Option Element := spec.elements.lookup key

/-- The element at the root. -/
def rootElement? (spec : Spec) : Option Element := spec.element? spec.root

end Spec

/-! ## Reading and writing -/

namespace Repetition

/-- Reads a repetition. -/
def decode : Reader Repetition := fun v => do
  let record ← Record.ofJson "RepeatDirective" ["statePath", "key"] v
  let statePath := record.required "statePath" Reader.text
  let key? := record.optional "key" Reader.text
  record.settle [("statePath", faultOf statePath), ("key", faultOf key?)]
  return { statePath := ← statePath, key? := ← key? }

/-- A repetition as JSON. -/
def encode (repetition : Repetition) : Json :=
  .object <|
    ("statePath", .string repetition.statePath) ::
    optionalMember "key" (repetition.key?.map .string)

end Repetition

namespace Element

/-- The fields of an element. -/
def fields : List String := ["type", "props", "children", "visible", "on", "repeat"]

/-- The type that a record of an element gives. -/
def typeIn (record : Record) : Except DecodeFault String :=
  record.defaulted "type" Reader.text ""

/-- The properties that a record of an element gives. -/
def propsIn (record : Record) : Except DecodeFault Members :=
  record.defaulted "props" Reader.map []

/-- The children that a record of an element gives. -/
def childrenIn (record : Record) : Except DecodeFault (Option (List String)) :=
  record.optional "children" (Reader.listOf Reader.text)

/-- The condition that a record of an element gives. -/
def visibleIn (record : Record) : Except DecodeFault (Option Condition) :=
  record.optional "visible" Reader.condition

/-- The bindings of events that a record of an element gives. -/
def eventsIn (record : Record) : Except DecodeFault (Option (List (String × Bindings))) :=
  record.optional "on" (Reader.mapOf Bindings.decode)

/-- The repetition that a record of an element gives. -/
def repetitionIn (record : Record) : Except DecodeFault (Option Repetition) :=
  record.optional "repeat" Repetition.decode

/-- The fault of each field in a record of an element. -/
def faultsIn (record : Record) : List (String × Option DecodeFault) :=
  [("type", faultOf (typeIn record)), ("props", faultOf (propsIn record)),
   ("children", faultOf (childrenIn record)), ("visible", faultOf (visibleIn record)),
   ("on", faultOf (eventsIn record)), ("repeat", faultOf (repetitionIn record))]

/-- Reads an element.  Members that are no field are kept. -/
def decode : Reader Element := fun v => do
  let record ← Record.ofObject "Element" fields v
  record.settle (faultsIn record)
  return { type := ← typeIn record, props := ← propsIn record,
           children? := ← childrenIn record, visible? := ← visibleIn record,
           events? := ← eventsIn record, repetition? := ← repetitionIn record,
           extra := record.others }

/-- The bindings of each event as JSON. -/
def encodeEvents (events : List (String × Bindings)) : Json :=
  .object (events.map fun (name, bindings) => (name, bindings.encode))

/-- An element as JSON. -/
def encode (element : Element) : Json :=
  .object <|
    [("type", .string element.type), ("props", .object element.props)] ++
    optionalMember "children" (element.children?.map fun keys => .array (keys.map .string)) ++
    optionalMember "visible" (element.visible?.map Condition.encode) ++
    optionalMember "on" (element.events?.map encodeEvents) ++
    optionalMember "repeat" (element.repetition?.map Repetition.encode) ++
    element.extra

end Element

namespace Spec

/-- Reads a specification. -/
def decode : Reader Spec := fun v => do
  let record ← Record.ofJson "Spec" ["root", "elements", "state"] v
  let root := record.defaulted "root" Reader.text ""
  let elements := record.defaulted "elements" (Reader.mapOf Element.decode) []
  let state? := record.optional "state" Reader.value
  record.settle [("root", faultOf root), ("elements", faultOf elements),
    ("state", faultOf state?)]
  return { root := ← root, elements := ← elements, state? := ← state? }

/-- The elements by key as JSON. -/
def encodeElements (elements : List (String × Element)) : Json :=
  .object (elements.map fun (key, element) => (key, element.encode))

/-- A specification as JSON. -/
def encode (spec : Spec) : Json :=
  .object <|
    [("root", .string spec.root), ("elements", encodeElements spec.elements)] ++
    optionalMember "state" spec.state?

end Spec

end UiStream

import UiStream.Record.Basic

/-!
# Bindings of actions

A binding names the action that an event calls, with parameters, with an optional prompt to
confirm it first, and with what to do after it succeeded or failed.  An event has one binding or
a list of them.
-/

namespace UiStream

/-- How a prompt is shown. -/
inductive ConfirmVariant where
  | default
  | danger
deriving DecidableEq, Repr

/-- A prompt that is shown before an action runs. -/
structure Confirm where
  title : String
  message : String
  confirmLabel? : Option String := none
  cancelLabel? : Option String := none
  variant? : Option ConfirmVariant := none
deriving DecidableEq, Repr

/-- What follows an action: going to a screen, writing to the state, or another action. -/
inductive Continuation where
  | navigate (screen : String)
  | set (values : Members)
  | action (name : String)
deriving DecidableEq, Repr

/-- A call of an action. -/
structure Binding where
  action : String
  params : Members := []
  confirm? : Option Confirm := none
  onSuccess? : Option Continuation := none
  onError? : Option Continuation := none
deriving DecidableEq, Repr

/-- The bindings of an event. -/
inductive Bindings where
  | one (binding : Binding)
  | many (bindings : List Binding)
deriving DecidableEq, Repr

/-- The bindings in the order in which they run. -/
def Bindings.toList : Bindings → List Binding
  | one binding => [binding]
  | many bindings => bindings

/-- A member that is written only if there is a value. -/
def optionalMember (key : String) (value? : Option Json) : Members :=
  value?.toList.map fun value => (key, value)

/-! ## Prompts -/

namespace ConfirmVariant

/-- The variants by name. -/
def names : List (String × ConfirmVariant) := [("default", .default), ("danger", .danger)]

/-- A variant as JSON. -/
def encode : ConfirmVariant → Json
  | default => .string "default"
  | danger => .string "danger"

end ConfirmVariant

namespace Confirm

/-- Reads a prompt. -/
def decode : Reader Confirm := fun v => do
  let record ← Record.ofJson "ActionConfirm"
    ["title", "message", "confirmLabel", "cancelLabel", "variant"] v
  let title := record.required "title" Reader.text
  let message := record.required "message" Reader.text
  let confirmLabel? := record.optional "confirmLabel" Reader.text
  let cancelLabel? := record.optional "cancelLabel" Reader.text
  let variant? := record.optional "variant" (Reader.variant ConfirmVariant.names)
  record.settle [("title", faultOf title), ("message", faultOf message),
    ("confirmLabel", faultOf confirmLabel?), ("cancelLabel", faultOf cancelLabel?),
    ("variant", faultOf variant?)]
  return { title := ← title, message := ← message, confirmLabel? := ← confirmLabel?,
           cancelLabel? := ← cancelLabel?, variant? := ← variant? }

/-- A prompt as JSON. -/
def encode (confirm : Confirm) : Json :=
  .object <|
    [("title", .string confirm.title), ("message", .string confirm.message)] ++
    optionalMember "confirmLabel" (confirm.confirmLabel?.map .string) ++
    optionalMember "cancelLabel" (confirm.cancelLabel?.map .string) ++
    optionalMember "variant" (confirm.variant?.map ConfirmVariant.encode)

end Confirm

/-! ## Continuations -/

namespace Continuation

/-- Reads a continuation: the first of the three that its members make. -/
def decode : Reader Continuation := fun v =>
  match v with
  | .object members =>
    match Members.find? "navigate" members, Members.find? "set" members,
        Members.find? "action" members with
    | some (.string screen), _, _ => .ok (navigate screen)
    | _, some (.object values), _ => .ok (set values)
    | _, _, some (.string name) => .ok (action name)
    | _, _, _ => .error (.noAlternative "ActionContinuation")
  | _ => .error (.noAlternative "ActionContinuation")

/-- A continuation as JSON. -/
def encode : Continuation → Json
  | navigate screen => .object [("navigate", .string screen)]
  | set values => .object [("set", .object values)]
  | action name => .object [("action", .string name)]

end Continuation

/-! ## Bindings -/

namespace Binding

/-- Reads a binding. -/
def decode : Reader Binding := fun v => do
  let record ← Record.ofJson "ActionBinding"
    ["action", "params", "confirm", "onSuccess", "onError"] v
  let action := record.required "action" Reader.text
  let params := record.defaulted "params" Reader.map []
  let confirm? := record.optional "confirm" Confirm.decode
  let onSuccess? := record.optional "onSuccess" Continuation.decode
  let onError? := record.optional "onError" Continuation.decode
  record.settle [("action", faultOf action), ("params", faultOf params),
    ("confirm", faultOf confirm?), ("onSuccess", faultOf onSuccess?),
    ("onError", faultOf onError?)]
  return { action := ← action, params := ← params, confirm? := ← confirm?,
           onSuccess? := ← onSuccess?, onError? := ← onError? }

/-- A binding as JSON.  Parameters are written if there are any. -/
def encode (binding : Binding) : Json :=
  .object <|
    [("action", .string binding.action)] ++
    (if binding.params.isEmpty then [] else [("params", .object binding.params)]) ++
    optionalMember "confirm" (binding.confirm?.map Confirm.encode) ++
    optionalMember "onSuccess" (binding.onSuccess?.map Continuation.encode) ++
    optionalMember "onError" (binding.onError?.map Continuation.encode)

end Binding

namespace Bindings

/-- Reads the bindings of an event: one if the value is one, or else a list of them. -/
def decode : Reader Bindings := fun v =>
  match Binding.decode v with
  | .ok binding => .ok (one binding)
  | .error _ =>
    match Reader.listOf Binding.decode v with
    | .ok bindings => .ok (many bindings)
    | .error _ => .error (.noAlternative "ActionBindings")

/-- The bindings of an event as JSON. -/
def encode : Bindings → Json
  | one binding => binding.encode
  | many bindings => .array (bindings.map Binding.encode)

end Bindings

end UiStream

import UiStream.Action.Binding
import UiStream.Action.Identifiers
import UiStream.Json.Display
import UiStream.Json.Printer
import UiStream.Pointer.Write

/-!
# Built-in actions

Five actions work on the state itself: setting a value, appending to and removing from an array,
and entering and leaving a screen.  The screens below the current one are the array at
`/navStack`.  An action whose parameters name no place does nothing.

An `Outcome` is what an action leaves behind: the state, which a failure need not have spared,
the effects outside it, and the error if it failed.
-/

namespace UiStream

/-- Why an action fails. -/
inductive ActionError where
  | handler (message : String)
  | cancelled
  | invalidParams (action reason : String)
  | state (error : PointerError)
deriving DecidableEq, Repr

/-- The wording of the error. -/
def ActionError.message : ActionError → String
  | handler message => message
  | cancelled => "action cancelled"
  | invalidParams action reason => "invalid params for " ++ action ++ ": " ++ reason
  | state error => error.message

/-- What actions work on: the state, and the identifiers that they have made. -/
structure Store where
  state : Json
  ids : IdSource

/-- Something an action does outside the state. -/
inductive Effect where
  | asked (action : String) (confirm : Confirm)
  | called (handler : String) (params : Members)
  | navigated (screen : String)
deriving DecidableEq, Repr

/-- What an action leaves behind. -/
structure Outcome where
  store : Store
  effects : List Effect := []
  error? : Option ActionError := none

/-- Goes on after an action that succeeded. -/
def Outcome.andThen (first : Outcome) (next : Store → Outcome) : Outcome :=
  match first.error? with
  | some _ => first
  | none =>
    let second := next first.store
    { second with effects := first.effects ++ second.effects }

namespace Store

/-- Nothing happens. -/
def done (store : Store) : Outcome := { store }

/-- A failure that leaves everything as it is. -/
def failed (store : Store) (error : ActionError) : Outcome := { store, error? := some error }

/-- Writes a value to the state. -/
def set (store : Store) (pointer : String) (value : Json) : Outcome :=
  match store.state.setAt pointer value with
  | .ok state => done { store with state }
  | .error error => store.failed (.state error)

/-- Removes a value from the state, if it is there. -/
def remove (store : Store) (pointer : String) : Outcome :=
  match store.state.removeAt? pointer with
  | some (_, state) => done { store with state }
  | none => store.done

/-- The array at a pointer.  A missing value and `null` are an empty one. -/
def arrayAt (store : Store) (pointer action : String) : Except ActionError (List Json) :=
  match store.state.at? pointer with
  | none | some .null => .ok []
  | some (.array items) => .ok items
  | some v =>
    .error (.invalidParams action (pointer ++ " holds " ++ v.compact ++ ", not an array"))

/-- Goes on with the array at a pointer. -/
def withArray (store : Store) (pointer action : String) (next : List Json → Outcome) : Outcome :=
  match store.arrayAt pointer action with
  | .ok items => next items
  | .error error => store.failed error

end Store

/-! ## The actions -/

/-- The built-in actions. -/
inductive Builtin where
  | setState
  | pushState
  | removeState
  | push
  | pop
deriving DecidableEq, Repr

namespace Builtin

/-- The name of an action. -/
def name : Builtin → String
  | setState => "setState"
  | pushState => "pushState"
  | removeState => "removeState"
  | push => "push"
  | pop => "pop"

/-- The actions. -/
def all : List Builtin := [setState, pushState, removeState, push, pop]

/-- The action with a name. -/
def ofName? (name : String) : Option Builtin := all.find? (·.name == name)

/-- A parameter that is a text with something in it. -/
def textParam? (params : Members) (key : String) : Option String :=
  (Members.text? key params).filter (· != "")

/-- Where the screens below the current one are. -/
def screensBelow : String := "/navStack"

/-- Where the current screen is. -/
def currentScreen : String := "/currentScreen"

/-- Sets the value at `statePath`, or removes it if there is no value. -/
def runSetState (params : Members) (store : Store) : Outcome :=
  match textParam? params "statePath" with
  | none => store.done
  | some pointer =>
    match Members.find? "value" params with
    | some value => store.set pointer value
    | none => store.remove pointer

/-- Appends the value, with identifiers made for it, to the array at `statePath`, and then clears
the text at `clearStatePath`. -/
def runPushState (params : Members) (store : Store) : Outcome :=
  match textParam? params "statePath" with
  | none => store.done
  | some pointer =>
    let (value, ids) := match Members.find? "value" params with
      | some value => value.withIds store.ids
      | none => (.null, store.ids)
    let store := { store with ids }
    store.withArray pointer pushState.name fun items =>
      (store.set pointer (.array (items ++ [value]))).andThen fun store =>
        match textParam? params "clearStatePath" with
        | some pointer => store.set pointer (.string "")
        | none => store.done

/-- Whether a value is the number of a position. -/
def isPosition (v : Json) (position : Nat) : Bool :=
  match v with
  | .number n => n.toDouble.numEq (Double.ofInt position)
  | _ => false

/-- Removes the item at `index` from the array at `statePath`. -/
def runRemoveState (params : Members) (store : Store) : Outcome :=
  match textParam? params "statePath", Members.find? "index" params with
  | some pointer, some index =>
    store.withArray pointer removeState.name fun items =>
      let kept := items.zipIdx.filter fun (_, position) => !isPosition index position
      store.set pointer (.array (kept.map (·.1)))
  | _, _ => store.done

/-- Enters a screen: the current one goes on the stack. -/
def runPush (params : Members) (store : Store) : Outcome :=
  match textParam? params "screen" with
  | none => store.done
  | some screen =>
    let current := ((store.state.at? currentScreen).filter Json.truthy).getD (.string "")
    store.withArray screensBelow push.name fun screens =>
      (store.set screensBelow (.array (screens ++ [current]))).andThen fun store =>
        store.set currentScreen (.string screen)

/-- Leaves the current screen for the last one on the stack. -/
def runPop (store : Store) : Outcome :=
  store.withArray screensBelow pop.name fun screens =>
    match screens.getLast? with
    | none => store.done
    | some previous =>
      (store.set screensBelow (.array screens.dropLast)).andThen fun store =>
        if previous.truthy then store.set currentScreen previous
        else store.remove currentScreen

/-- Runs a built-in action with resolved parameters. -/
def run : Builtin → Members → Store → Outcome
  | setState, params, store => runSetState params store
  | pushState, params, store => runPushState params store
  | removeState, params, store => runRemoveState params store
  | push, params, store => runPush params store
  | pop, _, store => runPop store

end Builtin

end UiStream

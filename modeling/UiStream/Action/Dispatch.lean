import UiStream.Action.Builtin
import UiStream.Action.Interpolate

/-!
# Running actions

`Store.execute` runs a binding: a built-in action works on the state at once, and any other
action is a handler of the host.  A handler whose binding has a prompt runs only if the host
confirms it.  After the handler comes what the binding says for success; if either fails, what it
says for failure, and without that the failure stands.  Names that the host does not know are
passed over.

An action that follows another runs by its name alone, without parameters, prompt or
continuation (`Host.runNamed_eq_execute`), so nothing follows it in turn.
-/

namespace UiStream

/-- What the host does with a request to confirm. -/
inductive Answer where
  | confirmed
  | cancelled
  | dropped
deriving DecidableEq, Repr

/-- A handler: from the parameters of a call to its failure, if it fails. -/
abbrev Handler := Members → Option ActionError

/-- What surrounds the actions: handlers by name, who is asked to confirm, and whether anyone
navigates. -/
structure Host where
  handlers : List (String × Handler) := []
  confirmer? : Option (String → Confirm → Answer) := none
  navigates : Bool := false

namespace Host

/-- Calls a handler. -/
def call (name : String) (handler : Handler) (params : Members) (store : Store) : Outcome :=
  { store, effects := [.called name params], error? := handler params }

/-- Asks for confirmation if there is a prompt, and goes on if it is given. -/
def whenConfirmed (host : Host) (action : String) (confirm? : Option Confirm) (store : Store)
    (next : Store → Outcome) : Outcome :=
  match confirm?, host.confirmer? with
  | none, _ => next store
  | some _, none => store.failed .cancelled
  | some confirm, some answer =>
    Outcome.andThen
      { store
        effects := [.asked action confirm]
        error? := if answer action confirm = .confirmed then none else some .cancelled }
      next

/-- Goes to a screen. -/
def navigate (host : Host) (screen : String) (store : Store) : Outcome :=
  { store, effects := if host.navigates then [.navigated screen] else [] }

/-- Runs an action by its name alone. -/
def runNamed (host : Host) (name : String) (store : Store) : Outcome :=
  match Builtin.ofName? name, host.handlers.lookup name with
  | some builtin, _ => builtin.run [] store
  | none, some handler => call name handler [] store
  | none, none => store.done

/-- Writes values to the state in order, up to the first that cannot be written. -/
def setAll : Members → Store → Outcome
  | [], store => store.done
  | (pointer, value) :: rest, store => (store.set pointer value).andThen (setAll rest)

/-- Does what follows an action. -/
def continueWith (host : Host) : Continuation → Store → Outcome
  | .navigate screen, store => host.navigate screen store
  | .set values, store => setAll values store
  | .action name, store => host.runNamed name store

/-- The text that stands for the wording of the error. -/
def errorText : String := "$error.message"

/-- A value to set after a failure. -/
def withErrorText (error : ActionError) (v : Json) : Json :=
  if v = .string errorText then .string error.message else v

/-- What follows a failure, with the wording of the error in the values to set. -/
def Continuation.forError (error : ActionError) : Continuation → Continuation
  | .set values => .set (values.map fun (pointer, v) => (pointer, withErrorText error v))
  | other => other

/-- Does what follows a failure; without anything the failure stands. -/
def recover (host : Host) (onError? : Option Continuation) (outcome : Outcome) : Outcome :=
  match outcome.error?, onError? with
  | some error, some onError =>
    Outcome.andThen { outcome with error? := none }
      (host.continueWith (Continuation.forError error onError))
  | _, _ => outcome

/-- Does what follows a success, if anything does. -/
def succeed (host : Host) (onSuccess? : Option Continuation) (store : Store) : Outcome :=
  match onSuccess? with
  | some onSuccess => host.continueWith onSuccess store
  | none => store.done

/-- Runs a binding whose parameters are resolved. -/
def run (host : Host) (binding : Binding) (store : Store) : Outcome :=
  match Builtin.ofName? binding.action, host.handlers.lookup binding.action with
  | some builtin, _ => builtin.run binding.params store
  | none, none => store.done
  | none, some handler =>
    host.whenConfirmed binding.action binding.confirm? store fun store =>
      host.recover binding.onError?
        ((call binding.action handler binding.params store).andThen
          (host.succeed binding.onSuccess?))

end Host

/-- Resolves a binding in the current state and runs it. -/
def Store.execute (store : Store) (host : Host) (binding : Binding) : Outcome :=
  host.run (binding.inState store.state) store

/-- An action that is run by its name alone is the binding that has nothing but the name: no
parameters, no prompt and no continuation. -/
theorem Host.runNamed_eq_execute (host : Host) (name : String) (store : Store) :
    host.runNamed name store = store.execute host { action := name } := by
  change host.runNamed name store = host.run { action := name } store
  rw [runNamed, run]
  cases Builtin.ofName? name with
  | some builtin => rfl
  | none =>
    cases host.handlers.lookup name with
    | none => rfl
    | some handler =>
      cases failed : handler [] <;>
        simp [whenConfirmed, recover, Outcome.andThen, call, succeed, Store.done, failed]

end UiStream

import UiStream.Proofs.Action.Builtin

/-!
# What actions do outside the state

The binding and the state decide all that an action does, apart from what it is told by handlers and
by the one who confirms.  A `Dialogue` is the action up to what it is told.  A `World` tells it, or
never answers.  It may remember what was done before, so a handler that is called again need not do
the same again.

Built-in actions and writes have no effect outside the state (`Builtin.effects_run`,
`Host.effects_setAll`), so they are settled at once.  The other parts of a run are dialogues part by
part, and in the world that does what the host says each of them yields what the part does
(`Dialogue.Yields`).  So the dialogue of a binding is its run there (`Host.yields_dialogue`).
-/

namespace UiStream

/-! ## Dialogues -/

/-- An action as far as it depends on what it is told from outside. -/
inductive Dialogue where
  | finished (store : Store) (error? : Option ActionError)
  | ask (action : String) (confirm : Confirm) (next : Answer → Dialogue)
  | call (handler : String) (params : Members) (next : Option ActionError → Dialogue)
  | navigate (screen : String) (next : Dialogue)

/-- What surrounds a dialogue.  Its answer may depend on all that was done before, and there need
not be one. -/
structure World where
  /-- What becomes of a request to confirm. -/
  answer? : List Effect → String → Confirm → Option Answer
  /-- The failure of a handler, if it fails. -/
  result? : List Effect → String → Members → Option (Option ActionError)

/-- A request that is never answered after what was done before. -/
def World.Silent (world : World) (made : List Effect) : Effect → Prop
  | .asked action confirm => world.answer? made action confirm = none
  | .called handler params => world.result? made handler params = none
  | .navigated _ => False

namespace Dialogue

/-- Goes on when a dialogue is over. -/
def bind : Dialogue → (Store → Option ActionError → Dialogue) → Dialogue
  | finished store error?, later => later store error?
  | ask action confirm next, later => ask action confirm fun answer => (next answer).bind later
  | call handler params next, later => call handler params fun error? => (next error?).bind later
  | navigate screen next, later => navigate screen (next.bind later)

/-- Goes on after a dialogue that succeeded. -/
def andThen (first : Dialogue) (next : Store → Dialogue) : Dialogue :=
  first.bind fun store error? =>
    match error? with
    | some error => finished store (some error)
    | none => next store

/-- The dialogue in a world, after some effects, with no outcome if the world does not answer. -/
def runIn (world : World) : Dialogue → List Effect → Option Outcome
  | finished store error?, made => some { store, effects := made, error? }
  | ask action confirm next, made =>
    (world.answer? made action confirm).bind fun answer =>
      (next answer).runIn world (made ++ [.asked action confirm])
  | call handler params next, made =>
    (world.result? made handler params).bind fun error? =>
      (next error?).runIn world (made ++ [.called handler params])
  | navigate screen next, made => next.runIn world (made ++ [.navigated screen])

theorem runIn_bind (world : World) (first : Dialogue)
    (later : Store → Option ActionError → Dialogue) (made : List Effect) :
    (first.bind later).runIn world made = (first.runIn world made).bind fun outcome =>
      (later outcome.store outcome.error?).runIn world outcome.effects := by
  induction first generalizing made with
  | finished => rfl
  | ask action confirm next ih =>
    rw [bind, runIn, runIn, Option.bind_assoc]
    exact Option.bind_congr fun answer _ => ih answer _
  | call handler params next ih =>
    rw [bind, runIn, runIn, Option.bind_assoc]
    exact Option.bind_congr fun error? _ => ih error? _
  | navigate screen next ih => exact ih _

end Dialogue

/-- What is left of an action without effects. -/
def Outcome.settled (outcome : Outcome) : Dialogue := .finished outcome.store outcome.error?

namespace Host

/-- The dialogue of an action that is run by its name alone. -/
def namedDialogue (host : Host) (name : String) (store : Store) : Dialogue :=
  match Builtin.ofName? name, host.handlers.lookup name with
  | some builtin, _ => (builtin.run [] store).settled
  | none, some _ => .call name [] (.finished store)
  | none, none => .finished store none

/-- The dialogue of what follows an action. -/
def continueDialogue (host : Host) : Continuation → Store → Dialogue
  | .navigate screen, store =>
    if host.navigates then .navigate screen (.finished store none) else .finished store none
  | .set values, store => (setAll values store).settled
  | .action name, store => host.namedDialogue name store

/-- The dialogue of what follows a success. -/
def succeedDialogue (host : Host) (onSuccess? : Option Continuation) (store : Store) : Dialogue :=
  match onSuccess? with
  | some onSuccess => host.continueDialogue onSuccess store
  | none => .finished store none

/-- The dialogue of what follows a failure, or the failure. -/
def recoverDialogue (host : Host) (onError? : Option Continuation) (store : Store)
    (error? : Option ActionError) : Dialogue :=
  match error?, onError? with
  | some error, some onError => host.continueDialogue (Continuation.forError error onError) store
  | _, _ => .finished store error?

/-- The dialogue of a handler and of what follows it. -/
def handlerDialogue (host : Host) (binding : Binding) (store : Store) : Dialogue :=
  ((Dialogue.call binding.action binding.params (.finished store)).andThen
    (host.succeedDialogue binding.onSuccess?)).bind (host.recoverDialogue binding.onError?)

/-- A dialogue behind a prompt, if there is one. -/
def gatedDialogue (host : Host) (action : String) (confirm? : Option Confirm) (store : Store)
    (body : Dialogue) : Dialogue :=
  match confirm?, host.confirmer? with
  | none, _ => body
  | some _, none => .finished store (some .cancelled)
  | some confirm, some _ => .ask action confirm fun answer =>
    if answer = .confirmed then body else .finished store (some .cancelled)

/-- The dialogue of a binding whose parameters are resolved. -/
def dialogue (host : Host) (binding : Binding) (store : Store) : Dialogue :=
  match Builtin.ofName? binding.action, host.handlers.lookup binding.action with
  | some builtin, _ => (builtin.run binding.params store).settled
  | none, none => .finished store none
  | none, some _ =>
    host.gatedDialogue binding.action binding.confirm? store (host.handlerDialogue binding store)

/-- The world in which handlers and the one who confirms do what the host says. -/
def world (host : Host) : World where
  answer? _ action confirm := host.confirmer?.map fun answer => answer action confirm
  result? _ handler params := (host.handlers.lookup handler).map fun run => run params

end Host

/-! ## Actions without effects -/

namespace Store

@[simp] theorem effects_set (store : Store) (pointer : String) (value : Json) :
    (store.set pointer value).effects = [] := by
  unfold set
  split <;> rfl

@[simp] theorem effects_remove (store : Store) (pointer : String) :
    (store.remove pointer).effects = [] := by
  unfold remove
  split <;> rfl

theorem effects_withArray {store : Store} {pointer action : String} {next : List Json → Outcome}
    (quiet : ∀ items, (next items).effects = []) :
    (store.withArray pointer action next).effects = [] := by
  unfold withArray
  split
  · exact quiet _
  · rfl

end Store

theorem Outcome.effects_andThen {first : Outcome} {next : Store → Outcome}
    (quiet : first.effects = []) (later : ∀ store, (next store).effects = []) :
    (first.andThen next).effects = [] := by
  unfold andThen
  split
  · exact quiet
  · simp [quiet, later]

/-- A built-in action does nothing outside the state. -/
theorem Builtin.effects_run (action : Builtin) (params : Members) (store : Store) :
    (action.run params store).effects = [] := by
  cases action with
  | setState =>
    simp only [run, runSetState]
    split
    · rfl
    · split <;> simp
  | pushState =>
    simp only [run, runPushState]
    split
    · rfl
    · refine Store.effects_withArray fun items => Outcome.effects_andThen (by simp) fun store => ?_
      split <;> simp [Store.done]
  | removeState =>
    simp only [run, runRemoveState]
    split
    · exact Store.effects_withArray fun items => by simp
    · rfl
  | push =>
    simp only [run, runPush]
    split
    · rfl
    · exact Store.effects_withArray fun items => Outcome.effects_andThen (by simp) (by simp)
  | pop =>
    simp only [run, runPop]
    refine Store.effects_withArray fun screens => ?_
    split
    · rfl
    · refine Outcome.effects_andThen (by simp) fun store => ?_
      split <;> simp

theorem Host.effects_setAll (values : Members) (store : Store) :
    (Host.setAll values store).effects = [] := by
  induction values generalizing store with
  | nil => rfl
  | cons member rest ih => exact Outcome.effects_andThen (by simp) ih

/-! ## The run in the world of a host -/

namespace Dialogue

/-- The dialogue has an outcome in a world, whatever was done before. -/
def Yields (world : World) (dialogue : Dialogue) (outcome : Outcome) : Prop :=
  ∀ made, dialogue.runIn world made = some { outcome with effects := made ++ outcome.effects }

variable {world : World} {dialogue : Dialogue} {outcome : Outcome}

theorem yields_settled {outcome : Outcome} (quiet : outcome.effects = []) :
    outcome.settled.Yields world outcome := by
  intro made
  simp [Outcome.settled, runIn, quiet]

theorem yields_finished (store : Store) : (finished store none).Yields world store.done :=
  show store.done.settled.Yields world store.done from yields_settled rfl

theorem yields_failed (store : Store) (error : ActionError) :
    (finished store (some error)).Yields world (store.failed error) :=
  show (store.failed error).settled.Yields world _ from yields_settled rfl

theorem Yields.bind {later : Store → Option ActionError → Dialogue} {next : Outcome}
    (first : dialogue.Yields world outcome)
    (second : (later outcome.store outcome.error?).Yields world next) :
    (dialogue.bind later).Yields world
      { next with effects := outcome.effects ++ next.effects } := by
  intro made
  rw [runIn_bind, first made, Option.bind_some, second, List.append_assoc]

/-- What goes on with nothing leaves the outcome. -/
theorem Yields.bind_finished {later : Store → Option ActionError → Dialogue}
    (first : dialogue.Yields world outcome)
    (stays : later outcome.store outcome.error? = .finished outcome.store outcome.error?) :
    (dialogue.bind later).Yields world outcome := by
  intro made
  rw [runIn_bind, first made, Option.bind_some, stays]
  rfl

theorem Yields.andThen {later : Store → Dialogue} {next : Store → Outcome}
    (first : dialogue.Yields world outcome)
    (second : ∀ store, (later store).Yields world (next store)) :
    (dialogue.andThen later).Yields world (outcome.andThen next) := by
  obtain ⟨store, effects, error?⟩ := outcome
  cases error? with
  | none => exact first.bind (second store)
  | some error => exact first.bind_finished rfl

end Dialogue

namespace Host

variable {host : Host} {name : String} {handler : Handler}

theorem yields_call (known : host.handlers.lookup name = some handler) (params : Members)
    (store : Store) :
    (Dialogue.call name params (.finished store)).Yields host.world
      (call name handler params store) := by
  intro made
  simp [Dialogue.runIn, world, known, call]

theorem yields_navigate (host : Host) (screen : String) (store : Store) :
    (host.continueDialogue (.navigate screen) store).Yields host.world
      (host.navigate screen store) := by
  intro made
  cases told : host.navigates <;> simp [continueDialogue, Dialogue.runIn, navigate, told]

theorem yields_named (host : Host) (name : String) (store : Store) :
    (host.namedDialogue name store).Yields host.world (host.runNamed name store) := by
  unfold namedDialogue runNamed
  cases Builtin.ofName? name with
  | some builtin => exact Dialogue.yields_settled (builtin.effects_run [] store)
  | none =>
    cases known : host.handlers.lookup name with
    | some handler => exact yields_call known [] store
    | none => exact Dialogue.yields_finished store

theorem yields_continue (host : Host) (continuation : Continuation) (store : Store) :
    (host.continueDialogue continuation store).Yields host.world
      (host.continueWith continuation store) := by
  cases continuation with
  | navigate screen => exact yields_navigate host screen store
  | set values => exact Dialogue.yields_settled (effects_setAll values store)
  | action name => exact yields_named host name store

theorem yields_succeed (host : Host) (onSuccess? : Option Continuation) (store : Store) :
    (host.succeedDialogue onSuccess? store).Yields host.world (host.succeed onSuccess? store) := by
  cases onSuccess? with
  | none => exact Dialogue.yields_finished store
  | some onSuccess => exact yields_continue host onSuccess store

theorem yields_recover {dialogue : Dialogue} {outcome : Outcome}
    (first : dialogue.Yields host.world outcome) (onError? : Option Continuation) :
    (dialogue.bind (host.recoverDialogue onError?)).Yields host.world
      (host.recover onError? outcome) := by
  obtain ⟨store, effects, error?⟩ := outcome
  cases error? with
  | none => exact first.bind_finished rfl
  | some error =>
    cases onError? with
    | none => exact first.bind_finished rfl
    | some onError =>
      exact first.bind (yields_continue host (Continuation.forError error onError) store)

theorem yields_handler {binding : Binding}
    (known : host.handlers.lookup binding.action = some handler) (store : Store) :
    (host.handlerDialogue binding store).Yields host.world
      (host.recover binding.onError?
        ((call binding.action handler binding.params store).andThen
          (host.succeed binding.onSuccess?))) :=
  yields_recover ((yields_call known binding.params store).andThen
    (yields_succeed host binding.onSuccess?)) binding.onError?

theorem yields_gated {body : Dialogue} {store : Store} {next : Store → Outcome}
    (granted : body.Yields host.world (next store)) (action : String) (confirm? : Option Confirm) :
    (host.gatedDialogue action confirm? store body).Yields host.world
      (host.whenConfirmed action confirm? store next) := by
  unfold gatedDialogue whenConfirmed
  cases confirm? with
  | none => exact granted
  | some confirm =>
    cases asked : host.confirmer? with
    | none => exact Dialogue.yields_failed store .cancelled
    | some answer =>
      intro made
      have told : host.world.answer? made action confirm = some (answer action confirm) := by
        simp [world, asked]
      simp only [Dialogue.runIn, told, Option.bind_some]
      by_cases given : answer action confirm = .confirmed
      · rw [if_pos given, if_pos given, granted, List.append_assoc]
        rfl
      · rw [if_neg given, if_neg given]
        rfl

/-- In the world of a host the dialogue of a binding is its run. -/
theorem yields_dialogue (host : Host) (binding : Binding) (store : Store) :
    (host.dialogue binding store).Yields host.world (host.run binding store) := by
  unfold dialogue run
  cases Builtin.ofName? binding.action with
  | some builtin => exact Dialogue.yields_settled (builtin.effects_run binding.params store)
  | none =>
    cases known : host.handlers.lookup binding.action with
    | none => exact Dialogue.yields_finished store
    | some handler => exact yields_gated (yields_handler known store) _ _

end Host

end UiStream

import UiStream.Proofs.Action.Dialogue

/-!
# How much an action does

A continuation runs an action by its name alone, so nothing follows that action in turn, whatever
the name is.  What a binding may do outside the state is thus a list that can be written down
beforehand (`Binding.effects`).  Each part of its dialogue keeps within its own part of the list
(`Dialogue.Within`), and parts that follow one another keep within the parts in a row
(`Dialogue.Within.bind`), so the dialogue keeps within the whole (`Host.within_dialogue`).  The
prompt comes first, so without a confirmation it is all that happens
(`Host.runIn_dialogue_of_refused`).
-/

namespace UiStream

/-! ## What a binding may do -/

/-- What a continuation may do outside the state. -/
def Continuation.effects : Continuation → List Effect
  | navigate screen => [.navigated screen]
  | set _ => []
  | action name => [.called name []]

/-- What a binding may do outside the state, in the order in which it does it. -/
def Binding.effects (binding : Binding) : List Effect :=
  binding.confirm?.toList.map (.asked binding.action) ++
    .called binding.action binding.params ::
      (binding.onSuccess?.toList.flatMap Continuation.effects ++
        binding.onError?.toList.flatMap Continuation.effects)

namespace Dialogue

variable {world : World} {dialogue : Dialogue} {allowed : List Effect}

/-- Whatever the world is, the dialogue does nothing else than some effects, and each of them at
most once and in their order.  If it is not over, it has made a request among them that is not
answered. -/
structure Within (allowed : List Effect) (dialogue : Dialogue) : Prop where
  ended : ∀ {world : World} {made : List Effect} {outcome : Outcome},
    dialogue.runIn world made = some outcome →
      ∃ further, outcome.effects = made ++ further ∧ further.Sublist allowed
  stuck : ∀ {world : World} {made : List Effect}, dialogue.runIn world made = none →
    ∃ further request, (further ++ [request]).Sublist allowed ∧
      world.Silent (made ++ further) request

theorem within_finished (allowed : List Effect) (store : Store) (error? : Option ActionError) :
    (finished store error?).Within allowed where
  ended := by
    intro world made outcome run
    cases run
    exact ⟨[], (List.append_nil made).symm, List.nil_sublist allowed⟩
  stuck := fun run => nomatch run

/-- One effect more, if the dialogue waits for an answer to it or goes on after it. -/
theorem within_cons {effect : Effect} (step : ∀ (world : World) (made : List Effect),
      dialogue.runIn world made = none ∧ world.Silent made effect ∨
      ∃ rest : Dialogue, rest.Within allowed ∧
        dialogue.runIn world made = rest.runIn world (made ++ [effect])) :
    dialogue.Within (effect :: allowed) where
  ended := by
    intro world made outcome run
    obtain ⟨none, -⟩ | ⟨rest, within, same⟩ := step world made
    · rw [none] at run
      cases run
    · obtain ⟨further, effects, order⟩ := within.ended (same ▸ run)
      exact ⟨effect :: further, by rw [effects, List.append_assoc]; rfl, order.cons_cons effect⟩
  stuck := by
    intro world made run
    obtain ⟨-, silent⟩ | ⟨rest, within, same⟩ := step world made
    · refine ⟨[], effect, List.singleton_sublist.mpr List.mem_cons_self, ?_⟩
      rwa [List.append_nil]
    · obtain ⟨further, request, order, silent⟩ := within.stuck (same ▸ run)
      refine ⟨effect :: further, request, order.cons_cons effect, ?_⟩
      rwa [List.append_assoc] at silent

theorem within_ask {action : String} {confirm : Confirm} {next : Answer → Dialogue}
    (within : ∀ answer, (next answer).Within allowed) :
    (ask action confirm next).Within (.asked action confirm :: allowed) := by
  refine within_cons fun world made => ?_
  cases told : world.answer? made action confirm with
  | none => exact .inl ⟨by rw [runIn, told]; rfl, told⟩
  | some answer => exact .inr ⟨next answer, within answer, by rw [runIn, told]; rfl⟩

theorem within_call {handler : String} {params : Members} {next : Option ActionError → Dialogue}
    (within : ∀ error?, (next error?).Within allowed) :
    (call handler params next).Within (.called handler params :: allowed) := by
  refine within_cons fun world made => ?_
  cases told : world.result? made handler params with
  | none => exact .inl ⟨by rw [runIn, told]; rfl, told⟩
  | some error? => exact .inr ⟨next error?, within error?, by rw [runIn, told]; rfl⟩

theorem within_navigate {next : Dialogue} (within : next.Within allowed) (screen : String) :
    (navigate screen next).Within (.navigated screen :: allowed) :=
  within_cons fun _ _ => .inr ⟨next, within, rfl⟩

/-- What goes on after a dialogue does its effects after those of the first. -/
theorem Within.bind {more : List Effect} {later : Store → Option ActionError → Dialogue}
    (first : dialogue.Within allowed) (second : ∀ store error?, (later store error?).Within more) :
    (dialogue.bind later).Within (allowed ++ more) where
  ended := by
    intro world made outcome run
    rw [runIn_bind, Option.bind_eq_some_iff] at run
    obtain ⟨between, before, after⟩ := run
    obtain ⟨further, effects, order⟩ := first.ended before
    obtain ⟨last, effects', order'⟩ := (second _ _).ended after
    refine ⟨further ++ last, ?_, order.append order'⟩
    rw [effects', effects, List.append_assoc]
  stuck := by
    intro world made run
    rw [runIn_bind, Option.bind_eq_none_iff] at run
    cases before : dialogue.runIn world made with
    | none =>
      obtain ⟨further, request, order, silent⟩ := first.stuck before
      exact ⟨further, request, order.trans (List.sublist_append_left _ _), silent⟩
    | some between =>
      obtain ⟨further, effects, order⟩ := first.ended before
      obtain ⟨last, request, order', silent⟩ := (second _ _).stuck (run between before)
      refine ⟨further ++ last, request, ?_, ?_⟩
      · rw [List.append_assoc]
        exact order.append order'
      · rwa [effects, List.append_assoc] at silent

theorem Within.andThen {more : List Effect} {later : Store → Dialogue}
    (first : dialogue.Within allowed) (second : ∀ store, (later store).Within more) :
    (dialogue.andThen later).Within (allowed ++ more) := by
  refine first.bind fun store error? => ?_
  cases error? with
  | none => exact second store
  | some error => exact within_finished more store (some error)

end Dialogue

namespace Host

open Dialogue

variable {host : Host}

theorem within_named (host : Host) (name : String) (store : Store) :
    (host.namedDialogue name store).Within [.called name []] := by
  unfold namedDialogue
  split
  · exact within_finished _ _ _
  · exact within_call fun error? => within_finished [] store error?
  · exact within_finished _ _ _

theorem within_continue (host : Host) (continuation : Continuation) (store : Store) :
    (host.continueDialogue continuation store).Within continuation.effects := by
  cases continuation with
  | navigate screen =>
    rw [continueDialogue]
    split
    · exact within_navigate (within_finished [] store none) screen
    · exact within_finished _ _ _
  | set values => exact within_finished _ _ _
  | action name => exact within_named host name store

theorem within_succeed (host : Host) (onSuccess? : Option Continuation) (store : Store) :
    (host.succeedDialogue onSuccess? store).Within
      (onSuccess?.toList.flatMap Continuation.effects) := by
  cases onSuccess? with
  | none => exact within_finished _ _ _
  | some onSuccess =>
    rw [Option.toList_some, List.flatMap_singleton]
    exact within_continue host onSuccess store

/-- The wording of the error changes only what is written. -/
theorem effects_forError (error : ActionError) (continuation : Continuation) :
    (Continuation.forError error continuation).effects = continuation.effects := by
  cases continuation <;> rfl

theorem within_recover (host : Host) (onError? : Option Continuation) (store : Store)
    (error? : Option ActionError) :
    (host.recoverDialogue onError? store error?).Within
      (onError?.toList.flatMap Continuation.effects) := by
  unfold recoverDialogue
  split
  · next error onError =>
    rw [Option.toList_some, List.flatMap_singleton, ← effects_forError error]
    exact within_continue host _ store
  · exact within_finished _ _ _

theorem within_handler (host : Host) (binding : Binding) (store : Store) :
    (host.handlerDialogue binding store).Within
      (.called binding.action binding.params ::
        (binding.onSuccess?.toList.flatMap Continuation.effects ++
          binding.onError?.toList.flatMap Continuation.effects)) :=
  ((within_call fun error? => within_finished [] store error?).andThen
    (within_succeed host binding.onSuccess?)).bind (within_recover host binding.onError?)

theorem within_gated {body : Dialogue} {allowed : List Effect} (within : body.Within allowed)
    (host : Host) (action : String) (confirm? : Option Confirm) (store : Store) :
    (host.gatedDialogue action confirm? store body).Within
      (confirm?.toList.map (.asked action) ++ allowed) := by
  unfold gatedDialogue
  split
  · exact within
  · exact within_finished _ _ _
  · refine within_ask fun answer => ?_
    split
    · exact within
    · exact within_finished _ _ _

/-- What a binding does outside the state is among what it may do. -/
theorem within_dialogue (host : Host) (binding : Binding) (store : Store) :
    (host.dialogue binding store).Within binding.effects := by
  unfold dialogue
  split
  · exact within_finished _ _ _
  · exact within_finished _ _ _
  · exact within_gated (within_handler host binding store) host binding.action _ store

/-- Without a confirmation an action that needs one fails, and nothing else happens. -/
theorem runIn_dialogue_of_refused {binding : Binding} {world : World} {confirm : Confirm}
    (foreign : Builtin.ofName? binding.action = none)
    (known : (host.handlers.lookup binding.action).isSome)
    (prompt : binding.confirm? = some confirm)
    (refused : host.confirmer? = none ∨
      world.answer? [] binding.action confirm = some .cancelled ∨
      world.answer? [] binding.action confirm = some .dropped) (store : Store) :
    (host.dialogue binding store).runIn world [] = some
      { store
        effects := if host.confirmer?.isSome then [.asked binding.action confirm] else []
        error? := some .cancelled } := by
  obtain ⟨handler, known⟩ := Option.isSome_iff_exists.mp known
  unfold dialogue gatedDialogue
  rw [foreign, known, prompt]
  cases asked : host.confirmer? with
  | none => rfl
  | some answer =>
    obtain missing | told | told := refused
    · rw [missing] at asked
      cases asked
    all_goals
      simp only [Dialogue.runIn, told, Option.bind_some]
      rfl

end Host

/-! ## The bound and the gate -/

/-- The handler that is called. -/
def Effect.handler? : Effect → Option String
  | called handler _ => some handler
  | _ => none

/-- The prompt that is shown. -/
def Effect.prompt? : Effect → Option Confirm
  | asked _ confirm => some confirm
  | _ => none

/-- The action that a continuation names. -/
def Continuation.action? : Continuation → Option String
  | action name => some name
  | _ => none

theorem Continuation.handlers_effects (next? : Option Continuation) :
    (next?.toList.flatMap effects).filterMap Effect.handler? = (next?.bind action?).toList := by
  rcases next? with _ | _ | _ | _ <;> rfl

theorem Continuation.prompts_effects (next? : Option Continuation) :
    (next?.toList.flatMap effects).filterMap Effect.prompt? = [] := by
  rcases next? with _ | _ | _ | _ <;> rfl

/-- The handlers that a binding may call. -/
theorem Binding.handlers_effects (binding : Binding) :
    binding.effects.filterMap Effect.handler? =
      binding.action :: ((binding.onSuccess?.bind Continuation.action?).toList ++
        (binding.onError?.bind Continuation.action?).toList) := by
  have none : (binding.confirm?.toList.map (.asked binding.action)).filterMap
      Effect.handler? = [] := by
    cases binding.confirm? <;> rfl
  rw [effects, List.filterMap_append, none, List.nil_append,
    List.filterMap_cons_some (f := Effect.handler?) rfl, List.filterMap_append,
    Continuation.handlers_effects, Continuation.handlers_effects]

/-- The prompts that a binding may show. -/
theorem Binding.prompts_effects (binding : Binding) :
    binding.effects.filterMap Effect.prompt? = binding.confirm?.toList := by
  have prompt : (binding.confirm?.toList.map (.asked binding.action)).filterMap
      Effect.prompt? = binding.confirm?.toList := by
    cases binding.confirm? <;> rfl
  rw [effects, List.filterMap_append, prompt, List.filterMap_cons_none (f := Effect.prompt?) rfl,
    List.filterMap_append, Continuation.prompts_effects, Continuation.prompts_effects,
    List.append_nil, List.append_nil]

/-- **Dispatch is bounded and gated.**  In the world of the host, the dialogue of a binding is its
run.  Whatever the world is, the dialogue comes to an end if all is answered that it may request.
It shows a prompt at most once, and then calls the handler that the binding names, one that follows
a success and one that follows a failure, in this order and each at most once.  If the binding has
a prompt for a handler and nobody is there to confirm, or the request is cancelled or dropped, it
is cancelled, and nothing but the prompt has happened. -/
theorem execute_bounded_and_gated (store : Store) (host : Host) (binding : Binding) :
    let resolved := binding.inState store.state
    let dialogue := host.dialogue resolved store
    dialogue.runIn host.world [] = some (store.execute host binding) ∧ ∀ world : World,
      ((∀ made request, (made ++ [request]).Sublist resolved.effects →
          ¬ world.Silent made request) →
        ∃ outcome, dialogue.runIn world [] = some outcome) ∧
      (∀ outcome, dialogue.runIn world [] = some outcome →
        outcome.effects.Sublist resolved.effects ∧
        (outcome.effects.filterMap Effect.prompt?).length ≤ 1 ∧
        (outcome.effects.filterMap Effect.handler?).length ≤ 3 ∧
        (outcome.effects.filterMap Effect.handler?).Sublist
          (binding.action :: ((binding.onSuccess?.bind Continuation.action?).toList ++
            (binding.onError?.bind Continuation.action?).toList))) ∧
      (Builtin.ofName? binding.action = none → (host.handlers.lookup binding.action).isSome →
        ∀ confirm, resolved.confirm? = some confirm →
          (host.confirmer? = none ∨
            world.answer? [] binding.action confirm = some .cancelled ∨
            world.answer? [] binding.action confirm = some .dropped) →
          dialogue.runIn world [] = some
            { store
              effects := if host.confirmer?.isSome then [.asked binding.action confirm] else []
              error? := some .cancelled }) := by
  intro resolved dialogue
  have within : dialogue.Within resolved.effects := host.within_dialogue resolved store
  refine ⟨host.yields_dialogue resolved store [], fun world => ⟨fun answered => ?_, ?_, ?_⟩⟩
  · cases run : dialogue.runIn world [] with
    | some outcome => exact ⟨outcome, rfl⟩
    | none =>
      obtain ⟨made, request, order, silent⟩ := within.stuck run
      exact absurd silent (answered made request order)
  · intro outcome run
    obtain ⟨made, same, order⟩ := within.ended run
    rw [List.nil_append] at same
    rw [same]
    have prompts := order.filterMap Effect.prompt?
    have handlers := order.filterMap Effect.handler?
    rw [Binding.prompts_effects] at prompts
    rw [Binding.handlers_effects] at handlers
    refine ⟨order, Nat.le_trans prompts.length_le Option.length_toList_le, ?_, handlers⟩
    have success : (resolved.onSuccess?.bind Continuation.action?).toList.length ≤ 1 :=
      Option.length_toList_le
    have failure : (resolved.onError?.bind Continuation.action?).toList.length ≤ 1 :=
      Option.length_toList_le
    have most := handlers.length_le
    rw [List.length_cons, List.length_append] at most
    omega
  · intro foreign known confirm prompt refused
    have foreign : Builtin.ofName? resolved.action = none := foreign
    exact Host.runIn_dialogue_of_refused foreign known prompt refused store

/-- A handler that follows itself fails when it is called again, and the next one is called for
that.  If the request is dropped, none is called. -/
theorem execute_bounded_and_gated_self :
    let confirm : Confirm := { title := "Save?", message := "Really?" }
    let binding : Binding :=
      { action := "save", params := [("n", .object [("$state", .string "/n")])]
        confirm? := some confirm, onSuccess? := some (.action "save")
        onError? := some (.action "log") }
    let store : Store := { state := .object [("n", .ofNat 7)], ids := { clock := fun _ => 0 } }
    let host : Host :=
      { handlers := [("save", fun _ => none), ("log", fun _ => none)]
        confirmer? := some fun _ _ => .confirmed }
    let world (answer : Answer) : World :=
      { answer? := fun _ _ _ => some answer
        result? := fun made _ _ => some (if made.length < 2 then none else some (.handler "full")) }
    let dialogue := host.dialogue (binding.inState store.state) store
    (∃ outcome, dialogue.runIn (world .confirmed) [] = some outcome ∧
      outcome.effects = [.asked "save" confirm, .called "save" [("n", .ofNat 7)],
        .called "save" [], .called "log" []] ∧
      (outcome.effects.filterMap Effect.handler?).Sublist ["save", "save", "log"]) ∧
    dialogue.runIn (world .dropped) [] = some
      { store, effects := [.asked "save" confirm], error? := some .cancelled } := by
  intro confirm binding store host world dialogue
  obtain ⟨-, bounds⟩ := execute_bounded_and_gated store host binding
  obtain ⟨ends, bounded, -⟩ := bounds (world .confirmed)
  obtain ⟨-, -, gated⟩ := bounds (world .dropped)
  have answered (made : List Effect) (request : Effect) :
      ¬ (world .confirmed).Silent made request := by
    cases request <;> simp [World.Silent, world]
  obtain ⟨outcome, run⟩ := ends fun made request _ => answered made request
  have effects : (dialogue.runIn (world .confirmed) []).map (·.effects) =
      some [.asked "save" confirm, .called "save" [("n", .ofNat 7)], .called "save" [],
        .called "log" []] := by decide +kernel
  refine ⟨⟨outcome, run, ?_, (bounded outcome run).2.2.2⟩, ?_⟩
  · rw [run] at effects
    exact Option.some.inj effects
  · exact gated (by decide +kernel) rfl confirm (by decide +kernel) (.inr (.inr rfl))

end UiStream

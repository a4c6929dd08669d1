import UiStream.Action.Dispatch
import UiStream.Proofs.Pointer.Apart
import UiStream.Proofs.Pointer.Lens

/-!
# Built-in actions that fail

A write that fails leaves the state alone, and so does an action that writes once.  `push` and `pop`
write twice, but both times at a key of one object, so that after the first write the second cannot
fail (`Store.set_key`).  `pushState` writes at two places that its parameters choose: it appends the
value (`Builtin.appendValue`) and then clears a text (`Builtin.clearText`).  If the text cannot be
cleared, the value stays.

That is the only way to fail and to have changed the state (`Builtin.failure_spares_iff`).  It has
changed it indeed, for a write that changes nothing has found its value there
(`Json.writeTokens_eq_self_iff`), and an array is not the same with one more item.
-/

namespace UiStream

open Pointer

/-! ## Writes that change nothing -/

/-- An item that is set without changing the array was there. -/
theorem Pointer.getElem?_of_set_padTo {items : List Json} {i : Nat} {v : Json}
    (same : (padTo (i + 1) items).set i v = items) : items[i]? = some v := by
  have inside : i < (padTo (i + 1) items).length := le_length_padTo (i + 1) items
  rw [← same, List.getElem?_set_self inside]

/-- What is put under a token without changing anything was there. -/
theorem Pointer.child?_of_put_eq {token : String} {doc inner : Json}
    (same : put token inner doc = doc) : doc.child? token = some inner := by
  cases doc with
  | array items =>
    have found := getElem?_of_set_padTo (Json.array.inj same)
    cases place : index? token with
    | none =>
      rw [slot, place, Option.getD_none, List.getElem?_eq_none (Nat.le_refl _)] at found
      cases found
    | some i =>
      rw [slot, place, Option.getD_some] at found
      rw [Json.child?, place, Option.bind_some, found]
  | object members =>
    have same : Members.insert token inner members = members := Json.object.inj same
    rw [Json.child?, ← same, Members.find?_insert_self]
  | null | bool | number | string =>
    obtain ⟨items, made, -⟩ | ⟨members, made, -⟩ := vivify_cases token _
    · rw [put_array made] at same
      cases same
    · rw [put_object made] at same
      cases same

/-- A write that changes nothing has found its value there. -/
theorem Json.writeTokens_eq_self_iff {tokens : List String} {doc value : Json} :
    writeTokens setItem value tokens doc = doc ↔ doc.get? tokens = some value := by
  refine ⟨fun same => ?_, writeTokens_of_get?⟩
  induction tokens generalizing doc with
  | nil =>
    rw [writeTokens] at same
    exact congrArg some same.symm
  | cons token rest ih =>
    rw [writeTokens_setItem_cons] at same
    have here := child?_of_put_eq same
    have under : doc.under token = writeTokens setItem value rest (doc.under token) :=
      congrArg (·.getD .null) here
    rw [get?, here, Option.bind_some, ← under]
    exact ih under.symm

/-! ## Writes to the state -/

namespace Outcome

/-- An action that failed has left the state as it was. -/
def Spares (outcome : Outcome) (state : Json) : Prop :=
  outcome.error? ≠ none → outcome.store.state = state

@[simp] theorem spares_done (store : Store) (state : Json) : store.done.Spares state :=
  fun failed => absurd rfl failed

@[simp] theorem spares_failed (store : Store) (error : ActionError) :
    (store.failed error).Spares store.state := fun _ => rfl

/-- Nothing follows a failure. -/
theorem andThen_of_error {first : Outcome} {error : ActionError}
    (failed : first.error? = some error) (next : Store → Outcome) : first.andThen next = first := by
  rw [andThen, failed]

/-- After a success it is what follows that counts. -/
theorem andThen_of_none {first : Outcome} (succeeded : first.error? = none)
    (next : Store → Outcome) :
    (first.andThen next).error? = (next first.store).error? ∧
      (first.andThen next).store = (next first.store).store := by
  rw [andThen, succeeded]
  exact ⟨rfl, rfl⟩

@[simp] theorem failed_andThen (store : Store) (error : ActionError) (next : Store → Outcome) :
    (store.failed error).andThen next = store.failed error := rfl

@[simp] theorem done_andThen (store : Store) (next : Store → Outcome) :
    store.done.andThen next = next store := rfl

end Outcome

namespace Store

variable {store : Store} {pointer : String} {value : Json}

theorem set_of_ok {state : Json} (written : store.state.setAt pointer value = .ok state) :
    store.set pointer value = done { store with state } := by
  rw [set, written]

theorem set_of_error {error : PointerError}
    (failed : store.state.setAt pointer value = .error error) :
    store.set pointer value = store.failed (.state error) := by
  rw [set, failed]

theorem set_cases (store : Store) (pointer : String) (value : Json) :
    (∃ state, store.state.setAt pointer value = .ok state ∧
      store.set pointer value = done { store with state }) ∨
    ∃ error, store.state.setAt pointer value = .error error ∧
      store.set pointer value = store.failed (.state error) := by
  cases written : store.state.setAt pointer value with
  | ok state => exact .inl ⟨state, rfl, set_of_ok written⟩
  | error error => exact .inr ⟨error, rfl, set_of_error written⟩

/-- A write that fails leaves the state alone. -/
theorem spares_set (store : Store) (pointer : String) (value : Json) :
    (store.set pointer value).Spares store.state := by
  obtain ⟨_, -, set⟩ | ⟨_, -, set⟩ := store.set_cases pointer value
  · rw [set]; exact Outcome.spares_done _ _
  · rw [set]; exact Outcome.spares_failed _ _

/-- Removing does not fail. -/
theorem error?_remove (store : Store) (pointer : String) :
    (store.remove pointer).error? = none := by
  unfold remove
  split <;> rfl

theorem spares_remove (store : Store) (pointer : String) (state : Json) :
    (store.remove pointer).Spares state :=
  fun failed => absurd (store.error?_remove pointer) failed

theorem withArray_cases (store : Store) (pointer action : String) (next : List Json → Outcome) :
    (∃ items, store.arrayAt pointer action = .ok items ∧
      store.withArray pointer action next = next items) ∨
    ∃ error, store.arrayAt pointer action = .error error ∧
      store.withArray pointer action next = store.failed error := by
  unfold withArray
  cases store.arrayAt pointer action with
  | ok items => exact .inl ⟨items, rfl, rfl⟩
  | error error => exact .inr ⟨error, rfl, rfl⟩

/-- Without an array at the pointer the state is left alone. -/
theorem spares_withArray {action : String} {next : List Json → Outcome}
    (spares : ∀ items, (next items).Spares store.state) :
    (store.withArray pointer action next).Spares store.state := by
  obtain ⟨items, -, same⟩ | ⟨error, -, same⟩ := store.withArray_cases pointer action next
  · rw [same]; exact spares items
  · rw [same]; exact Outcome.spares_failed store error

/-- What follows the use of an array follows it where there is one. -/
theorem withArray_andThen (store : Store) (pointer action : String) (next : List Json → Outcome)
    (later : Store → Outcome) :
    (store.withArray pointer action next).andThen later =
      store.withArray pointer action fun items => (next items).andThen later := by
  unfold withArray
  cases store.arrayAt pointer action <;> rfl

/-- A member of the state can be set. -/
theorem set_key {key : String} {members : Members} (single : tokens pointer = [key])
    (object : store.state = .object members) :
    store.set pointer value =
      done { store with state := .object (Members.insert key value members) } := by
  refine set_of_ok ?_
  rw [Json.setAt, object, single]
  rfl

/-- A write that succeeds at a key has made an object. -/
theorem object_of_setAt {key : String} {state after : Json} (named : isArrayToken key = false)
    (single : tokens pointer = [key]) (written : state.setAt pointer value = .ok after) :
    ∃ members, after = .object members := by
  obtain ⟨writable, rfl⟩ := Json.setAt_eq_ok_iff.mp written
  rw [single] at writable ⊢
  have passable := passable_of_checkWritable (Change.ne_append_of_named named) writable
  have object := (Change.passable_iff_of_named named).mp passable
  rw [writeTokens_setItem_cons, put_object (Change.vivify_of_named named object)]
  exact ⟨_, rfl⟩

/-- After a write at a key the state is left alone by a failure, if what follows does not fail on
objects. -/
theorem spares_set_key_andThen {key : String} {next : Store → Outcome}
    (named : isArrayToken key = false) (single : tokens pointer = [key])
    (safe : ∀ store : Store, (∃ members, store.state = .object members) →
      (next store).error? = none) :
    ((store.set pointer value).andThen next).Spares store.state := by
  obtain ⟨state, written, set⟩ | ⟨error, -, set⟩ := store.set_cases pointer value
  · rw [set, Outcome.done_andThen]
    have object := object_of_setAt named single written
    exact fun failed => absurd (safe { store with state } object) failed
  · rw [set, Outcome.failed_andThen]
    exact Outcome.spares_failed store _

end Store

/-! ## The actions -/

namespace Builtin

variable {params : Members} {store : Store}

@[simp] theorem ofName?_name (action : Builtin) : ofName? action.name = some action := by
  cases action <;> rfl

/-- A binding that names a built-in action runs it with the parameters as they are resolved. -/
theorem execute_of_name {binding : Binding} {action : Builtin}
    (named : binding.action = action.name) (store : Store) (host : Host) :
    store.execute host binding = action.run (binding.inState store.state).params store := by
  have known : ofName? (binding.inState store.state).action = some action := by
    rw [Binding.inState, named, ofName?_name]
  rw [Store.execute, Host.run, known]

theorem tokens_screensBelow : tokens screensBelow = ["navStack"] := by decide +kernel

theorem tokens_currentScreen : tokens currentScreen = ["currentScreen"] := by decide +kernel

theorem spares_runSetState (params : Members) (store : Store) :
    (runSetState params store).Spares store.state := by
  unfold runSetState
  split
  · exact Outcome.spares_done _ _
  · split
    · exact store.spares_set _ _
    · exact store.spares_remove _ _

theorem spares_runRemoveState (params : Members) (store : Store) :
    (runRemoveState params store).Spares store.state := by
  unfold runRemoveState
  split
  · exact Store.spares_withArray fun items => store.spares_set _ _
  · exact Outcome.spares_done _ _

theorem spares_runPush (params : Members) (store : Store) :
    (runPush params store).Spares store.state := by
  unfold runPush
  split
  · exact Outcome.spares_done _ _
  · refine Store.spares_withArray fun screens => ?_
    refine Store.spares_set_key_andThen rfl tokens_screensBelow ?_
    rintro later ⟨members, object⟩
    rw [Store.set_key tokens_currentScreen object]
    rfl

theorem spares_runPop (store : Store) : (runPop store).Spares store.state := by
  unfold runPop
  refine Store.spares_withArray fun screens => ?_
  split
  · exact Outcome.spares_done _ _
  · refine Store.spares_set_key_andThen rfl tokens_screensBelow ?_
    rintro later ⟨members, object⟩
    split
    · rw [Store.set_key tokens_currentScreen object]
      rfl
    · exact later.error?_remove _

/-! ## The two halves of `pushState` -/

/-- The value to append, with identifiers made for it. -/
def newValue (params : Members) (ids : IdSource) : Json × IdSource :=
  match Members.find? "value" params with
  | some value => value.withIds ids
  | none => (.null, ids)

/-- The first half: a new value goes behind the items of an array. -/
def appendValue (params : Members) (pointer : String) (store : Store) : Outcome :=
  let made := newValue params store.ids
  let store := { store with ids := made.2 }
  store.withArray pointer pushState.name fun items => store.set pointer (.array (items ++ [made.1]))

/-- The second half: a text is emptied, if the parameters name one. -/
def clearText (params : Members) (store : Store) : Outcome :=
  match textParam? params "clearStatePath" with
  | some pointer => store.set pointer (.string "")
  | none => store.done

theorem runPushState_eq {pointer : String}
    (given : textParam? params "statePath" = some pointer) :
    runPushState params store = (appendValue params pointer store).andThen (clearText params) := by
  rw [appendValue, Store.withArray_andThen]
  simp only [runPushState, newValue, given]
  cases Members.find? "value" params <;> rfl

theorem runPushState_of_none (missing : textParam? params "statePath" = none) :
    runPushState params store = store.done := by
  simp only [runPushState, missing]

/-- Appending leaves the state alone, or there is one item more behind those of an array. -/
theorem appendValue_cases (params : Members) (pointer : String) (store : Store) :
    (∃ error, (appendValue params pointer store).error? = some error ∧
      (appendValue params pointer store).store.state = store.state) ∨
    ∃ items value, store.arrayAt pointer pushState.name = .ok items ∧
      (appendValue params pointer store).error? = none ∧
      store.state.setAt pointer (.array (items ++ [value])) =
        .ok (appendValue params pointer store).store.state := by
  unfold appendValue
  obtain ⟨value, ids⟩ := newValue params store.ids
  obtain ⟨items, found, same⟩ | ⟨error, -, same⟩ :=
    Store.withArray_cases { store with ids } pointer pushState.name
      fun items => Store.set { store with ids } pointer (.array (items ++ [value]))
  · obtain ⟨state, written, set⟩ | ⟨error, -, set⟩ :=
      Store.set_cases { store with ids } pointer (.array (items ++ [value]))
    · simp only [same, set]
      exact .inr ⟨items, value, found, rfl, written⟩
    · simp only [same, set]
      exact .inl ⟨_, rfl, rfl⟩
  · simp only [same]
    exact .inl ⟨_, rfl, rfl⟩

/-- An array with one item more is another one. -/
theorem state_ne_of_appendValue {pointer : String}
    (appended : (appendValue params pointer store).error? = none) :
    (appendValue params pointer store).store.state ≠ store.state := by
  obtain ⟨_, failed, -⟩ | ⟨items, value, found, -, written⟩ :=
    appendValue_cases params pointer store
  · rw [failed] at appended
    cases appended
  · intro same
    rw [same] at written
    have there : store.state.at? pointer = some (.array (items ++ [value])) :=
      Json.writeTokens_eq_self_iff.mp (Json.setAt_eq_ok_iff.mp written).2
    rw [Store.arrayAt, there] at found
    simp at found

/-- If a text cannot be emptied, this leaves the state as it is. -/
theorem exists_setAt_of_clearText {error : ActionError}
    (failed : (clearText params store).error? = some error) :
    (clearText params store).store = store ∧
      ∃ cleared reason, textParam? params "clearStatePath" = some cleared ∧
        store.state.setAt cleared (.string "") = .error reason ∧ error = .state reason := by
  unfold clearText at failed ⊢
  cases given : textParam? params "clearStatePath" with
  | none =>
    simp only [given] at failed
    cases failed
  | some cleared =>
    simp only [given] at failed ⊢
    obtain ⟨state, -, set⟩ | ⟨reason, written, set⟩ := store.set_cases cleared (.string "")
    · rw [set] at failed
      cases failed
    · rw [set] at failed ⊢
      cases failed
      exact ⟨rfl, cleared, reason, rfl, written, rfl⟩

/-- Any other action leaves the state alone if it fails. -/
theorem spares_run {action : Builtin} (other : action ≠ pushState) (params : Members)
    (store : Store) : (action.run params store).Spares store.state := by
  cases action with
  | setState => exact spares_runSetState params store
  | pushState => exact absurd rfl other
  | removeState => exact spares_runRemoveState params store
  | push => exact spares_runPush params store
  | pop => exact spares_runPop store

/-- `pushState` leaves the state alone if it fails before its value is appended. -/
theorem spares_runPushState (params : Members) (store : Store)
    (failed : ∀ pointer, textParam? params "statePath" = some pointer →
      (appendValue params pointer store).error? ≠ none) :
    (runPushState params store).Spares store.state := by
  cases given : textParam? params "statePath" with
  | none =>
    rw [runPushState_of_none given]
    exact Outcome.spares_done store _
  | some pointer =>
    obtain ⟨error, first, same⟩ | ⟨_, _, -, appended, -⟩ :=
      appendValue_cases params pointer store
    · rw [runPushState_eq given, Outcome.andThen_of_error first]
      exact fun _ => same
    · exact absurd appended (failed pointer given)

/-- **Which failures change the state.**  A built-in action that fails leaves the state exactly as
it was, unless it is `pushState` and has appended its value already.  Then the value stays, and
what failed is the write that was to clear a text behind it. -/
theorem failure_spares_iff {action : Builtin} {params : Members} {store : Store}
    {error : ActionError} (failed : (action.run params store).error? = some error) :
    ((action.run params store).store.state = store.state ↔
      ¬ ∃ pointer, action = pushState ∧ textParam? params "statePath" = some pointer ∧
        (appendValue params pointer store).error? = none) ∧
    ∀ pointer, action = pushState → textParam? params "statePath" = some pointer →
      (appendValue params pointer store).error? = none →
        (action.run params store).store.state = (appendValue params pointer store).store.state ∧
        ∃ cleared reason, textParam? params "clearStatePath" = some cleared ∧
          (appendValue params pointer store).store.state.setAt cleared (.string "") =
            .error reason ∧ error = .state reason := by
  have half {pointer : String} (same : action = pushState)
      (given : textParam? params "statePath" = some pointer)
      (appended : (appendValue params pointer store).error? = none) :
      (action.run params store).store = (appendValue params pointer store).store ∧
        ∃ cleared reason, textParam? params "clearStatePath" = some cleared ∧
          (appendValue params pointer store).store.state.setAt cleared (.string "") =
            .error reason ∧ error = .state reason := by
    subst same
    rw [run, runPushState_eq given] at failed ⊢
    obtain ⟨outcome, left⟩ := Outcome.andThen_of_none appended (clearText params)
    rw [outcome] at failed
    rw [left]
    obtain ⟨same, cleared⟩ := exists_setAt_of_clearText failed
    exact ⟨same, cleared⟩
  refine ⟨⟨?_, fun whole => ?_⟩, fun pointer same given appended => ?_⟩
  · rintro spared ⟨pointer, same, given, appended⟩
    rw [(half same given appended).1] at spared
    exact state_ne_of_appendValue appended spared
  · have failure : (action.run params store).error? ≠ none := by
      rw [failed]
      exact Option.some_ne_none error
    by_cases same : action = pushState
    · subst same
      refine spares_runPushState params store (fun pointer given appended => ?_) failure
      exact whole ⟨pointer, rfl, given, appended⟩
    · exact spares_run same params store failure
  · obtain ⟨left, cleared⟩ := half same given appended
    exact ⟨congrArg Store.state left, cleared⟩

/-- The text to clear is behind the end of an array, too far to be made. -/
theorem failure_spares_iff_far :
    let params : Members := [("statePath", .string "/todos"),
      ("clearStatePath", .string "/draft/1030"), ("value", .object [("id", .string "$id")])]
    let draft : String × Json := ("draft", .array [.string "milk"])
    let store : Store := { state := .object [draft], ids := { clock := fun _ => 9 } }
    let after := (pushState.run params store).store.state
    (pushState.run params store).error? = some (.state (.indexOutOfRange "/draft/1030" 1030)) ∧
      after ≠ store.state ∧
      after = .object [draft, ("todos", .array [.object [("id", .string "9-1")]])] ∧
      after.setAt "/draft/1030" (.string "") = .error (.indexOutOfRange "/draft/1030" 1030) := by
  intro params draft store after
  have failed : (pushState.run params store).error? =
      some (.state (.indexOutOfRange "/draft/1030" 1030)) := by decide +kernel
  have given : textParam? params "statePath" = some "/todos" := by decide +kernel
  have appended : (appendValue params "/todos" store).error? = none := by decide +kernel
  have grown : (appendValue params "/todos" store).store.state =
      .object [draft, ("todos", .array [.object [("id", .string "9-1")]])] := by decide +kernel
  obtain ⟨spared, half⟩ := failure_spares_iff failed
  obtain ⟨left, cleared, reason, named, written, same⟩ := half "/todos" rfl given appended
  cases same
  have here : cleared = "/draft/1030" := by
    have known : textParam? params "clearStatePath" = some "/draft/1030" := by decide +kernel
    exact Option.some.inj (named.symm.trans known)
  subst here
  refine ⟨failed, fun whole => spared.mp whole ⟨"/todos", rfl, given, appended⟩, ?_, ?_⟩
  · exact left.trans grown
  · rwa [← left] at written

/-- A value is appended, and the text behind it cannot be cleared, for an array has no such item.
The action fails, and the state holds the value. -/
theorem failure_changes_state :
    let params : Members := [("statePath", .string "/todos"), ("value", .ofNat 1),
      ("clearStatePath", .string "/draft/text")]
    let draft : String × Json := ("draft", .array [.string "milk"])
    let store : Store :=
      { state := .object [draft, ("todos", .array [])], ids := { clock := fun _ => 0 } }
    let outcome := pushState.run params store
    outcome.error? = some (.state (.invalidIndex "/draft/text" "text")) ∧
      outcome.store.state = .object [draft, ("todos", .array [.ofNat 1])] ∧
      outcome.store.state ≠ store.state := by
  decide +kernel

end Builtin

end UiStream

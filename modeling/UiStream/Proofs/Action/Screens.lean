import UiStream.Proofs.Action.Builtin
import UiStream.Proofs.Expression.Inert
import UiStream.Proofs.Pointer.Inverse

/-!
# Entering and leaving screens

A state is navigable if it is an object with an array for the screens below the current one, and its
current screen, if there is one, counts as true (`Members.Navigable`).  Entering a screen gives a
navigable state (`Members.navigable_entered`), and leaving it again gives back the state before, the
order of its members included (`Builtin.runPop_entered`).  The text that stands for no screen does
not count as true, so it is told apart from the screens that may be there.

`ScreenMove.entered?` says which screens some moves have entered and not left.  The state after
these moves is the one in which just these screens were entered, one inside the other
(`Members.Shows`): one move keeps it so (`ScreenMove.MadeBy.execute`), and thus a sequence does
(`ScreenMove.Performs.executeAll`).  Moves that leave all screens which they enter thus leave the
state as it was (`ScreenMove.balanced_moves`).
-/

namespace UiStream

/-! ## One screen -/

namespace Members

/-- A member that is there can be set before another one or after it. -/
theorem insert_comm {key other : String} {old : Json} {members : Members}
    (known : find? key members = some old) (differ : key ≠ other) (v w : Json) :
    insert key v (insert other w members) = insert other w (insert key v members) := by
  induction members with
  | nil => cases known
  | cons member rest ih =>
    obtain ⟨k, x⟩ := member
    rw [find?_cons] at known
    by_cases here : k = key
    · subst here
      simp [insert, differ]
    · rw [if_neg here] at known
      by_cases there : k = other
      · subst there
        simp [insert, here]
      · simp [insert, here, there, ih known]

/-- The screens below the current one. -/
def screens (members : Members) : List Json :=
  ((find? "navStack" members).bind Json.items?).getD []

/-- The members of a state in which screens can be entered and left. -/
structure Navigable (members : Members) : Prop where
  /-- There is an array for the screens below. -/
  stacked : ∃ below, find? "navStack" members = some (.array below)
  /-- The current screen counts as true. -/
  current : ∀ screen, find? "currentScreen" members = some screen → screen.truthy = true

/-- What goes on the array for the current screen; the empty text stands for none. -/
def covered (members : Members) : Json := (find? "currentScreen" members).getD (.string "")

/-- The members once a screen is entered. -/
def entered (members : Members) (screen : String) : Members :=
  insert "currentScreen" (.string screen)
    (insert "navStack" (.array (members.screens ++ [members.covered])) members)

variable {members : Members}

theorem Navigable.find?_screens (navigable : members.Navigable) :
    find? "navStack" members = some (.array members.screens) := by
  obtain ⟨below, found⟩ := navigable.stacked
  simp [screens, found, Json.items?]

theorem find?_current_entered (members : Members) (screen : String) :
    find? "currentScreen" (members.entered screen) = some (.string screen) :=
  find?_insert_self _ _ _

theorem find?_screens_entered (members : Members) (screen : String) :
    find? "navStack" (members.entered screen) =
      some (.array (members.screens ++ [members.covered])) := by
  simp [entered, find?_insert]

/-- Where a screen was entered, screens can be entered. -/
theorem navigable_entered {screen : String} (given : screen ≠ "") (members : Members) :
    (members.entered screen).Navigable where
  stacked := ⟨_, find?_screens_entered members screen⟩
  current := by
    intro current found
    rw [find?_current_entered] at found
    cases found
    simpa [Json.truthy] using given

/-- Taking the last screen off the array leaves the current one as the only change. -/
theorem Navigable.insert_screens_entered (navigable : members.Navigable) (screen : String) :
    insert "navStack" (.array members.screens) (members.entered screen) =
      insert "currentScreen" (.string screen) members := by
  have known : find? "navStack" (insert "navStack" (.array (members.screens ++ [members.covered]))
      members) = some (.array (members.screens ++ [members.covered])) := find?_insert_self _ _ _
  rw [entered, insert_comm known (by decide), insert_insert,
    insert_of_find? navigable.find?_screens]

end Members

/-! ## The two actions -/

namespace Builtin

variable {members params : Members} {store : Store} {screen : String}

theorem at?_screensBelow (members : Members) :
    (Json.object members).at? screensBelow = Members.find? "navStack" members := by
  rw [Json.at?, tokens_screensBelow, Json.get?]
  exact Option.bind_fun_some _

theorem at?_currentScreen (members : Members) :
    (Json.object members).at? currentScreen = Members.find? "currentScreen" members := by
  rw [Json.at?, tokens_currentScreen, Json.get?]
  exact Option.bind_fun_some _

/-- In a navigable state a screen is entered. -/
theorem runPush_navigable (object : store.state = .object members) (navigable : members.Navigable)
    (given : textParam? params "screen" = some screen) :
    runPush params store = Store.done { store with state := .object (members.entered screen) } := by
  have screens : store.arrayAt screensBelow push.name = .ok members.screens := by
    rw [Store.arrayAt, object, at?_screensBelow, navigable.find?_screens]
  have current : ((store.state.at? currentScreen).filter Json.truthy).getD (.string "") =
      members.covered := by
    rw [object, at?_currentScreen, Members.covered]
    cases found : Members.find? "currentScreen" members with
    | none => rfl
    | some current => simp [Option.filter, navigable.current current found]
  unfold runPush
  simp only [given, current, Store.withArray, screens]
  rw [Store.set_key tokens_screensBelow object, Outcome.done_andThen,
    Store.set_key tokens_currentScreen rfl]
  rfl

/-- Leaving a screen gives back the state in which it was entered. -/
theorem runPop_entered (object : store.state = .object (members.entered screen))
    (navigable : members.Navigable) :
    runPop store = Store.done { store with state := .object members } := by
  have screens :
      store.arrayAt screensBelow pop.name = .ok (members.screens ++ [members.covered]) := by
    rw [Store.arrayAt, object, at?_screensBelow, Members.find?_screens_entered]
  unfold runPop
  simp only [Store.withArray, screens, List.getLast?_concat, List.dropLast_concat]
  rw [Store.set_key tokens_screensBelow object, Outcome.done_andThen,
    navigable.insert_screens_entered]
  cases found : Members.find? "currentScreen" members with
  | some current =>
    have covered : members.covered = current := by rw [Members.covered, found]; rfl
    rw [covered, if_pos (navigable.current current found), Store.set_key tokens_currentScreen rfl,
      Members.insert_insert, Members.insert_of_find? found]
  | none =>
    have covered : members.covered = .string "" := by rw [Members.covered, found]; rfl
    rw [covered, if_neg (by decide), Store.remove, Json.removeAt?, tokens_currentScreen]
    simp only [Pointer.removeTokens?, Members.find?_insert_self, Option.map_some,
      Members.erase_insert found]

/-- A parameter that is a text with something in it has something in it. -/
theorem ne_of_textParam? {key text : String} (given : textParam? params key = some text) :
    text ≠ "" := by
  obtain ⟨-, filled⟩ := Option.filter_eq_some_iff.mp given
  simpa using filled

end Builtin

/-- A parameter without references in it is handed over as it is written. -/
theorem Members.find?_resolveProps (scope : Scope) {params : Members} {key : String} {v : Json}
    (given : Members.find? key params = some v) (inert : v.Inert) :
    Members.find? key (resolveProps scope params) = some v := by
  induction params with
  | nil => cases given
  | cons member rest ih =>
    obtain ⟨k, written⟩ := member
    rw [Members.find?_cons] at given
    by_cases here : k = key
    · rw [if_pos here] at given
      cases given
      simp [resolveProps, inert.resolve, here, Members.find?_cons]
    · rw [if_neg here] at given
      cases value : written.resolve scope with
      | none => simpa [resolveProps, value] using ih given
      | some w => simpa [resolveProps, value, Members.find?_cons, here] using ih given

/-! ## Sequences of moves -/

/-- Runs bindings one after the other, up to the first that fails. -/
def Host.executeAll (host : Host) : List Binding → Store → Outcome
  | [], store => store.done
  | binding :: rest, store => (store.execute host binding).andThen (host.executeAll rest)

/-- A screen is entered, or the current one is left. -/
inductive ScreenMove where
  | enter (screen : String)
  | leave
deriving DecidableEq, Repr

namespace ScreenMove

/-- Moves that leave the screens which they enter, the last one first, and no others. -/
inductive Balanced : List ScreenMove → Prop
  | nil : Balanced []
  | visit (screen : String) {inside later : List ScreenMove} :
      Balanced inside → Balanced later → Balanced (enter screen :: (inside ++ leave :: later))

/-- The screens that some moves leave entered, the innermost first, where those given were entered
before.  A screen that was not entered cannot be left. -/
def entered? : List ScreenMove → List String → Option (List String)
  | [], screens => some screens
  | enter screen :: moves, screens => entered? moves (screen :: screens)
  | leave :: moves, _ :: screens => entered? moves screens
  | leave :: _, [] => none

theorem entered?_append (moves later : List ScreenMove) (screens : List String) :
    entered? (moves ++ later) screens = (entered? moves screens).bind (entered? later) := by
  induction moves, screens using entered?.induct with
  | case1 => rfl
  | case2 screens screen moves ih => simpa [entered?] using ih
  | case3 moves _ screens ih => simpa [entered?] using ih
  | case4 => rfl

/-- Balanced moves leave as many screens as they enter. -/
theorem Balanced.entered? {moves : List ScreenMove} (balanced : Balanced moves)
    (screens : List String) : entered? moves screens = some screens := by
  induction balanced generalizing screens with
  | nil => rfl
  | visit screen _ _ inner outer =>
    rw [ScreenMove.entered?, entered?_append, inner, Option.bind_some, ScreenMove.entered?, outer]

/-- At any point of balanced moves they are balanced so far, or there is a screen that was entered
and not left yet, and since then they are balanced. -/
theorem Balanced.take_cases {moves : List ScreenMove} (balanced : Balanced moves) (n : Nat) :
    Balanced (moves.take n) ∨ ∃ before screen inside,
      moves.take n = before ++ enter screen :: inside ∧ Balanced inside := by
  induction balanced generalizing n with
  | nil =>
    rw [List.take_nil]
    exact .inl .nil
  | @visit screen inside later inner outer ihInner ihOuter =>
    obtain _ | n := n
    · exact .inl .nil
    · rw [List.take_succ_cons, List.take_append]
      by_cases within : n ≤ inside.length
      · rw [Nat.sub_eq_zero_of_le within, List.take_zero, List.append_nil]
        obtain whole | ⟨before, last, since, same, whole⟩ := ihInner n
        · exact .inr ⟨[], screen, inside.take n, rfl, whole⟩
        · exact .inr ⟨enter screen :: before, last, since, by rw [same]; rfl, whole⟩
      · obtain ⟨k, rfl⟩ : ∃ k, n = inside.length + (k + 1) := ⟨n - inside.length - 1, by omega⟩
        rw [List.take_of_length_le (Nat.le_add_right _ _), Nat.add_sub_cancel_left,
          List.take_succ_cons]
        obtain whole | ⟨before, last, since, same, whole⟩ := ihOuter k
        · exact .inl (.visit screen inner whole)
        · refine .inr ⟨enter screen :: (inside ++ leave :: before), last, since, ?_, whole⟩
          rw [same]
          simp

/-- A binding that makes a move in a state. -/
inductive MadeBy (state : Json) : ScreenMove → Binding → Prop
  | push {screen : String} {binding : Binding} (named : binding.action = Builtin.push.name)
      (given : Builtin.textParam? (binding.inState state).params "screen" = some screen) :
      MadeBy state (enter screen) binding
  | pop {binding : Binding} (named : binding.action = Builtin.pop.name) :
      MadeBy state leave binding

/-- A screen that a binding names by a plain text is entered in every state. -/
theorem madeBy_of_text {screen : String} {binding : Binding}
    (named : binding.action = Builtin.push.name)
    (given : Members.find? "screen" binding.params = some (.string screen)) (filled : screen ≠ "")
    (state : Json) : MadeBy state (enter screen) binding := by
  refine .push named ?_
  have resolved : Members.find? "screen" (binding.inState state).params = some (.string screen) :=
    Members.find?_resolveProps { state } given trivial
  rw [Builtin.textParam?, Members.text?, resolved]
  simp [Json.text?, filled]

/-- Bindings that make some moves, each in the state that those before it have left. -/
inductive Performs (host : Host) : Store → List ScreenMove → List Binding → Prop
  | nil {store : Store} : Performs host store [] []
  | cons {store : Store} {move : ScreenMove} {binding : Binding} {moves : List ScreenMove}
      {bindings : List Binding} (made : MadeBy store.state move binding)
      (later : Performs host (store.execute host binding).store moves bindings) :
      Performs host store (move :: moves) (binding :: bindings)

/-- The first bindings make the first moves. -/
theorem Performs.take {host : Host} {store : Store} {moves : List ScreenMove}
    {bindings : List Binding} (performs : Performs host store moves bindings) (n : Nat) :
    Performs host store (moves.take n) (bindings.take n) := by
  induction performs generalizing n with
  | nil =>
    rw [List.take_nil, List.take_nil]
    exact .nil
  | cons made _ ih =>
    obtain _ | n := n
    · exact .nil
    · exact .cons made (ih n)

end ScreenMove

/-! ## What moves make of the state -/

/-- The members once screens are entered, one inside the other, the innermost named first. -/
def Members.enteredAll (members : Members) : List String → Members
  | [] => members
  | screen :: outer => (members.enteredAll outer).entered screen

/-- The state is the one with some members in which some screens were entered. -/
structure Members.Shows (members : Members) (screens : List String) (state : Json) : Prop where
  /-- The members are those of the state in which the screens were entered. -/
  object : state = .object (members.enteredAll screens)
  /-- The screens have names. -/
  named : ∀ screen ∈ screens, screen ≠ ""

namespace Members

variable {members : Members} {screens : List String}

theorem Navigable.enteredAll (navigable : members.Navigable)
    (named : ∀ screen ∈ screens, screen ≠ "") : (members.enteredAll screens).Navigable := by
  cases screens with
  | nil => exact navigable
  | cons screen outer => exact navigable_entered (named screen List.mem_cons_self) _

/-- The innermost screen is the current one. -/
theorem Shows.at?_currentScreen {screen : String} {state : Json}
    (shows : members.Shows (screen :: screens) state) :
    state.at? Builtin.currentScreen = some (.string screen) := by
  rw [shows.object, Builtin.at?_currentScreen]
  exact find?_current_entered _ screen

end Members

namespace ScreenMove

variable {members : Members} {screens inner : List String} {host : Host} {store : Store}

/-- A move turns the state in which some screens were entered into that in which one more was, or
one less. -/
theorem MadeBy.execute {move : ScreenMove} {binding : Binding}
    (made : MadeBy store.state move binding) (navigable : members.Navigable)
    (shows : members.Shows screens store.state) (legal : entered? [move] screens = some inner) :
    ∃ state, store.execute host binding = Store.done { store with state } ∧
      members.Shows inner state := by
  cases made with
  | push named given =>
    cases legal
    refine ⟨_, ?_, rfl, List.forall_mem_cons.mpr ⟨Builtin.ne_of_textParam? given, shows.named⟩⟩
    rw [Builtin.execute_of_name named]
    exact Builtin.runPush_navigable shows.object (navigable.enteredAll shows.named) given
  | pop named =>
    cases screens with
    | nil => cases legal
    | cons screen outer =>
      cases legal
      obtain ⟨-, named'⟩ := List.forall_mem_cons.mp shows.named
      refine ⟨_, ?_, rfl, named'⟩
      rw [Builtin.execute_of_name named]
      exact Builtin.runPop_entered shows.object (navigable.enteredAll named')

/-- Bindings that make some moves turn the state into that in which the screens were entered that
the moves leave entered. -/
theorem Performs.executeAll {moves : List ScreenMove} {bindings : List Binding}
    (performs : Performs host store moves bindings) (navigable : members.Navigable)
    (shows : members.Shows screens store.state) (legal : entered? moves screens = some inner) :
    ∃ state, host.executeAll bindings store = Store.done { store with state } ∧
      members.Shows inner state := by
  induction performs generalizing screens with
  | nil =>
    cases legal
    exact ⟨_, rfl, shows⟩
  | @cons store move binding moves bindings made _ ih =>
    rw [show move :: moves = [move] ++ moves from rfl, entered?_append,
      Option.bind_eq_some_iff] at legal
    obtain ⟨between, first, legal⟩ := legal
    obtain ⟨state, executed, shows⟩ := made.execute navigable shows first
    rw [executed] at ih
    rw [Host.executeAll, executed, Outcome.done_andThen]
    exact ih shows legal

/-- **Screens are a stack.**  In a state that is an object with an array for the screens below, and
whose current screen counts as true if there is one, moves that leave all screens which they enter
succeed and leave everything as it was.  So do their first moves if these leave all screens too, and
else the current screen is the last one that was entered and not left. -/
theorem balanced_moves {members : Members} {store : Store} {host : Host}
    {moves : List ScreenMove} {bindings : List Binding} (object : store.state = .object members)
    (navigable : members.Navigable) (balanced : Balanced moves)
    (performs : Performs host store moves bindings) :
    host.executeAll bindings store = store.done ∧ ∀ n,
      (host.executeAll (bindings.take n) store).error? = none ∧
      (Balanced (moves.take n) ∧ host.executeAll (bindings.take n) store = store.done ∨
        ∃ before screen inside, moves.take n = before ++ enter screen :: inside ∧ Balanced inside ∧
          (host.executeAll (bindings.take n) store).store.state.at? Builtin.currentScreen =
            some (.string screen)) := by
  have shows : members.Shows [] store.state := ⟨object, fun _ none => nomatch none⟩
  have restored {moves : List ScreenMove} {bindings : List Binding} (balanced : Balanced moves)
      (performs : Performs host store moves bindings) :
      host.executeAll bindings store = store.done := by
    obtain ⟨state, executed, back⟩ := performs.executeAll navigable shows (balanced.entered? [])
    rw [executed, back.object, Members.enteredAll, ← object]
  refine ⟨restored balanced performs, fun n => ?_⟩
  obtain whole | ⟨before, screen, inside, same, whole⟩ := balanced.take_cases n
  · have executed := restored whole (performs.take n)
    rw [executed]
    exact ⟨rfl, .inl ⟨whole, rfl⟩⟩
  · -- What was entered before the screen is known, for the moves go on to leave it all.
    obtain ⟨outer, so, -⟩ : ∃ outer, entered? before [] = some outer ∧
        (entered? (enter screen :: inside ++ moves.drop n) outer) = some [] := by
      have split := balanced.entered? []
      rw [← List.take_append_drop n moves, same, List.append_assoc, entered?_append,
        Option.bind_eq_some_iff] at split
      exact split
    have legal : entered? (moves.take n) [] = some (screen :: outer) := by
      rw [same, entered?_append, so, Option.bind_some, entered?, whole.entered?]
    obtain ⟨state, executed, current⟩ := (performs.take n).executeAll navigable shows legal
    rw [executed]
    exact ⟨rfl, .inr ⟨before, screen, inside, same, whole, current.at?_currentScreen⟩⟩

/-- One screen is named by the state, there is no current screen at first, and what is on the array
stays below. -/
theorem balanced_moves_nested :
    let members : Members := [("next", .string "about"), ("navStack", .array [.bool false, .null]),
      ("draft", .string "milk")]
    let store : Store := { state := .object members, ids := { clock := fun _ => 0 } }
    let push (screen : Json) : Binding := { action := "push", params := [("screen", screen)] }
    let about : Json := .object [("$state", .string "/next")]
    let bindings : List Binding := [push (.string "settings"), push about, { action := "pop" },
      { action := "pop" }, push (.string "list"), { action := "pop" }]
    let moves := [enter "settings", enter "about", leave, leave, enter "list", leave]
    let host : Host := {}
    Balanced moves ∧ members.Navigable ∧ Performs host store moves bindings ∧
      host.executeAll bindings store = store.done ∧
      (host.executeAll (bindings.take 2) store).error? = none ∧
      (host.executeAll (bindings.take 2) store).store.state.at? Builtin.currentScreen =
        some (.string "about") := by
  intro members store push about bindings moves host
  have balanced : Balanced moves :=
    .visit "settings" (.visit "about" .nil .nil) (.visit "list" .nil .nil)
  have navigable : members.Navigable := ⟨⟨_, rfl⟩, fun _ found => nomatch found⟩
  have performs : Performs host store moves bindings :=
    .cons (madeBy_of_text rfl rfl (by decide) _) <| .cons (.push rfl (by decide +kernel)) <|
      .cons (.pop rfl) <| .cons (.pop rfl) <| .cons (madeBy_of_text rfl rfl (by decide) _) <|
      .cons (.pop rfl) .nil
  obtain ⟨restored, points⟩ := balanced_moves rfl navigable balanced performs
  refine ⟨balanced, navigable, performs, restored, (points 2).1, ?_⟩
  decide +kernel

end ScreenMove

end UiStream

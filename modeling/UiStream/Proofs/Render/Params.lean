import UiStream.Action.Interpolate
import UiStream.Proofs.Expression.Inert
import UiStream.Proofs.Render.Scopes
import Mathlib.Data.List.Basic

/-!
# Parameters are resolved twice

The parameters of a binding are resolved when the tree is drawn, in the scope of its element, and
again when the binding runs, in the state.  The second time they are values already, and what in
them came from the state is read as an expression if it looks like one
(`Spec.event_params_not_final`).

`Spec.event_params_final_iff` says when the second time changes nothing: if each parameter resolves
to itself.  That is so in every state if and only if the parameters are inert, and they are inert if
the state is and the specification writes its parameters sealed.
-/

namespace UiStream

/-! ## Scopes of an inert state -/

/-- Every scope of a call holds inert values only, if the state is inert. -/
theorem Spec.Called.inert {spec : Spec} {state : Json} {path : List String} {visit : Visit}
    (called : spec.Called state path visit) (inert : state.Inert) : visit.scope.Inert := by
  induction called with
  | first => exact ⟨inert, fun _ active => nomatch active⟩
  | @child path visit inner element called drawn own ih =>
    rcases Element.scope_of_mem_visits own with same | ⟨repetition, itemKey, -, opened⟩
    · exact same ▸ ih
    · rw [called.state_eq] at opened
      obtain ⟨items, index, item, found, listed, -, scope⟩ := Repetition.mem_scopes_iff.mp opened
      rw [scope]
      refine ⟨inert, fun repeated active => ?_⟩
      cases active
      have array : (Json.array items).Inert := inert.at? found
      exact (Json.inertItems_iff items).mp array item (List.mem_of_getElem? listed)

/-! ## Bindings -/

/-- The parameters of the binding are written sealed. -/
def Binding.Sealed (binding : Binding) : Prop :=
  ∀ param ∈ binding.params, (Expression.ofJson param.2).Sealed

/-- The specification writes the parameters of all bindings sealed. -/
def Spec.Sealed (spec : Spec) : Prop :=
  ∀ entry ∈ spec.elements, ∀ event ∈ entry.2.events?.getD [], ∀ binding ∈ event.2.toList,
    binding.Sealed

/-- A binding runs with the parameters that it has if each of them resolves to itself. -/
theorem Binding.params_inState_eq_iff {binding : Binding} {state : Json} :
    (binding.inState state).params = binding.params ↔
      ∀ param ∈ binding.params, param.2.resolve { state } = some param.2 := by
  rw [inState, resolveProps]
  conv_lhs => rhs; rw [← List.map_id binding.params]
  rw [List.filterMap_eq_map_iff_forall_eq_some]
  refine forall₂_congr fun param _ => ?_
  obtain ⟨key, v⟩ := param
  constructor
  · intro same
    obtain ⟨value, resolved, same⟩ := Option.map_eq_some_iff.mp same
    cases same
    exact resolved
  · intro same
    exact Option.map_eq_some_iff.mpr ⟨v, same, rfl⟩

/-- A binding runs with the parameters that it has, whatever the state is, if they are inert, and
only then. -/
theorem Binding.forall_params_inState_eq_iff {binding : Binding} :
    (∀ state, (binding.inState state).params = binding.params) ↔
      ∀ param ∈ binding.params, param.2.Inert := by
  simp only [params_inState_eq_iff]
  constructor
  · exact fun same param listed => Json.inert_iff_resolve_bare.mpr (same .null param listed)
  · exact fun inert state param listed => (inert param listed).resolve _

/-- The parameters of a sealed binding are inert where the scope holds inert values only. -/
theorem Binding.Sealed.inert {binding : Binding} {scope : Scope} (written : binding.Sealed)
    (clean : scope.Inert) : ∀ param ∈ (binding.inScope scope).params, param.2.Inert := by
  intro param listed
  obtain ⟨⟨key, v⟩, own, defined⟩ := List.mem_filterMap.mp listed
  obtain ⟨value, resolved, rfl⟩ := Option.map_eq_some_iff.mp defined
  exact Json.inert_of_resolveParam clean (written _ own) resolved

namespace Spec

/-- A binding of a node is a binding of an element, with its parameters resolved in the scope of a
call. -/
theorem exists_binding_of_mem_render {spec : Spec} {state : Json} {tree node : RenderNode}
    (drawn : spec.render state = some tree) (inside : node ∈ tree.nodes) {event : String}
    {bindings : List Binding} (listed : (event, bindings) ∈ node.events) {binding : Binding}
    (own : binding ∈ bindings) :
    ∃ path visit, spec.Called state path visit ∧ ∃ entry ∈ spec.elements,
      ∃ written ∈ entry.2.events?.getD [], ∃ raw ∈ written.2.toList,
        binding = raw.inScope visit.scope := by
  obtain ⟨path, visit, element, children, called, draws, rfl⟩ :=
    exists_called_of_mem_render drawn inside
  obtain ⟨⟨_, written⟩, there, same⟩ := List.mem_map.mp listed
  cases same
  obtain ⟨raw, mine, rfl⟩ := List.mem_map.mp own
  exact ⟨path, visit, called, (visit.key, element), mem_of_lookup draws.found,
    _, there, raw, mine, rfl⟩

/-- **When the parameters of a drawn binding are final.**  A binding of a drawn tree runs in the
state that it was drawn in with the parameters that it has if and only if each of them resolves to
itself.  It does so in every state if and only if they are inert.  That they are, if the state is
inert and the specification writes its parameters sealed. -/
theorem event_params_final_iff {spec : Spec} {state : Json} {tree node : RenderNode}
    {event : String} {bindings : List Binding} {binding : Binding}
    (drawn : spec.render state = some tree) (inside : node ∈ tree.nodes)
    (listed : (event, bindings) ∈ node.events) (own : binding ∈ bindings) :
    ((binding.inState state).params = binding.params ↔
      ∀ param ∈ binding.params, param.2.resolve { state } = some param.2) ∧
    ((∀ later, (binding.inState later).params = binding.params) ↔
      ∀ param ∈ binding.params, param.2.Inert) ∧
    (state.Inert → spec.Sealed → ∀ later, (binding.inState later).params = binding.params) := by
  refine ⟨Binding.params_inState_eq_iff, Binding.forall_params_inState_eq_iff, ?_⟩
  intro inert written
  obtain ⟨path, visit, called, entry, there, event, on, raw, mine, rfl⟩ :=
    exists_binding_of_mem_render drawn inside listed own
  exact Binding.forall_params_inState_eq_iff.mpr
    ((written entry there event on raw mine).inert (called.inert inert))

/-- The rows of a table call an action with a place in the state, and with an object that holds a
value and a position.  One key is that of a choice, in the state and in the parameters. -/
theorem event_params_final_iff_rows :
    let row : Element := {
      events? := some [("press", .one {
        action := "open"
        params := [("place", .object [("$item", .string "id")]),
          ("row", .object [("id", .object [("$bindItem", .string "id")]),
            ("$then", .object [("$index", .bool true)])])] })] }
    let spec : Spec := {
      root := "table"
      elements := [
        ("table", { children? := some ["row"], repetition? := some { statePath := "/rows" } }),
        ("row", row)] }
    let state : Json := .object [("rows", .array [.object [("id", .ofNat 7), ("$then", .null)]])]
    let binding : Binding := {
      action := "open"
      params := [("place", .string "/rows/0/id"),
        ("row", .object [("id", .ofNat 7), ("$then", .ofNat 0)])] }
    (spec.render state).map (fun tree => tree.nodes.map (·.eventBindings "press")) =
        some [[], [binding]] ∧
      state.Inert ∧ spec.Sealed ∧ ∀ later, (binding.inState later).params = binding.params := by
  intro row spec state binding
  have inert : state.Inert := by decide
  have written : spec.Sealed := by
    simp only [Spec.Sealed, Binding.Sealed, spec, row, List.forall_mem_cons, Option.getD_none,
      Option.getD_some, Bindings.toList, List.not_mem_nil, false_implies, implies_true, and_true,
      true_and]
    exact ⟨trivial, ⟨by decide, by decide⟩, trivial, trivial, trivial⟩
  have drawn : ∃ tree, spec.render state = some tree ∧ ∃ node ∈ tree.nodes,
      ("press", [binding]) ∈ node.events :=
    ⟨_, rfl, _, RenderNode.mem_nodes_of_mem_children (RenderNode.mem_nodes_self _)
      List.mem_cons_self, List.mem_cons_self⟩
  obtain ⟨tree, drawn, node, inside, listed⟩ := drawn
  obtain ⟨-, -, final⟩ := event_params_final_iff drawn inside listed List.mem_cons_self
  exact ⟨by decide, inert, written, final inert written⟩

/-- A draft in the state looks like a reference to a secret in the state.  The parameter that is
drawn is the draft, and the action runs with the secret. -/
theorem event_params_not_final :
    let spec : Spec := {
      root := "button"
      elements := [("button", { events? := some [("press", .one {
        action := "send"
        params := [("text", .object [("$state", .string "/draft")])] })] })] }
    let draft : Json := .object [("$state", .string "/secret")]
    let state : Json := .object [("draft", draft), ("secret", .string "key")]
    ∃ tree, spec.render state = some tree ∧ ∃ node ∈ tree.nodes, ∃ bindings,
      ("press", bindings) ∈ node.events ∧ ∃ binding ∈ bindings,
        binding.params = [("text", draft)] ∧
        (binding.inState state).params = [("text", .string "key")] := by
  intro spec draft state
  refine ⟨_, rfl, _, RenderNode.mem_nodes_self _, _, List.mem_cons_self, _, List.mem_cons_self, ?_⟩
  decide

end Spec

end UiStream

import UiStream.Proofs.Render.Walk
import UiStream.Proofs.Pointer.Written

/-!
# The scopes of items

Drawing a repeated element opens one scope for each item.  Which scopes that are is said by the
calls that are made (`Spec.Called`): the first, and those for the children of an element that a
call draws.  The nodes of a tree come from these calls (`Spec.exists_called_of_mem_render`), and
what a call draws is a node of the tree (`Spec.Called.exists_node`).  So the scopes that nodes are
drawn in are that of the whole state and those that are opened for a repetition
(`Spec.Called.scope_cases`), and all of them see the state that the tree is drawn in
(`Spec.Called.state_eq`).

A scope tells its item in two ways: the item itself, and a pointer to it in the state, which is put
together as a text.  `RepeatScope.ItemOf` says what there is to know about such a scope.  Reading at
the pointer gives the item (`ItemOf.at?_base`), so reading at a pointer behind it is reading in the
item (`ItemOf.at?_pointer`), and a value that is set at such a pointer is found in the item at the
same position afterwards (`ItemOf.setAt_pointer`).

`RepeatScope.Coherent` says what follows for properties and parameters, and
`Spec.item_scopes_coherent` that it holds in every tree.
-/

namespace UiStream

open Pointer (indexLimit join tokens)

/-! ## The calls of a tree -/

/-- The calls that are made to draw a tree, each with the keys that it is made below. -/
inductive Spec.Called (spec : Spec) (state : Json) : List String → Visit → Prop
  | first : Called spec state [] (spec.firstVisit state)
  | child {path : List String} {visit inner : Visit} {element : Element}
      (called : Called spec state path visit) (drawn : spec.Draws onPath path visit element)
      (own : inner ∈ element.visits visit.scope) : Called spec state (visit.key :: path) inner

/-- A call for a child is made in the scope of the element, or in that of one of its items. -/
theorem Element.scope_of_mem_visits {element : Element} {scope : Scope} {visit : Visit}
    (own : visit ∈ element.visits scope) :
    visit.scope = scope ∨ ∃ repetition itemKey, element.repetition? = some repetition ∧
      (itemKey, visit.scope) ∈ repetition.scopes scope.state := by
  unfold visits at own
  split at own
  · obtain ⟨child, -, rfl⟩ := List.mem_map.mp own
    exact .inl rfl
  · next repetition repeated =>
    obtain ⟨⟨itemKey, inner⟩, opened, own⟩ := List.mem_flatMap.mp own
    obtain ⟨child, -, rfl⟩ := List.mem_map.mp own
    exact .inr ⟨repetition, itemKey, repeated, opened⟩

/-- The scopes of a repetition are those of the items of the array that it names. -/
theorem Repetition.mem_scopes_iff {repetition : Repetition} {state : Json} {itemKey : String}
    {scope : Scope} : (itemKey, scope) ∈ repetition.scopes state ↔
      ∃ items index item, state.at? repetition.statePath = some (.array items) ∧
        items[index]? = some item ∧ itemKey = repetition.itemKey index item ∧
        scope = repetition.itemScope state index item := by
  unfold scopes
  split
  · next items found =>
    simp only [List.mem_map, Prod.exists, List.mk_mem_zipIdx_iff_getElem?, Prod.mk.injEq]
    constructor
    · rintro ⟨item, index, listed, rfl, rfl⟩
      exact ⟨items, index, item, found, listed, rfl, rfl⟩
    · rintro ⟨_, index, item, again, listed, rfl, rfl⟩
      cases found.symm.trans again
      exact ⟨item, index, listed, rfl, rfl⟩
  · next other =>
    constructor
    · exact (nomatch ·)
    · rintro ⟨items, -, -, found, -⟩
      exact absurd found (other items)

namespace Spec

variable {spec : Spec} {state : Json} {path after : List String} {visit : Visit}

/-- All calls see the state that the tree is drawn in. -/
theorem Called.state_eq (called : spec.Called state path visit) : visit.scope.state = state := by
  induction called with
  | first => rfl
  | child _ _ own ih =>
    rcases Element.scope_of_mem_visits own with same | ⟨repetition, itemKey, -, opened⟩
    · rw [same, ih]
    · obtain ⟨_, _, _, -, -, -, scope⟩ := Repetition.mem_scopes_iff.mp opened
      rw [scope, ← ih]
      rfl

/-- The nodes of the trees that a guarded walk draws come from calls, if those of the walk do. -/
theorem Walks.exists_called {visits : List Visit} {nodes : List RenderNode}
    (walk : spec.Walks onPath path visits nodes after)
    (called : ∀ visit ∈ visits, spec.Called state path visit) {node : RenderNode}
    (inside : node ∈ RenderNode.nodesOf nodes) :
    ∃ path visit element children, spec.Called state path visit ∧
      spec.Draws onPath path visit element ∧ node = element.node visit children := by
  induction walk with
  | done => cases inside
  | skip _ _ ih => exact ih (fun other later => called other (List.mem_cons_of_mem _ later)) inside
  | @draw path inner after visit visits element children nodes drawn below rest ihbelow ihrest =>
    have here := called visit List.mem_cons_self
    rw [RenderNode.nodesOf, List.mem_append] at inside
    rcases inside with inside | inside
    · rcases RenderNode.mem_nodes_iff.mp inside with rfl | inside
      · exact ⟨path, visit, element, children, here, drawn, rfl⟩
      · refine ihbelow (fun child own => .child here drawn own) ?_
        exact RenderNode.mem_nodesOf_iff.mpr inside
    · refine ihrest (fun other later => ?_) inside
      rw [below.tail_restored]
      exact called other (List.mem_cons_of_mem _ later)

/-- Every node of a tree comes from a call. -/
theorem exists_called_of_mem_render {tree node : RenderNode} (drawn : spec.render state = some tree)
    (inside : node ∈ tree.nodes) :
    ∃ path visit element children, spec.Called state path visit ∧
      spec.Draws onPath path visit element ∧ node = element.node visit children := by
  have walk := walks_render spec state
  rw [drawn] at walk
  refine walk.exists_called (fun visit only => ?_) (List.mem_append_left _ inside)
  cases List.mem_singleton.mp only
  exact .first

/-- A walk draws what each of its calls draws, with the walk that it makes for the children. -/
theorem Walks.exists_node {visits : List Visit} {nodes : List RenderNode} {element : Element}
    (walk : spec.Walks onPath path visits nodes after) (listed : visit ∈ visits)
    (drawn : spec.Draws onPath path visit element) :
    ∃ children inner, element.node visit children ∈ nodes ∧
      spec.Walks onPath (visit.key :: path) (element.visits visit.scope) children inner := by
  induction walk with
  | done => cases listed
  | skip passed _ ih =>
    rcases List.mem_cons.mp listed with rfl | later
    · exact absurd drawn (passed element)
    · exact ih later drawn
  | draw draws below _ _ ihrest =>
    rcases List.mem_cons.mp listed with rfl | later
    · cases draws.found.symm.trans drawn.found
      exact ⟨_, _, List.mem_cons_self, below⟩
    · rw [below.tail_restored] at ihrest
      obtain ⟨children, inner, mem, walk⟩ := ihrest later drawn
      exact ⟨children, inner, List.mem_cons_of_mem _ mem, walk⟩

/-- A call is made by a walk whose nodes are in the tree. -/
theorem Called.exists_walks (called : spec.Called state path visit) :
    ∃ visits nodes after, spec.Walks onPath path visits nodes after ∧ visit ∈ visits ∧
      RenderNode.nodesOf nodes ⊆ RenderNode.nodesOf (spec.render state).toList := by
  induction called with
  | first => exact ⟨_, _, _, walks_render spec state, List.mem_cons_self, List.Subset.refl _⟩
  | @child path visit inner element called drawn own ih =>
    obtain ⟨visits, nodes, after, walk, listed, among⟩ := ih
    obtain ⟨children, below, mem, walk⟩ := walk.exists_node listed drawn
    refine ⟨_, children, below, walk, own, fun node inside => among ?_⟩
    obtain ⟨child, own, inside⟩ := RenderNode.mem_nodesOf_iff.mp inside
    refine RenderNode.mem_nodesOf_iff.mpr ⟨_, mem, ?_⟩
    exact RenderNode.mem_nodes_iff.mpr (.inr ⟨child, own, inside⟩)

/-- What a call draws is a node of the tree. -/
theorem Called.exists_node {element : Element} (called : spec.Called state path visit)
    (drawn : spec.Draws onPath path visit element) :
    ∃ tree children, spec.render state = some tree ∧ element.node visit children ∈ tree.nodes := by
  obtain ⟨visits, nodes, after, walk, listed, among⟩ := called.exists_walks
  obtain ⟨children, -, mem, -⟩ := walk.exists_node listed drawn
  have inside := among (RenderNode.mem_nodesOf_iff.mpr ⟨_, mem, RenderNode.mem_nodes_self _⟩)
  obtain ⟨tree, whole, inside⟩ := RenderNode.mem_nodesOf_iff.mp inside
  exact ⟨tree, children, Option.mem_toList.mp whole, inside⟩

/-- Drawing the tree opens a scope for a repetition. -/
def Opens (spec : Spec) (state : Json) (repetition : Repetition) (scope : Scope) : Prop :=
  ∃ path visit element itemKey, spec.Called state path visit ∧
    spec.Draws onPath path visit element ∧ element.repetition? = some repetition ∧
    (itemKey, scope) ∈ repetition.scopes visit.scope.state

/-- A call is made in the scope of the whole state, or in one that was opened for a repetition. -/
theorem Called.scope_cases (called : spec.Called state path visit) :
    visit.scope = { state } ∨ ∃ repetition, spec.Opens state repetition visit.scope := by
  induction called with
  | first => exact .inl rfl
  | child called drawn own ih =>
    rcases Element.scope_of_mem_visits own with same | ⟨repetition, itemKey, repeated, opened⟩
    · rw [same]
      exact ih
    · exact .inr ⟨repetition, _, _, _, itemKey, called, drawn, repeated, opened⟩

end Spec

/-! ## Items -/

namespace RepeatScope

/-- The scope is that of an item of the array at a pointer: it tells the item, its position, and the
pointer with the position behind it. -/
structure ItemOf (repeated : RepeatScope) (state : Json) (statePath : String)
    (items : List Json) : Prop where
  found : state.at? statePath = some (.array items)
  listed : items[repeated.index]? = some repeated.item
  based : repeated.basePath = statePath ++ "/" ++ toString repeated.index

section

variable {repeated : RepeatScope} {state : Json} {statePath path : String} {items : List Json}

/-- The pointer to an item is the position behind the pointer to the array. -/
theorem ItemOf.basePath_eq_join (own : repeated.ItemOf state statePath items) :
    repeated.basePath = join statePath (toString repeated.index) := by
  have digits : Pointer.dropSlash (toString repeated.index).toList =
      (toString repeated.index).toList := by
    unfold Pointer.dropSlash
    split
    · next rest text =>
      exact absurd (Pointer.isDigit_of_mem_position (text ▸ List.mem_cons_self)) (by decide)
    · rfl
  apply String.toList_injective
  rw [own.based, join, if_neg (Pointer.position_ne_empty _), String.toList_ofList, digits,
    String.toList_append, String.toList_append, List.append_assoc]
  rfl

/-- The pointer to an item is not the single slash. -/
theorem ItemOf.basePath_ne (own : repeated.ItemOf state statePath items) :
    repeated.basePath ≠ "/" := by
  intro slash
  have length := congrArg String.length (own.based.symm.trans slash)
  have digits : 0 < (toString repeated.index).length :=
    Nat.pos_of_ne_zero (mt String.length_eq_zero_iff.mp (Pointer.position_ne_empty _))
  rw [String.length_append, String.length_append] at length
  have one : "/".length = 1 := rfl
  omega

/-- The tokens of the pointer to a place in an item. -/
theorem ItemOf.tokens_pointer (own : repeated.ItemOf state statePath items)
    (whole : statePath ≠ "/") (proper : path ≠ "/") :
    tokens (join repeated.basePath path) =
      tokens statePath ++ toString repeated.index :: tokens path := by
  have position : toString repeated.index ≠ "/" := Pointer.position_ne _ (by decide)
  rw [Pointer.tokens_join own.basePath_ne proper, own.basePath_eq_join,
    Pointer.tokens_join whole position, Pointer.tokens_position, List.append_assoc]
  rfl

/-- The position of an item is a token that leads to it. -/
theorem ItemOf.child?_position (own : repeated.ItemOf state statePath items)
    (counted : repeated.index < indexLimit) :
    (Json.array items).child? (toString repeated.index) = some repeated.item := by
  rw [Json.child?, Pointer.index?_position counted]
  exact own.listed

/-- The pointer to an item leads to it. -/
theorem ItemOf.at?_base (own : repeated.ItemOf state statePath items)
    (whole : statePath ≠ "/") (counted : repeated.index < indexLimit) :
    state.at? repeated.basePath = some repeated.item := by
  have position : toString repeated.index ≠ "/" := Pointer.position_ne _ (by decide)
  rw [own.basePath_eq_join, Json.at?_join whole position, own.found, Option.bind_some, Json.at?,
    Pointer.tokens_position, Json.get?, own.child?_position counted]
  rfl

/-- Reading at the pointer to a place in an item is reading in the item. -/
theorem ItemOf.at?_pointer (own : repeated.ItemOf state statePath items)
    (whole : statePath ≠ "/") (counted : repeated.index < indexLimit) (proper : path ≠ "/") :
    state.at? (join repeated.basePath path) = repeated.item.at? path := by
  rw [Json.at?_join own.basePath_ne proper, own.at?_base whole counted, Option.bind_some]

/-- A value that is set at the pointer to a place in an item is found there, in the item at the same
position. -/
theorem ItemOf.setAt_pointer (own : repeated.ItemOf state statePath items)
    (whole : statePath ≠ "/") (counted : repeated.index < indexLimit) (proper : path ≠ "/")
    (fixed : Pointer.append ∉ tokens path) {value after : Json}
    (set : state.setAt (join repeated.basePath path) value = .ok after) :
    ∃ written, after.at? statePath = some (.array written) ∧
      (written[repeated.index]?).bind (·.at? path) = some value := by
  have found : state.get? (tokens statePath) = some (.array items) := own.found
  have child := own.child?_position counted
  have passable := Pointer.passable_of_child? child
  have under : (Json.array items).under (toString repeated.index) = repeated.item := by
    rw [Json.under, child]
    rfl
  have index : toString repeated.index ≠ Pointer.append := Pointer.position_ne _ (by decide)
  obtain ⟨writable, rfl⟩ := Json.setAt_eq_ok_iff.mp set
  rw [own.tokens_pointer whole proper] at writable ⊢
  rw [Pointer.checkWritable_append found, passable.checkWritable index, under] at writable
  have there : (Pointer.writeTokens Pointer.setItem value
      (tokens statePath ++ toString repeated.index :: tokens path) state).get? (tokens statePath) =
        some _ := Json.get?_writeTokens_append (List.cons_ne_nil _ _) found
  rw [Pointer.writeTokens_setItem_cons, under] at there
  -- the array with the item that has been written to
  refine ⟨_, there, ?_⟩
  have item := passable.child?_put (Pointer.writeTokens Pointer.setItem value (tokens path)
    repeated.item)
  rw [Pointer.put, Pointer.vivify, Json.child?, Pointer.index?_position counted,
    Option.bind_some] at item
  rw [item, Option.bind_some, Json.at?]
  exact Json.get?_writeTokens fixed writable value

/-- The two ways to an item agree: reading at the pointer of the scope gives the item that the scope
tells, which is one of the array.  At each path into the item a reference and a bound reference have
the same value.  The pointer that the bound reference writes to is the parameter that the reference
is, and it leads to that value.  A value that is set there is what the item at the same position of
the array has at the path afterwards, if no token of the path asks for a place behind the end of an
array. -/
structure Coherent (repeated : RepeatScope) (state : Json) (statePath : String) : Prop where
  item : ∃ items, state.at? statePath = some (.array items) ∧
    items[repeated.index]? = some repeated.item
  base : state.at? repeated.basePath = some repeated.item
  paths : ∀ path, path ≠ "/" →
    let scope : Scope := { state, repeated? := some repeated }
    let reference : Json := .object [("$item", .string path)]
    let bound : Json := .object [("$bindItem", .string path)]
    bound.resolve scope = reference.resolve scope ∧
    ∃ pointer, (Expression.ofJson bound).bindingPointer? scope = some pointer ∧
      reference.resolveParam scope = some (.string pointer) ∧
      state.at? pointer = reference.resolve scope ∧
      (Pointer.append ∉ tokens path → ∀ value after, state.setAt pointer value = .ok after →
        ∃ written, after.at? statePath = some (.array written) ∧
          (written[repeated.index]?).bind (·.at? path) = some value)

/-- The scope of an item is coherent. -/
theorem ItemOf.coherent (own : repeated.ItemOf state statePath items) (whole : statePath ≠ "/")
    (counted : repeated.index < indexLimit) : repeated.Coherent state statePath where
  item := ⟨items, own.found, own.listed⟩
  base := own.at?_base whole counted
  paths := by
    intro path proper scope reference bound
    have value : reference.resolve scope = repeated.item.at? path := rfl
    have read := own.at?_pointer whole counted proper
    refine ⟨?_, join repeated.basePath path, rfl, rfl, ?_, fun fixed value after set => ?_⟩
    · rw [value, ← read]
      rfl
    · rw [value, read]
    · exact own.setAt_pointer whole counted proper fixed set

end

end RepeatScope

namespace Spec

/-- A scope that is opened for a repetition is that of an item of the array that it names. -/
theorem Opens.exists_itemOf {spec : Spec} {state : Json} {repetition : Repetition} {scope : Scope}
    (opened : spec.Opens state repetition scope) :
    ∃ repeated items, scope = { state, repeated? := some repeated } ∧
      repeated.ItemOf state repetition.statePath items := by
  obtain ⟨path, visit, element, itemKey, called, -, -, opened⟩ := opened
  rw [called.state_eq] at opened
  obtain ⟨items, index, item, found, listed, -, rfl⟩ := Repetition.mem_scopes_iff.mp opened
  exact ⟨_, items, rfl, found, listed, rfl⟩

/-- **The two ways to an item agree.**  Each node of a tree is drawn in the scope of the whole state
or in one that is opened for a repetition, and each call that draws an element has its node in the
tree.  In every scope that is opened for a repetition the two ways to the item agree.

Positions are numbers of 64 bits, as indices in pointers are. -/
theorem item_scopes_coherent (spec : Spec) (state : Json) :
    (∀ tree, spec.render state = some tree → ∀ node ∈ tree.nodes,
      ∃ path visit element children, spec.Called state path visit ∧
        spec.Draws onPath path visit element ∧ node = element.node visit children ∧
        (visit.scope = { state } ∨ ∃ repetition, spec.Opens state repetition visit.scope)) ∧
    (∀ path visit element, spec.Called state path visit → spec.Draws onPath path visit element →
      ∃ tree children, spec.render state = some tree ∧
        element.node visit children ∈ tree.nodes) ∧
    ∀ repetition scope, spec.Opens state repetition scope → repetition.statePath ≠ "/" →
      ∃ repeated : RepeatScope, scope = { state, repeated? := some repeated } ∧
        (repeated.index < indexLimit → repeated.Coherent state repetition.statePath) := by
  refine ⟨fun tree drawn node inside => ?_, fun _ _ _ called drawn => called.exists_node drawn, ?_⟩
  · obtain ⟨path, visit, element, children, called, draws, made⟩ :=
      exists_called_of_mem_render drawn inside
    exact ⟨path, visit, element, children, called, draws, made, called.scope_cases⟩
  · intro repetition scope opened whole
    obtain ⟨repeated, items, same, own⟩ := opened.exists_itemOf
    exact ⟨repeated, same, own.coherent whole⟩

/-- A list below the page, for an array whose key has a slash.  A row shows what its item has at a
path that begins with an empty token, and hands the place to an action. -/
theorem item_scopes_coherent_escaped :
    let repetition : Repetition := { statePath := "/a~1b" }
    let row : Element := {
      props := [("value", .object [("$bindItem", .string "//x/0")])]
      events? := some [("press", .one {
        action := "edit", params := [("place", .object [("$item", .string "//x/0")])] })] }
    let spec : Spec := {
      root := "page"
      elements := [("page", { children? := some ["list"] }),
        ("list", { children? := some ["row"], repetition? := some repetition }), ("row", row)] }
    let item : Json := .object [("", .object [("x", .array [.bool true])])]
    let state : Json := .object [("a/b", .array [.null, item])]
    let scope : Scope := { state, repeated? := some ⟨item, 1, "/a~1b/1"⟩ }
    let changed : Json := .object [("", .object [("x", .array [.string "new"])])]
    let after : Json := .object [("a/b", .array [.null, changed])]
    (∃ tree, spec.render state = some tree ∧ ∃ node ∈ tree.nodes,
      node.props = [("value", .bool true)] ∧ node.bindings = [("value", "/a~1b/1//x/0")] ∧
      node.eventBindings "press" =
        [{ action := "edit", params := [("place", .string "/a~1b/1//x/0")] }] ∧
      ∃ (visit : Visit) (element : Element) (children : List RenderNode),
        node = element.node visit children ∧
        ∃ repetition, spec.Opens state repetition visit.scope) ∧
      spec.Opens state repetition scope ∧
      state.setAt "/a~1b/1//x/0" (.string "new") = .ok after ∧
      ∃ written, after.at? "/a~1b" = some (.array written) ∧
        (written[1]?).bind (·.at? "//x/0") = some (.string "new") := by
  intro repetition row spec item state scope changed after
  obtain ⟨scopes, nodes, coherent⟩ := item_scopes_coherent spec state
  have first : spec.Draws onPath [] (spec.firstVisit state) { children? := some ["list"] } :=
    ⟨rfl, List.not_mem_nil, rfl⟩
  have list : spec.Draws onPath ["page"] ⟨{ state }, none, "list"⟩
      { children? := some ["row"], repetition? := some repetition } :=
    ⟨rfl, by simp [onPath], rfl⟩
  have below : spec.Called state ["page"] ⟨{ state }, none, "list"⟩ :=
    .child .first first List.mem_cons_self
  have second : ("1", scope) ∈ repetition.scopes state :=
    Repetition.mem_scopes_iff.mpr ⟨[.null, item], 1, item, by decide, rfl, rfl, rfl⟩
  have called : spec.Called state ["list", "page"] ⟨scope, some "1", "row"⟩ :=
    .child below list (List.mem_flatMap.mpr ⟨_, second, List.mem_cons_self⟩)
  have opened : spec.Opens state repetition scope :=
    ⟨_, _, _, "1", below, list, rfl, second⟩
  obtain ⟨tree, children, drawn, inside⟩ := nodes _ _ row called ⟨rfl, by simp [onPath], rfl⟩
  have set : state.setAt "/a~1b/1//x/0" (.string "new") = .ok after := by rfl
  obtain ⟨repeated, same, ways⟩ := coherent repetition scope opened (by decide)
  obtain rfl : ⟨item, 1, "/a~1b/1"⟩ = repeated :=
    Option.some.inj (congrArg Scope.repeated? same)
  obtain ⟨-, pointer, binds, -, -, written⟩ := (ways (by decide)).paths "//x/0" (by decide)
  obtain rfl : "/a~1b/1//x/0" = pointer :=
    (by decide : "/a~1b/1//x/0" = join "/a~1b/1" "//x/0").trans (Option.some.inj binds)
  have shown : (row.node ⟨scope, some "1", "row"⟩ children).props = [("value", .bool true)] := by
    rw [Element.node, RenderNode.props]
    decide
  have bound : (row.node ⟨scope, some "1", "row"⟩ children).bindings =
      [("value", "/a~1b/1//x/0")] := by
    rw [Element.node, RenderNode.bindings]
    decide
  have handed : (row.node ⟨scope, some "1", "row"⟩ children).eventBindings "press" =
      [{ action := "edit", params := [("place", .string "/a~1b/1//x/0")] }] := by
    rw [Element.node, RenderNode.eventBindings, RenderNode.events]
    decide
  refine ⟨⟨tree, drawn, _, inside, shown, bound, handed, ?_⟩, opened, set,
    written (by decide) (.string "new") after set⟩
  obtain ⟨_, visit, element, children, -, draws, made, alone | repeats⟩ :=
    scopes tree drawn _ inside
  · -- In the scope of the whole state the row would show nothing.
    have key : "row" = visit.key := congrArg RenderNode.key made
    obtain rfl : row = element := Option.some.inj ((key ▸ draws.found : spec.element? "row" = _))
    have props : [("value", .bool true)] = resolveProps visit.scope row.props :=
      shown.symm.trans (congrArg RenderNode.props made)
    rw [alone] at props
    exact absurd props (by decide)
  · exact ⟨visit, element, children, made, repeats⟩

end Spec

end UiStream

import UiStream.Proofs.Validation.Problems
import UiStream.Render.Tree
import Mathlib.Data.List.Perm.Subperm

/-!
# What is drawn and what can be reached

The elements in a render tree are elements that can be reached from the root
(`Spec.reachable_of_mem_render`).  If no element is hidden or repeated, all that can be reached are
in the tree (`Spec.exists_mem_render`), although the tree leaves out every element below itself: an
element that can be reached has a way from the root that repeats no element (`Outline.Way`), and on
that way nothing is left out.

So no element that is drawn is reported as an orphan, and in such a specification all others are
(`Spec.render_agrees_with_orphans`).
-/

namespace UiStream

/-! ## The nodes of a tree -/

namespace RenderNode

/-- A property of all trees holds if it holds of nodes whose children have it. -/
theorem induct {motive : RenderNode → Prop}
    (node : ∀ key type props bindings events repeatKey? children,
      (∀ child ∈ children, motive child) →
        motive (.mk key type props bindings events repeatKey? children))
    (tree : RenderNode) : motive tree :=
  @RenderNode.rec motive (fun trees => ∀ tree ∈ trees, motive tree) node
    (fun _ h => nomatch h)
    (fun _ _ head tail tree h => (List.mem_cons.mp h).elim (fun h => h ▸ head) (tail tree)) tree

theorem mem_nodesOf_iff {node : RenderNode} {trees : List RenderNode} :
    node ∈ nodesOf trees ↔ ∃ tree ∈ trees, node ∈ tree.nodes := by
  induction trees with
  | nil => simp [nodesOf]
  | cons tree rest ih => simp [nodesOf, ih]

/-- The nodes of a tree are its own and those of its children. -/
theorem mem_nodes_iff {node tree : RenderNode} :
    node ∈ tree.nodes ↔ node = tree ∨ ∃ child ∈ tree.children, node ∈ child.nodes := by
  cases tree
  rw [nodes, List.mem_cons, mem_nodesOf_iff]
  rfl

theorem mem_nodes_self (tree : RenderNode) : tree ∈ tree.nodes := mem_nodes_iff.mpr (.inl rfl)

/-- The children of a node in a tree are in the tree. -/
theorem mem_nodes_of_mem_children {tree node child : RenderNode} (inside : node ∈ tree.nodes)
    (below : child ∈ node.children) : child ∈ tree.nodes := by
  induction tree using induct with
  | node key type props bindings events repeatKey? children ih =>
    rw [mem_nodes_iff] at inside ⊢
    obtain rfl | ⟨tree, own, inside⟩ := inside
    · exact .inr ⟨child, below, child.mem_nodes_self⟩
    · exact .inr ⟨tree, own, ih tree own inside⟩

end RenderNode

/-! ## One step of drawing -/

/-- The nodes for the children of an element are drawn from its children. -/
theorem Element.exists_of_mem_renderChildren {element : Element} {scope : Scope}
    {draw : Scope → Option String → String → Option RenderNode} {node : RenderNode}
    (drawn : node ∈ element.renderChildren scope draw) :
    ∃ inner repeatKey? child, child ∈ element.children ∧
      draw inner repeatKey? child = some node := by
  unfold renderChildren at drawn
  split at drawn
  · obtain ⟨child, listed, drawn⟩ := List.mem_filterMap.mp drawn
    exact ⟨_, _, child, listed, drawn⟩
  · obtain ⟨_, -, drawn⟩ := List.mem_flatMap.mp drawn
    obtain ⟨child, listed, drawn⟩ := List.mem_filterMap.mp drawn
    exact ⟨_, _, child, listed, drawn⟩

namespace Spec

variable {spec : Spec} {depth : Nat} {path : List String} {scope : Scope}
  {repeatKey? : Option String} {key : String} {element : Element}

/-- An element is drawn if there is one to draw, it is not on the path and it is visible. -/
theorem nodeIn_succ_eq_some_iff {node : RenderNode} :
    spec.nodeIn (depth + 1) path scope repeatKey? key = some node ↔
      ∃ element, spec.element? key = some element ∧ key ∉ path ∧
        visible scope element.visible? = true ∧
        node = .mk key element.type (resolveProps scope element.props)
          (boundProps scope element.props) (element.eventsInScope scope) repeatKey?
          (element.renderChildren scope (spec.nodeIn depth (key :: path))) := by
  rw [nodeIn]
  constructor
  · intro drawn
    cases found : spec.element? key with
    | none => rw [found] at drawn; cases drawn
    | some element =>
      simp only [found] at drawn
      split at drawn
      · cases drawn
      · next drawable =>
        obtain ⟨off, seen⟩ : key ∉ path ∧ visible scope element.visible? = true := by
          simpa using drawable
        exact ⟨element, rfl, off, seen, (Option.some.inj drawn).symm⟩
  · rintro ⟨element, found, off, seen, rfl⟩
    simp [found, off, seen]

/-- What is drawn for a key has that key, and stands for an element. -/
theorem isSome_element?_of_nodeIn {node : RenderNode}
    (drawn : spec.nodeIn depth path scope repeatKey? key = some node) :
    (spec.element? key).isSome := by
  cases depth with
  | zero => cases drawn
  | succ depth =>
    obtain ⟨element, found, -⟩ := nodeIn_succ_eq_some_iff.mp drawn
    rw [found]
    rfl

/-! ## What is drawn can be reached -/

/-- Below an element that can be reached, only such elements are drawn. -/
theorem reachable_of_nodeIn {tree : RenderNode} (reached : spec.outline.Reachable key)
    (drawn : spec.nodeIn depth path scope repeatKey? key = some tree) :
    ∀ node ∈ tree.nodes, spec.outline.Reachable node.key := by
  induction depth generalizing path scope repeatKey? key tree with
  | zero => cases drawn
  | succ depth ih =>
    obtain ⟨element, found, -, -, rfl⟩ := nodeIn_succ_eq_some_iff.mp drawn
    intro node inside
    obtain rfl | ⟨below, own, inside⟩ := RenderNode.mem_nodes_iff.mp inside
    · exact reached
    · obtain ⟨_, _, child, listed, drawn⟩ := Element.exists_of_mem_renderChildren own
      have there := isSome_element?_iff.mp (isSome_element?_of_nodeIn drawn)
      exact ih (.child reached (childrenOf_outline found ▸ listed) there) drawn node inside

/-- The elements in a render tree can be reached from the root. -/
theorem reachable_of_mem_render {state : Json} {tree : RenderNode}
    (drawn : spec.render state = some tree) {node : RenderNode} (inside : node ∈ tree.nodes) :
    spec.outline.Reachable node.key :=
  reachable_of_nodeIn (.start (isSome_element?_iff.mp (isSome_element?_of_nodeIn drawn))
    (List.mem_singleton_self _)) drawn node inside

end Spec

/-! ## Ways that repeat no element -/

namespace Outline

variable {outline : Outline} {key : String} {above : List String}

/-- A chain of existing elements leads from the root to the key, over those `above` it, and none of
them comes twice.  The nearest is first. -/
inductive Way (outline : Outline) : String → List String → Prop
  | root (there : outline.root ∈ outline.keys) : Way outline outline.root []
  | child {key child : String} {above : List String} (way : Way outline key above)
      (listed : child ∈ outline.childrenOf key) (there : child ∈ outline.keys)
      (fresh : child ∉ key :: above) : Way outline child (key :: above)

/-- A way has a way to each element on it. -/
theorem Way.cut (way : outline.Way key above) {other : String} (on : other ∈ key :: above) :
    ∃ above, outline.Way other above := by
  induction way with
  | root there =>
    cases List.mem_singleton.mp on
    exact ⟨[], .root there⟩
  | child way listed there fresh ih =>
    rcases List.mem_cons.mp on with rfl | on
    · exact ⟨_, .child way listed there fresh⟩
    · exact ih on

/-- There is a way to everything that can be reached: a chain that comes back to an element is cut
there. -/
theorem Reachable.exists_way (reached : outline.Reachable key) :
    ∃ above, outline.Way key above := by
  induction reached with
  | start there first =>
    cases List.mem_singleton.mp first
    exact ⟨[], .root there⟩
  | @child key child _ listed there ih =>
    obtain ⟨above, way⟩ := ih
    by_cases fresh : child ∈ key :: above
    · exact way.cut fresh
    · exact ⟨key :: above, .child way listed there fresh⟩

/-- A way is not longer than there are elements. -/
theorem Way.length_lt (way : outline.Way key above) : above.length < outline.keys.length := by
  have simple : (key :: above).Nodup ∧ ∀ k ∈ key :: above, k ∈ outline.keys := by
    induction way with
    | root there => simpa using there
    | child _ _ there fresh ih =>
      exact ⟨List.nodup_cons.mpr ⟨fresh, ih.1⟩, List.forall_mem_cons.mpr ⟨there, ih.2⟩⟩
  have shorter := (List.subperm_of_subset simple.1 simple.2).length_le
  exact shorter

end Outline

/-! ## What can be reached is drawn -/

namespace Spec

variable {spec : Spec} {state : Json}

/-- No element is hidden or repeated. -/
def Plain (spec : Spec) : Prop :=
  ∀ key element, spec.element? key = some element →
    element.visible? = none ∧ element.repetition? = none

/-- An element that is not hidden is drawn unless it is below itself. -/
theorem exists_nodeIn (plain : spec.Plain) {key : String} (there : key ∈ spec.outline.keys)
    {path : List String} (off : key ∉ path) (depth : Nat) (scope : Scope)
    (repeatKey? : Option String) :
    ∃ node, spec.nodeIn (depth + 1) path scope repeatKey? key = some node := by
  obtain ⟨element, found⟩ := Option.isSome_iff_exists.mp (isSome_element?_iff.mpr there)
  have seen : visible scope element.visible? = true := by rw [(plain key element found).1]; rfl
  exact ⟨_, nodeIn_succ_eq_some_iff.mpr ⟨element, found, off, seen, rfl⟩⟩

/-- The children of an element that is not repeated are drawn in the same scope. -/
theorem children_of_nodeIn (plain : spec.Plain) {depth : Nat} {path : List String} {scope : Scope}
    {repeatKey? : Option String} {key : String} {node : RenderNode}
    (drawn : spec.nodeIn (depth + 1) path scope repeatKey? key = some node) :
    node.children =
      (spec.outline.childrenOf key).filterMap (spec.nodeIn depth (key :: path) scope none) := by
  obtain ⟨element, found, -, -, rfl⟩ := nodeIn_succ_eq_some_iff.mp drawn
  rw [RenderNode.children, Element.renderChildren, (plain key element found).2,
    childrenOf_outline found]

theorem key_of_nodeIn {depth : Nat} {path : List String} {scope : Scope}
    {repeatKey? : Option String} {key : String} {node : RenderNode}
    (drawn : spec.nodeIn depth path scope repeatKey? key = some node) : node.key = key := by
  cases depth with
  | zero => cases drawn
  | succ depth =>
    obtain ⟨_, -, -, -, rfl⟩ := nodeIn_succ_eq_some_iff.mp drawn
    rfl

/-- On a way that repeats no element each element is drawn below the one before. -/
theorem exists_mem_render_of_way (plain : spec.Plain) (state : Json) {key : String}
    {above : List String} (way : spec.outline.Way key above) :
    ∃ tree, spec.render state = some tree ∧ ∃ node ∈ tree.nodes,
      ∃ depth, depth + above.length = spec.elements.length ∧
        spec.nodeIn depth above { state } none key = some node := by
  have size : spec.outline.keys.length = spec.elements.length := by
    rw [keys_outline, List.length_map]
  induction way with
  | root there =>
    obtain ⟨depth, deep⟩ : ∃ depth, spec.elements.length = depth + 1 :=
      Nat.exists_eq_succ_of_ne_zero (size ▸ Nat.ne_of_gt (Outline.Way.root there).length_lt)
    obtain ⟨tree, drawn⟩ := exists_nodeIn plain there List.not_mem_nil depth { state } none
    have drawn : spec.render state = some tree := by rw [render, deep]; exact drawn
    exact ⟨tree, drawn, tree, tree.mem_nodes_self, _, rfl, drawn⟩
  | @child key child above way listed there fresh ih =>
    obtain ⟨tree, drawn, node, inside, depth, deep, here⟩ := ih
    -- the way is short enough for the child and what is below it
    obtain ⟨depth, rfl⟩ : ∃ below, depth = below + 1 + 1 := by
      have short := (Outline.Way.child way listed there fresh).length_lt
      rw [size, ← deep, List.length_cons] at short
      exact ⟨depth - 2, by omega⟩
    obtain ⟨next, below⟩ := exists_nodeIn plain there fresh depth { state } none
    have own : next ∈ node.children := by
      rw [children_of_nodeIn plain here]
      exact List.mem_filterMap.mpr ⟨child, listed, below⟩
    have inside := RenderNode.mem_nodes_of_mem_children inside own
    have deep : depth + 1 + (key :: above).length = spec.elements.length := by
      rw [List.length_cons, ← deep]
      omega
    exact ⟨tree, drawn, next, inside, depth + 1, deep, below⟩

/-- Without hidden and repeated elements, all that can be reached is drawn. -/
theorem exists_mem_render (plain : spec.Plain) (state : Json) {key : String}
    (reached : spec.outline.Reachable key) :
    ∃ tree, spec.render state = some tree ∧ ∃ node ∈ tree.nodes, node.key = key := by
  obtain ⟨above, way⟩ := reached.exists_way
  obtain ⟨tree, drawn, node, inside, _, -, here⟩ := exists_mem_render_of_way plain state way
  exact ⟨tree, drawn, node, inside, key_of_nodeIn here⟩

/-- **What is drawn is what is not reported as an orphan.**  The elements in a render tree can be
reached from the root by references to children that exist, and are not reported.  If no element is
hidden or repeated, every element that is not reported is in the tree, also if elements are below
themselves. -/
theorem render_agrees_with_orphans (spec : Spec) (root : spec.root ≠ "") (state : Json) :
    (∀ tree, spec.render state = some tree → ∀ node ∈ tree.nodes,
      spec.outline.Reachable node.key ∧ ∀ other, .orphan node.key other ∉ spec.problems true) ∧
    ((∀ key element, spec.element? key = some element →
        element.visible? = none ∧ element.repetition? = none) →
      ∀ key, (spec.element? key).isSome → .orphan key spec.root ∉ spec.problems true →
        ∃ tree, spec.render state = some tree ∧ ∃ node ∈ tree.nodes, node.key = key) := by
  have orphan {key other : String} (there : key ∈ spec.outline.keys) :
      .orphan key other ∈ spec.problems true ↔ other = spec.root ∧ ¬ spec.outline.Reachable key :=
    Outline.orphan_mem_problems_iff root there
  constructor
  · intro tree drawn node inside
    have reached := reachable_of_mem_render drawn inside
    exact ⟨reached, fun other reported => ((orphan reached.mem).mp reported).2 reached⟩
  · intro plain key there listed
    have there := isSome_element?_iff.mp there
    refine exists_mem_render plain state (Classical.byContradiction fun apart => ?_)
    exact listed ((orphan there).mpr ⟨rfl, apart⟩)

/-- Two elements below each other, a child that does not exist, and an element apart. -/
theorem render_agrees_with_orphans_cyclic :
    let spec : Spec := {
      root := "a"
      elements := [("a", { children? := some ["b"] }), ("b", { children? := some ["a", "gone"] }),
        ("c", {})] }
    spec.root ≠ "" ∧ .orphan "b" spec.root ∉ spec.problems true ∧
      ∃ tree, spec.render .null = some tree ∧ (∃ node ∈ tree.nodes, node.key = "b") ∧
        ∀ node ∈ tree.nodes, ∀ other, .orphan node.key other ∉ spec.problems true := by
  intro spec
  have root : spec.root ≠ "" := by decide
  have reached : spec.outline.Reachable "b" :=
    .child (.start (by decide) (List.mem_singleton_self _)) (by decide) (by decide)
  have listed : .orphan "b" spec.root ∉ spec.problems true := fun reported =>
    ((Outline.orphan_mem_problems_iff root (by decide)).mp reported).2 reached
  have plain (key : String) (element : Element) (found : spec.element? key = some element) :
      element.visible? = none ∧ element.repetition? = none := by
    have mem : (key, element) ∈ spec.elements := mem_of_lookup found
    simp only [spec, List.mem_cons, Prod.mk.injEq, List.not_mem_nil, or_false] at mem
    obtain ⟨-, rfl⟩ | ⟨-, rfl⟩ | ⟨-, rfl⟩ := mem <;> exact ⟨rfl, rfl⟩
  obtain ⟨fair, drawn⟩ := render_agrees_with_orphans spec root .null
  obtain ⟨tree, shown, inside⟩ := drawn plain "b" rfl listed
  exact ⟨root, listed, tree, shown, inside, fun node below => (fair tree shown node below).2⟩

end Spec

end UiStream

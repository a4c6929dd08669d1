import UiStream.Proofs.Render.Reachable
import Mathlib.Logic.Relation

/-!
# The walk that draws a tree

`Spec.render` counts down how deep it may still go.  `Spec.Walks` says what it does without that
number: a walk makes its calls one after the other and shares one path between them.  A call puts
its key on the path, makes the calls for the children, and takes the last key off again.  A guard
tells which calls are passed over because of what is on the path.

A walk leaves the path as it was (`Walks.restored`) and ends in one way at most
(`Walks.deterministic`).  Guarded by its path it always ends, with what `Spec.render` draws
(`Spec.walks_nodeIn`): each call that goes deeper puts a new element on the path.  For the same
reason no key comes twice on a way down the tree (`Walks.nodup`).  If no element that can be reached
is below itself, the guard never finds the key that it is asked about, and a walk without the guard
draws the same tree (`Walks.unguarded`).

`Spec.render_cycle_safe` puts these together.
-/

namespace UiStream

/-! ## Calls -/

/-- A call that draws an element: the scope, the item that it is drawn for, and its key. -/
structure Visit where
  scope : Scope
  repeatKey? : Option String := none
  key : String

namespace Element

/-- The calls for the children of an element, in order. -/
def visits (element : Element) (scope : Scope) : List Visit :=
  match element.repetition? with
  | none => element.children.map fun child => ⟨scope, none, child⟩
  | some repetition =>
    (repetition.scopes scope.state).flatMap fun (itemKey, inner) =>
      element.children.map fun child => ⟨inner, some itemKey, child⟩

/-- The node of an element with the nodes of its children. -/
def node (element : Element) (visit : Visit) (children : List RenderNode) : RenderNode :=
  .mk visit.key element.type (resolveProps visit.scope element.props)
    (boundProps visit.scope element.props) (element.eventsInScope visit.scope) visit.repeatKey?
    children

/-- Drawing the children of an element is making the calls for them. -/
theorem renderChildren_eq (element : Element) (scope : Scope)
    (draw : Scope → Option String → String → Option RenderNode) :
    element.renderChildren scope draw =
      (element.visits scope).filterMap fun visit =>
        draw visit.scope visit.repeatKey? visit.key := by
  unfold renderChildren visits
  cases element.repetition? with
  | none => rw [List.filterMap_map]; rfl
  | some repetition =>
    rw [List.filterMap_flatMap]
    simp only [List.filterMap_map]
    rfl

/-- The calls for the children are for children. -/
theorem mem_children_of_mem_visits {element : Element} {scope : Scope} {visit : Visit}
    (listed : visit ∈ element.visits scope) : visit.key ∈ element.children := by
  unfold visits at listed
  split at listed
  · obtain ⟨child, own, rfl⟩ := List.mem_map.mp listed
    exact own
  · obtain ⟨_, -, listed⟩ := List.mem_flatMap.mp listed
    obtain ⟨child, own, rfl⟩ := List.mem_map.mp listed
    exact own

end Element

/-! ## Walks -/

/-- The guard against cycles: it passes over the keys on the path. -/
def onPath (path : List String) (key : String) : Prop := key ∈ path

/-- No guard: it passes over no key. -/
def nowhere (_ : List String) (_ : String) : Prop := False

/-- A call draws an element: there is one under its key, the guard lets it pass, and it is
visible. -/
structure Spec.Draws (spec : Spec) (guard : List String → String → Prop) (path : List String)
    (visit : Visit) (element : Element) : Prop where
  found : spec.element? visit.key = some element
  free : ¬ guard path visit.key
  seen : visible visit.scope element.visible? = true

/-- A walk that begins with a path, makes calls in order, and ends with the nodes that they have
drawn and a path.  The key that was put on the path last is first. -/
inductive Spec.Walks (spec : Spec) (guard : List String → String → Prop) :
    List String → List Visit → List RenderNode → List String → Prop
  | done {path : List String} : Walks spec guard path [] [] path
  | skip {path after : List String} {visit : Visit} {visits : List Visit}
      {nodes : List RenderNode} (passed : ∀ element, ¬ spec.Draws guard path visit element)
      (rest : Walks spec guard path visits nodes after) :
      Walks spec guard path (visit :: visits) nodes after
  | draw {path inner after : List String} {visit : Visit} {visits : List Visit}
      {element : Element} {children nodes : List RenderNode}
      (drawn : spec.Draws guard path visit element)
      (below : Walks spec guard (visit.key :: path) (element.visits visit.scope) children inner)
      (rest : Walks spec guard inner.tail visits nodes after) :
      Walks spec guard path (visit :: visits) (element.node visit children :: nodes) after

namespace Spec

section

variable {spec : Spec} {guard : List String → String → Prop} {path after : List String}
  {visit : Visit} {element : Element} {visits : List Visit} {nodes : List RenderNode}

theorem Draws.there (drawn : spec.Draws guard path visit element) :
    visit.key ∈ spec.outline.keys :=
  isSome_element?_iff.mp (Option.isSome_of_eq_some drawn.found)

/-- A walk leaves the path as it was. -/
theorem Walks.restored (walk : spec.Walks guard path visits nodes after) : after = path := by
  induction walk with
  | done => rfl
  | skip _ _ ih => exact ih
  | draw _ _ _ ihbelow ihrest => rw [ihrest, ihbelow, List.tail_cons]

/-- After the calls for the children the key of the element is taken off again. -/
theorem Walks.tail_restored {key : String} {inner : List String}
    (below : spec.Walks guard (key :: path) visits nodes inner) : inner.tail = path := by
  rw [below.restored, List.tail_cons]

/-- A walk ends in one way at most. -/
theorem Walks.deterministic (walk : spec.Walks guard path visits nodes after)
    {other : List RenderNode} {left : List String}
    (again : spec.Walks guard path visits other left) : nodes = other ∧ after = left := by
  induction walk generalizing other left with
  | done => cases again; exact ⟨rfl, rfl⟩
  | skip passed _ ih =>
    cases again with
    | skip _ rest => exact ih rest
    | draw drawn _ _ => exact absurd drawn (passed _)
  | draw drawn _ _ ihbelow ihrest =>
    cases again with
    | skip passed _ => exact absurd drawn (passed _)
    | draw drawn' below rest =>
      cases drawn.found.symm.trans drawn'.found
      obtain ⟨rfl, rfl⟩ := ihbelow below
      obtain ⟨rfl, rfl⟩ := ihrest rest
      exact ⟨rfl, rfl⟩

/-- A walk is the only one of its calls. -/
theorem Walks.iff (walk : spec.Walks guard path visits nodes after) (other : List RenderNode)
    (left : List String) :
    spec.Walks guard path visits other left ↔ other = nodes ∧ left = after := by
  constructor
  · intro again
    obtain ⟨rfl, rfl⟩ := walk.deterministic again
    exact ⟨rfl, rfl⟩
  · rintro ⟨rfl, rfl⟩
    exact walk

/-! ## A guarded walk ends -/

/-- The keys of the elements that are not on a path. -/
def fresh (spec : Spec) (path : List String) : List String :=
  spec.outline.keys.filter fun key => key ∉ path

theorem mem_fresh_iff {key : String} :
    key ∈ spec.fresh path ↔ key ∈ spec.outline.keys ∧ key ∉ path := by
  simp [fresh]

theorem length_fresh_le (spec : Spec) (path : List String) :
    (spec.fresh path).length ≤ spec.elements.length := by
  have all := List.length_filter_le (fun key => decide (key ∉ path)) spec.outline.keys
  rwa [keys_outline, List.length_map, ← keys_outline] at all

/-- An element that is put on the path was one more. -/
theorem length_fresh_lt {key : String} (there : key ∈ spec.outline.keys) (off : key ∉ path) :
    (spec.fresh (key :: path)).length < (spec.fresh path).length := by
  have split : spec.fresh (key :: path) = (spec.fresh path).filter (· ≠ key) := by
    rw [fresh, fresh, List.filter_filter]
    refine List.filter_congr fun other _ => ?_
    simp
  rw [split]
  exact List.length_filter_lt_length_iff_exists.mpr
    ⟨key, mem_fresh_iff.mpr ⟨there, off⟩, by simp⟩

/-- A node stands for an element that a guarded call draws. -/
theorem nodeIn_eq_some_iff {depth : Nat} {node : RenderNode} :
    spec.nodeIn (depth + 1) path visit.scope visit.repeatKey? visit.key = some node ↔
      ∃ element, spec.Draws onPath path visit element ∧
        node = element.node visit ((element.visits visit.scope).filterMap fun inner =>
          spec.nodeIn depth (visit.key :: path) inner.scope inner.repeatKey? inner.key) := by
  simp only [nodeIn_succ_eq_some_iff, Element.renderChildren_eq]
  constructor
  · rintro ⟨element, found, off, seen, rfl⟩
    exact ⟨element, ⟨found, off, seen⟩, rfl⟩
  · rintro ⟨element, ⟨found, off, seen⟩, rfl⟩
    exact ⟨element, found, off, seen, rfl⟩

/-- What can be drawn within a depth that no path exceeds is what a guarded walk draws. -/
theorem walks_nodeIn {depth : Nat} (enough : (spec.fresh path).length ≤ depth)
    (visits : List Visit) :
    spec.Walks onPath path visits
      (visits.filterMap fun visit => spec.nodeIn depth path visit.scope visit.repeatKey? visit.key)
      path := by
  induction depth generalizing path visits with
  | zero =>
    -- all elements are on the path
    have none (visit : Visit) (element : Element) : ¬ spec.Draws onPath path visit element := by
      intro drawn
      have one := List.length_pos_of_mem (mem_fresh_iff.mpr ⟨drawn.there, drawn.free⟩)
      omega
    induction visits with
    | nil => exact .done
    | cons visit visits ih => exact .skip (none visit) ih
  | succ depth below =>
    induction visits with
    | nil => exact .done
    | cons visit visits ih =>
      rw [List.filterMap_cons]
      cases drawn : spec.nodeIn (depth + 1) path visit.scope visit.repeatKey? visit.key with
      | none =>
        refine .skip (fun element draws => ?_) ih
        have drawable := drawn.symm.trans (nodeIn_eq_some_iff.mpr ⟨element, draws, rfl⟩)
        cases drawable
      | some node =>
        obtain ⟨element, draws, rfl⟩ := nodeIn_eq_some_iff.mp drawn
        have less := length_fresh_lt draws.there draws.free
        exact .draw draws (below (by omega) (element.visits visit.scope)) ih

/-- Guarded walks end. -/
theorem exists_walks (spec : Spec) (path : List String) (visits : List Visit) :
    ∃ nodes, spec.Walks onPath path visits nodes path :=
  ⟨_, walks_nodeIn (Nat.le_refl _) visits⟩

/-- The call that draws a tree. -/
def firstVisit (spec : Spec) (state : Json) : Visit := { scope := { state }, key := spec.root }

/-- What is drawn is what the guarded walk from the root draws. -/
theorem walks_render (spec : Spec) (state : Json) :
    spec.Walks onPath [] [spec.firstVisit state] (spec.render state).toList [] := by
  have walk := walks_nodeIn (spec.length_fresh_le []) [spec.firstVisit state]
  rw [List.filterMap_cons, List.filterMap_nil] at walk
  dsimp only [firstVisit] at walk ⊢
  rw [render]
  cases drawn : spec.nodeIn spec.elements.length [] { state } none spec.root <;>
    simp only [drawn] at walk <;> exact walk

end

end Spec

/-! ## Ways down a tree -/

/-- The keys on a way down from a node to one inside it, both included. -/
inductive RenderNode.Descent : RenderNode → List String → Prop
  | here (node : RenderNode) : Descent node [node.key]
  | child {node child : RenderNode} {keys : List String} (inside : child ∈ node.children)
      (below : Descent child keys) : Descent node (node.key :: keys)

/-- The second element is a child of the first. -/
def Outline.Refers (outline : Outline) (key child : String) : Prop :=
  child ∈ outline.childrenOf key

namespace Spec

variable {spec : Spec} {path after : List String} {visits : List Visit} {nodes : List RenderNode}

/-- On a way down a tree that a guarded walk has drawn no key comes twice; all are keys of
elements, and none was on the path. -/
theorem Walks.nodup (walk : spec.Walks onPath path visits nodes after) {node : RenderNode}
    (drawn : node ∈ nodes) {keys : List String} (descent : node.Descent keys) :
    keys.Nodup ∧ ∀ key ∈ keys, key ∈ spec.fresh path := by
  induction walk generalizing node keys with
  | done => cases drawn
  | skip _ _ ih => exact ih drawn descent
  | @draw path inner after visit visits element children nodes draws below rest ihbelow ihrest =>
    rcases List.mem_cons.mp drawn with rfl | drawn
    · have own : visit.key ∈ spec.fresh path := mem_fresh_iff.mpr ⟨draws.there, draws.free⟩
      cases descent with
      | here => exact ⟨by simp, fun key h => List.mem_singleton.mp h ▸ own⟩
      | child inside descent =>
        obtain ⟨nodup, under⟩ := ihbelow inside descent
        have under (key) (h : key ∈ _) := mem_fresh_iff.mp (under key h)
        refine ⟨List.nodup_cons.mpr ⟨fun again => ?_, nodup⟩, fun key h => ?_⟩
        · exact (under _ again).2 List.mem_cons_self
        · rcases List.mem_cons.mp h with rfl | h
          · exact own
          · obtain ⟨there, off⟩ := under key h
            exact mem_fresh_iff.mpr ⟨there, fun on => off (List.mem_cons_of_mem _ on)⟩
    · rw [below.tail_restored] at ihrest
      exact ihrest drawn descent

/-! ## Walks without a guard -/

/-- No element that can be reached from the root is below itself. -/
def Acyclic (spec : Spec) : Prop :=
  ∀ key, spec.outline.Reachable key → ¬ Relation.TransGen spec.outline.Refers key key

/-- If no element that can be reached is below itself, the guard may go, as long as the path holds
what is above the keys of the calls. -/
theorem Walks.unguarded (acyclic : spec.Acyclic)
    (walk : spec.Walks onPath path visits nodes after)
    (reached : ∀ visit ∈ visits, visit.key ∈ spec.outline.keys → spec.outline.Reachable visit.key)
    (above : ∀ visit ∈ visits, ∀ key ∈ path,
      Relation.TransGen spec.outline.Refers key visit.key) :
    spec.Walks nowhere path visits nodes after := by
  induction walk with
  | done => exact .done
  | @skip path after visit visits nodes passed rest ih =>
    refine .skip (fun element draws => ?_) (ih ?_ ?_)
    · have off : visit.key ∉ path := fun on =>
        acyclic visit.key (reached visit List.mem_cons_self draws.there)
          (above visit List.mem_cons_self visit.key on)
      exact passed element ⟨draws.found, off, draws.seen⟩
    · exact fun other later => reached other (List.mem_cons_of_mem _ later)
    · exact fun other later => above other (List.mem_cons_of_mem _ later)
  | @draw path inner after visit visits element children nodes draws below rest ihbelow ihrest =>
    have refers (child : Visit) (own : child ∈ element.visits visit.scope) :
        spec.outline.Refers visit.key child.key := by
      rw [Outline.Refers, childrenOf_outline draws.found]
      exact Element.mem_children_of_mem_visits own
    refine .draw ⟨draws.found, not_false, draws.seen⟩ (ihbelow ?_ ?_) ?_
    · exact fun child own =>
        .child (reached visit List.mem_cons_self draws.there) (refers child own)
    · intro child own key on
      rcases List.mem_cons.mp on with rfl | on
      · exact .single (refers child own)
      · exact (above visit List.mem_cons_self key on).tail (refers child own)
    · rw [below.tail_restored] at ihrest ⊢
      exact ihrest (fun other later => reached other (List.mem_cons_of_mem _ later))
        (fun other later => above other (List.mem_cons_of_mem _ later))

/-- **The guard cuts cycles and nothing else.**  Guarded walks end, and every walk that ends leaves
the path as it was.  What is drawn is what the guarded walk from the root draws, and on no way down
does a key come twice, so that no way is longer than there are elements.  If no element that can be
reached is below itself, a walk without the guard ends too and draws the same. -/
theorem render_cycle_safe (spec : Spec) (state : Json) :
    (∀ path visits, ∃ nodes, spec.Walks onPath path visits nodes path) ∧
    (∀ guard path visits nodes after, spec.Walks guard path visits nodes after → after = path) ∧
    (∀ nodes after, spec.Walks onPath [] [spec.firstVisit state] nodes after ↔
      nodes = (spec.render state).toList ∧ after = []) ∧
    (∀ tree, spec.render state = some tree → ∀ keys, tree.Descent keys →
      keys.Nodup ∧ keys.length ≤ spec.elements.length) ∧
    (spec.Acyclic → ∀ nodes after, spec.Walks nowhere [] [spec.firstVisit state] nodes after ↔
      nodes = (spec.render state).toList ∧ after = []) := by
  have walk := walks_render spec state
  refine ⟨exists_walks spec, fun _ _ _ _ _ walk => walk.restored, walk.iff, ?_, fun acyclic => ?_⟩
  · intro tree drawn keys descent
    rw [drawn] at walk
    obtain ⟨nodup, own⟩ := walk.nodup List.mem_cons_self descent
    have short := (List.subperm_of_subset nodup own).length_le
    exact ⟨nodup, Nat.le_trans short (spec.length_fresh_le [])⟩
  · refine (walk.unguarded acyclic ?_ ?_).iff
    · intro visit first there
      cases List.mem_singleton.mp first
      exact .start there List.mem_cons_self
    · exact fun _ _ key on => nomatch on

/-- If children rank lower, no element is below itself. -/
theorem acyclic_of_rank (rank : String → Nat)
    (lower : ∀ key child, spec.outline.Refers key child → rank child < rank key) :
    spec.Acyclic := by
  intro key _ cycle
  have sinks {key other : String} (below : Relation.TransGen spec.outline.Refers key other) :
      rank other < rank key := by
    induction below with
    | single refers => exact lower _ _ refers
    | tail _ refers ih => exact Nat.lt_trans (lower _ _ refers) ih
  exact Nat.lt_irrefl _ (sinks cycle)

/-- A card that is listed twice by the page, and again by a row that is repeated inside a
repetition. -/
theorem render_cycle_safe_shared :
    let spec : Spec := {
      root := "page"
      elements := [("page", { children? := some ["card", "card", "table"] }),
        ("table", { children? := some ["row"], repetition? := some { statePath := "/rows" } }),
        ("row", { children? := some ["card"], repetition? := some { statePath := "/columns" } }),
        ("card", {})] }
    let state : Json := .object [("rows", .array [.null, .null]), ("columns", .array [.null])]
    spec.Acyclic ∧
      (spec.render state).map (fun tree => tree.nodes.map (·.key)) =
        some ["page", "card", "card", "table", "row", "card", "row", "card"] ∧
      ∀ nodes after, spec.Walks nowhere [] [spec.firstVisit state] nodes after ↔
        nodes = (spec.render state).toList ∧ after = [] := by
  intro spec state
  have acyclic : spec.Acyclic := by
    refine acyclic_of_rank (fun key => 4 - ["page", "table", "row", "card"].idxOf key) ?_
    intro key child refers
    rw [Outline.Refers, Outline.childrenOf] at refers
    cases found : spec.outline.elements.lookup key with
    | none => rw [found] at refers; cases refers
    | some element =>
      have mem := mem_of_lookup found
      rw [found] at refers
      simp only [spec, Spec.outline, ElementOutline.ofElement, Element.children, List.map_cons,
        List.map_nil, List.mem_cons, Prod.mk.injEq, List.not_mem_nil, or_false] at mem
      obtain ⟨rfl, rfl⟩ | ⟨rfl, rfl⟩ | ⟨rfl, rfl⟩ | ⟨rfl, rfl⟩ := mem <;>
        revert child <;> decide
  exact ⟨acyclic, by decide, (render_cycle_safe spec state).2.2.2.2 acyclic⟩

end Spec

end UiStream

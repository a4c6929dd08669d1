import UiStream.Json.Height
import Mathlib.Data.List.Perm.Basic
import Mathlib.Data.List.Range

/-!
# The nodes of a nested tree

The nodes of a tree are the tree itself and the nodes of its children, where of the values that a
node lists as children those count that have a type (`Nested.children`).  `Nested.preorder` lists
the nodes in the order in which they begin, and `Nested.numbered` numbers them in this order: the
children of the node with number `i` have numbers from `i + 1`, each behind all that is inside the
one before it (`Nested.placed`).

Numbered by their place, every node but the first is a child of exactly one node
(`Nested.children_perm`), and its number is greater than that of its parent.
-/

namespace UiStream

/-- An item of a list is not higher than all items together. -/
theorem Json.height_le_of_mem {v : Json} {items : List Json} (mem : v ∈ items) :
    v.height ≤ heightItems items := by
  induction items with
  | nil => cases mem
  | cons w rest ih =>
    rw [heightItems]
    rcases List.mem_cons.mp mem with rfl | mem
    · exact Nat.le_max_left ..
    · exact (ih mem).trans (Nat.le_max_right ..)

namespace Nested

/-! ## Nodes -/

/-- The members of a node.  What is no object is a node without members. -/
def members (node : Json) : Members := node.members?.getD []

/-- The children of a node: of the values that it lists those that have a type. -/
def children (node : Json) : List Json :=
  (((node.member? "children").bind Json.items?).getD []).filter
    fun child => (child.member? "type").isSome

/-- A child is less high than its parent. -/
theorem height_lt {node child : Json} (mem : child ∈ children node) :
    child.height < node.height := by
  have listed := (List.mem_filter.mp mem).1
  cases node with
  | object members =>
    rw [Json.member?] at listed
    cases found : Members.find? "children" members with
    | none => rw [found] at listed; cases listed
    | some v =>
      rw [found] at listed
      cases v with
      | array items =>
        change child ∈ items at listed
        have inside := Json.height_le_of_mem listed
        have below := Json.height_find?_le found
        simp only [Json.height] at below ⊢
        omega
      | _ => cases listed
  | _ => cases listed

/-- A property of all nodes holds if it holds of nodes whose children have it. -/
theorem induct {motive : Json → Prop}
    (step : ∀ node, (∀ child ∈ children node, motive child) → motive node) (node : Json) :
    motive node :=
  step node fun child _ => induct step child
termination_by node.height
decreasing_by exact height_lt ‹_›

/-- The nodes of a tree in the order in which they begin. -/
def preorder (node : Json) : List Json :=
  node :: (children node).attach.flatMap fun ⟨child, _⟩ => preorder child
termination_by node.height
decreasing_by exact height_lt ‹_›

/-- The node comes first, and then what is inside its children, one after another. -/
theorem preorder_eq (node : Json) :
    preorder node = node :: (children node).flatMap preorder := by
  rw [preorder, List.flatMap_subtype (fun _ _ => rfl), List.unattach_attach]

/-- A child has fewer nodes than its parent. -/
theorem length_preorder_lt {node child : Json} (mem : child ∈ children node) :
    (preorder child).length < (preorder node).length := by
  obtain ⟨front, back, split⟩ := List.append_of_mem mem
  rw [preorder_eq node, split, List.length_cons, List.flatMap_append, List.flatMap_cons,
    List.length_append, List.length_append]
  omega

/-! ## Numbers -/

/-- Trees one after another, with the numbers at which they begin. -/
def placed (start : Nat) : List Json → List (Json × Nat)
  | [] => []
  | node :: rest => (node, start) :: placed (start + (preorder node).length) rest

/-- The children of a node with their numbers, where the node has the number `number`. -/
def placedChildren (node : Json) (number : Nat) : List (Json × Nat) :=
  placed (number + 1) (children node)

/-- The nodes of a tree with their numbers. -/
def numbered (start : Nat) (node : Json) : List (Json × Nat) := (preorder node).zipIdx start

theorem map_fst_placed (start : Nat) (nodes : List Json) : (placed start nodes).map (·.1) = nodes := by
  induction nodes generalizing start with
  | nil => rfl
  | cons node rest ih => rw [placed, List.map_cons, ih]

theorem zipIdx_flatMap_preorder (start : Nat) (nodes : List Json) :
    (nodes.flatMap preorder).zipIdx start =
      (placed start nodes).flatMap fun (node, number) => numbered number node := by
  induction nodes generalizing start with
  | nil => rfl
  | cons node rest ih =>
    rw [List.flatMap_cons, List.zipIdx_append, ih]
    rfl

/-- The node has the first number, and what is inside a child is numbered from the number of that
child. -/
theorem numbered_eq (start : Nat) (node : Json) :
    numbered start node = (node, start) ::
      (placedChildren node start).flatMap fun (child, number) => numbered number child := by
  rw [numbered, preorder_eq, List.zipIdx_cons, zipIdx_flatMap_preorder]
  rfl

theorem map_snd_numbered (start : Nat) (node : Json) :
    (numbered start node).map (·.2) = List.range' start (preorder node).length :=
  List.zipIdx_map_snd ..

theorem mem_numbered_self (start : Nat) (node : Json) : (node, start) ∈ numbered start node := by
  rw [numbered_eq]
  exact List.mem_cons_self

/-- What is placed is a child of the node. -/
theorem mem_children_of_placed {node child : Json} {number place : Nat}
    (mem : (child, place) ∈ placedChildren node number) : child ∈ children node :=
  map_fst_placed (number + 1) (children node) ▸ List.mem_map_of_mem mem

/-- What is inside a child has the numbers that it has inside the node. -/
theorem numbered_child_subset {start : Nat} {node child : Json} {place : Nat}
    (mem : (child, place) ∈ placedChildren node start) :
    numbered place child ⊆ numbered start node := by
  intro below inside
  rw [numbered_eq]
  exact List.mem_cons_of_mem _ (List.mem_flatMap.mpr ⟨(child, place), mem, inside⟩)

/-- A child of a numbered node has the number that it is given there. -/
theorem placedChildren_subset {start : Nat} {tree node : Json} {number : Nat}
    (mem : (node, number) ∈ numbered start tree) :
    placedChildren node number ⊆ numbered start tree := by
  induction tree using induct generalizing start with
  | step tree ih =>
    rw [numbered_eq] at mem
    rcases List.mem_cons.mp mem with same | inside
    · cases same
      exact fun (child, place) listed => numbered_child_subset listed (mem_numbered_self place child)
    · obtain ⟨⟨child, place⟩, listed, inside⟩ := List.mem_flatMap.mp inside
      exact fun _ below => numbered_child_subset listed
        (ih child (mem_children_of_placed listed) inside below)

/-- Trees one after another begin at or behind the number of the first. -/
theorem le_of_mem_placed {start number : Nat} {nodes : List Json} {node : Json}
    (mem : (node, number) ∈ placed start nodes) : start ≤ number := by
  induction nodes generalizing start with
  | nil => cases mem
  | cons first rest ih =>
    rcases List.mem_cons.mp mem with same | mem
    · cases same
      exact le_rfl
    · exact (Nat.le_add_right ..).trans (ih mem)

/-! ## Parents -/

/-- The numbers of the children of numbered nodes. -/
def childNumbers (nodes : List (Json × Nat)) : List Nat :=
  nodes.flatMap fun (node, number) => (placedChildren node number).map (·.2)

/-- Trees one after another have all the numbers, those at which they begin and those of children
inside them. -/
theorem placed_perm {nodes : List Json}
    (each : ∀ node ∈ nodes, ∀ start, (start :: childNumbers (numbered start node)).Perm
      (List.range' start (preorder node).length)) (start : Nat) :
    ((placed start nodes).map (·.2) ++
      childNumbers ((placed start nodes).flatMap fun (node, number) => numbered number node)).Perm
        (List.range' start (nodes.flatMap preorder).length) := by
  induction nodes generalizing start with
  | nil => exact .nil
  | cons node rest ih =>
    have head := each node List.mem_cons_self start
    have tail := ih (fun node mem => each node (List.mem_cons_of_mem _ mem))
      (start + (preorder node).length)
    rw [placed, List.map_cons, List.flatMap_cons, List.flatMap_cons, List.length_append,
      ← List.range'_append_1, childNumbers, List.flatMap_append, ← childNumbers, ← childNumbers]
    refine .trans ?_ (head.append tail)
    rw [List.cons_append, List.cons_append, ← List.append_assoc, ← List.append_assoc]
    exact .cons _ (List.perm_append_comm.append_right _)

/-- Every node but the tree itself is a child of exactly one node. -/
theorem children_perm (start : Nat) (tree : Json) :
    (start :: childNumbers (numbered start tree)).Perm
      (List.range' start (preorder tree).length) := by
  induction tree using induct generalizing start with
  | step tree ih =>
    rw [numbered_eq, preorder_eq, List.length_cons, List.range'_succ, childNumbers,
      List.flatMap_cons, ← childNumbers]
    exact .cons _ (placed_perm ih (start + 1))

/-- A node that is not the tree itself has a parent, with a smaller number. -/
theorem exists_parent {start number : Nat} {tree node : Json}
    (mem : (node, number) ∈ numbered start tree) (inner : number ≠ start) :
    ∃ parent above, (parent, above) ∈ numbered start tree ∧ above < number ∧
      number ∈ (placedChildren parent above).map (·.2) := by
  have among : number ∈ List.range' start (preorder tree).length :=
    map_snd_numbered start tree ▸ List.mem_map_of_mem mem
  have child : number ∈ childNumbers (numbered start tree) :=
    (List.mem_cons.mp ((children_perm start tree).mem_iff.mpr among)).resolve_left inner
  obtain ⟨⟨parent, above⟩, there, listed⟩ := List.mem_flatMap.mp child
  refine ⟨parent, above, there, ?_, listed⟩
  obtain ⟨⟨_, _⟩, placed, rfl⟩ := List.mem_map.mp listed
  exact le_of_mem_placed placed

end Nested

end UiStream

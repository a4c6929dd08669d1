import UiStream.Spec.Nested
import UiStream.Proofs.Json.Members
import UiStream.Proofs.Spec.Preorder
import UiStream.Proofs.Validation.Problems
import Mathlib.Data.List.Nodup

/-!
# Flattened trees

A flattened tree has one element for each of its nodes, under the number of that node, and this
element lists the children under their numbers (`Flattened.elements_perm`).  So nothing is lost:
`Nested.expand` puts the elements back where they are listed, and gives the tree from which they
come, with the members that it leaves out as written there (`Nested.normalised`).

Since every node but the first is a child of one other, which has a smaller number, every key but
the first is referred to once (`Flattened.references_perm`), and a chain of children leads to it
(`Flattened.reachable_key`).
-/

namespace UiStream

namespace Nested

/-! ## What is expected of a flattened tree -/

/-- The members of a node: its type, its properties, the given children and its other members. -/
def arranged (node : Json) (children : List Json) : Members :=
  [("type", (Members.find? "type" (members node)).getD (.string "unknown")),
   ("props", (Members.find? "props" (members node)).getD .emptyObject),
   ("children", .array children)] ++
  (members node).filter fun (field, _) => !(["type", "props", "children", "state"].contains field)

/-- The keys of the children of a node with a number. -/
def childKeys (node : Json) (number : Nat) : List String :=
  (placedChildren node number).map fun (_, place) => Flattened.key place

/-- The element of a node with a number. -/
def flat (node : Json) (number : Nat) : Json :=
  .object (arranged node ((childKeys node number).map .string))

/-- The tree with every node arranged in this way around its children: without what it lists that is
no node, and without the states of nodes. -/
def normalised (node : Json) : Json :=
  .object (arranged node ((children node).attach.map fun ⟨child, _⟩ => normalised child))
termination_by node.height
decreasing_by exact height_lt ‹_›

theorem normalised_eq (node : Json) :
    normalised node = .object (arranged node ((children node).map normalised)) := by
  rw [normalised, List.map_subtype (fun _ _ => rfl), List.unattach_attach]

/-- The tree that the elements from a key on make up, if it is of at most the given height: in the
element under the key, the trees of its children stand where their keys do. -/
def expand (elements : Members) : Nat → String → Option Json
  | 0, _ => none
  | height + 1, key =>
    match Members.find? key elements with
    | some (.object members) => do
      let children ← (ElementOutline.ofJson (.object members)).children.mapM
        (expand elements height)
      some (.object (Members.insert "children" (.array children) members))
    | _ => none

end Nested

namespace Flattened

open Nested

/-! ## The elements -/

theorem nodes_cons {start : Nat} {v : Json} (typed : (v.member? "type").isSome)
    (rest : List Json) : nodes start (v :: rest) =
      { keys := (node start v).keys ++ (nodes (node start v).next rest).keys
        elements := (node start v).elements ++ (nodes (node start v).next rest).elements
        next := (nodes (node start v).next rest).next } := by
  rw [nodes, if_pos typed]

/-- What has no type is passed over. -/
theorem nodes_filter (start : Nat) (items : List Json) :
    nodes start items = nodes start (items.filter fun child => (child.member? "type").isSome) := by
  induction items generalizing start with
  | nil => rfl
  | cons v rest ih =>
    rw [List.filter_cons]
    by_cases typed : (v.member? "type").isSome = true
    · rw [if_pos typed, nodes_cons typed, nodes_cons typed, ← ih]
    · rw [if_neg typed, nodes, if_neg typed, ih]

theorem childrenIn_eq (start : Nat) (members : Members) :
    childrenIn start members =
      nodes start (((Members.find? "children" members).bind Json.items?).getD []) := by
  induction members with
  | nil => rfl
  | cons member rest ih =>
    obtain ⟨field, v⟩ := member
    rw [childrenIn, Members.find?_cons]
    split
    · cases v <;> rfl
    · exact ih

/-- A node is flattened around its children, which are numbered behind it. -/
theorem node_eq (start : Nat) (tree : Json) :
    node start tree = around start (members tree) (nodes (start + 1) (children tree)) := by
  cases tree with
  | object members => rw [node, childrenIn_eq, nodes_filter]; rfl
  | _ => rfl

/-- Flattening trees one after another flattens each from its own number on. -/
theorem nodes_eq {trees : List Json} (typed : ∀ tree ∈ trees, (tree.member? "type").isSome)
    (sizes : ∀ tree ∈ trees, ∀ start, (node start tree).next = start + (preorder tree).length)
    (start : Nat) : nodes start trees =
      { keys := (placed start trees).map fun (_, number) => key number
        elements := (placed start trees).flatMap fun (tree, number) => (node number tree).elements
        next := start + (trees.flatMap preorder).length } := by
  induction trees generalizing start with
  | nil => rfl
  | cons tree rest ih =>
    have keys : (node start tree).keys = [key start] := by
      rw [node_eq]
      rfl
    rw [nodes_cons (typed tree List.mem_cons_self), keys, sizes tree List.mem_cons_self,
      ih (fun tree mem => typed tree (List.mem_cons_of_mem _ mem))
        (fun tree mem => sizes tree (List.mem_cons_of_mem _ mem)),
      placed, List.flatMap_cons, List.flatMap_cons, List.length_append, Nat.add_assoc]
    rfl

theorem typed_of_mem_children {tree child : Json} (mem : child ∈ children tree) :
    (child.member? "type").isSome := (List.mem_filter.mp mem).2

/-- A tree takes as many numbers as it has nodes. -/
theorem next_node (start : Nat) (tree : Json) :
    (node start tree).next = start + (preorder tree).length := by
  induction tree using Nested.induct generalizing start with
  | step tree ih =>
    rw [node_eq, nodes_eq (fun _ => typed_of_mem_children) ih, preorder_eq, List.length_cons]
    exact (Nat.add_right_comm ..)

/-- The elements are those of the nodes, under their numbers. -/
theorem elements_perm (start : Nat) (tree : Json) :
    (node start tree).elements.Perm
      ((numbered start tree).map fun (node, number) => (key number, flat node number)) := by
  induction tree using Nested.induct generalizing start with
  | step tree ih =>
    have inside : ((placedChildren tree start).flatMap fun (child, number) =>
        (node number child).elements).Perm
          ((placedChildren tree start).flatMap fun (child, number) =>
            (numbered number child).map fun (node, number) => (key number, flat node number)) := by
      refine List.Perm.flatMap_left _ fun (child, number) mem => ?_
      exact ih child (mem_children_of_placed mem) number
    rw [node_eq, nodes_eq (fun _ => typed_of_mem_children) (fun _ _ => (next_node · _)),
      numbered_eq, List.map_cons, List.map_flatMap]
    change (_ ++ [(key start, flat tree start)]).Perm _
    exact (List.perm_append_singleton ..).trans (.cons _ inside)

/-- Different numbers make different keys. -/
theorem key_inj {m n : Nat} : key m = key n ↔ m = n := by
  refine ⟨fun same => ?_, congrArg key⟩
  have digits : Nat.toDigits 10 m = Nat.toDigits 10 n := by
    rw [key, key, String.append_right_inj] at same
    rwa [Nat.toString_eq_ofList_toDigits, Nat.toString_eq_ofList_toDigits, String.ofList_inj] at same
  have read (n : Nat) : Nat.ofDigitChars 10 (Nat.toDigits 10 n) 0 = n :=
    Nat.ofDigitChars_toDigits (by decide) (by decide)
  rw [← read m, digits, read n]

theorem keys_perm (tree : Json) :
    (Members.keys (node 0 tree).elements).Perm
      ((List.range (preorder tree).length).map key) := by
  have perm := (elements_perm 0 tree).map (·.1)
  rw [List.map_map] at perm
  have numbers := congrArg (List.map key) (map_snd_numbered 0 tree)
  rw [List.map_map, ← List.range_eq_range'] at numbers
  exact numbers ▸ perm

theorem nodup_keys (tree : Json) : (Members.keys (node 0 tree).elements).Nodup :=
  (keys_perm tree).nodup_iff.mpr (List.nodup_range.map fun _ _ => key_inj.mp)

/-- The element of each node is found under its number. -/
theorem find?_elements {tree node : Json} {number : Nat} (mem : (node, number) ∈ numbered 0 tree) :
    Members.find? (key number) (Flattened.node 0 tree).elements = some (flat node number) := by
  have listed := List.mem_map_of_mem (f := fun (node, number) => (key number, flat node number)) mem
  exact Members.find?_of_mem (nodup_keys tree) ((elements_perm 0 tree).mem_iff.mpr listed)

end Flattened

/-! ## Putting the elements back -/

namespace Nested

theorem find?_children_arranged (node : Json) (children : List Json) :
    Members.find? "children" (arranged node children) = some (.array children) := rfl

theorem insert_children_arranged (node : Json) (old new : List Json) :
    Members.insert "children" (.array new) (arranged node old) = arranged node new := rfl

/-- The children of an element are those of its node. -/
theorem children_ofJson_flat (node : Json) (number : Nat) :
    (ElementOutline.ofJson (flat node number)).children = childKeys node number := by
  rw [flat, ElementOutline.ofJson, find?_children_arranged]
  simp [Json.items?, List.filterMap_map, Function.comp_def, Json.text?]

/-- Where no item fails the run over all of them does not. -/
theorem mapM_eq_some {α β : Type} {f : α → Option β} {g : α → β} {items : List α}
    (each : ∀ a ∈ items, f a = some (g a)) : items.mapM f = some (items.map g) := by
  induction items with
  | nil => rfl
  | cons a rest ih =>
    rw [List.mapM_cons, each a List.mem_cons_self,
      ih fun a mem => each a (List.mem_cons_of_mem _ mem)]
    rfl

/-- From the key of a node the elements make up the tree of that node. -/
theorem expand_key {elements : Members} {start : Nat} {tree : Json}
    (there : ∀ node number, (node, number) ∈ numbered start tree →
      Members.find? (Flattened.key number) elements = some (flat node number))
    {height : Nat} (high : (preorder tree).length ≤ height) :
    expand elements height (Flattened.key start) = some (normalised tree) := by
  induction tree using induct generalizing start height with
  | step tree ih =>
    have positive : height ≠ 0 := by
      rw [preorder_eq, List.length_cons] at high
      omega
    obtain ⟨height, rfl⟩ := Nat.exists_eq_succ_of_ne_zero positive
    have subtrees : (childKeys tree start).mapM (expand elements height) =
        some ((children tree).map normalised) := by
      rw [childKeys, List.mapM_map, ← map_fst_placed (start + 1) (children tree), List.map_map]
      refine mapM_eq_some fun (child, place) listed => ?_
      have smaller := length_preorder_lt (mem_children_of_placed listed)
      exact ih child (mem_children_of_placed listed)
        (fun node number inside => there node number (numbered_child_subset listed inside))
        (by omega)
    rw [expand, there tree start (mem_numbered_self start tree), normalised_eq]
    change ((ElementOutline.ofJson (flat tree start)).children.mapM (expand elements height)).bind
      _ = _
    rw [children_ofJson_flat, subtrees, Option.bind_some, insert_children_arranged]

end Nested

/-! ## References -/

namespace Flattened

open Nested

/-- The keys to which elements refer as children. -/
def references (elements : Members) : List String :=
  elements.flatMap fun (_, element) => (ElementOutline.ofJson element).children

/-- Every key but the first is referenced once, and the first one is not. -/
theorem references_perm (tree : Json) :
    (key 0 :: references (node 0 tree).elements).Perm
      (Members.keys (node 0 tree).elements) := by
  have referenced : (references (node 0 tree).elements).Perm
      ((childNumbers (numbered 0 tree)).map key) := by
    refine ((elements_perm 0 tree).flatMap_right _).trans (.of_eq ?_)
    rw [List.flatMap_map, childNumbers, List.map_flatMap]
    simp only [children_ofJson_flat, childKeys, List.map_map, Function.comp_def]
  refine (referenced.cons _).trans (.trans ?_ (keys_perm tree).symm)
  rw [← List.map_cons, List.range_eq_range']
  exact (children_perm 0 tree).map key

/-! ## Validation -/

/-- The outline of a flattened tree has the outlines of its elements. -/
theorem ofDocument_flatten (tree : Json) : Outline.ofDocument (flatten tree) =
    { root := key 0
      elements := (node 0 tree).elements.map fun (key, v) => (key, .ofJson v) } := rfl

theorem keys_ofDocument_flatten (tree : Json) :
    (Outline.ofDocument (flatten tree)).keys = Members.keys (node 0 tree).elements := by
  rw [ofDocument_flatten, Outline.keys, List.map_map]
  rfl

theorem childrenOf_flatten {tree node : Json} {number : Nat}
    (mem : (node, number) ∈ numbered 0 tree) :
    (Outline.ofDocument (flatten tree)).childrenOf (key number) = childKeys node number := by
  rw [ofDocument_flatten, Outline.childrenOf, lookup_map_values, Members.lookup_eq_find?,
    find?_elements mem, ← children_ofJson_flat]
  rfl

/-- A chain of children leads to every node: its parent comes before it. -/
theorem reachable_key {tree node : Json} {number : Nat} (mem : (node, number) ∈ numbered 0 tree) :
    (Outline.ofDocument (flatten tree)).Reachable (key number) := by
  induction number using Nat.strong_induction_on generalizing node with
  | _ number ih =>
    have there : key number ∈ (Outline.ofDocument (flatten tree)).keys := by
      rw [keys_ofDocument_flatten, ← Members.isSome_find?_iff, find?_elements mem]
      rfl
    by_cases first : number = 0
    · subst first
      exact .start there List.mem_cons_self
    · obtain ⟨parent, above, before, smaller, listed⟩ := exists_parent mem first
      refine .child (ih above smaller before) ?_ there
      obtain ⟨child, placed, same⟩ := List.mem_map.mp listed
      rw [childrenOf_flatten before, ← same]
      exact List.mem_map_of_mem placed

/-- A flattened tree has its root, all children that are named, and no orphans. -/
theorem filter_isStructural_flatten (tree : Json) (checkOrphans : Bool) :
    (documentProblems (flatten tree) checkOrphans).filter Problem.isStructural = [] := by
  have known (name : String) (named : name ∈ key 0 :: references (node 0 tree).elements) :
      name ∈ (Outline.ofDocument (flatten tree)).keys := by
    rw [keys_ofDocument_flatten]
    exact (references_perm tree).mem_iff.mp named
  have root : key 0 ≠ "" := by decide
  refine Outline.filter_isStructural_eq_nil root (known _ List.mem_cons_self) ?_ ?_ _
  · intro name element mem child listed
    rw [ofDocument_flatten] at mem
    obtain ⟨member, inside, same⟩ := List.mem_map.mp mem
    cases same
    exact known child (List.mem_cons_of_mem _ (List.mem_flatMap.mpr ⟨member, inside, listed⟩))
  · intro name mem
    rw [keys_ofDocument_flatten] at mem
    obtain ⟨number, among, rfl⟩ := List.mem_map.mp ((keys_perm tree).mem_iff.mp mem)
    have inside := List.getElem?_eq_getElem (List.mem_range.mp among)
    exact reachable_key (List.mem_zipIdx_iff_getElem?.mpr inside)

end Flattened

/-- **Flattening a nested tree loses nothing.**  The elements have the numbers of the nodes, in the
order in which these begin, for keys, and each is its node with the keys of its children, in order.
Put back from the root on they are the tree again.  Every key but that of the root is referred to
once, so that validation, whether or not it looks for orphans, finds the root, all elements and all
children. -/
theorem flatten_lossless (tree : Json) :
    let nodes := Nested.preorder tree
    ∃ elements, (flatten tree).member? "root" = some (.string (Flattened.key 0)) ∧
      (flatten tree).member? "elements" = some (.object elements) ∧
      (Members.keys elements).Nodup ∧
      (Members.keys elements).Perm ((List.range nodes.length).map Flattened.key) ∧
      (∀ node number, nodes[number]? = some node →
        Members.find? (Flattened.key number) elements = some (Nested.flat node number) ∧
        (Nested.placedChildren node number).map (fun (_, place) => nodes[place]?) =
          (Nested.children node).map some) ∧
      Nested.expand elements nodes.length (Flattened.key 0) = some (Nested.normalised tree) ∧
      (Flattened.key 0 :: Flattened.references elements).Perm (Members.keys elements) ∧
      ∀ checkOrphans, (documentProblems (flatten tree) checkOrphans).filter Problem.isStructural =
        [] := by
  intro nodes
  have elements : ∀ node number, (node, number) ∈ Nested.numbered 0 tree →
      Members.find? (Flattened.key number) (Flattened.node 0 tree).elements =
        some (Nested.flat node number) := fun _ _ => Flattened.find?_elements
  refine ⟨(Flattened.node 0 tree).elements, rfl, rfl, Flattened.nodup_keys tree,
    Flattened.keys_perm tree, fun node number found => ?_, Nested.expand_key elements le_rfl,
    Flattened.references_perm tree, Flattened.filter_isStructural_flatten tree⟩
  have mem : (node, number) ∈ Nested.numbered 0 tree := List.mem_zipIdx_iff_getElem?.mpr found
  refine ⟨elements node number mem, ?_⟩
  have children : (Nested.placedChildren node number).map (·.1) = Nested.children node :=
    Nested.map_fst_placed ..
  rw [← children, List.map_map]
  refine List.map_congr_left fun (child, place) listed => ?_
  exact List.mem_zipIdx_iff_getElem?.mp (Nested.placedChildren_subset mem listed)

/-- An element comes behind those inside it, but has the smaller number. -/
example :
    let leaf (type : String) : Json := .object [("type", .string type)]
    let element (type : String) (children : List Json) : Json :=
      .object [("type", .string type), ("props", .object []), ("children", .array children)]
    let tree : Json := .object [("type", .string "Stack"), ("children", .array
      [.object [("children", .array [leaf "A1"]), ("type", .string "A")], .string "B", leaf "C"])]
    flatten tree = .object [("root", .string "el-0"), ("elements", .object
      [("el-2", element "A1" []), ("el-1", element "A" [.string "el-2"]), ("el-3", element "C" []),
        ("el-0", element "Stack" [.string "el-1", .string "el-3"])])] := by
  decide

end UiStream

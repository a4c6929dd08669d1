import UiStream.Validation.Outline

/-!
# Elements that can be reached

`Outline.Linked` is what the exploration of an outline computes (`Outline.mem_explore_iff`): a chain
of children leads to the key from one of those pending, and all keys on it are still unvisited.
From the root and with nothing visited, these are the elements that a chain of existing elements
connects to the root (`Outline.mem_reachable_iff`).
-/

namespace UiStream

/-- Values by key, when all values are changed. -/
theorem lookup_map_values {α β : Type} (f : α → β) (key : String) (entries : List (String × α)) :
    (entries.map fun (k, a) => (k, f a)).lookup key = (entries.lookup key).map f := by
  induction entries with
  | nil => rfl
  | cons entry rest ih =>
    obtain ⟨k, a⟩ := entry
    rw [List.map_cons, List.lookup_cons, List.lookup_cons]
    cases key == k with
    | true => rfl
    | false => exact ih

/-- What is found under a key is listed with it. -/
theorem mem_of_lookup {α : Type} {key : String} {a : α} {entries : List (String × α)}
    (found : entries.lookup key = some a) : (key, a) ∈ entries := by
  obtain ⟨before, after, split, -⟩ := List.lookup_eq_some_iff.mp found
  exact split ▸ List.mem_append_right _ List.mem_cons_self

/-- There is a value under each key. -/
theorem isSome_lookup_iff {α : Type} {key : String} {entries : List (String × α)} :
    (entries.lookup key).isSome ↔ key ∈ entries.map (·.1) := by
  induction entries with
  | nil => simp
  | cons entry rest ih =>
    obtain ⟨k, a⟩ := entry
    rw [List.lookup_cons, List.map_cons, List.mem_cons, ← ih]
    by_cases same : key = k
    · simp [same]
    · have differ : (key == k) = false := beq_false_of_ne same
      simp only [differ, same, false_or]

/-! ## Outlines of specifications -/

namespace Spec

theorem keys_outline (spec : Spec) : spec.outline.keys = spec.elements.map (·.1) := by
  simp [Outline.keys, outline]

/-- The elements of a specification are under the keys of its outline. -/
theorem isSome_element?_iff {spec : Spec} {key : String} :
    (spec.element? key).isSome ↔ key ∈ spec.outline.keys := by
  rw [element?, isSome_lookup_iff, keys_outline]

/-- The outline has the children of the elements. -/
theorem childrenOf_outline {spec : Spec} {key : String} {element : Element}
    (found : spec.element? key = some element) :
    spec.outline.childrenOf key = element.children := by
  rw [element?] at found
  rw [Outline.childrenOf, outline, lookup_map_values, found]
  rfl

end Spec

/-! ## The exploration of an outline -/

namespace Outline

variable {outline : Outline} {unvisited pending : List String}

/-- A chain of unvisited children leads to the key from one that is pending. -/
inductive Linked (outline : Outline) (unvisited pending : List String) : String → Prop
  | start {key : String} (there : key ∈ unvisited) (first : key ∈ pending) :
      Linked outline unvisited pending key
  | child {key child : String} (linked : Linked outline unvisited pending key)
      (listed : child ∈ outline.childrenOf key) (there : child ∈ unvisited) :
      Linked outline unvisited pending child

/-- A chain of existing elements connects the key to the root. -/
def Reachable (outline : Outline) (key : String) : Prop :=
  outline.Linked outline.keys [outline.root] key

/-- What can be reached exists. -/
theorem Linked.mem {key : String} (linked : outline.Linked unvisited pending key) :
    key ∈ unvisited := by
  cases linked with
  | start there _ => exact there
  | child _ _ there => exact there

/-- A chain that begins at a child of a pending key can begin at that key. -/
theorem Linked.of_visited {visited key : String} (inside : visited ∈ unvisited)
    (linked : outline.Linked (unvisited.erase visited) (outline.childrenOf visited ++ pending)
      key) :
    outline.Linked unvisited (visited :: pending) key := by
  induction linked with
  | start there first =>
    have there := List.mem_of_mem_erase there
    rcases List.mem_append.mp first with listed | first
    · exact .child (.start inside List.mem_cons_self) listed there
    · exact .start there (List.mem_cons_of_mem _ first)
  | child _ listed there ih => exact .child ih listed (List.mem_of_mem_erase there)

/-- A chain need not come back to a pending key: what follows can begin at a child of it. -/
theorem Linked.visit {visited key : String}
    (linked : outline.Linked unvisited (visited :: pending) key) (other : key ≠ visited) :
    outline.Linked (unvisited.erase visited) (outline.childrenOf visited ++ pending) key := by
  induction linked with
  | start there first =>
    have first := (List.mem_cons.mp first).resolve_left other
    exact .start ((List.mem_erase_of_ne other).mpr there) (List.mem_append_right _ first)
  | @child key child _ listed there ih =>
    have there := (List.mem_erase_of_ne other).mpr there
    by_cases same : key = visited
    · subst same
      exact .start there (List.mem_append_left _ listed)
    · exact .child (ih same) listed there

/-- A pending key that is visited already leads nowhere. -/
theorem Linked.skip {visited key : String} (outside : visited ∉ unvisited)
    (linked : outline.Linked unvisited (visited :: pending) key) :
    outline.Linked unvisited pending key := by
  induction linked with
  | @start key there first =>
    rcases List.mem_cons.mp first with rfl | first
    · exact absurd there outside
    · exact .start there first
  | child _ listed there ih => exact .child ih listed there

/-- More keys may be pending. -/
theorem Linked.more {visited key : String} (linked : outline.Linked unvisited pending key) :
    outline.Linked unvisited (visited :: pending) key := by
  induction linked with
  | start there first => exact .start there (List.mem_cons_of_mem _ first)
  | child _ listed there ih => exact .child ih listed there

/-- The exploration finds what it can be led to. -/
theorem mem_explore_iff {key : String} :
    key ∈ outline.explore unvisited pending ↔ outline.Linked unvisited pending key := by
  fun_induction explore outline unvisited pending with
  | case1 unvisited =>
    refine ⟨(nomatch ·), fun linked => ?_⟩
    induction linked with
    | start _ first => cases first
    | child _ _ _ ih => cases ih
  | case2 unvisited visited pending inside ih =>
    rw [List.mem_cons, ih]
    constructor
    · rintro (rfl | linked)
      · exact .start inside List.mem_cons_self
      · exact linked.of_visited inside
    · intro linked
      by_cases same : key = visited
      · exact .inl same
      · exact .inr (linked.visit same)
  | case3 unvisited visited pending outside ih =>
    rw [ih]
    exact ⟨fun linked => linked.more, fun linked => linked.skip outside⟩

/-- The exploration from the root finds what can be reached. -/
theorem mem_reachable_iff {key : String} : key ∈ outline.reachable ↔ outline.Reachable key :=
  mem_explore_iff

/-- What is explored is decided by the children alone. -/
theorem explore_congr {other : Outline} (same : outline.childrenOf = other.childrenOf)
    (unvisited pending : List String) :
    outline.explore unvisited pending = other.explore unvisited pending := by
  fun_induction explore outline unvisited pending with
  | case1 unvisited => rw [explore]
  | case2 unvisited visited pending inside ih => rw [explore, if_pos inside, ih, same]
  | case3 unvisited visited pending outside ih => rw [explore, if_neg outside, ih]

end Outline

end UiStream

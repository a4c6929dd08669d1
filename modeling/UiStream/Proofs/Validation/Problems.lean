import UiStream.Proofs.Validation.Reachable
import UiStream.Validation.Validate
import Mathlib.Data.List.Basic

/-!
# The problems of an outline

Which problems an outline has: the faults of its elements (`Outline.exists_of_invalidElement`), and
as orphans the elements that cannot be reached (`Outline.orphan_mem_problems_iff`).  Without errors
an outline is `Outline.Sound`: it has a root, no faults, and every child that it names.
-/

namespace UiStream

namespace Problem

/-- The problem lies in how elements refer to one another, and not within one of them. -/
def isStructural : Problem → Bool
  | missingRoot | rootNotFound _ | emptySpec | missingChild _ _ | orphan _ _ => true
  | invalidElement _ _ | misplacedField _ _ => false

/-- A field of an element stands among its properties. -/
def isMisplaced : Problem → Bool
  | misplacedField _ _ => true
  | _ => false

end Problem

namespace ElementOutline

/-- The fields of an element that stand among its properties. -/
def misplaced (element : ElementOutline) : List ElementField :=
  ElementField.all.filter fun field => Members.has field.name (element.props?.getD [])

/-- The faults of an element among its problems. -/
theorem invalidElement_mem_problems_iff {element : ElementOutline} {key other : String}
    {keys : List String} {fault : ElementFault} :
    .invalidElement other fault ∈ element.problems key keys ↔
      other = key ∧ fault ∈ element.faults := by
  simp only [problems, List.mem_append, List.mem_map, reduceCtorEq, and_false, exists_false,
    or_false, Problem.invalidElement.injEq]
  constructor
  · rintro ⟨_, faulty, rfl, rfl⟩
    exact ⟨rfl, faulty⟩
  · rintro ⟨rfl, faulty⟩
    exact ⟨fault, faulty, rfl, rfl⟩

/-- The structural problems of an element are the children that do not exist. -/
theorem filter_isStructural_problems (element : ElementOutline) (key : String)
    (keys : List String) : (element.problems key keys).filter Problem.isStructural =
      (element.children.filter (!keys.contains ·)).map (.missingChild key) := by
  simp [problems, List.filter_map, Function.comp_def, Problem.isStructural, List.filter_false]

theorem filter_isMisplaced_problems (element : ElementOutline) (key : String)
    (keys : List String) : (element.problems key keys).filter Problem.isMisplaced =
      element.misplaced.map (.misplacedField key) := by
  simp [problems, misplaced, List.filter_map, Function.comp_def, Problem.isMisplaced,
    List.filter_false]

end ElementOutline

namespace Outline

variable {outline : Outline}

/-- The problems where there are a root and elements. -/
theorem problems_eq (root : outline.root ≠ "") (elements : outline.elements ≠ [])
    (checkOrphans : Bool) :
    outline.problems checkOrphans =
      (if outline.keys.contains outline.root then [] else [.rootNotFound outline.root]) ++
        (outline.elementProblems ++ if checkOrphans then outline.orphans else []) := by
  rw [problems, if_neg root, if_neg (mt List.isEmpty_iff.mp elements)]

/-- Where there are a root and elements, the problems of each element are among the problems. -/
theorem mem_problems_of_mem (root : outline.root ≠ "") {key : String} {element : ElementOutline}
    (mem : (key, element) ∈ outline.elements) {problem : Problem}
    (own : problem ∈ element.problems key outline.keys) (checkOrphans : Bool) :
    problem ∈ outline.problems checkOrphans := by
  rw [problems_eq root (List.ne_nil_of_mem mem)]
  refine List.mem_append_right _ (List.mem_append_left _ ?_)
  exact List.mem_flatMap.mpr ⟨(key, element), mem, own⟩

/-- What can be among the problems. -/
theorem mem_problems_cases {problem : Problem} {checkOrphans : Bool}
    (listed : problem ∈ outline.problems checkOrphans) :
    problem = .missingRoot ∨ problem = .rootNotFound outline.root ∨ problem = .emptySpec ∨
      problem ∈ outline.elementProblems ∨ problem ∈ outline.orphans := by
  unfold problems at listed
  grind

/-- The faults that are among the problems are those of the elements. -/
theorem exists_of_invalidElement {checkOrphans : Bool} {key : String} {fault : ElementFault}
    (problem : .invalidElement key fault ∈ outline.problems checkOrphans) :
    ∃ element, (key, element) ∈ outline.elements ∧ fault ∈ element.faults := by
  obtain same | same | same | problem | problem := mem_problems_cases problem
  · cases same
  · cases same
  · cases same
  · obtain ⟨⟨_, element⟩, mem, problem⟩ := List.mem_flatMap.mp problem
    obtain ⟨rfl, faulty⟩ := ElementOutline.invalidElement_mem_problems_iff.mp problem
    exact ⟨element, mem, faulty⟩
  · obtain ⟨_, -, same⟩ := List.mem_map.mp problem
    cases same

/-- Harmless problems are none of a missing root, of missing elements, of an invalid element or of a
missing child. -/
structure Sound (outline : Outline) : Prop where
  root : outline.root ≠ ""
  found : outline.root ∈ outline.keys
  flawless : ∀ key element, (key, element) ∈ outline.elements → element.faults = []
  children : ∀ key element, (key, element) ∈ outline.elements →
    ∀ child ∈ element.children, child ∈ outline.keys

theorem sound_of_allHarmless {checkOrphans : Bool}
    (harmless : allHarmless (outline.problems checkOrphans) = true) : outline.Sound := by
  have harmless : ∀ problem ∈ outline.problems checkOrphans, problem.severity ≠ .error := by
    simpa [allHarmless] using harmless
  have root : outline.root ≠ "" := by
    intro missing
    refine harmless .missingRoot ?_ rfl
    rw [problems, if_pos missing]
    exact List.mem_singleton_self _
  have found : outline.root ∈ outline.keys := by
    refine Decidable.byContradiction fun missing => ?_
    refine harmless (.rootNotFound outline.root) ?_ rfl
    rw [problems, if_neg root, if_neg (by simpa using missing)]
    exact List.mem_append_left _ (List.mem_singleton_self _)
  have own {key : String} {element : ElementOutline} (mem : (key, element) ∈ outline.elements)
      {problem : Problem} (own : problem ∈ element.problems key outline.keys) :
      problem.severity ≠ .error :=
    harmless problem (mem_problems_of_mem root mem own checkOrphans)
  refine ⟨root, found, fun key element mem => ?_, fun key element mem child listed => ?_⟩
  · refine List.eq_nil_iff_forall_not_mem.mpr fun fault faulty => ?_
    exact own mem (ElementOutline.invalidElement_mem_problems_iff.mpr ⟨rfl, faulty⟩) rfl
  · refine Decidable.byContradiction fun missing => ?_
    have problem : .missingChild key child ∈ element.problems key outline.keys := by
      simpa [ElementOutline.problems] using ⟨listed, missing⟩
    exact own mem problem rfl

/-- The orphans are the elements that cannot be reached. -/
theorem orphan_mem_problems_iff (root : outline.root ≠ "") {key other : String}
    (there : key ∈ outline.keys) :
    .orphan key other ∈ outline.problems true ↔ other = outline.root ∧ ¬ outline.Reachable key := by
  have own : .orphan key other ∈ outline.orphans ↔
      other = outline.root ∧ key ∉ outline.reachable := by
    rw [orphans, List.mem_map]
    constructor
    · rintro ⟨_, apart, same⟩
      cases same
      exact ⟨rfl, by simpa [there] using apart⟩
    · rintro ⟨rfl, apart⟩
      exact ⟨key, by simpa [there] using apart, rfl⟩
  rw [← mem_reachable_iff, ← own]
  constructor
  · intro problem
    obtain same | same | same | problem | problem := mem_problems_cases problem
    · cases same
    · cases same
    · cases same
    · simp [elementProblems, ElementOutline.problems] at problem
    · exact problem
  · intro problem
    have elements : outline.elements ≠ [] := by
      intro none
      rw [keys, none] at there
      cases there
    rw [problems_eq root elements, if_pos rfl]
    exact List.mem_append_right _ (List.mem_append_right _ problem)

/-! ## Problems of one kind -/

/-- The fields that are reported as misplaced are those of the elements, in their order. -/
theorem filter_isMisplaced_problems (root : outline.root ≠ "") (checkOrphans : Bool) :
    (outline.problems checkOrphans).filter Problem.isMisplaced =
      outline.elements.flatMap fun (key, element) =>
        element.misplaced.map (.misplacedField key) := by
  have front : (if outline.keys.contains outline.root then []
      else [Problem.rootNotFound outline.root]).filter Problem.isMisplaced = [] := by
    split <;> rfl
  have behind : (if checkOrphans then outline.orphans else []).filter Problem.isMisplaced = [] := by
    split
    · simp [orphans, List.filter_map, Function.comp_def, Problem.isMisplaced, List.filter_false]
    · rfl
  by_cases elements : outline.elements = []
  · rw [problems, if_neg root, elements, List.filter_append, front]
    rfl
  · rw [problems_eq root elements, List.filter_append, List.filter_append, front, behind,
      elementProblems, List.filter_flatMap, List.nil_append, List.append_nil]
    simp only [ElementOutline.filter_isMisplaced_problems]

/-- The keys of the elements with those of their children. -/
def links (outline : Outline) : List (String × List String) :=
  outline.elements.map fun (key, element) => (key, element.children)

theorem keys_eq_links (outline : Outline) : outline.keys = outline.links.map (·.1) := by
  simp [keys, links]

theorem childrenOf_eq_links (outline : Outline) :
    outline.childrenOf = fun key => (outline.links.lookup key).getD [] := by
  funext key
  rw [childrenOf, links, lookup_map_values ElementOutline.children]

/-- The structural problems of the elements are the children that do not exist. -/
theorem filter_isStructural_elementProblems (outline : Outline) :
    outline.elementProblems.filter Problem.isStructural =
      outline.links.flatMap fun (key, children) =>
        (children.filter (!outline.keys.contains ·)).map (.missingChild key) := by
  rw [elementProblems, List.filter_flatMap, links, List.flatMap_map]
  simp only [ElementOutline.filter_isStructural_problems]

/-- The structural problems are decided by the root, the keys and the children. -/
theorem filter_isStructural_congr {other : Outline} (root : outline.root = other.root)
    (links : outline.links = other.links) (checkOrphans : Bool) :
    (outline.problems checkOrphans).filter Problem.isStructural =
      (other.problems checkOrphans).filter Problem.isStructural := by
  have keys : outline.keys = other.keys := by rw [keys_eq_links, links, keys_eq_links]
  have children : outline.childrenOf = other.childrenOf := by
    rw [childrenOf_eq_links, links, childrenOf_eq_links]
  have empty : outline.elements.isEmpty = other.elements.isEmpty := by
    simpa [Outline.links] using congrArg List.isEmpty links
  have orphans : outline.orphans = other.orphans := by
    rw [Outline.orphans, Outline.orphans, reachable, reachable, keys, root,
      explore_congr children]
  rw [problems, problems, root, keys, empty]
  split
  · rfl
  · rw [List.filter_append, List.filter_append]
    congr 1
    split
    · rfl
    · rw [List.filter_append, List.filter_append, filter_isStructural_elementProblems,
        filter_isStructural_elementProblems, links, keys, orphans]

/-- There are no structural problems where there is the root, all children exist, and every element
can be reached. -/
theorem filter_isStructural_eq_nil (root : outline.root ≠ "") (found : outline.root ∈ outline.keys)
    (children : ∀ key element, (key, element) ∈ outline.elements →
      ∀ child ∈ element.children, child ∈ outline.keys)
    (reached : ∀ key ∈ outline.keys, outline.Reachable key) (checkOrphans : Bool) :
    (outline.problems checkOrphans).filter Problem.isStructural = [] := by
  have elements : outline.elements ≠ [] := by
    intro none
    rw [keys, none] at found
    cases found
  have complete : outline.elementProblems.filter Problem.isStructural = [] := by
    rw [filter_isStructural_elementProblems, links, List.flatMap_map, List.flatMap_eq_nil_iff]
    intro entry mem
    rw [List.map_eq_nil_iff, List.filter_eq_nil_iff]
    intro child listed
    simpa using children entry.1 entry.2 mem child listed
  have connected : outline.orphans = [] := by
    rw [orphans, List.map_eq_nil_iff, List.filter_eq_nil_iff]
    intro key there
    simpa using mem_reachable_iff.mpr (reached key there)
  rw [problems_eq root elements, if_pos (by simpa using found), connected, ite_self,
    List.nil_append, List.append_nil, complete]

end Outline

namespace Spec

/-- No element of a specification is invalid. -/
theorem invalidElement_notMem (spec : Spec) (checkOrphans : Bool) (key : String)
    (fault : ElementFault) : .invalidElement key fault ∉ spec.problems checkOrphans := by
  intro problem
  obtain ⟨element, mem, faulty⟩ := Outline.exists_of_invalidElement problem
  obtain ⟨⟨_, original⟩, -, same⟩ := List.mem_map.mp mem
  cases same
  cases faulty

/-- A specification without errors has the elements that it refers to. -/
theorem complete_of_allHarmless {spec : Spec} {checkOrphans : Bool}
    (harmless : allHarmless (spec.problems checkOrphans) = true) :
    spec.rootElement?.isSome ∧ ∀ key element, (key, element) ∈ spec.elements →
      ∀ child ∈ element.children, (spec.element? child).isSome := by
  have sound := Outline.sound_of_allHarmless harmless
  refine ⟨isSome_element?_iff.mpr sound.found, fun key element mem child listed => ?_⟩
  exact isSome_element?_iff.mpr
    (sound.children key _ (List.mem_map.mpr ⟨(key, element), mem, rfl⟩) child listed)

end Spec

end UiStream

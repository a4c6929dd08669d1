import UiStream.Proofs.Spec.Decoding
import UiStream.Proofs.Validation.Problems

/-!
# Validation of documents and of specifications

A document that decodes has the problems of the specification that it decodes to, a document without
errors decodes, and where there are a root and elements nothing but an invalid element keeps it from
decoding (`documentProblems_agree`).

The outline of a document leaves open which elements have no properties and which have none that
can be read.  `Outline.completed` closes that gap, no problem depends on it
(`Outline.problems_completed`), and the completed outline of a document that decodes is that of the
specification (`Outline.completed_ofDocument`).
-/

namespace UiStream

/-! ## Elements -/

namespace ElementOutline

/-- The outline with no properties where there are none to read. -/
def completed (element : ElementOutline) : ElementOutline :=
  { element with props? := some (element.props?.getD []) }

/-- An element has no fault if it decodes. -/
theorem faults_ofJson_eq_nil_iff {v : Json} :
    (ofJson v).faults = [] ↔ ∃ element, Element.decode v = .ok element := by
  cases v with
  | object members =>
    rw [Element.exists_decode_iff]
    refine List.filterMap_eq_nil_iff.trans (forall₂_congr fun fault _ => ?_)
    exact Option.map_eq_none_iff
  | null | bool | number | string | array =>
    refine ⟨(nomatch ·), ?_⟩
    rintro ⟨element, decoded⟩
    cases decoded

/-- The texts in an array of texts. -/
theorem filterMap_text? {items : List Json} {texts : List String}
    (read : Reader.each Reader.text items = .ok texts) : items.filterMap Json.text? = texts := by
  replace read := Reader.each_eq_ok_iff.mp read
  induction read with
  | nil => rfl
  | @cons v text _ _ first _ ih =>
    cases v with
    | string s =>
      cases first
      simp only [List.filterMap_cons, Json.text?, ih]
    | null | bool | number | array | object => cases first

/-- The children in the outline are those that decode. -/
theorem children_of_childrenIn {members : Members} {children? : Option (List String)}
    (given : Element.childrenIn (Element.recordOf members) = .ok children?) :
    (ofJson (.object members)).children = children?.getD [] := by
  change (((Members.find? "children" (Element.recordOf members).members).bind
    Json.items?).getD []).filterMap Json.text? = _
  obtain ⟨absent, rfl⟩ | ⟨v, found, read⟩ := Record.defaulted_eq_ok_iff.mp given
  · rw [absent]
    rfl
  · rw [found]
    cases v with
    | null => cases read; rfl
    | array items =>
      obtain ⟨texts, each, rfl⟩ := map_eq_ok_iff.mp read
      exact filterMap_text? each
    | bool | number | string | object => cases read

/-- The properties in the outline are those that decode. -/
theorem props_of_propsIn {members props : Members}
    (given : Element.propsIn (Element.recordOf members) = .ok props) :
    (ofJson (.object members)).props?.getD [] = props := by
  change ((Members.find? "props" (Element.recordOf members).members).bind
    Json.members?).getD [] = _
  obtain ⟨absent, rfl⟩ | ⟨v, found, read⟩ := Record.defaulted_eq_ok_iff.mp given
  · rw [absent]
    rfl
  · rw [found]
    cases v with
    | object own => cases read; rfl
    | null | bool | number | string | array => cases read

/-- The outline of an element that decodes is that of what it decodes to. -/
theorem completed_ofJson {v : Json} {element : Element} (decoded : Element.decode v = .ok element) :
    (ofJson v).completed = ofElement element := by
  have faults := faults_ofJson_eq_nil_iff.mpr ⟨element, decoded⟩
  cases v with
  | object members =>
    have given := Element.decode_eq_ok_iff.mp decoded
    rw [completed, faults, children_of_childrenIn given.children, props_of_propsIn given.props]
    rfl
  | null | bool | number | string | array => cases decoded

end ElementOutline

/-! ## Outlines -/

namespace Outline

variable {outline : Outline}

/-- The outline with no properties where there are none to read. -/
def completed (outline : Outline) : Outline :=
  { outline with elements := outline.elements.map fun (key, element) => (key, element.completed) }

theorem keys_completed (outline : Outline) : outline.completed.keys = outline.keys := by
  simp [keys, completed]

theorem childrenOf_completed (outline : Outline) :
    outline.completed.childrenOf = outline.childrenOf := by
  funext key
  rw [childrenOf, childrenOf, completed, lookup_map_values, Option.map_map]
  rfl

/-- No problem depends on properties that cannot be read. -/
theorem problems_completed (outline : Outline) (checkOrphans : Bool) :
    outline.completed.problems checkOrphans = outline.problems checkOrphans := by
  have root : outline.completed.root = outline.root := rfl
  have empty : outline.completed.elements.isEmpty = outline.elements.isEmpty := by simp [completed]
  have elements : outline.completed.elementProblems = outline.elementProblems := by
    rw [elementProblems, elementProblems, keys_completed, completed, List.flatMap_map]
    rfl
  have reachable : outline.completed.reachable = outline.reachable := by
    rw [Outline.reachable, Outline.reachable, keys_completed, root,
      explore_congr (childrenOf_completed outline)]
  have orphans : outline.completed.orphans = outline.orphans := by
    rw [Outline.orphans, Outline.orphans, keys_completed, root, reachable]
  rw [problems, problems, keys_completed, root, empty, elements, orphans]

/-- The root in the outline is the one that decodes. -/
theorem root_ofDocument {members : Members} {root : String}
    (given : Spec.rootIn members = .ok root) : (ofDocument (.object members)).root = root := by
  change ((Members.find? "root" (Spec.recordOf members).members).bind Json.text?).getD "" = _
  obtain ⟨absent, rfl⟩ | ⟨v, found, read⟩ := Record.defaulted_eq_ok_iff.mp given
  · rw [absent]
    rfl
  · rw [found]
    cases v with
    | string s => cases read; rfl
    | null | bool | number | array | object => cases read

/-- The elements in the outline are outlines of those that decode. -/
theorem elements_ofDocument {members : Members} {elements : List (String × Element)}
    (given : Spec.elementsIn members = .ok elements) :
    (ofDocument (.object members)).completed.elements =
      elements.map fun (key, element) => (key, .ofElement element) := by
  change ((((Members.find? "elements" (Spec.recordOf members).members).bind
    Json.members?).getD []).map _).map _ = _
  obtain ⟨absent, rfl⟩ | ⟨v, found, read⟩ := Record.defaulted_eq_ok_iff.mp given
  · rw [absent]
    rfl
  · rw [found]
    cases v with
    | object own =>
      rw [Option.bind_some, Json.members?, Option.getD_some, List.map_map, ← List.forall₂_eq_eq_eq,
        List.forall₂_map_left_iff, List.forall₂_map_right_iff]
      refine (Reader.eachMember_eq_ok_iff.mp read).imp ?_
      rintro ⟨key, v⟩ ⟨_, element⟩ ⟨rfl, decoded⟩
      exact congrArg (key, ·) (ElementOutline.completed_ofJson decoded)
    | null | bool | number | string | array => cases read

/-- The outline of a document that decodes is that of what it decodes to. -/
theorem completed_ofDocument {members : Members} {spec : Spec}
    (decoded : Spec.decode (.object members) = .ok spec) :
    (ofDocument (.object members)).completed = spec.outline := by
  obtain ⟨root, elements, -⟩ := Spec.decode_eq_ok_iff.mp decoded
  rw [Spec.outline, ← root_ofDocument root, ← elements_ofDocument elements]
  rfl

end Outline

/-! ## Documents -/

section Documents

variable {members : Members} {checkOrphans : Bool}

/-- A root that is not empty decodes. -/
theorem Spec.exists_rootIn (root : (Outline.ofDocument (.object members)).root ≠ "") :
    ∃ root, rootIn members = .ok root := by
  change ((Members.find? "root" members).bind Json.text?).getD "" ≠ "" at root
  cases found : Members.find? "root" members with
  | none => rw [found] at root; exact absurd rfl root
  | some v =>
    rw [found] at root
    cases v with
    | string s => exact ⟨s, Record.defaulted_eq_ok_iff.mpr (.inr ⟨_, found, rfl⟩)⟩
    | null | bool | number | array | object => exact absurd rfl root

/-- Elements without faults decode, if there are any. -/
theorem Spec.exists_elementsIn (elements : (Outline.ofDocument (.object members)).elements ≠ [])
    (flawless : ∀ key element, (key, element) ∈ (Outline.ofDocument (.object members)).elements →
      element.faults = []) :
    ∃ elements, elementsIn members = .ok elements := by
  change (((Members.find? "elements" members).bind Json.members?).getD []).map _ ≠ [] at elements
  change ∀ key element, (key, element) ∈ (((Members.find? "elements" members).bind
    Json.members?).getD []).map _ → _ at flawless
  cases found : Members.find? "elements" members with
  | none => rw [found] at elements; exact absurd rfl elements
  | some v =>
    rw [found] at elements flawless
    cases v with
    | object own =>
      obtain ⟨entries, read⟩ := Reader.exists_eachMember fun member (mem : member ∈ own) =>
        ElementOutline.faults_ofJson_eq_nil_iff.mp
          (flawless member.1 _ (List.mem_map.mpr ⟨member, mem, rfl⟩))
      exact ⟨entries, Record.defaulted_eq_ok_iff.mpr (.inr ⟨_, found, read⟩)⟩
    | null | bool | number | string | array => exact absurd rfl elements

/-- A document with a root and elements decodes if no element has a fault. -/
theorem Spec.exists_decode (root : (Outline.ofDocument (.object members)).root ≠ "")
    (elements : (Outline.ofDocument (.object members)).elements ≠ [])
    (flawless : ∀ key element, (key, element) ∈ (Outline.ofDocument (.object members)).elements →
      element.faults = []) :
    ∃ spec, Spec.decode (.object members) = .ok spec := by
  obtain ⟨root, h₁⟩ := exists_rootIn root
  obtain ⟨elements, h₂⟩ := exists_elementsIn elements flawless
  obtain ⟨state?, h₃⟩ := exists_stateIn members
  exact ⟨⟨root, elements, state?⟩, decode_eq_ok_iff.mpr ⟨h₁, h₂, h₃⟩⟩

/-- A document that decodes has the problems of what it decodes to. -/
theorem documentProblems_of_decode {spec : Spec}
    (decoded : Spec.decode (.object members) = .ok spec) (checkOrphans : Bool) :
    documentProblems (.object members) checkOrphans = spec.problems checkOrphans := by
  rw [documentProblems, ← Outline.problems_completed, Outline.completed_ofDocument decoded,
    Spec.problems]

end Documents

/-- **Validation of a document agrees with decoding it.**  A document that decodes has the problems
of what it decodes to, in the same order, and so the same verdict.  A document without errors
decodes, its root exists and so does each child of each element.  Where the root is a text that is
not empty and there are elements, the document decodes just when none of its problems is an invalid
element. -/
theorem documentProblems_agree (members : Members) (checkOrphans : Bool) :
    let problems := documentProblems (.object members) checkOrphans
    (∀ spec, Spec.decode (.object members) = .ok spec → problems = spec.problems checkOrphans) ∧
      (allHarmless problems = true →
        ∃ spec, Spec.decode (.object members) = .ok spec ∧ spec.rootElement?.isSome ∧
          ∀ key element, (key, element) ∈ spec.elements →
            ∀ child ∈ element.children, (spec.element? child).isSome) ∧
      ∀ root elements, Members.find? "root" members = some (.string root) → root ≠ "" →
        Members.find? "elements" members = some (.object elements) → elements ≠ [] →
          ((∃ spec, Spec.decode (.object members) = .ok spec) ↔
            ∀ key fault, .invalidElement key fault ∉ problems) := by
  intro problems
  refine ⟨fun spec decoded => documentProblems_of_decode decoded checkOrphans, ?_, ?_⟩
  · intro harmless
    have sound := Outline.sound_of_allHarmless harmless
    have elements : (Outline.ofDocument (.object members)).elements ≠ [] := by
      intro none
      have found := sound.found
      rw [Outline.keys, none] at found
      cases found
    obtain ⟨spec, decoded⟩ := Spec.exists_decode sound.root elements sound.flawless
    have harmless : allHarmless (spec.problems checkOrphans) = true :=
      documentProblems_of_decode decoded checkOrphans ▸ harmless
    exact ⟨spec, decoded, Spec.complete_of_allHarmless harmless⟩
  · intro root elements foundRoot named foundElements some
    have root' : (Outline.ofDocument (.object members)).root = root := by
      simp [Outline.ofDocument, Json.member?, foundRoot, Json.text?]
    have elements' : (Outline.ofDocument (.object members)).elements ≠ [] := by
      simpa [Outline.ofDocument, Json.member?, foundElements, Json.members?] using some
    constructor
    · rintro ⟨spec, decoded⟩ key fault problem
      have problem : .invalidElement key fault ∈ spec.problems checkOrphans :=
        documentProblems_of_decode decoded checkOrphans ▸ problem
      exact spec.invalidElement_notMem checkOrphans key fault problem
    · intro valid
      refine Spec.exists_decode (root'.symm ▸ named) elements' fun key element mem => ?_
      refine List.eq_nil_iff_forall_not_mem.mpr fun fault faulty => valid key fault ?_
      exact Outline.mem_problems_of_mem (root'.symm ▸ named) mem
        (ElementOutline.invalidElement_mem_problems_iff.mpr ⟨rfl, faulty⟩) checkOrphans

/-- A document with fields that are `null` and elements without properties. -/
theorem documentProblems_agree_null :
    let members : Members := [("root", .string "a"), ("elements", .object [
      ("a", .object [("children", .array [.string "b"]), ("visible", .null)]),
      ("b", .object [("type", .string "Text"), ("children", .null), ("note", .array [])])])]
    allHarmless (documentProblems (.object members) false) = true ∧
      ∃ spec, Spec.decode (.object members) = .ok spec ∧
        documentProblems (.object members) false = spec.problems false ∧
        spec.rootElement?.isSome ∧
        ∀ key fault, .invalidElement key fault ∉ documentProblems (.object members) false := by
  intro members
  have harmless : allHarmless (documentProblems (.object members) false) = true := by decide
  obtain ⟨typed, loads, valid⟩ := documentProblems_agree members false
  obtain ⟨spec, decoded, root, -⟩ := loads harmless
  have agree := valid "a" _ rfl (by decide) rfl (List.cons_ne_nil _ _)
  exact ⟨harmless, spec, decoded, typed spec decoded, root, agree.mp ⟨spec, decoded⟩⟩

end UiStream

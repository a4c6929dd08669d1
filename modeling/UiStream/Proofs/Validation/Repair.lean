import UiStream.Validation.Repair
import UiStream.Proofs.Json.Members
import UiStream.Proofs.Validation.Problems
import Mathlib.Data.List.Forall2
import Mathlib.Data.List.Nodup

/-!
# Documents that are repaired

`DocumentRepaired` says what a repair may do: in an element with properties the fields among them go
up to the element (`MovedUp`), and everything else stays as it is and where it is.  The repair of a
document is one (`repair_repaired`), and what it moves is what validation reports as misplaced
(`relocations_repair`).

The rest follows from the relation.  Among the properties of a repaired element are no fields
(`ElementRepaired.misplaced_eq_nil`), so that there is nothing left to repair, and it has the
children that it had (`ElementRepaired.children_eq`), so that the structural problems are the same.
-/

namespace UiStream

/-! ## What a repair may do -/

namespace ElementField

/-- The names of the fields, in the order in which they are looked for. -/
def names : List String := all.map name

theorem mem_names_iff {key : String} : key ∈ names ↔ ∃ field : ElementField, field.name = key := by
  constructor
  · intro listed
    obtain ⟨field, -, named⟩ := List.mem_map.mp listed
    exact ⟨field, named⟩
  · rintro ⟨_ | _ | _, rfl⟩ <;> decide

end ElementField

/-- An element with the given properties before and after the fields among these have been moved up
to it. -/
structure MovedUp (props before after : Members) : Prop where
  /-- The properties lose these fields, and keep the others in order. -/
  properties : Members.find? "props" after =
    some (.object (props.filter (·.1 ∉ ElementField.names)))
  /-- A field that was a property is a field of the element, with its value. -/
  moved : ∀ (field : ElementField) (v : Json), Members.find? field.name props = some v →
    Members.find? field.name after = some v
  /-- Every other member is what it was. -/
  same : ∀ key, key ≠ "props" →
    (∀ field : ElementField, field.name = key → Members.find? key props = none) →
      Members.find? key after = Members.find? key before
  /-- The members stay where they were, and new ones come last. -/
  order : Members.keys after = Members.keys before ++
    ElementField.names.filter fun name => Members.has name props && !Members.has name before

/-- An element before and after its repair. -/
inductive ElementRepaired : Json → Json → Prop
  | moved {before after props : Members} (found : Members.find? "props" before = some (.object props))
      (up : MovedUp props before after) : ElementRepaired (.object before) (.object after)
  | kept {v : Json} (none : (v.member? "props").bind Json.members? = none) : ElementRepaired v v

/-- A document before and after its repair. -/
inductive DocumentRepaired : Json → Json → Prop
  | elements {front back before after : Members} (first : Members.find? "elements" front = none)
      (each : List.Forall₂ (fun old new => old.1 = new.1 ∧ ElementRepaired old.2 new.2)
        before after) :
      DocumentRepaired (.object (front ++ ("elements", .object before) :: back))
        (.object (front ++ ("elements", .object after) :: back))
  | kept {v : Json} (none : (v.member? "elements").bind Json.members? = none) :
      DocumentRepaired v v

/-! ## Fields that are taken out of properties -/

theorem ElementField.name_injective : Function.Injective ElementField.name := by
  rintro (_ | _ | _) (_ | _ | _) same <;> first | rfl | exact absurd same (by decide)

/-- Which fields are taken, and with which values, does not depend on the order of taking them. -/
theorem takeFields_eq {fields : List ElementField} (distinct : fields.Nodup) {props : Members}
    (nodup : (Members.keys props).Nodup) :
    takeFields fields props =
      (fields.filterMap fun field => (Members.find? field.name props).map (field, ·),
        props.filter (·.1 ∉ fields.map ElementField.name)) := by
  induction fields generalizing props with
  | nil => simp [takeFields]
  | cons field fields ih =>
    obtain ⟨fresh, distinct⟩ := List.nodup_cons.mp distinct
    have split (key : String) : key ∉ (field :: fields).map ElementField.name ↔
        key ≠ field.name ∧ key ∉ fields.map ElementField.name := by
      rw [List.map_cons, List.mem_cons, not_or]
    rw [takeFields, List.filterMap_cons]
    cases found : Members.find? field.name props with
    | none =>
      have others : props.filter (·.1 ∉ (field :: fields).map ElementField.name) =
          props.filter (·.1 ∉ fields.map ElementField.name) := by
        refine List.filter_congr fun member mem => decide_eq_decide.mpr ((split _).trans ?_)
        refine and_iff_right fun same => Members.find?_eq_none_iff.mp found ?_
        exact same ▸ List.mem_map_of_mem mem
      dsimp only
      rw [ih distinct nodup, Option.map_none, others]
    | some v =>
      have later : (fields.filterMap fun other =>
            (Members.find? other.name (Members.erase field.name props)).map (other, ·)) =
          fields.filterMap fun other => (Members.find? other.name props).map (other, ·) := by
        refine List.filterMap_congr fun other listed => ?_
        have apart : field.name ≠ other.name := fun same =>
          fresh (ElementField.name_injective same ▸ listed)
        rw [Members.find?_erase nodup, if_neg apart]
      have left : (Members.erase field.name props).filter (·.1 ∉ fields.map ElementField.name) =
          props.filter (·.1 ∉ (field :: fields).map ElementField.name) := by
        rw [Members.erase_eq_filter nodup, List.filter_filter]
        refine List.filter_congr fun member _ => Bool.eq_iff_iff.mpr ?_
        rw [Bool.and_eq_true, decide_eq_true_eq, decide_eq_true_eq, bne_iff_ne, split, and_comm]
      dsimp only
      rw [ih distinct (Members.nodup_erase nodup field.name), Option.map_some, later, left]

/-! ## The repair of an element -/

/-- What an element becomes whose properties are given. -/
def movedUp (props before : Members) : Members :=
  Members.insertAll (Members.select ElementField.names props)
    (Members.insert "props" (.object (props.filter (·.1 ∉ ElementField.names))) before)

/-- Setting fields one after another is setting members by their names. -/
theorem foldl_insert (taken : List (ElementField × Json)) (members : Members) :
    taken.foldl (fun members (field, v) => Members.insert field.name v members) members =
      Members.insertAll (taken.map fun (field, v) => (field.name, v)) members := by
  rw [Members.insertAll, List.foldl_map]

/-- An element with properties becomes this one, and what moves are the fields among these. -/
theorem repairElement_object {before props : Members}
    (found : Members.find? "props" before = some (.object props))
    (nodup : (Members.keys props).Nodup) :
    repairElement (.object before) =
      (ElementField.all.filter (Members.has ·.name props), .object (movedUp props before)) := by
  have fields (fields : List ElementField) :
      (fields.filterMap fun field => (Members.find? field.name props).map (field, ·)).map (·.1) =
        fields.filter (Members.has ·.name props) := by
    induction fields with
    | nil => rfl
    | cons field fields ih =>
      rw [List.filterMap_cons, List.filter_cons, Members.has, ← ih]
      cases Members.find? field.name props <;> rfl
  have select : (ElementField.all.filterMap fun field =>
      (Members.find? field.name props).map (field, ·)).map (fun (field, v) => (field.name, v)) =
        Members.select ElementField.names props := by
    rw [Members.select, ElementField.names, List.filterMap_map, List.map_filterMap]
    simp only [Option.map_map, Function.comp_def]
  rw [repairElement, found]
  dsimp only
  rw [takeFields_eq (by decide) nodup]
  dsimp only
  rw [fields, foldl_insert, select, movedUp, ElementField.names]

theorem movedUp_movedUp {before props : Members}
    (found : Members.find? "props" before = some (.object props)) :
    MovedUp props before (movedUp props before) := by
  have distinct : (Members.keys (Members.select ElementField.names props)).Nodup := by
    rw [Members.keys_select]
    exact List.Nodup.filter _ (by decide)
  have own (key : String) : Members.find? key (movedUp props before) =
      (if key ∈ ElementField.names then Members.find? key props else none).or
        (Members.find? key
          (Members.insert "props" (.object (props.filter (·.1 ∉ ElementField.names))) before)) := by
    rw [movedUp, Members.find?_insertAll distinct, Members.find?_select]
  have apart {key : String} (listed : key ∈ ElementField.names) : "props" ≠ key := by
    rintro rfl
    exact absurd listed (by decide)
  refine ⟨?_, fun field v there => ?_, fun key other absent => ?_, ?_⟩
  · rw [own, if_neg (by decide), Option.none_or, Members.find?_insert_self]
  · rw [own, if_pos (ElementField.mem_names_iff.mpr ⟨field, rfl⟩), there, Option.some_or]
  · have nothing : (if key ∈ ElementField.names then Members.find? key props else none) = none := by
      split
      · next listed =>
        obtain ⟨field, named⟩ := ElementField.mem_names_iff.mp listed
        exact absent field named
      · rfl
    rw [own, nothing, Option.none_or, Members.find?_insert, if_neg (Ne.symm other)]
  · rw [movedUp, Members.keys_insertAll distinct, Members.keys_insert_of_find? found,
      Members.keys_select, List.filter_filter]
    refine congrArg _ (List.filter_congr fun name listed => ?_)
    rw [Members.has, Members.find?_insert, if_neg (apart listed), ← Members.has, Bool.and_comm]

/-- The properties of an element are given, or there are none. -/
theorem Json.bind_members?_eq_some_iff {v : Json} {key : String} {inner : Members} :
    (v.member? key).bind Json.members? = some inner ↔
      ∃ members, v = .object members ∧ Members.find? key members = some (.object inner) := by
  constructor
  · intro given
    obtain ⟨w, found, inside⟩ := Option.bind_eq_some_iff.mp given
    cases v with
    | object members =>
      cases w with
      | object own => cases inside; exact ⟨members, rfl, found⟩
      | null | bool | number | string | array => cases inside
    | null | bool | number | string | array => cases found
  · rintro ⟨members, rfl, found⟩
    rw [Json.member?, found]
    rfl

/-- An element without properties is not touched. -/
theorem repairElement_of_none {v : Json} (none : (v.member? "props").bind Json.members? = none) :
    repairElement v = ([], v) := by
  cases v with
  | object members =>
    rw [repairElement]
    split
    · next props found =>
      cases none.symm.trans (Json.bind_members?_eq_some_iff.mpr ⟨members, rfl, found⟩)
    · rfl
  | null | bool | number | string | array => rfl

/-- The repair of an element is one. -/
theorem repairElement_repaired {v : Json} (distinct : v.Distinct) :
    ElementRepaired v (repairElement v).2 := by
  cases given : (v.member? "props").bind Json.members? with
  | none =>
    rw [repairElement_of_none given]
    exact .kept given
  | some props =>
    obtain ⟨before, rfl, found⟩ := Json.bind_members?_eq_some_iff.mp given
    rw [repairElement_object found (distinct.member found).keys]
    exact .moved found (movedUp_movedUp found)

namespace ElementOutline

theorem misplaced_ofJson (v : Json) : (ofJson v).misplaced =
    ElementField.all.filter
      (Members.has ·.name (((v.member? "props").bind Json.members?).getD [])) := by
  cases v <;> rfl

end ElementOutline

/-- What moves are the misplaced fields. -/
theorem fields_repairElement {v : Json} (distinct : v.Distinct) :
    (repairElement v).1 = (ElementOutline.ofJson v).misplaced := by
  rw [ElementOutline.misplaced_ofJson]
  cases given : (v.member? "props").bind Json.members? with
  | none =>
    rw [repairElement_of_none given]
    rfl
  | some props =>
    obtain ⟨before, rfl, found⟩ := Json.bind_members?_eq_some_iff.mp given
    rw [repairElement_object found (distinct.member found).keys]
    rfl

/-- Where no field is misplaced nothing changes. -/
theorem repairElement_of_misplaced {v : Json} (clean : (ElementOutline.ofJson v).misplaced = []) :
    repairElement v = ([], v) := by
  cases given : (v.member? "props").bind Json.members? with
  | none => exact repairElement_of_none given
  | some props =>
    obtain ⟨before, rfl, found⟩ := Json.bind_members?_eq_some_iff.mp given
    have absent (field : ElementField) : Members.find? field.name props = none := by
      rw [ElementOutline.misplaced_ofJson, given] at clean
      have listed : field ∈ ElementField.all := by cases field <;> decide
      simpa [Members.has] using List.filter_eq_nil_iff.mp clean field listed
    have nothing (fields : List ElementField) : takeFields fields props = ([], props) := by
      induction fields with
      | nil => rfl
      | cons field fields ih => rw [takeFields, absent]; exact ih
    rw [repairElement, found]
    dsimp only
    rw [nothing]
    exact congrArg (fun members => ([], Json.object members)) (Members.insert_of_find? found)

/-! ## Elements that have been repaired -/

namespace ElementRepaired

variable {v w : Json}

/-- A repaired element has the children that it had. -/
theorem children_eq (repaired : ElementRepaired v w) :
    (ElementOutline.ofJson w).children = (ElementOutline.ofJson v).children := by
  cases repaired with
  | kept none => rfl
  | @moved before after props found up =>
    have same := up.same "children" (by decide) fun field named => by
      cases field <;> exact absurd named (by decide)
    rw [ElementOutline.ofJson, ElementOutline.ofJson, same]

/-- No field of a repaired element is among its properties. -/
theorem misplaced_eq_nil (repaired : ElementRepaired v w) :
    (ElementOutline.ofJson w).misplaced = [] := by
  rw [ElementOutline.misplaced_ofJson]
  refine List.filter_eq_nil_iff.mpr fun field _ => ?_
  cases repaired with
  | kept none =>
    rw [none]
    exact Bool.false_ne_true
  | @moved before after props found up =>
    have listed : field.name ∈ ElementField.names := ElementField.mem_names_iff.mpr ⟨field, rfl⟩
    have left : Members.find? field.name (props.filter (·.1 ∉ ElementField.names)) = none :=
      (Members.find?_filter (· ∉ ElementField.names) props).trans (if_neg (by simpa using listed))
    rw [Json.bind_members?_eq_some_iff.mpr ⟨after, rfl, up.properties⟩, Option.getD_some,
      Members.has, left]
    exact Bool.false_ne_true

end ElementRepaired

/-! ## The repair of a document -/

theorem repairElements_eq (elements : Members) :
    repairElements elements =
      (elements.flatMap fun (key, v) => (repairElement v).1.map (⟨key, ·⟩),
        elements.map fun (key, v) => (key, (repairElement v).2)) := by
  induction elements with
  | nil => rfl
  | cons element elements ih =>
    obtain ⟨key, v⟩ := element
    rw [repairElements, ih]
    rfl

/-- A document without elements is not touched. -/
theorem repair_of_none {document : Json}
    (none : (document.member? "elements").bind Json.members? = none) :
    repair document = ([], document) := by
  cases document with
  | object members =>
    rw [repair]
    split
    · next elements found =>
      cases none.symm.trans (Json.bind_members?_eq_some_iff.mpr ⟨members, rfl, found⟩)
    · rfl
  | null | bool | number | string | array => rfl

theorem repair_object {members elements : Members}
    (found : Members.find? "elements" members = some (.object elements)) :
    repair (.object members) =
      (elements.flatMap fun (key, v) => (repairElement v).1.map (⟨key, ·⟩),
        .object (Members.insert "elements"
          (.object (elements.map fun (key, v) => (key, (repairElement v).2))) members)) := by
  rw [repair, found]
  dsimp only
  rw [repairElements_eq]

/-- The repair of a document is one. -/
theorem repair_repaired {document : Json} (distinct : document.Distinct) :
    DocumentRepaired document (repair document).2 := by
  cases given : (document.member? "elements").bind Json.members? with
  | none =>
    rw [repair_of_none given]
    exact .kept given
  | some elements =>
    obtain ⟨members, rfl, found⟩ := Json.bind_members?_eq_some_iff.mp given
    have each := (distinct.member found)
    rw [repair_object found]
    obtain ⟨front, back, rfl, first, set⟩ := Members.exists_place_of_find? found
    rw [set]
    refine .elements first (List.forall₂_map_right_iff.mpr ?_)
    refine List.forall₂_same.mpr fun (key, v) mem => ⟨rfl, repairElement_repaired ?_⟩
    exact ((Json.distinct_object elements).mp each).2 key v mem

/-! ## Documents that have been repaired -/

theorem Outline.elements_ofDocument_object {members elements : Members}
    (found : Members.find? "elements" members = some (.object elements)) :
    (ofDocument (.object members)).elements = elements.map fun (key, v) => (key, .ofJson v) := by
  rw [ofDocument, Json.bind_members?_eq_some_iff.mpr ⟨members, rfl, found⟩]
  rfl

theorem Outline.elements_ofDocument_of_none {document : Json}
    (none : (document.member? "elements").bind Json.members? = none) :
    (ofDocument document).elements = [] := by
  rw [ofDocument, none]
  rfl

/-- What moves are the misplaced fields of the elements, in their order. -/
theorem relocations_repair {document : Json} (distinct : document.Distinct) :
    (repair document).1 =
      (Outline.ofDocument document).elements.flatMap fun (key, element) =>
        element.misplaced.map (⟨key, ·⟩) := by
  cases given : (document.member? "elements").bind Json.members? with
  | none => rw [repair_of_none given, Outline.elements_ofDocument_of_none given]; rfl
  | some elements =>
    obtain ⟨members, rfl, found⟩ := Json.bind_members?_eq_some_iff.mp given
    have each := ((Json.distinct_object elements).mp (distinct.member found)).2
    rw [repair_object found, Outline.elements_ofDocument_object found, List.flatMap_map]
    refine List.flatMap_congr fun (key, v) mem => ?_
    exact congrArg _ (fields_repairElement (each key v mem))

/-- Where no field of any element is misplaced nothing changes. -/
theorem repair_of_misplaced {document : Json}
    (clean : ∀ key element, (key, element) ∈ (Outline.ofDocument document).elements →
      element.misplaced = []) : repair document = ([], document) := by
  cases given : (document.member? "elements").bind Json.members? with
  | none => exact repair_of_none given
  | some elements =>
    obtain ⟨members, rfl, found⟩ := Json.bind_members?_eq_some_iff.mp given
    rw [Outline.elements_ofDocument_object found] at clean
    have still (key : String) (v : Json) (mem : (key, v) ∈ elements) :
        repairElement v = ([], v) :=
      repairElement_of_misplaced (clean key _ (List.mem_map.mpr ⟨(key, v), mem, rfl⟩))
    have moved : (elements.flatMap fun (key, v) => (repairElement v).1.map (⟨key, ·⟩)) =
        ([] : List Relocation) := by
      refine List.flatMap_eq_nil_iff.mpr fun (key, v) mem => ?_
      exact List.map_eq_nil_iff.mpr (congrArg Prod.fst (still key v mem))
    have same : (elements.map fun (key, v) => (key, (repairElement v).2)) = elements := by
      refine (List.map_congr_left fun (key, v) mem => ?_).trans (List.map_id elements)
      exact congrArg (fun repaired => (key, repaired.2)) (still key v mem)
    rw [repair_object found, moved, same, Members.insert_of_find? found]

namespace DocumentRepaired

variable {document fixed : Json}

theorem root_eq (repaired : DocumentRepaired document fixed) :
    (Outline.ofDocument fixed).root = (Outline.ofDocument document).root := by
  cases repaired with
  | kept none => rfl
  | elements first each =>
    simp only [Outline.ofDocument, Json.member?, Members.find?_place _ _ first]
    rw [if_neg (by decide), if_neg (by decide)]

/-- The elements of a repaired document are under the keys, and have the children, that they
had. -/
theorem links_eq (repaired : DocumentRepaired document fixed) :
    (Outline.ofDocument fixed).links = (Outline.ofDocument document).links := by
  cases repaired with
  | kept none => rfl
  | @elements front back before after first each =>
    have found (elements : Members) : Members.find? "elements"
        (front ++ ("elements", .object elements) :: back) = some (.object elements) := by
      rw [Members.find?_place front back first, if_pos rfl]
    rw [Outline.links, Outline.links, Outline.elements_ofDocument_object (found before),
      Outline.elements_ofDocument_object (found after), List.map_map, List.map_map,
      ← List.forall₂_eq_eq_eq, List.forall₂_map_left_iff, List.forall₂_map_right_iff]
    refine each.flip.imp fun new old related => ?_
    exact Prod.ext related.1.symm related.2.children_eq

/-- No field of an element in a repaired document is misplaced. -/
theorem misplaced_eq_nil (repaired : DocumentRepaired document fixed) (key : String)
    (element : ElementOutline) (mem : (key, element) ∈ (Outline.ofDocument fixed).elements) :
    element.misplaced = [] := by
  cases repaired with
  | kept none =>
    rw [Outline.elements_ofDocument_of_none none] at mem
    cases mem
  | @elements front back before after first each =>
    have found : Members.find? "elements" (front ++ ("elements", .object after) :: back) =
        some (.object after) := by
      rw [Members.find?_place front back first, if_pos rfl]
    rw [Outline.elements_ofDocument_object found] at mem
    obtain ⟨new, listed, same⟩ := List.mem_map.mp mem
    cases same
    obtain ⟨i, inside, rfl⟩ := List.mem_iff_getElem.mp listed
    exact (each.get (each.length_eq ▸ inside) inside).2.misplaced_eq_nil

/-- So no misplaced field is reported. -/
theorem filter_isMisplaced_eq_nil (repaired : DocumentRepaired document fixed)
    (checkOrphans : Bool) :
    (documentProblems fixed checkOrphans).filter Problem.isMisplaced = [] := by
  by_cases root : (Outline.ofDocument fixed).root = ""
  · rw [documentProblems, Outline.problems, if_pos root]
    rfl
  · rw [documentProblems, Outline.filter_isMisplaced_problems root]
    refine List.flatMap_eq_nil_iff.mpr fun entry mem => ?_
    exact List.map_eq_nil_iff.mpr (repaired.misplaced_eq_nil entry.1 entry.2 mem)

end DocumentRepaired

/-- **The repair moves exactly what validation reports as misplaced.**  In every document it takes
the fields of elements out of their properties, puts each with its value on its element, and keeps
all other members, values and places.  No misplaced field is reported afterwards; before, where
there is a root, those reported were the ones that moved, one by one.  The structural problems are
the same as before, and repairing again changes nothing. -/
theorem repair_exact {document : Json} (distinct : document.Distinct) :
    let moved := (repair document).1
    let fixed := (repair document).2
    DocumentRepaired document fixed ∧
      (∀ checkOrphans, (documentProblems fixed checkOrphans).filter Problem.isMisplaced = []) ∧
      (∀ checkOrphans root, document.member? "root" = some (.string root) → root ≠ "" →
        (documentProblems document checkOrphans).filter Problem.isMisplaced =
          moved.map fun relocation => .misplacedField relocation.key relocation.field) ∧
      (∀ checkOrphans, (documentProblems fixed checkOrphans).filter Problem.isStructural =
        (documentProblems document checkOrphans).filter Problem.isStructural) ∧
      repair fixed = ([], fixed) := by
  intro moved fixed
  have repaired : DocumentRepaired document fixed := repair_repaired distinct
  refine ⟨repaired, repaired.filter_isMisplaced_eq_nil, fun checkOrphans root given named => ?_,
    Outline.filter_isStructural_congr repaired.root_eq repaired.links_eq,
    repair_of_misplaced repaired.misplaced_eq_nil⟩
  have root' : (Outline.ofDocument document).root = root := by
    rw [Outline.ofDocument, given]
    rfl
  have relocations : moved = _ := relocations_repair distinct
  rw [documentProblems, Outline.filter_isMisplaced_problems (root'.symm ▸ named), relocations,
    List.map_flatMap]
  simp only [List.map_map, Function.comp_def]

/-- A field that replaces the one of its element, two that are new, an element that is no object,
and a child that does not exist. -/
theorem repair_exact_replaced :
    let children : Json := .array [.string "b", .string "e"]
    let document : Json := .object [("root", .string "a"), ("elements", .object [
      ("a", .object [("visible", .bool false), ("props", .object [("on", .null),
        ("title", .string "on"), ("visible", .bool true)]), ("children", children)]),
      ("b", .string "props"),
      ("c", .object [("props", .object [("repeat", .array [])])])]), ("props", .null)]
    let fixed : Json := .object [("root", .string "a"), ("elements", .object [
      ("a", .object [("visible", .bool true), ("props", .object [("title", .string "on")]),
        ("children", children), ("on", .null)]),
      ("b", .string "props"),
      ("c", .object [("props", .object []), ("repeat", .array [])])]), ("props", .null)]
    let moved : List Relocation := [⟨"a", .visible⟩, ⟨"a", .on⟩, ⟨"c", .repetition⟩]
    document.Distinct ∧ repair document = (moved, fixed) ∧ DocumentRepaired document fixed ∧
      (documentProblems document true).filter Problem.isMisplaced =
        [.misplacedField "a" .visible, .misplacedField "a" .on, .misplacedField "c" .repetition] ∧
      (documentProblems fixed true).filter Problem.isMisplaced = [] ∧
      (documentProblems fixed true).filter Problem.isStructural =
        (documentProblems document true).filter Problem.isStructural ∧
      repair fixed = ([], fixed) := by
  intro children document fixed moved
  have distinct : document.Distinct := by
    simp [document, children, Json.Distinct, Json.DistinctMembers, Json.DistinctItems]
  have result : repair document = (moved, fixed) := by decide
  obtain ⟨repaired, clean, reported, structural, again⟩ := repair_exact distinct
  rw [result] at repaired clean reported structural again
  exact ⟨distinct, result, repaired, reported true "a" rfl (by decide), clean true,
    structural true, again⟩

end UiStream

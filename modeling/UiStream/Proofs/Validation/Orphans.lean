import UiStream.Proofs.Validation.Problems
import UiStream.Proofs.Json.Members
import Mathlib.Data.List.Count
import Mathlib.Data.List.Nodup

/-!
# The orphans of an outline

Whoever asks for orphans gets the problems that there are without asking, and behind them one orphan
for each element that no chain of existing elements connects to the root, in the order of the
elements (`Outline.problems_true`).  `Outline.NamesOrphans` says this of a report, and
`orphans_exact` that the reports on specifications and on documents are such.

That the exploration finds exactly what can be reached is `Outline.mem_reachable_iff`.  Here it
decides `Outline.Reachable`, so that the elements which cannot be reached are a list.
-/

namespace UiStream

namespace Outline

variable {outline : Outline}

/-- The exploration decides what can be reached. -/
instance : DecidablePred outline.Reachable := fun _ => decidable_of_iff _ mem_reachable_iff

/-- The elements that no chain connects to the root, in their order. -/
def unreached (outline : Outline) : List String := outline.keys.filter (¬ outline.Reachable ·)

theorem mem_unreached_iff {key : String} :
    key ∈ outline.unreached ↔ key ∈ outline.keys ∧ ¬ outline.Reachable key := by
  simp [unreached]

/-- Without a root nothing can be reached. -/
theorem not_reachable_of_rootless (rootless : outline.root ∉ outline.keys) (key : String) :
    ¬ outline.Reachable key := by
  intro reached
  induction reached with
  | start there first => exact rootless (List.mem_singleton.mp first ▸ there)
  | child _ _ _ ih => exact ih

theorem unreached_of_rootless (rootless : outline.root ∉ outline.keys) :
    outline.unreached = outline.keys := by
  refine List.filter_eq_self.mpr fun key _ => ?_
  simpa using not_reachable_of_rootless rootless key

/-- The exploration leaves out just these elements. -/
theorem unreached_eq (outline : Outline) :
    outline.unreached = outline.keys.filter (!outline.reachable.contains ·) := by
  simp only [unreached, List.contains_eq_mem, mem_reachable_iff, decide_not]

/-! ## The orphans among the problems -/

theorem orphans_eq (outline : Outline) :
    outline.orphans = outline.unreached.map (.orphan · outline.root) := by
  rw [orphans, unreached_eq]

/-- Without asking for them no orphans are reported. -/
theorem orphan_notMem (outline : Outline) (key other : String) :
    .orphan key other ∉ outline.problems false := by
  intro listed
  unfold problems at listed
  split at listed
  · simp at listed
  · split at listed <;> split at listed <;>
      simp [elementProblems, ElementOutline.problems] at listed

/-- Asking for orphans adds the elements that cannot be reached, behind all other problems. -/
theorem problems_true (root : outline.root ≠ "") (elements : outline.elements ≠ []) :
    outline.problems true =
      outline.problems false ++ outline.unreached.map (.orphan · outline.root) := by
  simp [problems_eq root elements, orphans_eq]

/-- An element is reported as often as it is listed, if it cannot be reached, and not at all if it
can. -/
theorem count_orphan (root : outline.root ≠ "") (elements : outline.elements ≠ [])
    (key : String) : (outline.problems true).count (.orphan key outline.root) =
      if outline.Reachable key then 0 else outline.keys.count key := by
  have apart : (outline.problems false).count (.orphan key outline.root) = 0 :=
    List.count_eq_zero.mpr (outline.orphan_notMem key outline.root)
  have injective : Function.Injective (Problem.orphan · outline.root) := by
    intro key other same
    cases same
    rfl
  rw [problems_true root elements, List.count_append, apart, Nat.zero_add,
    List.count_map_of_injective _ _ injective]
  split
  · next reached => exact List.count_eq_zero.mpr fun mem => (mem_unreached_iff.mp mem).2 reached
  · next apart => exact List.count_filter (by simpa using apart)

/-- A report on an outline, with orphans or without, names as orphans what cannot be reached. -/
structure NamesOrphans (outline : Outline) (report : Bool → List Problem) : Prop where
  /-- Asking for orphans adds the elements that no chain connects to the root, in their order, and
  nothing else. -/
  added : report true = report false ++ outline.unreached.map (.orphan · outline.root)
  /-- Without asking there are none. -/
  unasked : ∀ key other, .orphan key other ∉ report false
  /-- Each element is named once or not at all. -/
  once : ∀ key ∈ outline.keys,
    (report true).count (.orphan key outline.root) = if outline.Reachable key then 0 else 1
  /-- Without a root each element is named. -/
  rootless : outline.root ∉ outline.keys →
    report true = report false ++ outline.keys.map (.orphan · outline.root)

theorem namesOrphans (root : outline.root ≠ "") (elements : outline.elements ≠ [])
    (nodup : outline.keys.Nodup) : outline.NamesOrphans outline.problems where
  added := problems_true root elements
  unasked := outline.orphan_notMem
  once key there := by
    rw [count_orphan root elements, List.count_eq_one_of_mem nodup there]
  rootless rootless := by
    rw [problems_true root elements, unreached_of_rootless rootless]

end Outline

/-- The keys of the elements in a document are distinct. -/
theorem Outline.nodup_ofDocument {document : Json} (distinct : document.Distinct) :
    (Outline.ofDocument document).keys.Nodup := by
  have keys : (ofDocument document).keys =
      Members.keys (((document.member? "elements").bind Json.members?).getD []) := by
    simp [Outline.keys, ofDocument, Members.keys]
  rw [keys]
  cases found : document.member? "elements" with
  | none => exact List.nodup_nil
  | some elements =>
    cases document with
    | object members =>
      have distinct := distinct.member found
      cases elements with
      | object members => exact distinct.keys
      | null | bool | number | string | array => exact List.nodup_nil
    | null | bool | number | string | array => cases found

/-- **Orphans are exactly the elements that cannot be reached**, in a specification and in a
document that need not decode, whose elements may be below themselves, be listed as children more
than once, or have children that do not exist.  Asking for orphans changes nothing else. -/
theorem orphans_exact :
    (∀ spec : Spec, spec.root ≠ "" → spec.elements ≠ [] → (spec.elements.map (·.1)).Nodup →
      spec.outline.NamesOrphans spec.problems) ∧
    ∀ document : Json, document.Distinct → (Outline.ofDocument document).root ≠ "" →
      (Outline.ofDocument document).elements ≠ [] →
      (Outline.ofDocument document).NamesOrphans (documentProblems document) := by
  constructor
  · intro spec root elements nodup
    refine Outline.namesOrphans root ?_ ?_
    · simpa [Spec.outline] using elements
    · rwa [Spec.keys_outline]
  · intro document distinct root elements
    exact Outline.namesOrphans root elements (Outline.nodup_ofDocument distinct)

/-- Two elements below each other that the root leads to twice, two that only lead to each other,
and children that are no elements, in a specification and in a document. -/
theorem orphans_exact_cyclic :
    let spec : Spec := {
      root := "a"
      elements := [("c", { children? := some ["d"] }), ("a", { children? := some ["b", "b", "e"] }),
        ("b", { children? := some ["a"] }), ("d", { children? := some ["c", "a"] })] }
    let children (keys : List Json) : Json := .object [("children", .array keys)]
    let document : Json := .object [("root", .string "a"), ("elements", .object [
      ("c", children [.string "d"]), ("a", children [.string "b", .null, .string "b"]),
      ("b", children [.string "a"]), ("d", children [.string "c", .string "a"]), ("e", .null)])]
    spec.problems true = spec.problems false ++ [.orphan "c" "a", .orphan "d" "a"] ∧
      documentProblems document true =
        documentProblems document false ++ [.orphan "c" "a", .orphan "d" "a", .orphan "e" "a"] := by
  intro spec children document
  have distinct : document.Distinct := by
    simp [document, children, Json.Distinct, Json.DistinctMembers, Json.DistinctItems]
  obtain ⟨specs, documents⟩ := orphans_exact
  have own := (specs spec (by decide) (by decide) (by decide)).added
  have raw := (documents document distinct (by decide) (by decide)).added
  have found : spec.outline.reachable = ["a", "b"] := by
    have a : spec.outline.childrenOf "a" = ["b", "b", "e"] := rfl
    have b : spec.outline.childrenOf "b" = ["a"] := rfl
    have keys : spec.outline.keys = ["c", "a", "b", "d"] := rfl
    have root : spec.outline.root = "a" := rfl
    simp [Outline.reachable, Outline.explore, keys, root, a, b]
  have found' : (Outline.ofDocument document).reachable = ["a", "b"] := by
    have a : (Outline.ofDocument document).childrenOf "a" = ["b", "b"] := rfl
    have b : (Outline.ofDocument document).childrenOf "b" = ["a"] := rfl
    have keys : (Outline.ofDocument document).keys = ["c", "a", "b", "d", "e"] := rfl
    have root : (Outline.ofDocument document).root = "a" := rfl
    simp [Outline.reachable, Outline.explore, keys, root, a, b]
  have named : spec.outline.unreached = ["c", "d"] := by
    rw [Outline.unreached_eq, found]
    rfl
  have named' : (Outline.ofDocument document).unreached = ["c", "d", "e"] := by
    rw [Outline.unreached_eq, found']
    rfl
  rw [named] at own
  rw [named'] at raw
  exact ⟨own, raw⟩

end UiStream

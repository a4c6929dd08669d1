import UiStream.Patch.Apply
import UiStream.Proofs.Pointer.Restore

/-!
# Patches that fail

A patch that fails leaves the document as it was (`Patch.apply_atomic`).  Only a move has changed
anything by the time it can fail: it has taken out its source.  It puts it back, which cannot fail
(`Json.exists_addAt_of_removeAt?`), and if the source is a member of an object it then stands last
in there.
-/

namespace UiStream

namespace Patch

/-- A write that fails gives the document back. -/
theorem document_of_ofWrite {document : Json} {written : Except PointerError Json}
    {error : PatchError} (failed : (Applied.ofWrite document written).error = some error) :
    (Applied.ofWrite document written).document = document := by
  cases written with
  | ok _ => cases failed
  | error _ => rfl

/-- A move that fails gives the document back, but for the place of an object member. -/
theorem document_of_applyMove {source path : String} {document : Json}
    (distinct : document.Distinct) {error : PatchError}
    (failed : (applyMove source path document).error = some error) :
    (applyMove source path document).document = document ∨
      MovedLast (Pointer.tokens source) document (applyMove source path document).document := by
  unfold applyMove at failed ⊢
  split
  · exact .inl rfl
  · next inside =>
    rw [if_neg inside] at failed
    cases removal : document.removeAt? source with
    | none => exact .inl rfl
    | some taken =>
      obtain ⟨value, rest⟩ := taken
      obtain ⟨restored, added, back⟩ := Json.exists_addAt_of_removeAt? removal
      simp only [removal] at failed ⊢
      cases addition : rest.addAt path value with
      | ok moved => rw [addition] at failed; cases failed
      | error e =>
        simp only [added]
        exact back distinct

/-- What is left of a document when a patch fails. -/
theorem document_of_error (patch : Patch) {document : Json} (distinct : document.Distinct)
    {error : PatchError} (failed : (patch.apply document).error = some error) :
    (patch.apply document).document = document ∨
      ∃ source path, patch = .move source path ∧
        MovedLast (Pointer.tokens source) document (patch.apply document).document := by
  cases patch with
  | add path value | replace path value => exact .inl (document_of_ofWrite failed)
  | remove path =>
    rw [apply] at failed
    cases removal : document.removeAt? path <;> rw [removal] at failed <;> cases failed
  | copy source path =>
    rw [apply] at failed ⊢
    cases found : document.at? source with
    | none => exact .inl rfl
    | some value => rw [found] at failed; exact .inl (document_of_ofWrite failed)
  | move source path =>
    exact (document_of_applyMove distinct failed).imp_right fun moved => ⟨source, path, rfl, moved⟩
  | test path value =>
    rw [apply]
    split <;> exact .inl rfl

/-- **A patch that fails leaves the document as it was**, except that the source of a failed move,
if it is a member of an object, may have become the last one there.  The write that puts a source
back never fails. -/
theorem apply_atomic (patch : Patch) (document : Json) (distinct : document.Distinct) :
    (∀ error, (patch.apply document).error = some error →
      (patch.apply document).document = document ∨
        ∃ source path, patch = .move source path ∧
          MovedLast (Pointer.tokens source) document (patch.apply document).document) ∧
    ∀ source value rest, document.removeAt? source = some (value, rest) →
      ∃ restored, rest.addAt source value = .ok restored := by
  refine ⟨fun _ failed => document_of_error patch distinct failed, ?_⟩
  intro source value rest taken
  obtain ⟨restored, added, _⟩ := Json.exists_addAt_of_removeAt? taken
  exact ⟨restored, added⟩

/-- A move out of an object into a place that cannot be written: the member comes back last. -/
theorem apply_atomic_member :
    let document : Json := .object [("a", .null), ("b", .bool true), ("list", .array [])]
    let moved : Patch := .move "/a" "/list/x"
    document.Distinct ∧
      (moved.apply document).error = some (.pointer (.invalidIndex "/list/x" "x")) ∧
      (moved.apply document).document =
        .object [("b", .bool true), ("list", .array []), ("a", .null)] ∧
      ((moved.apply document).document = document ∨
        ∃ source path, moved = .move source path ∧
          MovedLast (Pointer.tokens source) document (moved.apply document).document) := by
  intro document moved
  have distinct : document.Distinct := ⟨by decide, trivial, trivial, trivial, trivial⟩
  have failed : (moved.apply document).error = some (.pointer (.invalidIndex "/list/x" "x")) := rfl
  exact ⟨distinct, failed, rfl, (apply_atomic moved document distinct).1 _ failed⟩

end Patch

end UiStream

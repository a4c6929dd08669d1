import UiStream.Proofs.Patch.Atomic
import UiStream.Proofs.Pointer.Alike

/-!
# Patches on alike documents

A patch does the same to alike documents: it fails on both for the same reason or on neither, and
leaves them alike (`Patch.apply_alike`).  A patch that fails leaves the document alike what it was
(`Patch.alike_of_error`).
-/

namespace UiStream

open Json (Alike alike_self)

/-- No object in the value a patch carries repeats a key. -/
def Patch.Distinct (patch : Patch) : Prop := ∀ v, patch.value? = some v → v.Distinct

/-- Two outcomes with the same error and alike documents. -/
structure Applied.Alike (one other : Applied) : Prop where
  error : one.error = other.error
  document : Json.Alike one.document other.document

namespace Patch

variable {a b : Json}

theorem ofWrite_alike (h : Alike a b) {written other : Except PointerError Json}
    (writes : WritesAlike written other) :
    (Applied.ofWrite a written).Alike (Applied.ofWrite b other) := by
  cases writes with
  | ok moved => exact ⟨rfl, moved⟩
  | error e => exact ⟨rfl, h⟩

theorem applyMove_alike (source path : String) (h : Alike a b) :
    (applyMove source path a).Alike (applyMove source path b) := by
  unfold applyMove
  split
  · exact ⟨rfl, h⟩
  · obtain ⟨none, none'⟩ | ⟨⟨value, rest⟩, ⟨value', rest'⟩, some, some', values, rests⟩ :=
      (Json.removeAt?_alike h source).none_or_some
    · simp only [none, none']
      exact ⟨rfl, h⟩
    · simp only [some, some']
      have writes := Json.addAt_alike rests path values
      have back := Json.addAt_alike rests source values
      revert writes back
      generalize rest.addAt path value = written
      generalize rest'.addAt path value' = written'
      generalize rest.addAt source value = restored
      generalize rest'.addAt source value' = restored'
      rintro (moved | error) (again | error')
      · exact ⟨rfl, moved⟩
      · exact ⟨rfl, moved⟩
      · exact ⟨rfl, again⟩
      · exact ⟨rfl, rests⟩

/-- A patch does the same to alike documents. -/
theorem apply_alike {patch : Patch} (distinct : patch.Distinct) (h : Alike a b) :
    (patch.apply a).Alike (patch.apply b) := by
  cases patch with
  | add path value =>
    exact ofWrite_alike h (Json.addAt_alike h path (alike_self.mpr (distinct value rfl)))
  | replace path value =>
    exact ofWrite_alike h (Json.setAt_alike h path (alike_self.mpr (distinct value rfl)))
  | remove path =>
    rw [apply, apply]
    obtain ⟨none, none'⟩ | ⟨_, _, some, some', taken⟩ := (Json.removeAt?_alike h path).none_or_some
    · rw [none, none']
      exact ⟨rfl, h⟩
    · rw [some, some']
      exact ⟨rfl, taken.2⟩
  | copy source path =>
    rw [apply, apply]
    obtain ⟨none, none'⟩ | ⟨_, _, some, some', found⟩ := (Json.at?_alike h source).none_or_some
    · rw [none, none']
      exact ⟨rfl, h⟩
    · rw [some, some']
      exact ofWrite_alike h (Json.addAt_alike h path found)
  | move source path => exact applyMove_alike source path h
  | test path value =>
    rw [apply, apply, Json.equal?_alike (Json.at?_alike h path)]
    split
    · exact ⟨rfl, h⟩
    · exact ⟨rfl, h⟩

/-- A patch that fails leaves the document alike what it was. -/
theorem alike_of_error (patch : Patch) {document : Json} (distinct : document.Distinct)
    {error : PatchError} (failed : (patch.apply document).error = some error) :
    Alike document (patch.apply document).document := by
  rcases document_of_error patch distinct failed with same | ⟨source, path, _, moved⟩
  · rw [same]
    exact alike_self.mpr distinct
  · exact moved.alike distinct

end Patch

end UiStream

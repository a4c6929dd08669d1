import UiStream.Proofs.Patch.Alike
import UiStream.Proofs.Pointer.Apart

/-!
# Patches in different places

Two patches that add, replace or remove something in different places can be applied in any order:
each fails in both orders for the same reason or in neither, and the documents are alike in the end
(`Patch.apply_comm`).  Such a patch is a `Pointer.Change` at its path (`Patch.apply_eq_change`), and
what holds of two changes in different places holds of it.
-/

namespace UiStream

open Json (Alike alike_self)
open Pointer (Apart Change)

namespace Patch

/-- What a patch does at its path, if it only adds, replaces or removes something there. -/
def change? : Patch → Option Change
  | add _ value => some (.write Pointer.addItem value)
  | replace _ value => some (.write Pointer.setItem value)
  | remove _ => some .erase
  | move _ _ | copy _ _ | test _ _ => none

section One

variable {patch : Patch} {change : Change}

/-- Patches that add, replace or remove are changes. -/
theorem exists_change (edits : patch.op ∈ ["add", "replace", "remove"]) :
    ∃ change, patch.change? = some change := by
  cases patch with
  | add | replace | remove => exact ⟨_, rfl⟩
  | move | copy | test => simp [op] at edits

/-- The change of a patch keeps documents alike. -/
theorem respectful_of_change? (distinct : patch.Distinct) (changes : patch.change? = some change) :
    change.Respectful := by
  cases patch with
  | add path value => cases changes; exact ⟨Pointer.addItem_respectful, distinct value rfl⟩
  | replace path value => cases changes; exact ⟨Pointer.setItem_respectful, distinct value rfl⟩
  | remove path => cases changes; exact trivial
  | move | copy | test => cases changes

/-- Below the whole document a patch is its change, unless something speaks against it. -/
theorem apply_eq_change (changes : patch.change? = some change)
    (below : Pointer.tokens patch.path ≠ []) (document : Json) :
    patch.apply document =
      match change.check patch.path (Pointer.tokens patch.path) document with
      | .ok () => .done (change.run (Pointer.tokens patch.path) document)
      | .error error => .failed document (.pointer error) := by
  obtain ⟨token, rest, tokens⟩ := List.exists_cons_of_ne_nil below
  cases patch with
  | add place value | replace place value =>
    cases changes
    rw [path] at tokens ⊢
    simp only [apply, Json.addAt, Json.setAt, tokens, Change.check, Change.run]
    cases Pointer.checkWritable place (token :: rest) (some document) <;> rfl
  | remove place =>
    cases changes
    rw [apply, Json.removeAt?, path, Change.check, Change.run]
    cases Pointer.removeTokens? (Pointer.tokens place) document <;> rfl
  | move | copy | test => cases changes

end One

/-- **Patches in different places commute.**  Of two patches that add, replace or remove, at paths
that part at two keys, each fails after the other for the reason for which it would fail before it,
or in neither order, and the documents are alike in the end. -/
theorem apply_comm (p q : Patch) (edits : p.op ∈ ["add", "replace", "remove"])
    (edits' : q.op ∈ ["add", "replace", "remove"]) (distinct : p.Distinct) (distinct' : q.Distinct)
    (apart : Apart (Pointer.tokens p.path) (Pointer.tokens q.path)) (document : Json)
    (unique : document.Distinct) :
    (p.apply document).error = (p.apply (q.apply document).document).error ∧
      (q.apply (p.apply document).document).error = (q.apply document).error ∧
      Alike (q.apply (p.apply document).document).document
        (p.apply (q.apply document).document).document := by
  obtain ⟨change, changes⟩ := exists_change edits
  obtain ⟨other, changes'⟩ := exists_change edits'
  have eq := apply_eq_change changes apart.ne_nil
  have eq' := apply_eq_change changes' apart.symm.ne_nil
  rw [eq document, eq' document]
  cases allowed : change.check p.path (Pointer.tokens p.path) document with
  | error e =>
    cases allowed' : other.check q.path (Pointer.tokens q.path) document with
    | error e' =>
      -- neither patch changes anything
      simp only [Applied.failed, eq, eq', allowed, allowed']
      exact ⟨trivial, trivial, alike_self.mpr unique⟩
    | ok _ =>
      have still := (Change.check_run apart p.path unique allowed').trans allowed
      simp only [Applied.failed, Applied.done, eq, eq', allowed', still]
      exact ⟨trivial, trivial, alike_self.mpr
        (Change.distinct_run (respectful_of_change? distinct' changes') unique _)⟩
  | ok _ =>
    cases allowed' : other.check q.path (Pointer.tokens q.path) document with
    | error e' =>
      have still' := (Change.check_run apart.symm q.path unique allowed).trans allowed'
      simp only [Applied.failed, Applied.done, eq, eq', allowed, still']
      exact ⟨trivial, trivial, alike_self.mpr
        (Change.distinct_run (respectful_of_change? distinct changes) unique _)⟩
    | ok _ =>
      have still := (Change.check_run apart p.path unique allowed').trans allowed
      have still' := (Change.check_run apart.symm q.path unique allowed).trans allowed'
      simp only [Applied.done, eq, eq', still, still']
      exact ⟨trivial, trivial, (Change.run_comm apart unique
        (respectful_of_change? distinct changes) (respectful_of_change? distinct' changes')
        allowed allowed').symm⟩

/-- Both patches need an array in place of a text, and whichever comes first makes and pads it.  The
members of the new object stand in the order in which they came. -/
theorem apply_comm_padded :
    let p : Patch := .add "/rows/2/name/-" (.string "x")
    let q : Patch := .replace "/rows/2/size" .null
    let document : Json := .object [("rows", .string "none")]
    (q.apply (p.apply document).document).document = .object [("rows",
        .array [.null, .null, .object [("name", .array [.string "x"]), ("size", .null)]])] ∧
      (p.apply (q.apply document).document).document = .object [("rows",
        .array [.null, .null, .object [("size", .null), ("name", .array [.string "x"])]])] ∧
      Alike (q.apply (p.apply document).document).document
        (p.apply (q.apply document).document).document := by
  intro p q document
  have tokens : Pointer.tokens p.path = ["rows", "2", "name", "-"] := by decide
  have tokens' : Pointer.tokens q.path = ["rows", "2", "size"] := by decide
  have apart : Apart (Pointer.tokens p.path) (Pointer.tokens q.path) := by
    rw [tokens, tokens']
    exact .deeper (by decide) (.deeper (by decide) (.here (by decide) (by decide) (by decide)))
  have unique : document.Distinct := ⟨by decide, trivial, trivial⟩
  obtain ⟨-, -, alike⟩ := apply_comm p q (by decide) (by decide)
    (fun _ h => by cases h; exact trivial) (fun _ h => by cases h; exact trivial) apart document
    unique
  exact ⟨rfl, rfl, alike⟩

end Patch

end UiStream

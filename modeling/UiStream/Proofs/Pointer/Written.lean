import UiStream.Proofs.Pointer.Joined
import UiStream.Proofs.Pointer.Passing

/-!
# Reading what was written

A value that was set at a pointer is read there again (`Json.get?_writeTokens`), if no token of the
pointer asks for a place behind the end of an array: such a token writes and never reads.

The tokens in front may be walked first: where they lead to something, a write behind them goes on
in that and leaves its result in the same place (`Json.get?_writeTokens_append`), and whether it can
be made is decided there (`Pointer.checkWritable_append`).
-/

namespace UiStream

namespace Pointer

variable {token pointer : String} {doc : Json}

/-! ## Setting behind one token -/

/-- Setting an item, or padding an array up to it, is putting it in its place. -/
theorem setItem_eq_set (token : String) (value : Json) (items : List Json) :
    setItem token value items =
      (padTo (slot token items.length + 1) items).set (slot token items.length) value := by
  have last {i : Nat} (outside : items.length ≤ i) :
      (padTo (i + 1) items).set i value = padTo i items ++ [value] := by
    have split : padTo (i + 1) items = padTo i items ++ [.null] := by
      rw [padTo, padTo, Nat.succ_sub outside, List.replicate_succ', ← List.append_assoc]
    have length : (padTo i items).length = i := by
      rw [padTo, List.length_append, List.length_replicate]
      omega
    rw [split, List.set_append_right i value (by omega), length, Nat.sub_self]
    rfl
  rw [setItem, slot]
  cases index? token with
  | none => rw [Option.getD_none, last (Nat.le_refl _), padTo_of_le (Nat.le_refl _)]
  | some i =>
    rw [Option.getD_some]
    dsimp only
    split
    · next inside => rw [padTo_of_le inside]
    · next outside => rw [last (Nat.not_lt.mp outside)]

/-- A value that is set behind a token is put there, whatever tokens come after it. -/
theorem writeTokens_setItem_cons (value : Json) (token : String) (rest : List String)
    (doc : Json) :
    writeTokens setItem value (token :: rest) doc =
      put token (writeTokens setItem value rest (doc.under token)) doc := by
  cases rest with
  | cons next rest => exact writeTokens_cons setItem value (List.cons_ne_nil next rest) token doc
  | nil =>
    have whole : writeTokens setItem value [] (doc.under token) = value := by rw [writeTokens]
    rw [whole, writeTokens]
    obtain ⟨items, made, -⟩ | ⟨members, made, -⟩ := vivify_cases token doc
    · rw [put_array made, made]
      exact congrArg Json.array (setItem_eq_set token value items)
    · rw [put_object made, made]

/-! ## Writing behind what is there -/

/-- What can be written behind tokens that lead somewhere is what can be written there. -/
theorem checkWritable_append {first : List String} {inner : Json}
    (found : doc.get? first = some inner) (pointer : String) (rest : List String) :
    checkWritable pointer (first ++ rest) (some doc) = checkWritable pointer rest (some inner) := by
  induction first generalizing doc with
  | nil => cases found; rfl
  | cons token first ih =>
    obtain ⟨child, here, found⟩ := Option.bind_eq_some_iff.mp found
    rw [List.cons_append, ← ih found]
    cases doc with
    | array items =>
      obtain ⟨i, place, here⟩ := Option.bind_eq_some_iff.mp here
      exact checkWritable_item place here pointer (first ++ rest)
    | object members => exact checkWritable_member here pointer (first ++ rest)
    | null | bool | number | string => cases here

end Pointer

open Pointer

namespace Json

/-- A write behind tokens that lead somewhere leaves there what it makes of what was there. -/
theorem get?_writeTokens_append {place : String → Json → List Json → List Json} {value : Json}
    {first rest : List String} (more : rest ≠ []) {doc inner : Json}
    (found : doc.get? first = some inner) :
    (writeTokens place value (first ++ rest) doc).get? first =
      some (writeTokens place value rest inner) := by
  induction first generalizing doc with
  | nil => cases found; rfl
  | cons token first ih =>
    obtain ⟨child, here, found⟩ := Option.bind_eq_some_iff.mp found
    have passable := passable_of_child? here
    have under : doc.under token = child := by rw [Json.under, here]; rfl
    have more := List.append_ne_nil_of_right_ne_nil first more
    rw [List.cons_append, writeTokens_cons place value more, under, get?, passable.child?_put]
    exact ih found

/-- A value that was set is read again. -/
theorem get?_writeTokens {pointer : String} {tokens : List String} (fixed : append ∉ tokens)
    {doc : Json} (writable : checkWritable pointer tokens (some doc) = .ok ()) (value : Json) :
    (writeTokens setItem value tokens doc).get? tokens = some value := by
  induction tokens generalizing doc with
  | nil => rw [writeTokens]; rfl
  | cons token rest ih =>
    obtain ⟨other, fixed⟩ := not_or.mp (mt List.mem_cons.mpr fixed)
    have passable := passable_of_checkWritable (Ne.symm other) writable
    rw [passable.checkWritable (Ne.symm other)] at writable
    rw [writeTokens_setItem_cons, get?, passable.child?_put]
    exact ih fixed writable

/-- Setting a value is a walk that starts with the check, also where there is nothing to walk. -/
theorem setAt_eq_checked (doc value : Json) (pointer : String) : doc.setAt pointer value = (do
    checkWritable pointer (tokens pointer) (some doc)
    return writeTokens setItem value (tokens pointer) doc) := by
  unfold setAt
  cases tokens pointer with
  | nil => rw [checkWritable, writeTokens]; rfl
  | cons token rest => rfl

/-- A value is set if its pointer can be written. -/
theorem setAt_eq_ok_iff {doc value after : Json} {pointer : String} :
    doc.setAt pointer value = .ok after ↔
      checkWritable pointer (tokens pointer) (some doc) = .ok () ∧
        writeTokens setItem value (tokens pointer) doc = after := by
  rw [setAt_eq_checked]
  cases checkWritable pointer (tokens pointer) (some doc) <;>
    simp [bind, Except.bind, pure, Except.pure]

end Json

end UiStream

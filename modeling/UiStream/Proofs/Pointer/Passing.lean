import UiStream.Proofs.Pointer.Alike

/-!
# Passing a token

A write that goes on behind a token puts something under it, in a container that is made if there
is none (`Pointer.put`).  Whether that can be done is a question about the token and the container
alone (`Pointer.Passable`).  If it can, what was put is found there again, and a write along the
token and those behind it is a write along those behind it to the value under the token
(`Pointer.writeTokens_cons`, `Pointer.Passable.checkWritable`).
-/

namespace UiStream

open Json (Alike alike_self)

/-- The value under a token, `null` if there is none. -/
def Json.under (token : String) (doc : Json) : Json := (doc.child? token).getD .null

/-- The value under a token repeats no keys if the document does not. -/
theorem Json.Distinct.under {doc : Json} (distinct : doc.Distinct) (token : String) :
    (doc.under token).Distinct := by
  rw [Json.under]
  cases found : doc.child? token with
  | none => exact trivial
  | some inner =>
    cases doc with
    | array items =>
      obtain ⟨i, -, found⟩ := Option.bind_eq_some_iff.mp found
      exact distinct.item found
    | object members => exact distinct.member found
    | null | bool | number | string => cases found

namespace Pointer

/-- The document with a value under a token, in a container that is made if there is none. -/
def put (token : String) (value : Json) (doc : Json) : Json :=
  match vivify token doc with
  | .array items =>
    let i := slot token items.length
    .array ((padTo (i + 1) items).set i value)
  | .object members => .object (Members.insert token value members)
  | other => other

/-- A token can be passed: in an array, whether it is there or would be made, it is an index and not
too far past the end. -/
def Passable (token : String) (doc : Json) : Prop :=
  ∀ items, vivify token doc = .array items →
    ∃ i, index? token = some i ∧ i ≤ items.length + maxPadding

/-- Padding makes an array long enough. -/
theorem le_length_padTo (length : Nat) (items : List Json) :
    length ≤ (padTo length items).length := by
  rw [padTo, List.length_append, List.length_replicate]
  omega

/-- The items of a padded array. -/
theorem getElem?_padTo {i length : Nat} (inside : i < length) (items : List Json) :
    (padTo length items)[i]? = some (items[i]?.getD .null) := by
  rw [padTo, List.getElem?_append]
  split
  · next h => rw [List.getElem?_eq_getElem h]; rfl
  · next h =>
    rw [List.getElem?_eq_none (Nat.not_lt.mp h), List.getElem?_replicate, if_pos (by omega)]
    rfl

section Passing

variable {token : String} {doc : Json}

/-- A value becomes an array or an object, in which the token finds what it found in the value. -/
theorem vivify_cases (token : String) (doc : Json) :
    (∃ items, vivify token doc = .array items ∧
      doc.under token = items[slot token items.length]?.getD .null) ∨
    ∃ members, vivify token doc = .object members ∧
      doc.under token = (Members.find? token members).getD .null := by
  cases doc with
  | array items =>
    refine .inl ⟨items, rfl, ?_⟩
    rw [Json.under, Json.child?, slot]
    cases index? token with
    | none => rw [Option.getD_none, List.getElem?_eq_none (Nat.le_refl _)]; rfl
    | some i => rfl
  | object members => exact .inr ⟨members, rfl, rfl⟩
  | null | bool | number | string =>
    by_cases array : isArrayToken token
    · exact .inl ⟨[], if_pos array, rfl⟩
    · exact .inr ⟨[], if_neg array, rfl⟩

/-- In an array a value is put at the index, behind `null`s if that is past the end. -/
theorem put_array {items : List Json} (made : vivify token doc = .array items) (value : Json) :
    put token value doc =
      .array ((padTo (slot token items.length + 1) items).set (slot token items.length) value) := by
  simp only [put, made]

/-- In an object a value is put as a member. -/
theorem put_object {members : Members} (made : vivify token doc = .object members)
    (value : Json) : put token value doc = .object (Members.insert token value members) := by
  simp only [put, made]

/-- What a passable token puts a value into: an item of an array, or a member of an object. -/
theorem Passable.put_cases (passable : Passable token doc) :
    (∃ items i, vivify token doc = .array items ∧ index? token = some i ∧
      i ≤ items.length + maxPadding ∧ doc.under token = items[i]?.getD .null ∧
      ∀ value, put token value doc = .array ((padTo (i + 1) items).set i value)) ∨
    ∃ members, vivify token doc = .object members ∧
      doc.under token = (Members.find? token members).getD .null ∧
      ∀ value, put token value doc = .object (Members.insert token value members) := by
  obtain ⟨items, made, found⟩ | ⟨members, made, found⟩ := vivify_cases token doc
  · obtain ⟨i, place, near⟩ := passable items made
    have here : slot token items.length = i := by rw [slot, place, Option.getD_some]
    rw [here] at found
    refine .inl ⟨items, i, made, place, near, found, fun value => ?_⟩
    rw [put_array made, here]
  · exact .inr ⟨members, made, found, put_object made⟩

/-- A token that leads to something can be passed. -/
theorem passable_of_child? {inner : Json} (found : doc.child? token = some inner) :
    Passable token doc := by
  intro items made
  cases doc with
  | array own =>
    cases made
    obtain ⟨i, place, found⟩ := Option.bind_eq_some_iff.mp found
    have inside := (List.getElem?_eq_some_iff.mp found).1
    exact ⟨i, place, by omega⟩
  | object members => cases made
  | null | bool | number | string => cases found

/-- What was put under a token is found there. -/
theorem Passable.child?_put (passable : Passable token doc) (value : Json) :
    (put token value doc).child? token = some value := by
  obtain ⟨items, i, -, place, -, -, put⟩ | ⟨members, -, -, put⟩ := passable.put_cases
  · have inside : i < (padTo (i + 1) items).length := le_length_padTo (i + 1) items
    rw [put, Json.child?, place, Option.bind_some, List.getElem?_set_self inside]
  · rw [put, Json.child?, Members.find?_insert_self]

theorem Passable.under_put (passable : Passable token doc) (value : Json) :
    (put token value doc).under token = value := by
  rw [Json.under, passable.child?_put]
  rfl

/-- Putting again forgets what was put before. -/
theorem Passable.put_put (passable : Passable token doc) (value old : Json) :
    put token value (put token old doc) = put token value doc := by
  obtain ⟨items, i, -, place, -, -, all⟩ | ⟨members, -, -, all⟩ := passable.put_cases
  · have enough : i + 1 ≤ ((padTo (i + 1) items).set i old).length := by
      rw [List.length_set]
      exact le_length_padTo (i + 1) items
    rw [all, all, put, vivify]
    simp only [slot, place, Option.getD_some, padTo_of_le enough, List.set_set]
  · rw [all, all, put, vivify]
    simp only [Members.insert_insert]

/-- Putting what is found under a token changes nothing. -/
theorem put_of_child? {inner : Json} (found : doc.child? token = some inner) :
    put token inner doc = doc := by
  cases doc with
  | array items =>
    obtain ⟨i, place, found⟩ := Option.bind_eq_some_iff.mp found
    obtain ⟨inside, rfl⟩ := List.getElem?_eq_some_iff.mp found
    rw [put, vivify]
    simp only [slot, place, Option.getD_some, padTo_of_le (Nat.succ_le_of_lt inside),
      List.set_getElem_self]
  | object members => exact congrArg Json.object (Members.insert_of_find? found)
  | null | bool | number | string => cases found

/-- Alike values are put into alike documents. -/
theorem Passable.put_alike (passable : Passable token doc) (distinct : doc.Distinct)
    {value other : Json} (h : Alike value other) :
    Alike (put token value doc) (put token other doc) := by
  have made := vivify_alike (alike_self.mpr distinct) token
  obtain ⟨items, i, array, -, -, -, all⟩ | ⟨members, object, -, all⟩ := passable.put_cases
  · obtain ⟨_, _, ha, hb, made⟩ | ⟨_, _, ha, -, -⟩ := made
    · cases array.symm.trans ha
      cases array.symm.trans hb
      rw [all, all]
      exact Json.alike_set (padTo_alike made (i + 1)) i h
    · cases array.symm.trans ha
  · obtain ⟨_, _, ha, -, -⟩ | ⟨_, _, ha, hb, made⟩ := made
    · cases object.symm.trans ha
    · cases object.symm.trans ha
      cases object.symm.trans hb
      rw [all, all]
      exact Json.alike_insert made token h

/-! ## Writing and removing past a token -/

/-- A write past a token puts there what it makes of the value there. -/
theorem writeTokens_cons (place : String → Json → List Json → List Json) (value : Json)
    {rest : List String} (more : rest ≠ []) (token : String) (doc : Json) :
    writeTokens place value (token :: rest) doc =
      put token (writeTokens place value rest (doc.under token)) doc := by
  obtain ⟨next, rest, rfl⟩ := List.exists_cons_of_ne_nil more
  rw [writeTokens]
  obtain ⟨items, made, under⟩ | ⟨members, made, under⟩ := vivify_cases token doc
  · have found := getElem?_padTo (Nat.lt_succ_self (slot token items.length)) items
    simp only [made, put_array made, under]
    rw [List.modify_eq_set, found]
    rfl
  · simp only [made, put_object made, under]

/-- A missing value is written to like `null`. -/
theorem checkWritable_getD (pointer : String) (tokens : List String) (found : Option Json) :
    checkWritable pointer tokens (some (found.getD .null)) =
      checkWritable pointer tokens found := by
  cases found with
  | some v => rfl
  | none => cases tokens <;> rfl

/-- A token is checked against the array that it would act on, and what follows it against the value
under it. -/
theorem checkWritable_cons (fixed : token ≠ append) (pointer : String) (rest : List String) :
    checkWritable pointer (token :: rest) (some doc) = (do
      match vivify token doc with
        | .array items => checkIndex pointer token items.length
        | _ => .ok ()
      checkWritable pointer rest (some (doc.under token))) := by
  rw [Json.under, checkWritable_getD]
  cases doc with
  | array items => rw [checkWritable]; rfl
  | object members => rfl
  | null | bool | number | string =>
    have array : isArrayToken token = isNumeric token := by simp [isArrayToken, fixed]
    cases numeric : isNumeric token <;> simp [checkWritable, vivify, array, numeric] <;> rfl

/-- An index that may act on an array is near it. -/
theorem checkIndex_eq_ok_iff (fixed : token ≠ append) (pointer : String) (length : Nat) :
    checkIndex pointer token length = .ok () ↔
      ∃ i, index? token = some i ∧ i ≤ length + maxPadding := by
  rw [checkIndex, if_neg fixed]
  cases index? token with
  | none => simp
  | some i => simp

/-- What can be written past a token is what can be written under it. -/
theorem Passable.checkWritable (passable : Passable token doc) (fixed : token ≠ append)
    (pointer : String) (rest : List String) :
    checkWritable pointer (token :: rest) (some doc) =
      checkWritable pointer rest (some (doc.under token)) := by
  rw [checkWritable_cons fixed]
  obtain ⟨items, made, -⟩ | ⟨members, made, -⟩ := vivify_cases token doc
  · have near := passable items made
    rw [made]
    simp only [(checkIndex_eq_ok_iff fixed pointer items.length).mpr near]
    rfl
  · rw [made]
    rfl

/-- A token in front of a place that can be written can be passed. -/
theorem passable_of_checkWritable {pointer : String} {rest : List String}
    (fixed : token ≠ append)
    (writable : Pointer.checkWritable pointer (token :: rest) (some doc) = .ok ()) :
    Passable token doc := by
  intro items made
  rw [checkWritable_cons fixed, made] at writable
  cases checked : checkIndex pointer token items.length with
  | ok _ => exact (checkIndex_eq_ok_iff fixed pointer items.length).mp checked
  | error e => simp only [checked] at writable; cases writable

/-- Nothing is removed where a token leads nowhere. -/
theorem removeTokens?_of_child? (absent : doc.child? token = none) (rest : List String) :
    removeTokens? (token :: rest) doc = none := by
  cases doc with
  | array items =>
    cases place : index? token with
    | none => cases rest <;> simp [removeTokens?, place]
    | some i =>
      have absent : items[i]? = none := by simpa [Json.child?, place] using absent
      cases rest <;> simp [removeTokens?, place, absent]
  | object members =>
    have absent : Members.find? token members = none := absent
    cases rest <;> simp [removeTokens?, absent]
  | null | bool | number | string => cases rest <;> rfl

end Passing

end Pointer

end UiStream

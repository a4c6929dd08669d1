import UiStream.Pointer.Write
import UiStream.Proofs.Json.Members

/-!
# Putting back what was removed

A value that was removed can always be added again where it was
(`Json.exists_addAt_of_removeAt?`).  An item of an array gets its old place back.  A member of an
object goes to the end of its object; `MovedLast` says what that is: one object with one member
moved to its end, and everything around it as it was.

`Removed` is the removal of a value as a relation, with one rule for each container it can go
through, and the proofs are by induction on it.
-/

namespace UiStream

/-- Two documents that differ in one object: the member that the tokens lead to stands last on the
right. -/
inductive MovedLast : List String → Json → Json → Prop
  | last {key : String} {value : Json} {members : Members}
      (found : Members.find? key members = some value) :
      MovedLast [key] (.object members) (.object (Members.erase key members ++ [(key, value)]))
  | item {token : String} {rest : List String} {i : Nat} {items : List Json} {before after : Json}
      (place : Pointer.index? token = some i) (found : items[i]? = some before)
      (moved : MovedLast rest before after) :
      MovedLast (token :: rest) (.array items) (.array (items.set i after))
  | member {key : String} {rest : List String} {members : Members} {before after : Json}
      (found : Members.find? key members = some before) (moved : MovedLast rest before after) :
      MovedLast (key :: rest) (.object members) (.object (Members.insert key after members))

namespace Pointer

/-! ## Writing where something is -/

theorem index?_append : index? append = none := rfl

/-- An index of an array may act on it. -/
theorem checkIndex_of_le {token : String} {i length : Nat} (place : index? token = some i)
    (near : i ≤ length + maxPadding) (pointer : String) :
    checkIndex pointer token length = .ok () := by
  have : token ≠ append := fun h => by rw [h, index?_append] at place; cases place
  rw [checkIndex, if_neg this, place]
  exact if_neg (Nat.not_lt.mpr near)

/-- Tokens go on from an item. -/
theorem checkWritable_item {token : String} {i : Nat} {items : List Json} {item : Json}
    (place : index? token = some i) (found : items[i]? = some item) (pointer : String)
    (rest : List String) :
    checkWritable pointer (token :: rest) (some (.array items)) =
      checkWritable pointer rest (some item) := by
  have near : i ≤ items.length + maxPadding :=
    Nat.le_trans (Nat.le_of_lt (List.getElem?_eq_some_iff.mp found).1) (Nat.le_add_right ..)
  rw [checkWritable, checkIndex_of_le place near, place, Option.bind_some, found]
  rfl

/-- Tokens go on from a member. -/
theorem checkWritable_member {key : String} {members : Members} {value : Json}
    (found : Members.find? key members = some value) (pointer : String) (rest : List String) :
    checkWritable pointer (key :: rest) (some (.object members)) =
      checkWritable pointer rest (some value) := by
  rw [checkWritable, found]

/-- Padding does nothing to an array that is long enough. -/
theorem padTo_of_le {length : Nat} {items : List Json} (enough : length ≤ items.length) :
    padTo length items = items := by
  rw [padTo, Nat.sub_eq_zero_of_le enough, List.replicate_zero, List.append_nil]

/-- A write through an item changes that item. -/
theorem writeTokens_item {place : String → Json → List Json → List Json} {token next : String}
    {i : Nat} {items : List Json} {item : Json} (index : index? token = some i)
    (found : items[i]? = some item) (value : Json) (rest : List String) :
    writeTokens place value (token :: next :: rest) (.array items) =
      .array (items.set i (writeTokens place value (next :: rest) item)) := by
  have inside : i < items.length := (List.getElem?_eq_some_iff.mp found).1
  rw [writeTokens, vivify]
  simp only [slot, index, Option.getD_some, padTo_of_le (Nat.succ_le_of_lt inside)]
  rw [List.modify_eq_set, found]
  rfl

/-- A write through a member changes that member. -/
theorem writeTokens_member {place : String → Json → List Json → List Json} {key next : String}
    {members : Members} {inner : Json} (found : Members.find? key members = some inner)
    (value : Json) (rest : List String) :
    writeTokens place value (key :: next :: rest) (.object members) =
      .object (Members.insert key (writeTokens place value (next :: rest) inner) members) := by
  rw [writeTokens, vivify]
  simp only [found, Option.getD_some]

/-! ## Removal as a relation -/

/-- The value that tokens lead to, and the document without it. -/
inductive Removed : List String → Json → Json → Json → Prop
  | item {token : String} {i : Nat} {items : List Json} {value : Json}
      (place : index? token = some i) (found : items[i]? = some value) :
      Removed [token] (.array items) value (.array (items.eraseIdx i))
  | member {key : String} {members : Members} {value : Json}
      (found : Members.find? key members = some value) :
      Removed [key] (.object members) value (.object (Members.erase key members))
  | inItem {token next : String} {rest : List String} {i : Nat} {items : List Json}
      {inner value left : Json} (place : index? token = some i)
      (found : items[i]? = some inner) (removed : Removed (next :: rest) inner value left) :
      Removed (token :: next :: rest) (.array items) value (.array (items.set i left))
  | inMember {key next : String} {rest : List String} {members : Members}
      {inner value left : Json} (found : Members.find? key members = some inner)
      (removed : Removed (next :: rest) inner value left) :
      Removed (key :: next :: rest) (.object members) value
        (.object (Members.insert key left members))

/-- A removal that succeeds goes by the rules. -/
theorem removed_of_removeTokens? {tokens : List String} {doc value rest : Json}
    (h : removeTokens? tokens doc = some (value, rest)) : Removed tokens doc value rest := by
  fun_induction removeTokens? tokens doc generalizing rest with
  | case1 | case4 | case7 => cases h
  | case2 token items =>
    obtain ⟨i, place, h⟩ := Option.bind_eq_some_iff.mp h
    obtain ⟨old, found, h⟩ := Option.map_eq_some_iff.mp h
    cases h
    exact .item place found
  | case3 token members =>
    obtain ⟨old, found, h⟩ := Option.map_eq_some_iff.mp h
    cases h
    exact .member found
  | case5 token next more items ih =>
    obtain ⟨i, place, h⟩ := Option.bind_eq_some_iff.mp h
    obtain ⟨inner, found, h⟩ := Option.bind_eq_some_iff.mp h
    obtain ⟨⟨old, left⟩, removed, h⟩ := Option.map_eq_some_iff.mp h
    cases h
    exact .inItem place found (ih inner removed)
  | case6 token next more members ih =>
    obtain ⟨inner, found, h⟩ := Option.bind_eq_some_iff.mp h
    obtain ⟨⟨old, left⟩, removed, h⟩ := Option.map_eq_some_iff.mp h
    cases h
    exact .inMember found (ih inner removed)

/-! ## Putting back -/

/-- An item that is taken out and inserted at its index is back in its place. -/
theorem insertIdx_eraseIdx_self {α : Type} {items : List α} {i : Nat} {item : α}
    (found : items[i]? = some item) : (items.eraseIdx i).insertIdx i item = items := by
  induction items generalizing i with
  | nil => simp at found
  | cons head tail ih =>
    cases i with
    | zero => cases found; rfl
    | succ i => exact congrArg (head :: ·) (ih found)

theorem addItem_eraseIdx {token : String} {i : Nat} {items : List Json} {item : Json}
    (place : index? token = some i) (found : items[i]? = some item) :
    addItem token item (items.eraseIdx i) = items := by
  have inside : i < items.length := (List.getElem?_eq_some_iff.mp found).1
  have shorter : i ≤ (items.eraseIdx i).length := by
    rw [List.length_eraseIdx_of_lt inside]; omega
  simp only [addItem, place, if_pos shorter]
  exact insertIdx_eraseIdx_self found

/-- Where a value was removed, one can be written. -/
theorem Removed.checkWritable {tokens : List String} {doc value rest : Json}
    (removed : Removed tokens doc value rest) (pointer : String) :
    checkWritable pointer tokens (some rest) = .ok () := by
  induction removed with
  | @item token i items value place found =>
    have inside : i < items.length := (List.getElem?_eq_some_iff.mp found).1
    have near : i ≤ (items.eraseIdx i).length + maxPadding := by
      rw [List.length_eraseIdx_of_lt inside]; omega
    rw [Pointer.checkWritable, checkIndex_of_le place near]
    rfl
  | member found => rfl
  | @inItem token next rest i items inner value left place found removed ih =>
    have inside : i < items.length := (List.getElem?_eq_some_iff.mp found).1
    rw [checkWritable_item place (List.getElem?_set_self inside)]
    exact ih
  | inMember found removed ih =>
    rw [checkWritable_member (Members.find?_insert_self ..)]
    exact ih

/-- Writing a value where it was removed gives the document back if it was an item of an array.  If
it was a member of an object, that member stands last now. -/
theorem Removed.writeTokens {tokens : List String} {doc value rest : Json}
    (removed : Removed tokens doc value rest) :
    ((∃ items, doc.get? tokens.dropLast = some (.array items)) ∧
      writeTokens addItem value tokens rest = doc) ∨
    (∃ members, doc.get? tokens.dropLast = some (.object members)) ∧
      (doc.Distinct → MovedLast tokens doc (writeTokens addItem value tokens rest)) := by
  induction removed with
  | item place found =>
    refine .inl ⟨⟨_, rfl⟩, ?_⟩
    rw [Pointer.writeTokens, vivify]
    simp only [addItem_eraseIdx place found]
  | member found =>
    refine .inr ⟨⟨_, rfl⟩, fun distinct => ?_⟩
    rw [Pointer.writeTokens, vivify]
    simp only [Members.insert_erase distinct.keys]
    exact .last found
  | @inItem token next rest i items inner value left place found removed ih =>
    have inside : i < items.length := (List.getElem?_eq_some_iff.mp found).1
    have child : (Json.array items).child? token = some inner := by
      rw [Json.child?, place, Option.bind_some, found]
    rw [writeTokens_item place (List.getElem?_set_self inside), List.set_set,
      List.dropLast_cons_cons, Json.get?, child, Option.bind_some]
    refine ih.imp (And.imp_right fun same => ?_) (And.imp_right fun moved distinct => ?_)
    · obtain ⟨_, rfl⟩ := List.getElem?_eq_some_iff.mp found
      rw [same, List.set_getElem_self]
    · exact .item place found (moved (distinct.item found))
  | @inMember key next rest members inner value left found removed ih =>
    have child : (Json.object members).child? key = some inner := found
    rw [writeTokens_member (Members.find?_insert_self ..), Members.insert_insert,
      List.dropLast_cons_cons, Json.get?, child, Option.bind_some]
    refine ih.imp (And.imp_right fun same => ?_) (And.imp_right fun moved distinct => ?_)
    · rw [same, Members.insert_of_find? found]
    · exact .member found (moved (distinct.member found))

/-- The document itself is never removed. -/
theorem Removed.ne_nil {doc value rest : Json} (removed : Removed [] doc value rest) : False := by
  cases removed

/-- A value that was removed can be added where it was. -/
theorem Removed.addAt {pointer : String} {doc value rest : Json}
    (removed : Removed (tokens pointer) doc value rest) :
    rest.addAt pointer value = .ok (Pointer.writeTokens addItem value (tokens pointer) rest) := by
  unfold Json.addAt
  split
  · next none => rw [none] at removed; exact removed.ne_nil.elim
  · rw [removed.checkWritable]
    rfl

end Pointer

/-- What was removed at a pointer can be added there again, and gives the document back, but for
the place of an object member. -/
theorem Json.exists_addAt_of_removeAt? {doc value rest : Json} {pointer : String}
    (h : doc.removeAt? pointer = some (value, rest)) :
    ∃ restored, rest.addAt pointer value = .ok restored ∧
      (doc.Distinct → restored = doc ∨ MovedLast (Pointer.tokens pointer) doc restored) := by
  have removed := Pointer.removed_of_removeTokens? h
  exact ⟨_, removed.addAt, fun distinct => removed.writeTokens.imp And.right fun moved =>
    moved.2 distinct⟩

end UiStream

import UiStream.Proofs.Pointer.Passing

/-!
# Adding and removing undo each other

What was added at a place where nothing had to make way for it can be removed again, and what was
removed can be added again (`Json.add_remove_inverse`).  The first is exact.  The second gives the
document back if the value was an item of an array; if it was a member of an object, that member
stands last.

Both directions are about one relation, `Pointer.Removed`.  A value that is added at a vacant place
makes a document of which the old one is what removing leaves (`Json.Vacant.removed`), so that what
was shown about adding after removing (`Pointer.Removed.addAt`) says that it can be added at all.
-/

namespace UiStream

open Pointer

/-- A place that a value can be added at without another one making way for it: in a container that
is there, an index up to the end of an array, or a key that an object does not have. -/
inductive Json.Vacant (doc : Json) : List String → Prop
  | index {parent : List String} {token : String} {items : List Json} {i : Nat}
      (holder : doc.get? parent = some (.array items)) (place : index? token = some i)
      (near : i ≤ items.length) : Vacant doc (parent ++ [token])
  | key {parent : List String} {key : String} {members : Members}
      (holder : doc.get? parent = some (.object members))
      (absent : Members.find? key members = none) : Vacant doc (parent ++ [key])

namespace Pointer

/-! ## Removal as a function -/

/-- What the rules of removal give is what is removed. -/
theorem Removed.removeTokens? {tokens : List String} {doc value rest : Json}
    (removed : Removed tokens doc value rest) :
    removeTokens? tokens doc = some (value, rest) := by
  induction removed with
  | item place found => simp only [Pointer.removeTokens?, place, found, Option.bind_some,
      Option.map_some]
  | member found => simp only [Pointer.removeTokens?, found, Option.map_some]
  | inItem place found removed ih =>
    simp only [Pointer.removeTokens?, place, found, ih, Option.bind_some, Option.map_some]
  | inMember found removed ih =>
    simp only [Pointer.removeTokens?, found, ih, Option.bind_some, Option.map_some]

/-- What is removed behind a token is removed from the value under it, and what is left of that is
put back there. -/
theorem Removed.behind {token : String} {rest : List String} {doc inner value left : Json}
    (found : doc.child? token = some inner) (removed : Removed rest inner value left) :
    Removed (token :: rest) doc value (put token left doc) := by
  cases rest with
  | nil => exact removed.ne_nil.elim
  | cons next rest =>
    cases doc with
    | array items =>
      obtain ⟨i, place, found⟩ := Option.bind_eq_some_iff.mp found
      have inside := (List.getElem?_eq_some_iff.mp found).1
      rw [put_array rfl, slot, place, Option.getD_some, padTo_of_le (Nat.succ_le_of_lt inside)]
      exact .inItem place found removed
    | object members =>
      rw [put_object rfl]
      exact .inMember found removed
    | null | bool | number | string => cases found

/-- If removing a value undoes its addition to a container, it does so in a document in which tokens
lead to that container. -/
theorem removed_writeTokens_append {parent : List String} {token : String}
    {doc holder value : Json} (found : doc.get? parent = some holder)
    (removed : Removed [token] (writeTokens addItem value [token] holder) value holder) :
    Removed (parent ++ [token]) (writeTokens addItem value (parent ++ [token]) doc) value doc := by
  induction parent generalizing doc with
  | nil => cases found; exact removed
  | cons first parent ih =>
    obtain ⟨child, here, found⟩ := Option.bind_eq_some_iff.mp found
    have passable := passable_of_child? here
    have under : doc.under first = child := by rw [Json.under, here]; rfl
    have more := List.append_ne_nil_of_right_ne_nil parent (List.cons_ne_nil token [])
    have behind := (ih found).behind (passable.child?_put _)
    rw [passable.put_put, put_of_child? here] at behind
    rw [List.cons_append, writeTokens_cons addItem value more, under]
    exact behind

end Pointer

/-! ## Adding at a vacant place -/

/-- A key that an object did not have is erased again. -/
theorem Members.erase_insert {key : String} {members : Members}
    (absent : find? key members = none) (value : Json) :
    erase key (insert key value members) = members := by
  induction members with
  | nil => rw [insert, erase, if_pos rfl]
  | cons member rest ih =>
    obtain ⟨k, v⟩ := member
    rw [find?_cons] at absent
    split at absent
    · cases absent
    · next other => rw [insert, if_neg other, erase, if_neg other, ih absent]

/-- A value that is added at a vacant place can be removed there, and this leaves the document. -/
theorem Json.Vacant.removed {doc : Json} {tokens : List String} (vacant : doc.Vacant tokens)
    (value : Json) : Removed tokens (writeTokens addItem value tokens doc) value doc := by
  cases vacant with
  | @index parent token items i holder place near =>
    refine removed_writeTokens_append holder ?_
    have added : writeTokens addItem value [token] (.array items) =
        .array (items.insertIdx i value) := by
      rw [writeTokens, vivify]
      simp only [addItem, place, if_pos near]
    have there : (items.insertIdx i value)[i]? = some value := by
      rw [List.getElem?_insertIdx_self, if_pos near]
    have removed := Removed.item place there
    rw [List.eraseIdx_insertIdx_self] at removed
    rw [added]
    exact removed
  | @key parent key members holder absent =>
    refine removed_writeTokens_append holder ?_
    have removed := Removed.member (Members.find?_insert_self key value members)
    rw [Members.erase_insert absent] at removed
    exact removed

/-! ## The two laws -/

/-- **Adding and removing undo each other.**  A value can be added at a vacant place, and removing
it there gives it back and leaves the document as it was.  A value that was removed can be added
again, which gives the document back if an array held the value; if an object did, the member is
its last now. -/
theorem Json.add_remove_inverse (doc : Json) (pointer : String) (value : Json) :
    (doc.Vacant (tokens pointer) →
      ∃ grown, doc.addAt pointer value = .ok grown ∧
        grown.removeAt? pointer = some (value, doc)) ∧
    ∀ rest, doc.removeAt? pointer = some (value, rest) →
      ∃ restored, rest.addAt pointer value = .ok restored ∧
        ((∃ items, doc.get? (tokens pointer).dropLast = some (.array items)) ∧ restored = doc ∨
          (∃ members, doc.get? (tokens pointer).dropLast = some (.object members)) ∧
            (doc.Distinct → MovedLast (tokens pointer) doc restored)) := by
  refine ⟨fun vacant => ?_, fun rest h => ?_⟩
  · have removed := vacant.removed value
    exact ⟨_, removed.addAt, removed.removeTokens?⟩
  · have removed := removed_of_removeTokens? h
    exact ⟨_, removed.addAt, removed.writeTokens⟩

/-- A value behind the end of an array in an array, with a zero too many in front of its index, and
a member in the middle of an object. -/
theorem Json.add_remove_inverse_nested :
    let member (i : Nat) : Json :=
      .object [("a", .ofNat i), ("b/c", .array []), ("d", .null)]
    let doc : Json := .object [("rows", .array [.array [.null], member 0]), ("e", .null)]
    let left : Json := .object [("rows", .array [.array [.null],
      .object [("a", .ofNat 0), ("d", .null)]]), ("e", .null)]
    doc.Vacant (tokens "/rows/0/01") ∧
      (∃ grown, doc.addAt "/rows/0/01" (member 1) = .ok grown ∧
        grown.removeAt? "/rows/0/01" = some (member 1, doc)) ∧
      doc.removeAt? "rows/1/b~1c" = some (.array [], left) ∧ doc.Distinct ∧
      ∃ restored, left.addAt "rows/1/b~1c" (.array []) = .ok restored ∧
        MovedLast (tokens "rows/1/b~1c") doc restored := by
  intro member doc left
  have vacant : doc.Vacant (["rows", "0"] ++ ["01"]) := .index (i := 1) rfl (by decide) (by decide)
  have removed : doc.removeAt? "rows/1/b~1c" = some (.array [], left) := by decide +kernel
  have distinct : doc.Distinct := by
    refine ⟨by decide, ⟨⟨trivial, trivial⟩, ⟨by decide, ?_⟩, trivial⟩, trivial, trivial⟩
    exact ⟨trivial, trivial, trivial, trivial⟩
  obtain ⟨restored, added, ⟨⟨items, array⟩, -⟩ | ⟨-, moved⟩⟩ :=
    (add_remove_inverse doc "rows/1/b~1c" (.array [])).2 left removed
  · cases array
  · exact ⟨vacant, (add_remove_inverse doc "/rows/0/01" (member 1)).1 vacant, removed, distinct,
      restored, added, moved distinct⟩

end UiStream

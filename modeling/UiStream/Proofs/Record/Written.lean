import UiStream.Action.Binding
import UiStream.Proofs.Json.Members
import UiStream.Proofs.Record.Settled

/-!
# Records that are written

A record is written as an object with the members of its fields one behind the other, those of
absent fields left out.  `Record.defaulted_of_find?` and `Record.optional_of_find?` read such a
member back, and the lemmas on `Members.find?` find it among the others.  Arrays and dictionaries
are read back item by item (`Reader.listOf_map`, `Reader.mapOf_map`).
-/

namespace UiStream

/-! ## Finding what was written -/

namespace Members

/-- A member is looked for in the first part, and then in the second. -/
@[simp] theorem find?_ite (key : String) (c : Prop) [Decidable c] (a b : Members) :
    find? key (if c then a else b) = if c then find? key a else find? key b := by
  split <;> rfl

/-- A member that is written if there is a value is found if there is one. -/
@[simp] theorem find?_optionalMember (key k : String) (value? : Option Json) :
    find? key (optionalMember k value?) = if k = key then value? else none := by
  cases value? with
  | none => exact (ite_self none).symm
  | some v => rfl

theorem key_of_mem_optionalMember {k : String} {value? : Option Json} {member : String × Json}
    (h : member ∈ optionalMember k value?) : member.1 = k := by
  obtain ⟨v, -, rfl⟩ := List.mem_map.mp h
  rfl

end Members

namespace Reader

variable {α : Type} {read : Reader α} {write : α → Json}

/-- A value that is not written as `null` is not taken for an absent one. -/
theorem nullable_eq_some {a : α} (reads : read (write a) = .ok a) (full : write a ≠ .null) :
    nullable read (write a) = .ok (some a) := by
  have present : nullable read (write a) = (read (write a)).map some := by
    cases written : write a with
    | null => exact absurd written full
    | bool | number | string | array | object => rfl
  rw [present, reads]
  rfl

/-- An array is read back if its items are. -/
theorem listOf_map {values : List α} (reads : ∀ a ∈ values, read (write a) = .ok a) :
    listOf read (.array (values.map write)) = .ok values := by
  refine each_eq_ok_iff.mpr ?_
  rw [List.forall₂_map_left_iff]
  exact List.forall₂_same.mpr reads

/-- A dictionary is read back if its values are. -/
theorem mapOf_map {entries : List (String × α)}
    (reads : ∀ entry ∈ entries, read (write entry.2) = .ok entry.2) :
    mapOf read (.object (entries.map fun entry => (entry.1, write entry.2))) = .ok entries := by
  refine eachMember_eq_ok_iff.mpr ?_
  rw [List.forall₂_map_left_iff]
  exact List.forall₂_same.mpr fun entry h => ⟨rfl, reads entry h⟩

end Reader

/-! ## Fields that are found -/

namespace Record

variable {α : Type} {record : Record} {field : String} {read : Reader α}

theorem defaulted_of_find? {v : Json} (found : Members.find? field record.members = some v)
    (default : α) : record.defaulted field read default = read v := by
  rw [defaulted, found]

/-- A field that is written if it has a value is read back if the value is. -/
theorem optional_of_find? (write : α → Json) {a? : Option α}
    (found : Members.find? field record.members = a?.map write)
    (reads : ∀ a, a? = some a → read (write a) = .ok a)
    (full : ∀ a, a? = some a → write a ≠ .null) :
    record.optional field read = .ok a? := by
  rw [optional, defaulted, found]
  cases a? with
  | none => rfl
  | some a => exact Reader.nullable_eq_some (reads a rfl) (full a rfl)

/-- A member that is left out if it is empty is read back as empty. -/
theorem defaulted_map_of_find? {members : Members}
    (found : Members.find? field record.members =
      if members.isEmpty then none else some (.object members)) :
    record.defaulted field Reader.map [] = .ok members := by
  rw [defaulted, found]
  cases members <;> rfl

end Record

end UiStream

import UiStream.Record.Basic
import Mathlib.Data.List.Forall2

/-!
# Records that decode

A record that is written as an object decodes if each of its fields does: in what order the faults
are looked for only matters when there is one (`Record.settle_eq_ok_iff`).  An array decodes if each
of its items does, and a dictionary if each member does.
-/

namespace UiStream

/-- An outcome without a fault is a value. -/
theorem faultOf_eq_none_iff {ε α : Type} {outcome : Except ε α} :
    faultOf outcome = none ↔ ∃ a, outcome = .ok a := by
  cases outcome <;> simp [faultOf]

/-- What gives a value under a function is a value. -/
theorem map_eq_ok_iff {ε α β : Type} {outcome : Except ε α} {f : α → β} {b : β} :
    outcome.map f = .ok b ↔ ∃ a, outcome = .ok a ∧ b = f a := by
  cases outcome <;> simp [Except.map, eq_comm]

/-- What gives a value in two steps gives one in each. -/
theorem bind_eq_ok_iff {ε α β : Type} {outcome : Except ε α} {f : α → Except ε β} {b : β} :
    outcome >>= f = .ok b ↔ ∃ a, outcome = .ok a ∧ f a = .ok b := by
  cases outcome <;> simp [bind, Except.bind]

namespace Reader

variable {α : Type} {read : Reader α}

/-- The items of an array that decodes, one by one. -/
theorem each_eq_ok_iff {items : List Json} {values : List α} :
    each read items = .ok values ↔ List.Forall₂ (fun v a => read v = .ok a) items values := by
  induction items generalizing values with
  | nil => simp [each, eq_comm]
  | cons v rest ih =>
    rw [each, List.forall₂_cons_left_iff]
    cases first : read v with
    | error fault => simp
    | ok a => simp [map_eq_ok_iff, ih]

/-- The members of a dictionary that decodes, one by one. -/
theorem eachMember_eq_ok_iff {members : Members} {entries : List (String × α)} :
    eachMember read members = .ok entries ↔
      List.Forall₂ (fun member entry => member.1 = entry.1 ∧ read member.2 = .ok entry.2)
        members entries := by
  induction members generalizing entries with
  | nil => simp [eachMember, eq_comm]
  | cons member rest ih =>
    obtain ⟨key, v⟩ := member
    rw [eachMember, List.forall₂_cons_left_iff]
    cases first : read v with
    | error fault => simp
    | ok a => simp [map_eq_ok_iff, ih]

/-- An entry of a dictionary comes from a value that decodes to it. -/
theorem exists_read_of_mem {members : Members} {entries : List (String × α)}
    (given : eachMember read members = .ok entries) {entry : String × α} (h : entry ∈ entries) :
    ∃ v, read v = .ok entry.2 := by
  replace given := eachMember_eq_ok_iff.mp given
  induction given with
  | nil => cases h
  | @cons member _ _ _ first _ ih =>
    rcases List.mem_cons.mp h with rfl | h
    · exact ⟨member.2, first.2⟩
    · exact ih h

/-- A dictionary decodes if each member does. -/
theorem exists_eachMember {members : Members}
    (each : ∀ member ∈ members, ∃ a, read member.2 = .ok a) :
    ∃ entries, eachMember read members = .ok entries := by
  induction members with
  | nil => exact ⟨[], rfl⟩
  | cons member rest ih =>
    obtain ⟨key, v⟩ := member
    obtain ⟨a, first⟩ := each _ List.mem_cons_self
    obtain ⟨more, others⟩ := ih fun member h => each member (List.mem_cons_of_mem _ h)
    simp only [eachMember, first, others]
    exact ⟨_, rfl⟩

end Reader

namespace Record

/-- A field with a default is absent, or its value decodes. -/
theorem defaulted_eq_ok_iff {α : Type} {record : Record} {field : String} {read : Reader α}
    {default a : α} :
    record.defaulted field read default = .ok a ↔
      (Members.find? field record.members = none ∧ a = default) ∨
        ∃ v, Members.find? field record.members = some v ∧ read v = .ok a := by
  rw [defaulted]
  cases Members.find? field record.members <;> simp [eq_comm]

/-- A record that is written as an object has no fault if no field has one. -/
theorem settle_eq_ok_iff (record : Record) (object : record.length? = none)
    (faults : List (String × Option DecodeFault)) :
    record.settle faults = .ok () ↔ ∀ fault ∈ faults, fault.2 = none := by
  rw [settle, object]
  cases first : firstFault faults record.members with
  | some fault =>
    -- the field whose fault comes first is one of them
    obtain ⟨⟨key, v⟩, -, found⟩ := List.exists_of_findSome?_eq_some first
    have found : faults.lookup key = some (some fault) := Option.join_eq_some_iff.mp found
    obtain ⟨before, after, split, -⟩ := List.lookup_eq_some_iff.mp found
    have faulty : (key, some fault) ∈ faults := by rw [split]; simp
    constructor
    · intro settled
      cases settled
    · intro flawless
      cases flawless _ faulty
  | none =>
    rw [← List.findSome?_eq_none_iff]
    cases faults.findSome? (·.2) <;> simp

end Record

end UiStream

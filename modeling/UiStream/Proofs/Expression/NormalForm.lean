import UiStream.Proofs.Expression.Inert
import UiStream.Proofs.Expression.Operands
import UiStream.Proofs.Expression.Written

/-!
# Normal forms of expressions

What is written for an expression that was read is read back as that expression
(`Expression.ofJson_encode`), so it means in every scope what the value meant from which the
expression was read (`Expression.rereads`).

An object is read by the names of its members and by whether some of them are texts or `true`, in a
fixed order.  An object that is neither a reference nor a choice keeps all its names when it is
written, and writing a member makes it neither a text nor `true` if it was not
(`Expression.reference?_encodeMembers`).  A choice whose condition cannot be read is written with
the condition that never holds, and that one can be read.
-/

namespace UiStream

namespace Expression

/-! ## What is written for members -/

/-- What is written for an object is an object. -/
theorem exists_encode_object (members : Members) :
    ∃ others, (ofJson (.object members)).encode = .object others := by
  obtain ⟨e, refers, shape⟩ | ⟨condition, accepted, rejected, -, -, shape⟩ | shape :=
    ofJson_object_cases members
  · rw [shape]
    unfold reference? at refers
    split at refers <;> cases refers <;> exact ⟨_, rfl⟩
  · rw [shape]
    exact ⟨_, rfl⟩
  · rw [shape]
    exact ⟨_, rfl⟩

/-- Only for a text a text is written. -/
theorem text?_encode (v : Json) : (ofJson v).encode.text? = v.text? := by
  cases v with
  | object members =>
    obtain ⟨others, written⟩ := exists_encode_object members
    rw [written]
    rfl
  | null | bool | number | string | array => rfl

/-- Only for a truth value it is written. -/
theorem encode_eq_bool_iff (v : Json) (b : Bool) : (ofJson v).encode = .bool b ↔ v = .bool b := by
  cases v with
  | object members =>
    obtain ⟨others, written⟩ := exists_encode_object members
    rw [written]
    exact iff_of_false nofun nofun
  | array => exact iff_of_false nofun nofun
  | null | bool | number | string => exact Iff.rfl

/-- Members are written under their keys. -/
theorem find?_encodeMembers (key : String) (members : Members) :
    Members.find? key (encodeMembers (ofMembers members)) =
      (Members.find? key members).map fun v => (ofJson v).encode := by
  induction members with
  | nil => rfl
  | cons member members ih =>
    obtain ⟨k, v⟩ := member
    rw [ofMembers, encodeMembers, Members.find?_cons, Members.find?_cons, ih]
    split <;> rfl

/-- Written members name the reference that they named before. -/
theorem reference?_encodeMembers (members : Members) :
    reference? (encodeMembers (ofMembers members)) = reference? members := by
  have text (key : String) : Members.text? key (encodeMembers (ofMembers members)) =
      Members.text? key members := by
    rw [Members.text?, Members.text?, find?_encodeMembers, Option.bind_map]
    exact congrArg _ (funext text?_encode)
  have flag (key : String) : Members.isTrue key (encodeMembers (ofMembers members)) =
      Members.isTrue key members := by
    rw [Members.isTrue, Members.isTrue, find?_encodeMembers, Bool.eq_iff_iff, beq_iff_eq,
      beq_iff_eq, Option.map_eq_some_iff]
    simp only [encode_eq_bool_iff, exists_eq_right]
  rw [reference?, reference?, text, text, flag, text, text]

/-! ## What is written is read back -/

theorem ofJson_encode_reference {members : Members} {e : Expression}
    (refers : reference? members = some e) : ofJson e.encode = e := by
  unfold reference? at refers
  split at refers <;> cases refers <;> rfl

theorem absent_of_ofMember? {key : String} {members : Members}
    (absent : ofMember? key members = none) : Members.find? key members = none :=
  Option.map_eq_none_iff.mp (ofMember?_eq key members ▸ absent)

/-- A choice is read back if its branches are. -/
theorem ofJson_encode_choice (condition : Condition) (accepted rejected : Expression) :
    ofJson (choice condition accepted rejected).encode =
      choice condition (ofJson accepted.encode) (ofJson rejected.encode) := by
  have reread : choiceCondition condition.encode = condition := by
    rw [choiceCondition, condition.decode_encode]
  exact congrArg (choice · (ofJson accepted.encode) (ofJson rejected.encode)) reread

/-- An object without expressions of its own is read back if its members are. -/
theorem ofJson_encode_object {members : Members} (nameless : reference? members = none)
    {key : String} (listed : key ∈ choiceKeys) (absent : Members.find? key members = none)
    (reread : ofMembers (encodeMembers (ofMembers members)) = ofMembers members) :
    ofJson (ofJson (.object members)).encode = ofJson (.object members) := by
  have nameless' := (reference?_encodeMembers members).trans nameless
  have absent' : Members.find? key (encodeMembers (ofMembers members)) = none := by
    rw [find?_encodeMembers, absent]
    rfl
  rw [ofJson_of_absent nameless listed absent, encode, ofJson_of_absent nameless' listed absent',
    reread]

mutual

/-- What is written for an expression that was read is read back. -/
theorem ofJson_encode : (v : Json) → ofJson (ofJson v).encode = ofJson v
  | .object members => by
    cases refers : reference? members with
    | some e =>
      have shape : ofJson (.object members) = e := by rw [ofJson, refers]
      rw [shape]
      exact ofJson_encode_reference refers
    | none =>
      have reread := ofMembers_encodeMembers members
      cases tested : Members.find? "$cond" members with
      | none => exact ofJson_encode_object refers (by decide) tested reread
      | some c =>
        cases yes : ofMember? "$then" members with
        | none => exact ofJson_encode_object refers (by decide) (absent_of_ofMember? yes) reread
        | some accepted =>
          cases no : ofMember? "$else" members with
          | none => exact ofJson_encode_object refers (by decide) (absent_of_ofMember? no) reread
          | some rejected =>
            have shape : ofJson (.object members) =
                choice (choiceCondition c) accepted rejected := by
              rw [ofJson, refers]
              simp only [tested, yes, no]
            rw [shape, ofJson_encode_choice, ofJson_encode_member yes, ofJson_encode_member no]
  | .array items => by rw [ofJson, encode, ofJson, ofItems_encodeItems items]
  | .null | .bool _ | .number _ | .string _ => rfl

theorem ofItems_encodeItems : (items : List Json) →
    ofItems (encodeItems (ofItems items)) = ofItems items
  | [] => rfl
  | v :: rest => by
    rw [ofItems, encodeItems, ofItems, ofJson_encode v, ofItems_encodeItems rest]

theorem ofMembers_encodeMembers : (members : List (String × Json)) →
    ofMembers (encodeMembers (ofMembers members)) = ofMembers members
  | [] => rfl
  | (key, v) :: rest => by
    rw [ofMembers, encodeMembers, ofMembers, ofJson_encode v, ofMembers_encodeMembers rest]

theorem ofJson_encode_member {key : String} {e : Expression} : {members : List (String × Json)} →
    ofMember? key members = some e → ofJson e.encode = e
  | [], found => nomatch found
  | (k, v) :: rest, found => by
    rw [ofMember?] at found
    split at found
    · cases found
      exact ofJson_encode v
    · exact ofJson_encode_member found
end

/-- **What is written for a condition or an expression is read back.**  Every condition is; and so
is every expression that a value is, whatever the value, which for this reason means in every scope,
as a property and as a parameter of an action, what is written for that expression. -/
theorem rereads :
    (∀ condition : Condition, Condition.decode condition.encode = .ok condition) ∧
      ∀ v : Json, ofJson (ofJson v).encode = ofJson v ∧
        ∀ scope, (ofJson v).encode.resolve scope = v.resolve scope ∧
          (ofJson v).encode.resolveParam scope = v.resolveParam scope := by
  refine ⟨Condition.decode_encode, fun v => ⟨ofJson_encode v, fun scope => ⟨?_, ?_⟩⟩⟩
  · rw [Json.resolve_eq, Json.resolve_eq, ofJson_encode]
  · rw [Json.resolveParam, Json.resolveParam, ofJson_encode]

end Expression

end UiStream

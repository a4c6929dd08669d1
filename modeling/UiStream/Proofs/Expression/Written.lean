import UiStream.Expression.Condition

/-!
# Conditions that are written

A condition is read back from what is written for it (`Condition.decode_encode`): of the members
that could name a subject, an operator, a negation or a list, only its own are written.
-/

namespace UiStream

/-- A test is read back, whatever its subject, its operator and its sign. -/
theorem ValueTest.decode_encode (test : ValueTest) : decode test.encode = .ok test := by
  obtain ⟨_ | _ | _, _ | ⟨_ | _ | _ | _ | _ | _, operand⟩, _ | _⟩ := test <;> rfl

theorem ValueTest.decodeAll_map (tests : List ValueTest) :
    decodeAll (tests.map encode) = .ok tests := by
  induction tests with
  | nil => rfl
  | cons test rest ih =>
    rw [List.map_cons, decodeAll, decode_encode, ih]
    rfl

namespace Condition

/-- A single test is not taken for a list. -/
theorem decode_encode_single (test : ValueTest) : decode test.encode = .ok (single test) := by
  obtain ⟨_ | _ | _, _ | ⟨_ | _ | _ | _ | _ | _, operand⟩, _ | _⟩ := test <;> rfl

mutual

/-- A condition is read back. -/
theorem decode_encode : (condition : Condition) → decode condition.encode = .ok condition
  | constant _ => rfl
  | single test => decode_encode_single test
  | every tests => by
    rw [encode, decode, ValueTest.decodeAll_map]
    rfl
  | all conditions => by
    have items := decodeItems_encodeAll conditions
    rw [encode, decode, decodeMember, if_pos rfl, decodeList, items]
    rfl
  | any conditions => by
    have items := decodeItems_encodeAll conditions
    have absent (v : Json) : decodeMember "$and" [("$or", v)] = none := rfl
    rw [encode, decode, absent, decodeMember, if_pos rfl, decodeList, items]
    rfl

/-- Conditions are read back. -/
theorem decodeItems_encodeAll :
    (conditions : List Condition) → decodeItems (encodeAll conditions) = .ok conditions
  | [] => rfl
  | condition :: rest => by
    rw [encodeAll, decodeItems, decode_encode condition, decodeItems_encodeAll rest]
    rfl
end

/-- No condition is written as `null`. -/
theorem encode_ne_null (condition : Condition) : condition.encode ≠ .null := by
  cases condition <;> nofun

end Condition

end UiStream

import UiStream.Json.Basic

/-!
# Equality of values

`Json.equal` compares values as a generated document means them: numbers by value, so that
`1` equals `1.0`, and objects without regard to the order of their members.
-/

namespace UiStream.Json

mutual

/-- Equal as values: numbers by value, arrays item by item, objects member by member in any
order. -/
def equal : Json → Json → Bool
  | .null, .null => true
  | .bool a, .bool b => a == b
  | .number a, .number b => a.numEq b
  | .string a, .string b => a == b
  | .array a, .array b => equalItems a b
  | .object a, .object b => a.length == b.length && membersWithin a b
  | _, _ => false

/-- Two lists of items of one length, equal item by item. -/
def equalItems : List Json → List Json → Bool
  | [], [] => true
  | a :: as, b :: bs => equal a b && equalItems as bs
  | _, _ => false

/-- Every member on the left has an equal member of the same key on the right. -/
def membersWithin : List (String × Json) → Members → Bool
  | [], _ => true
  | (key, a) :: rest, others =>
    (match Members.find? key others with
      | some b => equal a b
      | none => false) && membersWithin rest others
end

/-- Equality of values that may be absent: two absent values are equal. -/
def equal? : Option Json → Option Json → Bool
  | none, none => true
  | some a, some b => equal a b
  | _, _ => false

end UiStream.Json

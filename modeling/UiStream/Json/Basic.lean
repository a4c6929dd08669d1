import UiStream.Number.Double

/-!
# JSON values

`Json` is the value type of documents, patches, states and parameters.  An object keeps its
members in order.  `Members.insert` and `Members.erase` keep the keys of an object distinct:
a replaced member stays in its place, a new one goes last, and a removed one leaves no gap.
`Json.Distinct` says that no object anywhere in a value repeats a key.

An absent value is `none` of `Option Json`; it is not the JSON value `null`.
-/

namespace UiStream

/-! ## Numbers -/

/-- The integers a JSON number can be: those of 64 bits, signed or unsigned. -/
def Integral (n : Int) : Prop := -0x8000000000000000 ≤ n ∧ n < 0x10000000000000000

instance (n : Int) : Decidable (Integral n) := inferInstanceAs (Decidable (_ ∧ _))

/-- A JSON number: an integer of 64 bits or a finite double.  `1` and `1.0` are different
numbers of the same value. -/
inductive Number where
  | integer (value : Int) (integral : Integral value)
  | double (value : Double)
deriving DecidableEq, Repr

namespace Number

/-- An integer, as a double when it does not fit 64 bits. -/
def ofInt (n : Int) : Number :=
  if h : Integral n then integer n h else double (Double.ofInt n)

/-- The nearest double. -/
def toDouble : Number → Double
  | integer n _ => Double.ofInt n
  | double x => x

/-- Equality of value: integers exactly, and otherwise as doubles. -/
def numEq : Number → Number → Bool
  | integer m _, integer n _ => m == n
  | a, b => a.toDouble.numEq b.toDouble

end Number

/-! ## Values -/

/-- A JSON value. -/
inductive Json where
  | null
  | bool (value : Bool)
  | number (value : Number)
  | string (value : String)
  | array (items : List Json)
  | object (members : List (String × Json))
deriving Repr, Inhabited

/-- The members of an object, in order. -/
abbrev Members := List (String × Json)

namespace Members

/-- The value of the first member with the key. -/
def find? (key : String) : Members → Option Json
  | [] => none
  | (k, v) :: rest => if k = key then some v else find? key rest

/-- Whether a member has the key. -/
def has (key : String) (members : Members) : Bool := (find? key members).isSome

/-- Sets a member: in its place if the key is there, last otherwise. -/
def insert (key : String) (value : Json) : Members → Members
  | [] => [(key, value)]
  | (k, v) :: rest => if k = key then (k, value) :: rest else (k, v) :: insert key value rest

/-- Removes the member with the key; the others move up. -/
def erase (key : String) : Members → Members
  | [] => []
  | (k, v) :: rest => if k = key then rest else (k, v) :: erase key rest

/-- Members from pairs that may repeat a key: the last value wins, at the first one's place. -/
def ofPairs (pairs : List (String × Json)) : Members :=
  pairs.foldl (fun members (k, v) => insert k v members) []

/-- The keys, in order. -/
def keys (members : Members) : List String := members.map (·.1)

end Members

namespace Json

/-- An integer value. -/
def ofInt (n : Int) : Json := number (Number.ofInt n)

/-- A natural number as a value. -/
def ofNat (n : Nat) : Json := ofInt n

/-- The object without members. -/
def emptyObject : Json := object []

/-- The member of an object; absent for anything else. -/
def member? (key : String) : Json → Option Json
  | object members => Members.find? key members
  | _ => none

/-- The members of an object. -/
def members? : Json → Option Members
  | object members => some members
  | _ => none

/-- The items of an array. -/
def items? : Json → Option (List Json)
  | array items => some items
  | _ => none

/-- The text of a string. -/
def text? : Json → Option String
  | string s => some s
  | _ => none

/-- The value of a number. -/
def number? : Json → Option Number
  | number n => some n
  | _ => none

/-! ## Distinct keys -/

mutual

/-- No object in the value repeats a key. -/
def Distinct : Json → Prop
  | .array items => DistinctItems items
  | .object members => (members.map (·.1)).Nodup ∧ DistinctMembers members
  | _ => True

/-- `Distinct` over the items of an array. -/
def DistinctItems : List Json → Prop
  | [] => True
  | v :: rest => Distinct v ∧ DistinctItems rest

/-- `Distinct` over the values of members. -/
def DistinctMembers : List (String × Json) → Prop
  | [] => True
  | (_, v) :: rest => Distinct v ∧ DistinctMembers rest
end

/-! ## Identity of values -/

mutual

/-- The same value, the order of members and the form of numbers included. -/
def same : Json → Json → Bool
  | .null, .null => true
  | .bool a, .bool b => a == b
  | .number a, .number b => a == b
  | .string a, .string b => a == b
  | .array a, .array b => sameItems a b
  | .object a, .object b => sameMembers a b
  | _, _ => false

/-- `same` over two lists of items. -/
def sameItems : List Json → List Json → Bool
  | [], [] => true
  | a :: as, b :: bs => same a b && sameItems as bs
  | _, _ => false

/-- `same` over two lists of members. -/
def sameMembers : List (String × Json) → List (String × Json) → Bool
  | [], [] => true
  | (k, a) :: as, (l, b) :: bs => k == l && same a b && sameMembers as bs
  | _, _ => false
end

mutual

theorem same_iff : (a b : Json) → same a b = true ↔ a = b
  | .null, b => by cases b <;> simp [same]
  | .bool _, b => by cases b <;> simp [same]
  | .number _, b => by cases b <;> simp [same]
  | .string _, b => by cases b <;> simp [same]
  | .array _, b => by cases b <;> simp [same, sameItems_iff]
  | .object _, b => by cases b <;> simp [same, sameMembers_iff]

theorem sameItems_iff : (a b : List Json) → sameItems a b = true ↔ a = b
  | [], b => by cases b <;> simp [sameItems]
  | a :: as, b => by cases b <;> simp [sameItems, same_iff a, sameItems_iff as]

theorem sameMembers_iff : (a b : List (String × Json)) → sameMembers a b = true ↔ a = b
  | [], b => by cases b <;> simp [sameMembers]
  | (_, a) :: as, b => by
    cases b with
    | nil => simp [sameMembers]
    | cons head tail => obtain ⟨_, _⟩ := head; simp [sameMembers, same_iff a, sameMembers_iff as]
end

instance : DecidableEq Json := fun a b => decidable_of_iff _ (same_iff a b)

end Json

/-- The text of a member that is a string. -/
def Members.text? (key : String) (members : Members) : Option String :=
  (find? key members).bind Json.text?

/-- Whether a member is `true`. -/
def Members.isTrue (key : String) (members : Members) : Bool :=
  find? key members == some (.bool true)

end UiStream

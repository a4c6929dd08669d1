import UiStream.Expression.Condition
import UiStream.Json.Height

/-!
# Expressions

The value of a property is a literal, a reference to the state or to the item of the repeated
element, a choice, or an array or object with such values inside.  `Expression.ofJson` sees
which: an object that names a reference is one, and everything else is what it looks like.
`Expression.encode` writes an expression as JSON again.
-/

namespace UiStream

/-- The value of a property before it is resolved. -/
inductive Expression where
  | literal (value : Json)
  | state (pointer : String)
  | item (path : String)
  | index
  | bindState (pointer : String)
  | bindItem (path : String)
  | choice (condition : Condition) (accepted rejected : Expression)
  | array (items : List Expression)
  | object (members : List (String × Expression))
deriving Repr

namespace Expression

/-- The reference that the members of an object name, the first in this order. -/
def reference? (members : Members) : Option Expression :=
  match Members.text? "$state" members, Members.text? "$item" members,
      Members.isTrue "$index" members, Members.text? "$bindState" members,
      Members.text? "$bindItem" members with
  | some pointer, _, _, _, _ => some (state pointer)
  | none, some path, _, _, _ => some (item path)
  | none, none, true, _, _ => some index
  | none, none, false, some pointer, _ => some (bindState pointer)
  | none, none, false, none, some path => some (bindItem path)
  | none, none, false, none, none => none

/-- Reads the condition of a choice.  One that cannot be read never holds. -/
def choiceCondition (v : Json) : Condition :=
  match Condition.decode v with
  | .ok condition => condition
  | .error _ => .constant false

mutual

/-- The expression that a value is. -/
def ofJson : Json → Expression
  | .object members =>
    match reference? members with
    | some expression => expression
    | none =>
      match Members.find? "$cond" members, ofMember? "$then" members,
          ofMember? "$else" members with
      | some condition, some accepted, some rejected =>
        choice (choiceCondition condition) accepted rejected
      | _, _, _ => object (ofMembers members)
  | .array items => array (ofItems items)
  | v => literal v

/-- The expression that the member with the key is. -/
def ofMember? (key : String) : List (String × Json) → Option Expression
  | [] => none
  | (k, v) :: rest => if k = key then some (ofJson v) else ofMember? key rest

/-- The expressions that items are. -/
def ofItems : List Json → List Expression
  | [] => []
  | v :: rest => ofJson v :: ofItems rest

/-- The expressions that members are. -/
def ofMembers : List (String × Json) → List (String × Expression)
  | [] => []
  | (key, v) :: rest => (key, ofJson v) :: ofMembers rest
end

mutual

/-- An expression as JSON. -/
def encode : Expression → Json
  | literal value => value
  | state pointer => .object [("$state", .string pointer)]
  | item path => .object [("$item", .string path)]
  | index => .object [("$index", .bool true)]
  | bindState pointer => .object [("$bindState", .string pointer)]
  | bindItem path => .object [("$bindItem", .string path)]
  | choice condition accepted rejected =>
    .object [("$cond", condition.encode), ("$then", encode accepted), ("$else", encode rejected)]
  | array items => .array (encodeItems items)
  | object members => .object (encodeMembers members)

/-- Expressions as items. -/
def encodeItems : List Expression → List Json
  | [] => []
  | e :: rest => encode e :: encodeItems rest

/-- Expressions as members. -/
def encodeMembers : List (String × Expression) → List (String × Json)
  | [] => []
  | (key, e) :: rest => (key, encode e) :: encodeMembers rest
end

/-- Looking a member up first or reading it first is the same. -/
theorem ofMember?_eq (key : String) :
    (members : Members) → ofMember? key members = (Members.find? key members).map ofJson
  | [] => rfl
  | (k, v) :: rest => by
    by_cases hk : k = key
    · simp [ofMember?, Members.find?, hk]
    · simp [ofMember?, Members.find?, hk, ofMember?_eq key rest]

end Expression

end UiStream

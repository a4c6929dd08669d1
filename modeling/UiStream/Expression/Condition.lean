import UiStream.Json.Equal
import UiStream.Json.Display
import UiStream.Json.Printer
import UiStream.Expression.Scope

/-!
# Conditions

A condition is a truth value, a test of one value, several such tests that must all hold, or
conditions joined by *all* or *any*.  A test reads a value of the scope, compares it with an
operand or asks whether it counts as true, and may be negated.

`Condition.decode` reads a condition from JSON and `Condition.encode` writes it.  The operand of
a comparison is kept as it was written; what it means in a scope is for `holdsWith` to be told.
-/

namespace UiStream

/-- What a test looks at. -/
inductive Subject where
  | state (pointer : String)
  | item (path : String)
  | index
deriving DecidableEq, Repr

/-- How a test compares. -/
inductive Operator where
  | eq
  | neq
  | gt
  | gte
  | lt
  | lte
deriving DecidableEq, Repr

/-- A comparison with an operand. -/
structure Comparison where
  operator : Operator
  operand : Json
deriving DecidableEq, Repr

/-- A test of one value. -/
structure ValueTest where
  subject : Subject
  comparison? : Option Comparison := none
  negated : Bool := false
deriving DecidableEq, Repr

/-- A condition. -/
inductive Condition where
  | constant (value : Bool)
  | single (test : ValueTest)
  | every (tests : List ValueTest)
  | all (conditions : List Condition)
  | any (conditions : List Condition)
deriving Repr, Inhabited

/-! ## Evaluation -/

/-- The value a test looks at. -/
def Subject.value? (scope : Scope) : Subject → Option Json
  | state pointer => scope.stateAt? pointer
  | item path => scope.itemAt? path
  | index => scope.index?

/-- Compares two numbers by their nearest doubles; anything else is not in order. -/
def ordered (test : Double → Double → Bool) (a b : Option Json) : Bool :=
  match a.bind Json.number?, b.bind Json.number? with
  | some m, some n => test m.toDouble n.toDouble
  | _, _ => false

/-- Whether two values that may be absent compare as the operator says. -/
def Operator.holds : Operator → Option Json → Option Json → Bool
  | eq, a, b => Json.equal? a b
  | neq, a, b => !Json.equal? a b
  | gt, a, b => ordered (fun x y => y.numLt x) a b
  | gte, a, b => ordered (fun x y => y.numLe x) a b
  | lt, a, b => ordered Double.numLt a b
  | lte, a, b => ordered Double.numLe a b

/-- Whether a test holds, given what an operand means. -/
def ValueTest.holdsWith (meaning : Json → Option Json) (scope : Scope) (test : ValueTest) : Bool :=
  let value? := test.subject.value? scope
  let outcome := match test.comparison? with
    | some comparison => comparison.operator.holds value? (meaning comparison.operand)
    | none => Json.truthy? value?
  outcome != test.negated

namespace Condition

mutual

/-- Whether a condition holds, given what an operand means. -/
def holdsWith (meaning : Json → Option Json) (scope : Scope) : Condition → Bool
  | constant value => value
  | single test => test.holdsWith meaning scope
  | every tests => tests.all (·.holdsWith meaning scope)
  | all conditions => allHoldWith meaning scope conditions
  | any conditions => anyHoldsWith meaning scope conditions

/-- Whether every condition holds. -/
def allHoldWith (meaning : Json → Option Json) (scope : Scope) : List Condition → Bool
  | [] => true
  | c :: rest => holdsWith meaning scope c && allHoldWith meaning scope rest

/-- Whether some condition holds. -/
def anyHoldsWith (meaning : Json → Option Json) (scope : Scope) : List Condition → Bool
  | [] => false
  | c :: rest => holdsWith meaning scope c || anyHoldsWith meaning scope rest
end

end Condition

/-! ## Writing -/

/-- The name of an operator. -/
def Operator.name : Operator → String
  | eq => "eq"
  | neq => "neq"
  | gt => "gt"
  | gte => "gte"
  | lt => "lt"
  | lte => "lte"

/-- The operators, the one that wins when several are present first. -/
def Operator.byPrecedence : List Operator := [.eq, .neq, .gt, .gte, .lt, .lte]

/-- The member that names the subject. -/
def Subject.encode : Subject → String × Json
  | state pointer => ("$state", .string pointer)
  | item path => ("$item", .string path)
  | index => ("$index", .bool true)

/-- The members of a test: the subject, the comparison, the negation. -/
def ValueTest.members (test : ValueTest) : Members :=
  test.subject.encode ::
    (test.comparison?.toList.map fun c => (c.operator.name, c.operand)) ++
    (if test.negated then [("not", .bool true)] else [])

/-- A test as JSON. -/
def ValueTest.encode (test : ValueTest) : Json := .object test.members

namespace Condition

mutual

/-- A condition as JSON. -/
def encode : Condition → Json
  | constant value => .bool value
  | single test => test.encode
  | every tests => .array (tests.map ValueTest.encode)
  | all conditions => .object [("$and", .array (encodeAll conditions))]
  | any conditions => .object [("$or", .array (encodeAll conditions))]

/-- Conditions as JSON. -/
def encodeAll : List Condition → List Json
  | [] => []
  | c :: rest => encode c :: encodeAll rest
end

end Condition

/-! ## Reading -/

/-- Why a value is not a condition. -/
inductive ConditionFault where
  | unsupported (value : Json)
  | notObject (value : Json)
  | notList (key : String)
  | missingSubject
deriving DecidableEq, Repr

/-- The wording of the fault. -/
def ConditionFault.message : ConditionFault → String
  | unsupported value => "invalid visibility condition: unsupported condition " ++ value.compact
  | notObject value =>
    "invalid visibility condition: expected a condition object, got " ++ value.compact
  | notList key => "invalid visibility condition: " ++ key ++ " must be an array"
  | missingSubject => "condition must reference one of $state, $item or $index"

/-- The subject that the members of a test name. -/
def Subject.decode? (members : Members) : Option Subject :=
  match Members.text? "$state" members, Members.text? "$item" members with
  | some pointer, _ => some (.state pointer)
  | none, some path => some (.item path)
  | none, none => if Members.isTrue "$index" members then some .index else none

/-- The comparison that the members of a test ask for. -/
def Comparison.decode? (members : Members) : Option Comparison :=
  Operator.byPrecedence.findSome? fun operator =>
    (Members.find? operator.name members).map fun operand => ⟨operator, operand⟩

/-- Reads a test from members. -/
def ValueTest.ofMembers (members : Members) : Except ConditionFault ValueTest :=
  match Subject.decode? members with
  | some subject =>
    .ok ⟨subject, Comparison.decode? members, Members.isTrue "not" members⟩
  | none => .error .missingSubject

/-- Reads a test. -/
def ValueTest.decode : Json → Except ConditionFault ValueTest
  | .object members => ofMembers members
  | v => .error (.notObject v)

/-- Reads tests in order, up to the first that is none. -/
def ValueTest.decodeAll : List Json → Except ConditionFault (List ValueTest)
  | [] => .ok []
  | v :: rest => do return (← decode v) :: (← decodeAll rest)

namespace Condition

mutual

/-- Reads a condition. -/
def decode : Json → Except ConditionFault Condition
  | .bool b => .ok (constant b)
  | .array items => (ValueTest.decodeAll items).map every
  | .object members =>
    match decodeMember "$and" members with
    | some conditions => conditions.map all
    | none =>
      match decodeMember "$or" members with
      | some conditions => conditions.map any
      | none => (ValueTest.ofMembers members).map single
  | v => .error (.unsupported v)

/-- Reads the member with the key as a list of conditions. -/
def decodeMember (key : String) :
    List (String × Json) → Option (Except ConditionFault (List Condition))
  | [] => none
  | (k, v) :: rest => if k = key then some (decodeList key v) else decodeMember key rest

/-- Reads a list of conditions. -/
def decodeList (key : String) : Json → Except ConditionFault (List Condition)
  | .array items => decodeItems items
  | _ => .error (.notList key)

/-- Reads conditions in order, up to the first that is none. -/
def decodeItems : List Json → Except ConditionFault (List Condition)
  | [] => .ok []
  | v :: rest =>
    match decode v with
    | .error fault => .error fault
    | .ok condition => (decodeItems rest).map (condition :: ·)
end

/-! ## Shorthands -/

/-- Holds while the state has a true value at the pointer. -/
def whenTrue (pointer : String) : Condition := single { subject := .state pointer }

/-- Holds while the state has no true value at the pointer. -/
def unlessTrue (pointer : String) : Condition :=
  single { subject := .state pointer, negated := true }

/-- Compares the value at a pointer of the state. -/
def comparing (operator : Operator) (pointer : String) (operand : Json) : Condition :=
  single { subject := .state pointer, comparison? := some ⟨operator, operand⟩ }

end Condition

end UiStream

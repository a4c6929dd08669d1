import UiStream.Expression.Basic

/-!
# Resolving expressions

Resolving replaces each reference by the value it leads to.  An undefined member of an object is
left out, and an undefined item of an array becomes `null`, so that positions are kept.

The operand of a comparison is itself a value to resolve, so an expression can hold conditions
whose operands hold expressions again.  `Expression.resolveWith` is told what operands mean;
`resolveNested` supplies that for operands nested to a given depth, and the height of a value
bounds how deep its operands nest.
-/

namespace UiStream

namespace Expression

mutual

/-- The value of an expression, given what operands mean. -/
def resolveWith (meaning : Json → Option Json) (scope : Scope) : Expression → Option Json
  | literal value => some value
  | state pointer | bindState pointer => scope.stateAt? pointer
  | item path => scope.itemAt? path
  | index => scope.index?
  | bindItem path => (scope.itemPointer? path).bind scope.stateAt?
  | choice condition accepted rejected =>
    if condition.holdsWith meaning scope then resolveWith meaning scope accepted
    else resolveWith meaning scope rejected
  | array items => some (.array (resolveItemsWith meaning scope items))
  | object members => some (.object (resolveMembersWith meaning scope members))

/-- The values of items, `null` for an undefined one. -/
def resolveItemsWith (meaning : Json → Option Json) (scope : Scope) : List Expression → List Json
  | [] => []
  | e :: rest =>
    (resolveWith meaning scope e).getD .null :: resolveItemsWith meaning scope rest

/-- The values of members, without the undefined ones. -/
def resolveMembersWith (meaning : Json → Option Json) (scope : Scope) :
    List (String × Expression) → List (String × Json)
  | [] => []
  | (key, e) :: rest =>
    match resolveWith meaning scope e with
    | some v => (key, v) :: resolveMembersWith meaning scope rest
    | none => resolveMembersWith meaning scope rest
end

/-- The pointer that an input bound to this expression writes to. -/
def bindingPointer? (scope : Scope) : Expression → Option String
  | bindState pointer => some pointer
  | bindItem path => scope.itemPointer? path
  | _ => none

end Expression

namespace Json

/-- The value that raw JSON stands for in a scope, where operands nest less deep than `depth`. -/
def resolveNested (scope : Scope) : Nat → Json → Option Json
  | 0, _ => none
  | depth + 1, v => (Expression.ofJson v).resolveWith (resolveNested scope depth) scope

/-- The value that raw JSON stands for in a scope. -/
def resolve (scope : Scope) (v : Json) : Option Json := resolveNested scope (v.height + 1) v

end Json

/-- The value of an expression. -/
def Expression.resolve (scope : Scope) (e : Expression) : Option Json :=
  e.resolveWith (Json.resolve scope) scope

/-- Whether a condition holds. -/
def Condition.holds (scope : Scope) (c : Condition) : Bool := c.holdsWith (Json.resolve scope) scope

/-- Whether something with the condition is visible; without a condition it is. -/
def visible (scope : Scope) : Option Condition → Bool
  | none => true
  | some c => c.holds scope

/-! ## Properties and parameters -/

/-- The properties of an element, without the undefined ones. -/
def resolveProps (scope : Scope) (props : Members) : Members :=
  props.filterMap fun (key, v) => (v.resolve scope).map fun value => (key, value)

/-- The pointers that the properties of an element are bound to, by the property's name. -/
def boundProps (scope : Scope) (props : Members) : List (String × String) :=
  props.filterMap fun (key, v) =>
    ((Expression.ofJson v).bindingPointer? scope).map fun pointer => (key, pointer)

/-- The value of an action's parameter.  Actions write back into the state, so a reference to
the item yields the pointer to it and not its value. -/
def Json.resolveParam (scope : Scope) (v : Json) : Option Json :=
  match Expression.ofJson v with
  | .item path => (scope.itemPointer? path).map .string
  | .index => scope.index?
  | e => e.resolve scope

end UiStream

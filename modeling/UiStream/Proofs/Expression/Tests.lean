import UiStream.Expression.Resolve

/-!
# What expressions look at

The value of an expression comes from its references and from the tests in the conditions of its
choices, however deep they stand.  Two scopes, and two ways to say what operands mean, that do not
differ in these do not differ in the value (`Expression.resolveWith_congr`); and whether a condition
holds depends on its tests alone (`Condition.holdsWith_congr`).
-/

namespace UiStream

section

variable {meaning meaning' : Json → Option Json} {scope scope' : Scope}

/-! ## Conditions -/

namespace Condition

mutual

/-- The tests in a condition. -/
def tests : Condition → List ValueTest
  | constant _ => []
  | single test => [test]
  | every tests => tests
  | all conditions => testsOfAll conditions
  | any conditions => testsOfAll conditions

/-- `tests` over a list of conditions. -/
def testsOfAll : List Condition → List ValueTest
  | [] => []
  | c :: rest => tests c ++ testsOfAll rest
end

mutual

/-- Whether a condition holds is the same where its tests have the same outcomes. -/
theorem holdsWith_congr : {condition : Condition} →
    (∀ test ∈ condition.tests, test.holdsWith meaning scope = test.holdsWith meaning' scope') →
      condition.holdsWith meaning scope = condition.holdsWith meaning' scope'
  | constant _, _ => rfl
  | single test, same => same test (List.mem_singleton_self test)
  | every tests, same => by
    rw [holdsWith, holdsWith, Bool.eq_iff_iff, List.all_eq_true, List.all_eq_true]
    exact forall₂_congr fun test mem => by rw [same test mem]
  | all _, same => allHoldWith_congr same
  | any _, same => anyHoldsWith_congr same

theorem allHoldWith_congr : {conditions : List Condition} →
    (∀ test ∈ testsOfAll conditions,
      test.holdsWith meaning scope = test.holdsWith meaning' scope') →
      allHoldWith meaning scope conditions = allHoldWith meaning' scope' conditions
  | [], _ => rfl
  | _ :: _, same => by
    obtain ⟨first, later⟩ := List.forall_mem_append.mp same
    rw [allHoldWith, allHoldWith, holdsWith_congr first, allHoldWith_congr later]

theorem anyHoldsWith_congr : {conditions : List Condition} →
    (∀ test ∈ testsOfAll conditions,
      test.holdsWith meaning scope = test.holdsWith meaning' scope') →
      anyHoldsWith meaning scope conditions = anyHoldsWith meaning' scope' conditions
  | [], _ => rfl
  | _ :: _, same => by
    obtain ⟨first, later⟩ := List.forall_mem_append.mp same
    rw [anyHoldsWith, anyHoldsWith, holdsWith_congr first, anyHoldsWith_congr later]
end

end Condition

/-! ## Expressions -/

namespace Expression

/-- The value that a reference leads to. -/
def target? (scope : Scope) : Expression → Option Json
  | state pointer | bindState pointer => scope.stateAt? pointer
  | item path => scope.itemAt? path
  | index => scope.index?
  | bindItem path => (scope.itemPointer? path).bind scope.stateAt?
  | _ => none

mutual

/-- The references in an expression, those in the branches of choices included. -/
def references : Expression → List Expression
  | literal _ => []
  | choice _ accepted rejected => references accepted ++ references rejected
  | array items => referencesOfItems items
  | object members => referencesOfMembers members
  | reference => [reference]

/-- `references` over the items of an array. -/
def referencesOfItems : List Expression → List Expression
  | [] => []
  | e :: rest => references e ++ referencesOfItems rest

/-- `references` over the values of members. -/
def referencesOfMembers : List (String × Expression) → List Expression
  | [] => []
  | (_, e) :: rest => references e ++ referencesOfMembers rest
end

mutual

/-- The tests in the conditions of the choices in an expression. -/
def tests : Expression → List ValueTest
  | choice condition accepted rejected => condition.tests ++ (tests accepted ++ tests rejected)
  | array items => testsOfItems items
  | object members => testsOfMembers members
  | _ => []

/-- `tests` over the items of an array. -/
def testsOfItems : List Expression → List ValueTest
  | [] => []
  | e :: rest => tests e ++ testsOfItems rest

/-- `tests` over the values of members. -/
def testsOfMembers : List (String × Expression) → List ValueTest
  | [] => []
  | (_, e) :: rest => tests e ++ testsOfMembers rest
end

mutual

/-- An expression has the same value where its references lead to the same values and its tests have
the same outcomes. -/
theorem resolveWith_congr : {e : Expression} →
    (∀ r ∈ e.references, r.target? scope = r.target? scope') →
    (∀ test ∈ e.tests, test.holdsWith meaning scope = test.holdsWith meaning' scope') →
      e.resolveWith meaning scope = e.resolveWith meaning' scope'
  | literal _, _, _ => rfl
  | state _, found, _ | item _, found, _ | index, found, _ | bindState _, found, _
  | bindItem _, found, _ => found _ (List.mem_singleton_self _)
  | choice condition accepted rejected, found, same => by
    obtain ⟨yes, no⟩ := List.forall_mem_append.mp found
    obtain ⟨tested, branches⟩ := List.forall_mem_append.mp same
    obtain ⟨yes', no'⟩ := List.forall_mem_append.mp branches
    rw [resolveWith, resolveWith, Condition.holdsWith_congr tested, resolveWith_congr yes yes',
      resolveWith_congr no no']
  | array items, found, same => by rw [resolveWith, resolveWith, resolveItemsWith_congr found same]
  | object members, found, same => by
    rw [resolveWith, resolveWith, resolveMembersWith_congr found same]

theorem resolveItemsWith_congr : {items : List Expression} →
    (∀ r ∈ referencesOfItems items, r.target? scope = r.target? scope') →
    (∀ test ∈ testsOfItems items,
      test.holdsWith meaning scope = test.holdsWith meaning' scope') →
      resolveItemsWith meaning scope items = resolveItemsWith meaning' scope' items
  | [], _, _ => rfl
  | _ :: _, found, same => by
    obtain ⟨first, later⟩ := List.forall_mem_append.mp found
    obtain ⟨first', later'⟩ := List.forall_mem_append.mp same
    rw [resolveItemsWith, resolveItemsWith, resolveWith_congr first first',
      resolveItemsWith_congr later later']

theorem resolveMembersWith_congr : {members : List (String × Expression)} →
    (∀ r ∈ referencesOfMembers members, r.target? scope = r.target? scope') →
    (∀ test ∈ testsOfMembers members,
      test.holdsWith meaning scope = test.holdsWith meaning' scope') →
      resolveMembersWith meaning scope members = resolveMembersWith meaning' scope' members
  | [], _, _ => rfl
  | (_, _) :: _, found, same => by
    obtain ⟨first, later⟩ := List.forall_mem_append.mp found
    obtain ⟨first', later'⟩ := List.forall_mem_append.mp same
    rw [resolveMembersWith, resolveMembersWith, resolveWith_congr first first',
      resolveMembersWith_congr later later']
end

end Expression

end

end UiStream

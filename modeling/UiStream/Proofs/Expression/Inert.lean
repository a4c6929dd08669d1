import UiStream.Expression.Resolve
import UiStream.Proofs.Json.Members

/-!
# Values that are no expressions

A value is inert if nothing in it is a reference or a choice (`Json.Inert`).  Whatever the scope,
an inert value resolves to itself (`Json.Inert.resolve`), and only an inert value does: where there
is nothing to refer to, every other value becomes smaller (`Json.Inert.or_smaller`,
`Json.inert_iff_resolve_bare`).

Reading an inert value gives inert values.  So does resolving in a scope that holds inert values
only, if the keys that are written in the expression are not those of references and choices
(`Expression.Sealed.inert`): such an object comes out with the same keys or fewer.
-/

namespace UiStream

/-! ## Keys -/

namespace Expression

/-- The keys that make an object a reference. -/
def referenceKeys : List String := ["$state", "$item", "$index", "$bindState", "$bindItem"]

/-- The keys that make an object a choice, if they are all there. -/
def choiceKeys : List String := ["$cond", "$then", "$else"]

/-- Members with these keys are neither a reference nor a choice, whatever their values are. -/
structure Plain (keys : List String) : Prop where
  reference : ∀ key ∈ referenceKeys, key ∉ keys
  choice : ∃ key ∈ choiceKeys, key ∉ keys

/-- Fewer keys make no more expressions. -/
theorem Plain.subset {keys fewer : List String} (plain : Plain keys) (sub : fewer ⊆ keys) :
    Plain fewer := by
  obtain ⟨key, listed, absent⟩ := plain.choice
  exact ⟨fun key listed inside => plain.reference key listed (sub inside),
    key, listed, fun inside => absent (sub inside)⟩

/-- Members that name no reference and lack a key of choices are the members of an object. -/
theorem ofJson_of_absent {members : Members} (nameless : reference? members = none) {key : String}
    (listed : key ∈ choiceKeys) (absent : Members.find? key members = none) :
    ofJson (.object members) = .object (ofMembers members) := by
  rw [ofJson, nameless]
  simp only [choiceKeys, List.mem_cons, List.not_mem_nil, or_false] at listed
  rcases listed with rfl | rfl | rfl <;> simp [ofMember?_eq, absent]

/-- Members with plain keys are the members of an object. -/
theorem ofJson_of_plain {members : Members} (plain : Plain members.keys) :
    ofJson (.object members) = .object (ofMembers members) := by
  have absent (key : String) (listed : key ∈ referenceKeys) : Members.find? key members = none :=
    Members.find?_eq_none_iff.mpr (plain.reference key listed)
  have nameless : reference? members = none := by
    simp only [referenceKeys, List.forall_mem_cons] at absent
    obtain ⟨state, item, index, bindState, bindItem, -⟩ := absent
    simp [reference?, Members.text?, Members.isTrue, state, item, index, bindState, bindItem]
  obtain ⟨key, listed, missing⟩ := plain.choice
  exact ofJson_of_absent nameless listed (Members.find?_eq_none_iff.mpr missing)

/-- What an object is: a reference, a choice, or an object. -/
theorem ofJson_object_cases (members : Members) :
    (∃ e, reference? members = some e ∧ ofJson (.object members) = e) ∨
    (∃ condition accepted rejected, ofMember? "$then" members = some accepted ∧
      ofMember? "$else" members = some rejected ∧
      ofJson (.object members) = choice condition accepted rejected) ∨
    ofJson (.object members) = object (ofMembers members) := by
  rw [ofJson]
  split
  · next e refers => exact .inl ⟨e, refers, rfl⟩
  · split
    · next accepted rejected _ yes no => exact .inr (.inl ⟨_, accepted, rejected, yes, no, rfl⟩)
    · exact .inr (.inr rfl)

end Expression

/-! ## Inert values -/

namespace Json

mutual

/-- Nothing in the value is a reference or a choice. -/
def Inert : Json → Prop
  | .array items => InertItems items
  | .object members =>
    Expression.ofJson (.object members) = .object (Expression.ofMembers members) ∧
      InertMembers members
  | _ => True

/-- `Inert` over the items of an array. -/
def InertItems : List Json → Prop
  | [] => True
  | v :: rest => Inert v ∧ InertItems rest

/-- `Inert` over the values of members. -/
def InertMembers : List (String × Json) → Prop
  | [] => True
  | (_, v) :: rest => Inert v ∧ InertMembers rest
end

mutual

/-- An inert value resolves to itself, whatever operands mean. -/
theorem Inert.resolveWith (meaning : Json → Option Json) (scope : Scope) :
    {v : Json} → v.Inert → (Expression.ofJson v).resolveWith meaning scope = some v
  | .array items, inert => by
    rw [Expression.ofJson, Expression.resolveWith, InertItems.resolveItemsWith meaning scope inert]
  | .object members, inert => by
    rw [inert.1, Expression.resolveWith, InertMembers.resolveMembersWith meaning scope inert.2]
  | .null, _ | .bool _, _ | .number _, _ | .string _, _ => rfl

theorem InertItems.resolveItemsWith (meaning : Json → Option Json) (scope : Scope) :
    {items : List Json} → InertItems items →
      Expression.resolveItemsWith meaning scope (Expression.ofItems items) = items
  | [], _ => rfl
  | v :: rest, inert => by
    rw [Expression.ofItems, Expression.resolveItemsWith, Inert.resolveWith meaning scope inert.1,
      InertItems.resolveItemsWith meaning scope inert.2]
    rfl

theorem InertMembers.resolveMembersWith (meaning : Json → Option Json) (scope : Scope) :
    {members : List (String × Json)} → InertMembers members →
      Expression.resolveMembersWith meaning scope (Expression.ofMembers members) = members
  | [], _ => rfl
  | (key, v) :: rest, inert => by
    rw [Expression.ofMembers, Expression.resolveMembersWith,
      Inert.resolveWith meaning scope inert.1]
    exact congrArg _ (InertMembers.resolveMembersWith meaning scope inert.2)
end

/-- An inert value resolves to itself. -/
theorem Inert.resolve {v : Json} (inert : v.Inert) (scope : Scope) : v.resolve scope = some v :=
  inert.resolveWith _ scope

/-! ## Only inert values resolve to themselves -/

/-- A scope in which there is nothing to refer to. -/
def bare : Scope := { state := .null }

/-- A reference finds nothing but `null` there. -/
theorem reference_bare {members : Members} {e : Expression}
    (refers : Expression.reference? members = some e) (meaning : Json → Option Json) :
    (e.resolveWith meaning bare).getD .null = .null := by
  have whole (pointer : String) : (bare.stateAt? pointer).getD .null = .null := by
    rw [Scope.stateAt?, at?]
    cases Pointer.tokens pointer <;> rfl
  unfold Expression.reference? at refers
  split at refers <;> cases refers
  · exact whole _
  · rfl
  · rfl
  · exact whole _
  · rfl

/-- What is either the same or smaller is not larger. -/
theorem sizeOf_le_of_or {α : Type} [SizeOf α] {p : Prop} {a b : α} (same : p → a = b)
    (h : p ∨ sizeOf a < sizeOf b) : sizeOf a ≤ sizeOf b := by
  rcases h with h | smaller
  · exact Nat.le_of_eq (congrArg sizeOf (same h))
  · exact Nat.le_of_lt smaller

section

variable (meaning : Json → Option Json)

mutual

/-- A value that is not inert becomes smaller where there is nothing to refer to. -/
theorem Inert.or_smaller : (v : Json) → v.Inert ∨
    sizeOf (((Expression.ofJson v).resolveWith meaning bare).getD .null) < sizeOf v
  | .array items => by
    rcases InertItems.or_smaller items with inert | smaller
    · exact .inl inert
    · right
      simp only [Expression.ofJson, Expression.resolveWith, Option.getD_some, array.sizeOf_spec]
      omega
  | .object members => by
    obtain ⟨e, refers, shape⟩ | ⟨condition, accepted, rejected, yes, no, shape⟩ | shape :=
      Expression.ofJson_object_cases members
    · right
      rw [shape, reference_bare refers, null.sizeOf_spec, object.sizeOf_spec]
      have some : 0 < sizeOf members := by
        cases members with
        | nil => simp
        | cons member rest =>
          rw [List.cons.sizeOf_spec]
          omega
      omega
    · right
      have yes := branch_smaller yes
      have no := branch_smaller no
      rw [shape, Expression.resolveWith, object.sizeOf_spec]
      split <;> omega
    · rcases InertMembers.or_smaller members with inert | smaller
      · exact .inl ⟨shape, inert⟩
      · right
        rw [shape, Expression.resolveWith, Option.getD_some, object.sizeOf_spec, object.sizeOf_spec]
        omega
  | .null | .bool _ | .number _ | .string _ => .inl trivial

theorem InertItems.or_smaller : (items : List Json) → InertItems items ∨
    sizeOf (Expression.resolveItemsWith meaning bare (Expression.ofItems items)) < sizeOf items
  | [] => .inl trivial
  | v :: rest => by
    rw [Expression.ofItems, Expression.resolveItemsWith, List.cons.sizeOf_spec,
      List.cons.sizeOf_spec]
    have later := InertItems.or_smaller rest
    have most := sizeOf_le_of_or (InertItems.resolveItemsWith meaning bare) later
    rcases Inert.or_smaller v with here | smaller
    · rw [here.resolveWith, Option.getD_some]
      rcases later with later | smaller
      · exact .inl ⟨here, later⟩
      · right
        omega
    · right
      omega

theorem InertMembers.or_smaller : (members : List (String × Json)) → InertMembers members ∨
    sizeOf (Expression.resolveMembersWith meaning bare (Expression.ofMembers members)) <
      sizeOf members
  | [] => .inl trivial
  | (key, v) :: rest => by
    rw [Expression.ofMembers, Expression.resolveMembersWith, List.cons.sizeOf_spec,
      Prod.mk.sizeOf_spec]
    have later := InertMembers.or_smaller rest
    have most := sizeOf_le_of_or (InertMembers.resolveMembersWith meaning bare) later
    rcases Inert.or_smaller v with here | smaller
    · rw [here.resolveWith]
      dsimp only
      rw [List.cons.sizeOf_spec, Prod.mk.sizeOf_spec]
      rcases later with later | smaller
      · exact .inl ⟨here, later⟩
      · right
        omega
    · right
      cases resolved : (Expression.ofJson v).resolveWith meaning bare with
      | none =>
        dsimp only
        omega
      | some w =>
        rw [resolved, Option.getD_some] at smaller
        dsimp only
        rw [List.cons.sizeOf_spec, Prod.mk.sizeOf_spec]
        omega

theorem branch_smaller {key : String} : {members : List (String × Json)} → {e : Expression} →
    Expression.ofMember? key members = some e →
      sizeOf ((e.resolveWith meaning bare).getD .null) < sizeOf members
  | [], _, found => nomatch found
  | (k, v) :: rest, e, found => by
    rw [List.cons.sizeOf_spec, Prod.mk.sizeOf_spec]
    rw [Expression.ofMember?] at found
    split at found
    · cases found
      have most := sizeOf_le_of_or
        (fun inert => congrArg (·.getD .null) (Inert.resolveWith meaning bare inert))
        (Inert.or_smaller v)
      omega
    · have deeper := branch_smaller found
      omega
end

end

/-- The inert values are those that resolve to themselves where there is nothing to refer to. -/
theorem inert_iff_resolve_bare {v : Json} : v.Inert ↔ v.resolve bare = some v := by
  constructor
  · exact fun inert => inert.resolve bare
  · intro same
    have same : (Expression.ofJson v).resolveWith (resolveNested bare v.height) bare = some v :=
      same
    rcases Inert.or_smaller (resolveNested bare v.height) v with inert | smaller
    · exact inert
    · rw [same, Option.getD_some] at smaller
      exact absurd smaller (Nat.lt_irrefl _)

instance (v : Json) : Decidable v.Inert := decidable_of_iff _ inert_iff_resolve_bare.symm

/-! ## Reading inert values -/

theorem inertItems_iff (items : List Json) : InertItems items ↔ ∀ v ∈ items, Inert v := by
  induction items with
  | nil => simp [InertItems]
  | cons v items ih => simp [InertItems, ih]

theorem inertMembers_iff (members : Members) :
    InertMembers members ↔ ∀ member ∈ members, Inert member.2 := by
  induction members with
  | nil => simp [InertMembers]
  | cons member members ih => simp [InertMembers, ih]

/-- What is in an inert value is inert. -/
theorem Inert.get? {tokens : List String} {doc v : Json} (inert : doc.Inert)
    (found : doc.get? tokens = some v) : v.Inert := by
  induction tokens generalizing doc with
  | nil => cases found; exact inert
  | cons token tokens ih =>
    obtain ⟨child, here, found⟩ := Option.bind_eq_some_iff.mp found
    refine ih ?_ found
    cases doc with
    | array items =>
      obtain ⟨index, -, listed⟩ := Option.bind_eq_some_iff.mp here
      exact (inertItems_iff items).mp inert _ (List.mem_of_getElem? listed)
    | object members =>
      exact (inertMembers_iff members).mp inert.2 _ (Members.mem_of_find? here)
    | null | bool | number | string => cases here

theorem Inert.at? {pointer : String} {doc v : Json} (inert : doc.Inert)
    (found : doc.at? pointer = some v) : v.Inert :=
  inert.get? found

end Json

/-- The values that a scope holds are inert. -/
structure Scope.Inert (scope : Scope) : Prop where
  state : scope.state.Inert
  item : ∀ repeated, scope.repeated? = some repeated → repeated.item.Inert

/-! ## Sealed expressions -/

namespace Expression

mutual

/-- What is written in the expression is inert, and its objects have plain keys. -/
def Sealed : Expression → Prop
  | literal value => value.Inert
  | choice _ accepted rejected => Sealed accepted ∧ Sealed rejected
  | array items => SealedItems items
  | object members => Plain (members.map (·.1)) ∧ SealedMembers members
  | _ => True

/-- `Sealed` over the items of an array. -/
def SealedItems : List Expression → Prop
  | [] => True
  | e :: rest => Sealed e ∧ SealedItems rest

/-- `Sealed` over the values of members. -/
def SealedMembers : List (String × Expression) → Prop
  | [] => True
  | (_, e) :: rest => Sealed e ∧ SealedMembers rest
end

/-- The members that are defined have keys of members. -/
theorem resolveMembersWith_keys (meaning : Json → Option Json) (scope : Scope)
    (members : List (String × Expression)) :
    (resolveMembersWith meaning scope members).map (·.1) ⊆ members.map (·.1) := by
  induction members with
  | nil => exact List.Subset.refl _
  | cons member members ih =>
    rw [resolveMembersWith]
    split
    · exact List.cons_subset_cons _ ih
    · exact List.subset_cons_of_subset _ ih

section

variable {meaning : Json → Option Json} {scope : Scope}

mutual

/-- A sealed expression has an inert value where the scope holds inert values only. -/
theorem Sealed.inert (clean : scope.Inert) {v : Json} :
    {e : Expression} → e.Sealed → e.resolveWith meaning scope = some v → v.Inert
  | .literal _, written, resolved => by cases resolved; exact written
  | .state _, _, resolved | .bindState _, _, resolved => clean.state.at? resolved
  | .item _, _, resolved => by
    obtain ⟨repeated, active, resolved⟩ := Option.bind_eq_some_iff.mp resolved
    exact (clean.item repeated active).at? resolved
  | .index, _, resolved => by
    obtain ⟨repeated, -, rfl⟩ := Option.map_eq_some_iff.mp resolved
    exact trivial
  | .bindItem _, _, resolved => by
    obtain ⟨pointer, -, resolved⟩ := Option.bind_eq_some_iff.mp resolved
    exact clean.state.at? resolved
  | .choice condition accepted rejected, written, resolved => by
    rw [resolveWith] at resolved
    split at resolved
    · exact Sealed.inert clean written.1 resolved
    · exact Sealed.inert clean written.2 resolved
  | .array items, written, resolved => by
    cases resolved
    exact SealedItems.inert clean written
  | .object members, written, resolved => by
    cases resolved
    have plain := written.1.subset (resolveMembersWith_keys meaning scope members)
    exact ⟨ofJson_of_plain plain, SealedMembers.inert clean written.2⟩

theorem SealedItems.inert (clean : scope.Inert) :
    {items : List Expression} → SealedItems items →
      Json.InertItems (resolveItemsWith meaning scope items)
  | [], _ => trivial
  | e :: rest, written => by
    refine ⟨?_, SealedItems.inert clean written.2⟩
    cases resolved : e.resolveWith meaning scope with
    | none => exact trivial
    | some v => exact Sealed.inert clean written.1 resolved

theorem SealedMembers.inert (clean : scope.Inert) :
    {members : List (String × Expression)} → SealedMembers members →
      Json.InertMembers (resolveMembersWith meaning scope members)
  | [], _ => trivial
  | (key, e) :: rest, written => by
    rw [resolveMembersWith]
    split
    · next resolved =>
      exact ⟨Sealed.inert clean written.1 resolved, SealedMembers.inert clean written.2⟩
    · exact SealedMembers.inert clean written.2
end

end

end Expression

/-- A parameter that is written sealed is inert where the scope holds inert values only. -/
theorem Json.inert_of_resolveParam {scope : Scope} (clean : scope.Inert) {written v : Json}
    (sealed : (Expression.ofJson written).Sealed) (resolved : written.resolveParam scope = some v) :
    v.Inert := by
  unfold Json.resolveParam at resolved
  split at resolved
  · obtain ⟨pointer, -, rfl⟩ := Option.map_eq_some_iff.mp resolved
    exact trivial
  · obtain ⟨repeated, -, rfl⟩ := Option.map_eq_some_iff.mp resolved
    exact trivial
  · exact sealed.inert clean resolved

end UiStream

import UiStream.Proofs.Expression.Inert
import UiStream.Proofs.Expression.Operands

/-!
# The shape of resolved values

An array resolves item by item and keeps its length; an object that is neither a reference nor a
choice resolves member by member and keeps the members that are defined, in their order
(`Json.resolve_array`, `Json.resolve_object`).  Which objects these are is told by the names of
their members and by whether some of them are texts or `true` (`Expression.composite_iff`).  A value
without any other object in it resolves to itself.
-/

namespace UiStream

namespace Expression

/-! ## Composites -/

/-- The keys that name a reference if their member is a text. -/
def textKeys : List String := ["$state", "$item", "$bindState", "$bindItem"]

/-- The members name no reference, and one of those of a choice is missing. -/
structure Composite (members : Members) : Prop where
  nameless : ∀ key ∈ textKeys, Members.text? key members = none
  unnumbered : Members.find? "$index" members ≠ some (.bool true)
  incomplete : ∃ key ∈ choiceKeys, Members.find? key members = none

/-- Members name no reference if none of their texts and truth values does. -/
theorem reference?_eq_none_iff {members : Members} :
    reference? members = none ↔
      (∀ key ∈ textKeys, Members.text? key members = none) ∧
        Members.find? "$index" members ≠ some (.bool true) := by
  have flag : Members.isTrue "$index" members = false ↔
      Members.find? "$index" members ≠ some (.bool true) := beq_eq_false_iff_ne
  rw [← flag]
  simp only [textKeys, List.forall_mem_cons, reference?]
  constructor
  · intro nameless
    split at nameless
    case h_6 state item index bindState bindItem =>
      exact ⟨⟨state, item, bindState, bindItem, nofun⟩, index⟩
    all_goals cases nameless
  · rintro ⟨⟨state, item, bindState, bindItem, -⟩, index⟩
    rw [state, item, index, bindState, bindItem]

/-- An object is read as an object of expressions exactly if it is a composite. -/
theorem composite_iff {members : Members} :
    Composite members ↔ ofJson (.object members) = .object (ofMembers members) := by
  constructor
  · rintro ⟨nameless, unnumbered, key, listed, absent⟩
    exact ofJson_of_absent (reference?_eq_none_iff.mpr ⟨nameless, unnumbered⟩) listed absent
  · intro shape
    rw [ofJson] at shape
    split at shape
    · next e refers =>
      unfold reference? at refers
      split at refers <;> cases refers <;> cases shape
    · next refers =>
      obtain ⟨nameless, unnumbered⟩ := reference?_eq_none_iff.mp refers
      refine ⟨nameless, unnumbered, Classical.byContradiction fun complete => ?_⟩
      -- With all three members the object would be read as a choice.
      simp only [choiceKeys, List.mem_cons, List.not_mem_nil, or_false, not_exists, not_and,
        forall_eq_or_imp, forall_eq] at complete
      obtain ⟨tested, yes, no⟩ := complete
      obtain ⟨c, tested⟩ := Option.ne_none_iff_exists'.mp tested
      obtain ⟨accepted, yes⟩ := Option.ne_none_iff_exists'.mp yes
      obtain ⟨rejected, no⟩ := Option.ne_none_iff_exists'.mp no
      rw [tested, ofMember?_eq, ofMember?_eq, yes, no] at shape
      cases shape

/-! ## Values of what is read -/

variable (meaning : Json → Option Json) (scope : Scope)

theorem resolveItemsWith_ofItems (items : List Json) :
    resolveItemsWith meaning scope (ofItems items) =
      items.map fun v => ((ofJson v).resolveWith meaning scope).getD .null := by
  induction items with
  | nil => rfl
  | cons v rest ih => rw [ofItems, resolveItemsWith, List.map_cons, ih]

theorem resolveMembersWith_ofMembers (members : Members) :
    resolveMembersWith meaning scope (ofMembers members) =
      members.filterMap fun (key, v) =>
        ((ofJson v).resolveWith meaning scope).map fun value => (key, value) := by
  induction members with
  | nil => rfl
  | cons member rest ih =>
    obtain ⟨key, v⟩ := member
    rw [ofMembers, resolveMembersWith, ih, List.filterMap_cons]
    dsimp only
    cases (ofJson v).resolveWith meaning scope <;> rfl

end Expression

namespace Json

variable (scope : Scope)

/-- An array resolves item by item, to `null` where an item is undefined. -/
theorem resolve_array (items : List Json) :
    (array items).resolve scope =
      some (.array (items.map fun v => (v.resolve scope).getD .null)) := by
  simp only [resolve_eq scope]
  exact congrArg (some ∘ array) (Expression.resolveItemsWith_ofItems _ scope items)

/-- A composite resolves member by member, without those that are undefined. -/
theorem resolve_object {members : Members} (composite : Expression.Composite members) :
    (object members).resolve scope = some (.object (resolveProps scope members)) := by
  simp only [resolve_eq scope, resolveProps, Expression.composite_iff.mp composite]
  exact congrArg (some ∘ object) (Expression.resolveMembersWith_ofMembers _ scope members)

/-- A reference resolves to what it leads to. -/
theorem resolve_reference {members : Members} {e : Expression}
    (refers : Expression.reference? members = some e) :
    (object members).resolve scope = e.target? scope := by
  rw [resolve_eq, Expression.ofJson, refers]
  unfold Expression.reference? at refers
  split at refers <;> cases refers <;> rfl

/-- An object resolves in every scope to what a reference leads to, or to what one of two of its
members resolves to, or else it is a composite. -/
theorem resolve_object_cases (members : Members) :
    (∃ e : Expression, ∀ scope, (object members).resolve scope = e.target? scope) ∨
    (∃ (condition : Condition) (accepted rejected : Json),
      Members.find? "$then" members = some accepted ∧
      Members.find? "$else" members = some rejected ∧
      (∀ w ∈ condition.operands, w ∈ (Expression.ofJson (object members)).operands) ∧
      ∀ scope, (object members).resolve scope =
        if condition.holds scope then accepted.resolve scope else rejected.resolve scope) ∨
    Expression.Composite members := by
  obtain ⟨e, refers, -⟩ | ⟨condition, accepted, rejected, yes, no, shape⟩ | shape :=
    Expression.ofJson_object_cases members
  · exact .inl ⟨e, fun scope => resolve_reference scope refers⟩
  · rw [Expression.ofMember?_eq] at yes no
    obtain ⟨u, found, rfl⟩ := Option.map_eq_some_iff.mp yes
    obtain ⟨w, found', rfl⟩ := Option.map_eq_some_iff.mp no
    refine .inr (.inl ⟨condition, u, w, found, found', fun operand mem => ?_, fun scope => ?_⟩)
    · rw [shape, Expression.operands, Expression.tests, List.flatMap_append]
      exact List.mem_append_left _ mem
    · rw [resolve_eq, resolve_eq, resolve_eq, shape]
      rfl
  · exact .inr (.inr (Expression.composite_iff.mpr shape))

/-- **Resolving keeps the structure.**  Whatever the scope: a value resolves to itself if every
object in it is a composite; an array resolves to the array of what its items resolve to, `null`
where this is undefined; and a composite, an object that is not read as an expression, to the object
of its members that are defined, in their order, each with what it resolves to. -/
theorem resolve_structure :
    (∀ members : Members, Expression.Composite members ↔
      Expression.ofJson (object members) = .object (Expression.ofMembers members)) ∧
    (∀ v : Json, v.Inert → v.resolve scope = some v) ∧
    (∀ items : List Json, (array items).resolve scope =
      some (array (items.map fun w => (w.resolve scope).getD .null))) ∧
    ∀ members : Members, Expression.Composite members → (object members).resolve scope =
      some (object (members.filterMap fun (key, w) => (w.resolve scope).map fun u => (key, u))) :=
  ⟨fun _ => Expression.composite_iff, fun _ inert => inert.resolve scope, resolve_array scope,
    fun _ composite => resolve_object scope composite⟩

/-- Members that look like those of references and choices, around an undefined item and an
undefined member. -/
theorem resolve_structure_lookalikes :
    let members : Members := [("$state", .ofInt 1), ("$cond", .bool true),
      ("list", .array [.object [("$state", .string "/missing")], .ofInt 2]),
      ("gone", .object [("$item", .string "x")]), ("kept", .object [("$index", .bool false)])]
    let scope : Scope := { state := emptyObject }
    Expression.Composite members ∧ Inert (.object [("$index", .bool false)]) ∧
      Json.resolve scope (.object [("$index", .bool false)]) =
        some (.object [("$index", .bool false)]) ∧
      (object members).resolve scope = some (.object [("$state", .ofInt 1), ("$cond", .bool true),
        ("list", .array [.null, .ofInt 2]), ("kept", .object [("$index", .bool false)])]) := by
  intro members scope
  have composite : Expression.Composite members :=
    ⟨by decide +kernel, by decide +kernel, "$then", by decide, by decide +kernel⟩
  have inert : Inert (.object [("$index", .bool false)]) := by decide +kernel
  obtain ⟨-, itself, -, memberwise⟩ := resolve_structure scope
  refine ⟨composite, inert, itself _ inert, (memberwise members composite).trans ?_⟩
  decide +kernel

end Json

end UiStream

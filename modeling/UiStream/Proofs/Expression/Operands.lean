import UiStream.Proofs.Expression.Tests
import UiStream.Proofs.Json.Members
import UiStream.Proofs.Record.Settled

/-!
# Operands of comparisons

The operand of a comparison is a value that is itself resolved, and `Json.resolve` supplies its
meaning only as deep as a value is high.  That is deep enough: the operands of an expression that
was read are less high than what it was read from (`Expression.height_operand_lt`).  So a raw value
means in every scope what the expression that it is means (`Json.resolve_eq`).

An operand stands inside the value that it was read from, at any depth, so whatever a value passes
on to the values inside it (`Json.Hereditary`) reaches the operands (`Expression.operand_inside`):
that they are less high is one case of it, and that they repeat no keys is another.
-/

namespace UiStream

/-! ## The operands -/

/-- The operand of a test, if it compares. -/
def ValueTest.operands (test : ValueTest) : List Json := test.comparison?.toList.map (·.operand)

/-- The operands of the tests in a condition. -/
def Condition.operands (condition : Condition) : List Json :=
  condition.tests.flatMap ValueTest.operands

/-- The operands in the conditions of choices in an expression. -/
def Expression.operands (e : Expression) : List Json := e.tests.flatMap ValueTest.operands

/-- A test has the same outcome where it looks at the same value and its operand means the same. -/
theorem ValueTest.holdsWith_congr {meaning meaning' : Json → Option Json} {scope scope' : Scope}
    {test : ValueTest} (seen : test.subject.value? scope = test.subject.value? scope')
    (same : ∀ w ∈ test.operands, meaning w = meaning' w) :
    test.holdsWith meaning scope = test.holdsWith meaning' scope' := by
  obtain ⟨subject, _ | comparison, negated⟩ := test
  · simp only [holdsWith, seen]
  · have same := same comparison.operand (List.mem_singleton_self _)
    simp only [holdsWith, seen, same]

/-! ## They are inside -/

namespace Json

/-- All values directly inside a value have the property. -/
def Each (p : Json → Prop) : Json → Prop
  | .array items => ∀ v ∈ items, p v
  | .object members => ∀ member ∈ members, p member.2
  | _ => True

/-- A value that has the property passes it on to all values directly inside. -/
def Hereditary (p : Json → Prop) : Prop := ∀ v, p v → v.Each p

theorem height_le_heightItems {v : Json} {items : List Json} (mem : v ∈ items) :
    v.height ≤ heightItems items := by
  induction mem with
  | head => exact Nat.le_max_left _ _
  | tail _ _ ih => exact Nat.le_trans ih (Nat.le_max_right _ _)

theorem height_le_heightMembers {member : String × Json} {members : Members}
    (mem : member ∈ members) : member.2.height ≤ heightMembers members := by
  induction mem with
  | head => exact Nat.le_max_left _ _
  | tail _ _ ih => exact Nat.le_trans ih (Nat.le_max_right _ _)

/-- What is inside is less high. -/
theorem each_height_lt (v : Json) : v.Each (·.height < v.height) := by
  cases v with
  | array items => exact fun v mem => Nat.lt_succ_of_le (height_le_heightItems mem)
  | object members => exact fun member mem => Nat.lt_succ_of_le (height_le_heightMembers mem)
  | null | bool | number | string => trivial

theorem Each.imp {p q : Json → Prop} (h : ∀ v, p v → q v) : {v : Json} → v.Each p → v.Each q
  | .array _, each => fun v mem => h v (each v mem)
  | .object _, each => fun member mem => h member.2 (each member mem)
  | .null, _ | .bool _, _ | .number _, _ | .string _, _ => trivial

theorem hereditary_height_lt (n : Nat) : Hereditary (·.height < n) := fun v low =>
  (each_height_lt v).imp fun _ lower => Nat.lt_trans lower low

theorem hereditary_distinct : Hereditary Distinct := by
  intro v distinct
  cases v with
  | array items => exact (distinctItems_iff items).mp distinct
  | object members => exact fun member mem => (distinctMembers_iff members).mp distinct.2 _ _ mem
  | null | bool | number | string => trivial

end Json

/-- The operand of a test is one of its members. -/
theorem ValueTest.mem_of_operand {members : Members} {test : ValueTest}
    (decoded : ofMembers members = .ok test) {w : Json} (mem : w ∈ test.operands) :
    ∃ key, (key, w) ∈ members := by
  rw [ofMembers] at decoded
  split at decoded
  · cases decoded
    obtain ⟨comparison, asked, rfl⟩ := List.mem_map.mp mem
    obtain ⟨operator, -, chosen⟩ := List.exists_of_findSome?_eq_some (Option.mem_toList.mp asked)
    obtain ⟨operand, found, rfl⟩ := Option.map_eq_some_iff.mp chosen
    exact ⟨_, Members.mem_of_find? found⟩
  · cases decoded

/-- A test in a list was read from an object in it. -/
theorem ValueTest.exists_members {items : List Json} {tests : List ValueTest}
    (decoded : decodeAll items = .ok tests) {test : ValueTest} (listed : test ∈ tests) :
    ∃ members, .object members ∈ items ∧ ofMembers members = .ok test := by
  induction items generalizing tests with
  | nil =>
    cases decoded
    cases listed
  | cons v rest ih =>
    obtain ⟨first, here, decoded⟩ := bind_eq_ok_iff.mp decoded
    obtain ⟨later, there, decoded⟩ := bind_eq_ok_iff.mp decoded
    cases decoded
    rcases List.mem_cons.mp listed with rfl | listed
    · cases v with
      | object members => exact ⟨members, .head _, here⟩
      | null | bool | number | string | array => cases here
    · obtain ⟨members, mem, read⟩ := ih there listed
      exact ⟨members, .tail _ mem, read⟩

section

variable {p : Json → Prop} {w : Json} {test : ValueTest}

namespace Condition

mutual

/-- The operands of a condition that was read stand inside what it was read from. -/
theorem operand_inside (down : Json.Hereditary p) (compares : w ∈ test.operands) : {v : Json} →
    {condition : Condition} → decode v = .ok condition → v.Each p → test ∈ condition.tests → p w
  | .bool _, _, decoded, _, listed => by cases decoded; cases listed
  | .array items, _, decoded, each, listed => by
    obtain ⟨tests, read, rfl⟩ := map_eq_ok_iff.mp decoded
    obtain ⟨members, mem, read⟩ := ValueTest.exists_members read listed
    obtain ⟨key, inside⟩ := ValueTest.mem_of_operand read compares
    exact down _ (each _ mem) _ inside
  | .object members, _, decoded, each, listed => by
    rw [decode] at decoded
    split at decoded
    · next found =>
      obtain ⟨conditions, rfl, rfl⟩ := map_eq_ok_iff.mp decoded
      exact operand_insideMember down compares found each listed
    · split at decoded
      · next found =>
        obtain ⟨conditions, rfl, rfl⟩ := map_eq_ok_iff.mp decoded
        exact operand_insideMember down compares found each listed
      · obtain ⟨test, read, rfl⟩ := map_eq_ok_iff.mp decoded
        cases List.mem_singleton.mp listed
        obtain ⟨key, inside⟩ := ValueTest.mem_of_operand read compares
        exact each _ inside
  | .null, _, decoded, _, _ | .number _, _, decoded, _, _ | .string _, _, decoded, _, _ => by
    cases decoded

theorem operand_insideMember (down : Json.Hereditary p) (compares : w ∈ test.operands)
    {key : String} : {members : List (String × Json)} → {conditions : List Condition} →
    decodeMember key members = some (.ok conditions) → (∀ member ∈ members, p member.2) →
      test ∈ testsOfAll conditions → p w
  | [], _, decoded, _, _ => by cases decoded
  | (k, v) :: rest, _, decoded, each, listed => by
    obtain ⟨first, later⟩ := List.forall_mem_cons.mp each
    rw [decodeMember] at decoded
    split at decoded
    · exact operand_insideList down compares (Option.some.inj decoded) first listed
    · exact operand_insideMember down compares decoded later listed

theorem operand_insideList (down : Json.Hereditary p) (compares : w ∈ test.operands)
    {key : String} : {v : Json} → {conditions : List Condition} →
    decodeList key v = .ok conditions → p v → test ∈ testsOfAll conditions → p w
  | .array items, _, decoded, here, listed =>
    operand_insideItems down compares decoded (down _ here) listed
  | .null, _, decoded, _, _ | .bool _, _, decoded, _, _ | .number _, _, decoded, _, _
  | .string _, _, decoded, _, _ | .object _, _, decoded, _, _ => by cases decoded

theorem operand_insideItems (down : Json.Hereditary p) (compares : w ∈ test.operands) :
    {items : List Json} → {conditions : List Condition} → decodeItems items = .ok conditions →
      (∀ v ∈ items, p v) → test ∈ testsOfAll conditions → p w
  | [], _, decoded, _, listed => by cases decoded; cases listed
  | v :: rest, _, decoded, each, listed => by
    obtain ⟨first, later⟩ := List.forall_mem_cons.mp each
    rw [decodeItems] at decoded
    split at decoded
    · cases decoded
    · next condition here =>
      obtain ⟨conditions, there, rfl⟩ := map_eq_ok_iff.mp decoded
      rcases List.mem_append.mp listed with listed | listed
      · exact operand_inside down compares here (down _ first) listed
      · exact operand_insideItems down compares there later listed
end

end Condition

namespace Expression

/-- A condition that cannot be read has no operands. -/
theorem choiceOperand_inside (down : Json.Hereditary p) (compares : w ∈ test.operands) {v : Json}
    (here : p v) (listed : test ∈ (choiceCondition v).tests) : p w := by
  rw [choiceCondition] at listed
  split at listed
  · next decoded => exact Condition.operand_inside down compares decoded (down _ here) listed
  · cases listed

mutual

/-- The operands of the expression that a value is stand inside the value. -/
theorem operand_inside (down : Json.Hereditary p) (compares : w ∈ test.operands) : {v : Json} →
    v.Each p → test ∈ (ofJson v).tests → p w
  | .array items, each, listed => operand_insideItems down compares each listed
  | .object members, each, listed => by
    rw [ofJson] at listed
    split at listed
    · next e refers =>
      unfold reference? at refers
      split at refers <;> cases refers <;> cases listed
    · split at listed
      · next tested yes no =>
        rcases List.mem_append.mp listed with listed | listed
        · exact choiceOperand_inside down compares (each _ (Members.mem_of_find? tested)) listed
        · rcases List.mem_append.mp listed with listed | listed
          · exact operand_insideMember down compares yes each listed
          · exact operand_insideMember down compares no each listed
      · exact operand_insideMembers down compares each listed
  | .null, _, listed | .bool _, _, listed | .number _, _, listed | .string _, _, listed => by
    cases listed

theorem operand_insideMember (down : Json.Hereditary p) (compares : w ∈ test.operands)
    {key : String} : {members : List (String × Json)} → {e : Expression} →
    ofMember? key members = some e → (∀ member ∈ members, p member.2) → test ∈ e.tests → p w
  | [], _, found, _, _ => by cases found
  | (k, v) :: rest, _, found, each, listed => by
    obtain ⟨first, later⟩ := List.forall_mem_cons.mp each
    rw [ofMember?] at found
    split at found
    · cases found
      exact operand_inside down compares (down _ first) listed
    · exact operand_insideMember down compares found later listed

theorem operand_insideItems (down : Json.Hereditary p) (compares : w ∈ test.operands) :
    {items : List Json} → (∀ v ∈ items, p v) → test ∈ testsOfItems (ofItems items) → p w
  | [], _, listed => by cases listed
  | v :: rest, each, listed => by
    obtain ⟨first, later⟩ := List.forall_mem_cons.mp each
    rcases List.mem_append.mp listed with listed | listed
    · exact operand_inside down compares (down _ first) listed
    · exact operand_insideItems down compares later listed

theorem operand_insideMembers (down : Json.Hereditary p) (compares : w ∈ test.operands) :
    {members : List (String × Json)} → (∀ member ∈ members, p member.2) →
      test ∈ testsOfMembers (ofMembers members) → p w
  | [], _, listed => by cases listed
  | (_, v) :: rest, each, listed => by
    obtain ⟨first, later⟩ := List.forall_mem_cons.mp each
    rcases List.mem_append.mp listed with listed | listed
    · exact operand_inside down compares (down _ first) listed
    · exact operand_insideMembers down compares later listed
end

/-- An operand of the expression that a value is is less high than the value. -/
theorem height_operand_lt {v : Json} (mem : w ∈ (ofJson v).operands) : w.height < v.height := by
  obtain ⟨test, listed, compares⟩ := List.mem_flatMap.mp mem
  exact operand_inside (Json.hereditary_height_lt _) compares v.each_height_lt listed

/-- An operand of the expression that a value is repeats no keys if the value repeats none. -/
theorem distinct_operand {v : Json} (distinct : v.Distinct) (mem : w ∈ (ofJson v).operands) :
    w.Distinct := by
  obtain ⟨test, listed, compares⟩ := List.mem_flatMap.mp mem
  have each := Json.hereditary_distinct _ distinct
  exact operand_inside Json.hereditary_distinct compares each listed

end Expression

end

/-! ## So all of them have their meaning -/

/-- What operands mean matters for those that are there and for no others. -/
theorem Expression.resolveWith_congr_operands {meaning meaning' : Json → Option Json}
    {scope : Scope} {e : Expression} (same : ∀ w ∈ e.operands, meaning w = meaning' w) :
    e.resolveWith meaning scope = e.resolveWith meaning' scope :=
  resolveWith_congr (fun _ _ => rfl) fun test listed =>
    ValueTest.holdsWith_congr rfl fun w mem => same w (List.mem_flatMap.mpr ⟨test, listed, mem⟩)

namespace Json

/-- Whatever depth is granted to operands, it is enough if it is the height of the value. -/
theorem resolveNested_of_lt (scope : Scope) {depth : Nat} {v : Json} (deep : v.height < depth) :
    resolveNested scope depth v = v.resolve scope := by
  induction depth using Nat.strongRecOn generalizing v with
  | ind depth ih =>
    obtain ⟨depth, rfl⟩ : ∃ d, depth = d + 1 := ⟨depth - 1, by omega⟩
    refine Expression.resolveWith_congr_operands fun w mem => ?_
    have inside := Expression.height_operand_lt mem
    rw [ih depth (Nat.lt_succ_self depth) (by omega), ih v.height deep inside]

/-- A raw value means what the expression that it is means. -/
theorem resolve_eq (scope : Scope) (v : Json) :
    v.resolve scope = (Expression.ofJson v).resolve scope :=
  Expression.resolveWith_congr_operands fun _ mem =>
    resolveNested_of_lt scope (Expression.height_operand_lt mem)

end Json

end UiStream

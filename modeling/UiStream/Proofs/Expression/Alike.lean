import UiStream.Proofs.Action.Placeholders
import UiStream.Proofs.Expression.Structure
import UiStream.Proofs.Json.Equivalence
import UiStream.Proofs.Patch.Alike

/-!
# Scopes that differ in the order of members

In alike scopes (`Scope.Alike`) a value resolves to alike values, a condition holds in both or in
neither, and a text with placeholders becomes the same text.  With what patches do to alike
documents this says that the order of members never matters (`member_order_irrelevant`).

A test compares values that are both alike their counterparts, and to turn the sides of the
comparison it takes that they repeat no keys (`Json.equal?_alike_both`).  An object that is resolved
keeps the keys that are defined, and whether a key is defined does not differ, so its members are
alike key by key (`Json.resolve_alike`).
-/

namespace UiStream

open Json (Alike alike_self alike_array alike_object)

/-! ## Alike values -/

namespace Json

section

variable {a b : Json} {a? b? c? d? : Option Json}

theorem number?_alike (h : Alike a b) : a.number? = b.number? := by cases h <;> rfl

theorem truthy_alike (h : Alike a b) : a.truthy = b.truthy := by cases h <;> rfl

theorem truthy?_alike (h : Option.Rel Alike a? b?) : truthy? a? = truthy? b? := by
  cases h with
  | none => rfl
  | some h => exact truthy_alike h

/-- The equality of values does not see the order of members on either side. -/
theorem equal?_alike_both (h : Option.Rel Alike a? b?) (h' : Option.Rel Alike c? d?) :
    equal? a? c? = equal? b? d? := by
  rw [equal?_alike h]
  cases h with
  | none => cases h' <;> rfl
  | some h =>
    cases h' with
    | none => rfl
    | some h' =>
      have distinct := h.symm.distinct
      calc equal _ _ = equal _ _ := equal_comm distinct h'.distinct
        _ = equal _ _ := equal_alike h' _
        _ = equal _ _ := equal_comm h'.symm.distinct distinct

theorem displayItems_eq (items : List Json) : displayItems items = items.map displayText := by
  induction items with
  | nil => rfl
  | cons v rest ih => rw [displayItems, List.map_cons, ih]

/-- Alike values have the same text. -/
theorem displayText_alike (h : Alike a b) : a.displayText = b.displayText := by
  induction h with
  | null | bool | number | string => rfl
  | @array items others length each ih =>
    rw [displayText, displayText, displayItems_eq, displayItems_eq]
    congr 1
    refine List.ext_getElem? fun i => ?_
    rw [List.getElem?_map, List.getElem?_map]
    exact ((Option.Rel.getElem?_iff length).mpr ih i).map_congr fun _ _ same => same
  | object => rfl

theorem displayText?_alike (h : Option.Rel Alike a? b?) : displayText? a? = displayText? b? := by
  cases h with
  | none => rfl
  | some h => exact displayText_alike h

end

end Json

/-! ## Alike scopes -/

/-- Two items at the same place that are alike. -/
structure RepeatScope.Alike (one other : RepeatScope) : Prop where
  item : Json.Alike one.item other.item
  index : one.index = other.index
  basePath : one.basePath = other.basePath

/-- Two scopes that differ in the order of members only. -/
structure Scope.Alike (one other : Scope) : Prop where
  state : Json.Alike one.state other.state
  repeated : Option.Rel RepeatScope.Alike one.repeated? other.repeated?

namespace Scope.Alike

variable {one other : Scope}

theorem stateAt? (h : one.Alike other) (pointer : String) :
    Option.Rel Json.Alike (one.stateAt? pointer) (other.stateAt? pointer) :=
  Json.at?_alike h.state pointer

theorem itemAt? (h : one.Alike other) (path : String) :
    Option.Rel Json.Alike (one.itemAt? path) (other.itemAt? path) :=
  h.repeated.bind fun _ _ alike => Json.at?_alike alike.item path

theorem index? (h : one.Alike other) : one.index? = other.index? :=
  h.repeated.map_congr fun _ _ alike => congrArg Json.ofNat alike.index

theorem itemPointer? (h : one.Alike other) (path : String) :
    one.itemPointer? path = other.itemPointer? path :=
  h.repeated.map_congr fun _ _ alike => congrArg (Pointer.join · path) alike.basePath

/-- What a reference leads to is alike. -/
theorem target? (h : one.Alike other) (e : Expression) :
    Option.Rel Json.Alike (e.target? one) (e.target? other) := by
  cases e with
  | state pointer | bindState pointer => exact h.stateAt? pointer
  | item path => exact h.itemAt? path
  | index =>
    rw [Expression.target?, Expression.target?, h.index?, Scope.index?]
    cases other.repeated? with
    | none => exact .none
    | some repeated => exact .some (alike_self.mpr trivial)
  | bindItem path =>
    rw [Expression.target?, Expression.target?, h.itemPointer?]
    cases other.itemPointer? path with
    | none => exact .none
    | some pointer => exact h.stateAt? pointer
  | literal | choice | array | object => exact .none

theorem value? (h : one.Alike other) : (subject : Subject) →
    Option.Rel Json.Alike (subject.value? one) (subject.value? other)
  | .state pointer => h.stateAt? pointer
  | .item path => h.itemAt? path
  | .index => h.target? .index

end Scope.Alike

/-! ## Tests and conditions -/

section

variable {one other : Scope} {meaning meaning' : Json → Option Json}

theorem ordered_alike (test : Double → Double → Bool) {a? b? c? d? : Option Json}
    (h : Option.Rel Alike a? b?) (h' : Option.Rel Alike c? d?) :
    ordered test a? c? = ordered test b? d? := by
  rw [ordered, ordered, h.bind_congr fun _ _ => Json.number?_alike,
    h'.bind_congr fun _ _ => Json.number?_alike]

/-- No operator sees the order of members. -/
theorem Operator.holds_alike (operator : Operator) {a? b? c? d? : Option Json}
    (h : Option.Rel Alike a? b?) (h' : Option.Rel Alike c? d?) :
    operator.holds a? c? = operator.holds b? d? := by
  cases operator with
  | eq => exact Json.equal?_alike_both h h'
  | neq => exact congrArg not (Json.equal?_alike_both h h')
  | gt => exact ordered_alike (fun x y => y.numLt x) h h'
  | gte => exact ordered_alike (fun x y => y.numLe x) h h'
  | lt => exact ordered_alike Double.numLt h h'
  | lte => exact ordered_alike Double.numLe h h'

theorem ValueTest.holdsWith_alike (h : one.Alike other) {test : ValueTest}
    (same : ∀ w ∈ test.operands, Option.Rel Alike (meaning w) (meaning' w)) :
    test.holdsWith meaning one = test.holdsWith meaning' other := by
  have seen := h.value? test.subject
  obtain ⟨subject, _ | comparison, negated⟩ := test
  · exact congrArg (· != negated) (Json.truthy?_alike seen)
  · have same := same comparison.operand (List.mem_singleton_self _)
    exact congrArg (· != negated) (comparison.operator.holds_alike seen same)

/-- The tests have the same outcomes in alike scopes, if their operands mean alike values. -/
theorem holdsWith_alike (h : one.Alike other) {tests : List ValueTest}
    (same : ∀ w ∈ tests.flatMap ValueTest.operands, Option.Rel Alike (meaning w) (meaning' w)) :
    ∀ test ∈ tests, test.holdsWith meaning one = test.holdsWith meaning' other :=
  fun _ listed => ValueTest.holdsWith_alike h fun w mem =>
    same w (List.mem_flatMap.mpr ⟨_, listed, mem⟩)

/-! ## Values that are resolved -/

namespace Json

/-- A value resolves to alike values in alike scopes. -/
theorem resolve_alike (h : one.Alike other) {v : Json} (distinct : v.Distinct) :
    Option.Rel Alike (v.resolve one) (v.resolve other) := by
  induction height : v.height using Nat.strongRecOn generalizing v with
  | ind n ih =>
    have inside {w : Json} (lower : w.height < v.height) (distinct : w.Distinct) :
        Option.Rel Alike (w.resolve one) (w.resolve other) :=
      ih w.height (height ▸ lower) distinct rfl
    cases v with
    | null | bool | number | string => exact .some (alike_self.mpr distinct)
    | array items =>
      rw [resolve_array, resolve_array]
      refine .some (alike_array.mpr ⟨by rw [List.length_map, List.length_map], fun i => ?_⟩)
      rw [List.getElem?_map, List.getElem?_map]
      cases found : items[i]? with
      | none => exact .none
      | some w =>
        have lower := each_height_lt (.array items) w (List.mem_of_getElem? found)
        obtain ⟨none, none'⟩ | ⟨x, y, some, some', alike⟩ :=
          (inside lower (distinct.item found)).none_or_some
        · rw [Option.map_some, Option.map_some, none, none']
          exact .some .null
        · rw [Option.map_some, Option.map_some, some, some']
          exact .some alike
    | object members =>
      have member {key : String} {w : Json} (found : Members.find? key members = some w) :
          Option.Rel Alike (w.resolve one) (w.resolve other) :=
        inside (each_height_lt (.object members) _ (Members.mem_of_find? found))
          (distinct.member found)
      obtain ⟨e, refers⟩ | ⟨condition, accepted, rejected, yes, no, operands, chooses⟩ |
        composite := resolve_object_cases members
      · rw [refers, refers]
        exact h.target? e
      · have decided : condition.holds one = condition.holds other :=
          Condition.holdsWith_congr <| holdsWith_alike h fun w mem =>
            inside (Expression.height_operand_lt (operands w mem))
              (Expression.distinct_operand distinct (operands w mem))
        rw [chooses, chooses, decided]
        split
        · exact member yes
        · exact member no
      · rw [resolve_object _ composite, resolve_object _ composite]
        -- Which members are defined is the same in both scopes, so it is enough to look up a key.
        have nodup (scope : Scope) : (Members.keys (resolveProps scope members)).Nodup :=
          distinct.keys.sublist (Members.keys_filterMap_sublist (Json.resolve scope) members)
        refine .some (alike_object.mpr ⟨nodup one, nodup other, fun key => ?_⟩)
        rw [resolveProps, resolveProps, Members.find?_filterMap _ distinct.keys,
          Members.find?_filterMap _ distinct.keys]
        cases found : Members.find? key members with
        | none => exact .none
        | some w => exact member found

theorem resolveParam_alike (h : one.Alike other) {v : Json} (distinct : v.Distinct) :
    Option.Rel Alike (v.resolveParam one) (v.resolveParam other) := by
  unfold Json.resolveParam
  split
  · next path _ =>
    rw [h.itemPointer?]
    cases other.itemPointer? path with
    | none => exact .none
    | some pointer => exact .some (.string pointer)
  · exact h.target? .index
  · rw [← resolve_eq, ← resolve_eq]
    exact resolve_alike h distinct

end Json

/-- No operand of the condition repeats a key. -/
def Condition.Distinct (condition : Condition) : Prop := ∀ w ∈ condition.operands, w.Distinct

/-- A condition holds in alike scopes or in neither. -/
theorem Condition.holds_alike (h : one.Alike other) {condition : Condition}
    (distinct : condition.Distinct) : condition.holds one = condition.holds other :=
  holdsWith_congr <| holdsWith_alike h fun w mem => Json.resolve_alike h (distinct w mem)

end

/-! ## All that reads or changes a document -/

/-- **The order of members never matters.**  A patch fails on two alike documents for the same
reason, or on neither, and leaves alike documents; and in alike scopes a condition holds in both or
in neither, a value resolves to alike values or is undefined in both, as a property and as a
parameter of an action, and a text with placeholders becomes the same text. -/
theorem member_order_irrelevant :
    (∀ (patch : Patch) (a b : Json), patch.Distinct → Alike a b →
      (patch.apply a).Alike (patch.apply b)) ∧
    ∀ one other : Scope, one.Alike other →
      (∀ condition : Condition, condition.Distinct →
        visible one (some condition) = visible other (some condition)) ∧
      (∀ v : Json, v.Distinct → Option.Rel Alike (v.resolve one) (v.resolve other) ∧
        Option.Rel Alike (v.resolveParam one) (v.resolveParam other)) ∧
      ∀ template, interpolate template one.state = interpolate template other.state := by
  refine ⟨fun patch a b distinct h => Patch.apply_alike distinct h, fun one other h => ?_⟩
  refine ⟨fun condition distinct => Condition.holds_alike h distinct, fun v distinct => ?_, ?_⟩
  · exact ⟨Json.resolve_alike h distinct, Json.resolveParam_alike h distinct⟩
  · exact interpolate_congr fun pointer => Json.displayText?_alike (Json.at?_alike h.state pointer)

/-- Two members in either order, and a move that fails, which puts its member last. -/
theorem member_order_irrelevant_swapped :
    let a : Json := .object [("x", .ofInt 1), ("list", .array [])]
    let b : Json := .object [("list", .array []), ("x", .ofInt 1)]
    let patch : Patch := .move "/x" "/list/y"
    let condition : Condition := .single { subject := .state "", comparison? := some ⟨.eq, a⟩ }
    let v : Json := .object [("whole", .object [("$state", .string "")])]
    let template := "x is $\x7b/x\x7d"
    Alike a b ∧ (patch.apply a).Alike (patch.apply b) ∧
      (patch.apply a).error = some (.pointer (.invalidIndex "/list/y" "y")) ∧
      visible { state := a } (some condition) = true ∧
      visible { state := b } (some condition) = true ∧
      Option.Rel Alike (v.resolve { state := a }) (v.resolve { state := b }) ∧
      interpolate template a = "x is 1" ∧ interpolate template b = "x is 1" := by
  intro a b patch condition v template
  have distinct : a.Distinct := by
    simp [a, Json.Distinct, Json.DistinctMembers, Json.DistinctItems, Json.ofInt]
  have found : Members.find? "x" [("x", .ofInt 1), ("list", .array [])] = some (.ofInt 1) := rfl
  have alike : Alike a b := Json.alike_moved_last distinct found
  have scopes : Scope.Alike { state := a } { state := b } := ⟨alike, .none⟩
  have written : v.Distinct := by simp [v, Json.Distinct, Json.DistinctMembers]
  have carried : patch.Distinct := by
    intro w carries
    cases carries
  have operand : condition.Distinct := fun w mem => List.mem_singleton.mp mem ▸ distinct
  obtain ⟨patches, reads⟩ := member_order_irrelevant
  obtain ⟨conditions, values, texts⟩ := reads _ _ scopes
  have holds : visible { state := a } (some condition) = true := by decide +kernel
  have text : interpolate template a = "x is 1" := by decide +kernel
  exact ⟨alike, patches patch a b carried alike, by decide +kernel, holds,
    (conditions condition operand).symm.trans holds, (values v written).1, text,
    (texts template).symm.trans text⟩

end UiStream

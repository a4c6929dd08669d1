import UiStream.Proofs.Expression.Operands

/-!
# What is read from the state

`Json.reads` lists the pointers at which resolving a value may read the state: those that its
references and the subjects of its tests name, and those that the operands of its tests read, which
are values that are resolved in turn.  `Condition.reads` lists those of a condition.

Nothing else of the state matters (`Json.resolve_reads`): in two states that have the same values at
these pointers a value resolves to the same, as a property and as a parameter, and a condition holds
in both or in neither.  The induction is on the height of a value, since an operand is less high
than the value in which it stands.
-/

namespace UiStream

/-! ## The pointers -/

/-- The pointer into the state at which a subject is found. -/
def Subject.pointer? : Subject → Option String
  | state pointer => some pointer
  | item _ | index => none

/-- The pointer into the state at which a reference reads, inside an element repeated for the item
at `base?`. -/
def Expression.pointer? (base? : Option String) : Expression → Option String
  | state pointer | bindState pointer => some pointer
  | bindItem path => base?.map fun base => Pointer.join base path
  | _ => none

/-- The pointers that the subjects of tests name. -/
def ValueTest.pointers (tests : List ValueTest) : List String :=
  tests.filterMap (·.subject.pointer?)

/-- The pointers that an expression names, in its references and in its tests. -/
def Expression.pointers (base? : Option String) (e : Expression) : List String :=
  e.references.filterMap (pointer? base?) ++ ValueTest.pointers e.tests

/-- The pointers at which resolving a value reads the state. -/
def Json.reads (base? : Option String) (v : Json) : List String :=
  (Expression.ofJson v).pointers base? ++
    (Expression.ofJson v).operands.attach.flatMap fun ⟨w, _⟩ => w.reads base?
termination_by v.height
decreasing_by exact Expression.height_operand_lt ‹_›

/-- The pointers at which a condition reads the state. -/
def Condition.reads (base? : Option String) (condition : Condition) : List String :=
  ValueTest.pointers condition.tests ++ condition.operands.flatMap (Json.reads base?)

theorem Json.reads_eq (base? : Option String) (v : Json) :
    v.reads base? =
      (Expression.ofJson v).pointers base? ++
        (Expression.ofJson v).operands.flatMap (Json.reads base?) := by
  rw [Json.reads, List.flatMap_subtype, List.unattach_attach]
  exact fun _ _ => rfl

/-! ## Nothing else is read -/

section

variable {s t : Json} {repeated? : Option RepeatScope}

/-- The pointer of the item in a scope. -/
abbrev basePath? (repeated? : Option RepeatScope) : Option String :=
  repeated?.map (·.basePath)

/-- Two states have the same values at the pointers. -/
def Agree (s t : Json) (pointers : List String) : Prop :=
  ∀ pointer ∈ pointers, s.at? pointer = t.at? pointer

instance (pointers : List String) : Decidable (Agree s t pointers) :=
  inferInstanceAs (Decidable (∀ pointer ∈ pointers, s.at? pointer = t.at? pointer))

theorem agree_append {pointers more : List String} :
    Agree s t (pointers ++ more) ↔ Agree s t pointers ∧ Agree s t more :=
  List.forall_mem_append

theorem Agree.target? {e : Expression} {references : List Expression}
    (agree : Agree s t (references.filterMap (Expression.pointer? (basePath? repeated?))))
    (listed : e ∈ references) :
    e.target? ⟨s, repeated?⟩ = e.target? ⟨t, repeated?⟩ := by
  have named {pointer : String}
      (names : e.pointer? (basePath? repeated?) = some pointer) : s.at? pointer = t.at? pointer :=
    agree pointer (List.mem_filterMap.mpr ⟨e, listed, names⟩)
  cases e with
  | state | bindState => exact named rfl
  | bindItem path =>
    cases repeated? with
    | none => rfl
    | some repeated => exact named rfl
  | literal | item | index | choice | array | object => rfl

theorem Agree.value? {test : ValueTest} {tests : List ValueTest}
    (agree : Agree s t (ValueTest.pointers tests)) (listed : test ∈ tests) :
    test.subject.value? ⟨s, repeated?⟩ = test.subject.value? ⟨t, repeated?⟩ := by
  cases names : test.subject with
  | state pointer =>
    exact agree pointer (List.mem_filterMap.mpr ⟨test, listed, by rw [names]; rfl⟩)
  | item | index => rfl

/-- Tests have the same outcomes in two states that agree where the tests look. -/
theorem Agree.holdsWith {meaning meaning' : Json → Option Json} {tests : List ValueTest}
    (agree : Agree s t (ValueTest.pointers tests))
    (same : ∀ w ∈ tests.flatMap ValueTest.operands, meaning w = meaning' w) :
    ∀ test ∈ tests,
      test.holdsWith meaning ⟨s, repeated?⟩ = test.holdsWith meaning' ⟨t, repeated?⟩ :=
  fun test listed => ValueTest.holdsWith_congr (agree.value? listed) fun w mem =>
    same w (List.mem_flatMap.mpr ⟨test, listed, mem⟩)

/-- An expression has the same value in two states that agree at the pointers it names, if its
operands have the same meaning in both. -/
theorem Agree.resolve_of_operands {e : Expression}
    (agree : Agree s t (e.pointers (basePath? repeated?)))
    (same : ∀ w ∈ e.operands, w.resolve ⟨s, repeated?⟩ = w.resolve ⟨t, repeated?⟩) :
    e.resolve ⟨s, repeated?⟩ = e.resolve ⟨t, repeated?⟩ := by
  obtain ⟨references, tests⟩ := agree_append.mp agree
  exact Expression.resolveWith_congr (fun _ listed => references.target? listed)
    (tests.holdsWith same)

/-- A value resolves to the same in two states that agree where it reads. -/
theorem Agree.resolve {v : Json} (agree : Agree s t (v.reads (basePath? repeated?))) :
    v.resolve ⟨s, repeated?⟩ = v.resolve ⟨t, repeated?⟩ := by
  -- Not on the value: an operand is no part of the expression but is read from the value again.
  induction height : v.height using Nat.strongRecOn generalizing v with
  | ind n ih =>
    rw [Json.reads_eq] at agree
    obtain ⟨named, nested⟩ := agree_append.mp agree
    rw [Json.resolve_eq, Json.resolve_eq]
    refine named.resolve_of_operands fun w mem => ?_
    refine ih w.height (height ▸ Expression.height_operand_lt mem) (fun pointer inside => ?_) rfl
    exact nested pointer (List.mem_flatMap.mpr ⟨w, mem, inside⟩)

theorem Agree.resolveParam {v : Json} (agree : Agree s t (v.reads (basePath? repeated?))) :
    v.resolveParam ⟨s, repeated?⟩ = v.resolveParam ⟨t, repeated?⟩ := by
  unfold Json.resolveParam
  split
  · rfl
  · rfl
  · rw [← Json.resolve_eq, ← Json.resolve_eq]
    exact agree.resolve

theorem Agree.holds {condition : Condition}
    (agree : Agree s t (condition.reads (basePath? repeated?))) :
    condition.holds ⟨s, repeated?⟩ = condition.holds ⟨t, repeated?⟩ := by
  obtain ⟨tests, nested⟩ := agree_append.mp agree
  refine Condition.holdsWith_congr (tests.holdsWith fun w mem => ?_)
  exact Agree.resolve fun pointer inside =>
    nested pointer (List.mem_flatMap.mpr ⟨w, mem, inside⟩)

end

/-- **Only the pointers that are mentioned are read.**  Whatever the item that an element is
repeated for, if there is one: in two states that have the same values at the pointers that a value
mentions, the value resolves to the same, as a property and as a parameter of an action; and what
has a condition is visible in both or in neither of two states that have the same values at the
pointers that the condition mentions. -/
theorem Json.resolve_reads (s t : Json) (repeated? : Option RepeatScope) :
    (∀ v : Json, Agree s t (v.reads (basePath? repeated?)) →
      v.resolve ⟨s, repeated?⟩ = v.resolve ⟨t, repeated?⟩ ∧
        v.resolveParam ⟨s, repeated?⟩ = v.resolveParam ⟨t, repeated?⟩) ∧
    ∀ condition : Condition, Agree s t (condition.reads (basePath? repeated?)) →
      visible ⟨s, repeated?⟩ (some condition) = visible ⟨t, repeated?⟩ (some condition) :=
  ⟨fun _ agree => ⟨agree.resolve, agree.resolveParam⟩, fun _ agree => agree.holds⟩

/-- A choice in a repeated element, whose condition compares with a choice again: the rest of the
state may change. -/
theorem Json.resolve_reads_nested :
    let row : Json := .object [("name", .string "Ada"), ("done", .bool true)]
    let s : Json := .object [("rows", .array [row]), ("mode", .string "on"), ("draft", .null)]
    let t : Json := .object [("draft", .string "x"), ("mode", .string "on"),
      ("rows", .array [row, .null])]
    let repeated? : Option RepeatScope := some ⟨row, 0, "/rows/0"⟩
    let inner : Json := .object [("$cond", .object [("$item", .string "done")]),
      ("$then", .object [("$state", .string "/mode")]), ("$else", .null)]
    let tested : Json := .object [("$state", .string "/mode"), ("eq", inner)]
    let v : Json := .object [("$cond", tested), ("$then", .object [("$bindItem", .string "name")]),
      ("$else", .object [("$state", .string "/rows/0/done")])]
    v.reads (basePath? repeated?) = ["/rows/0/name", "/rows/0/done", "/mode", "/mode"] ∧
      Agree s t (v.reads (basePath? repeated?)) ∧
      v.resolve ⟨s, repeated?⟩ = some (.string "Ada") ∧
      v.resolve ⟨t, repeated?⟩ = some (.string "Ada") := by
  intro row s t repeated? inner tested v
  have mentioned : v.reads (basePath? repeated?) =
      ["/rows/0/name", "/rows/0/done", "/mode", "/mode"] := by decide +kernel
  have agree : Agree s t (v.reads (basePath? repeated?)) := by decide +kernel
  have same := ((resolve_reads s t repeated?).1 v agree).1
  have found : v.resolve ⟨s, repeated?⟩ = some (.string "Ada") := by decide +kernel
  exact ⟨mentioned, agree, found, same.symm.trans found⟩

end UiStream

import UiStream.Json.Parser
import UiStream.Proofs.Json.Members

/-!
# Values from JSON text

No object in a value that was read from a text repeats a key (`Json.distinct_of_parse?`): the
parser puts the members of an object together with `Members.ofPairs`, which keeps the last of the
values under one key.  What begins with a brace, and nothing else, is read as an object
(`Json.Parser.eq_of_valueRound_object`).

`Yields` says that whatever is read has a property.  `yields_valueRound` goes through the kinds of
values once, for any property.
-/

namespace UiStream

namespace Json

/-- An object that is put together from pairs repeats no key. -/
theorem distinct_ofPairs {pairs : List (String × Json)}
    (h : ∀ k v, (k, v) ∈ pairs → Distinct v) : Distinct (.object (Members.ofPairs pairs)) := by
  refine List.foldlRecOn (motive := fun members => Distinct (.object members)) pairs _
    ⟨List.nodup_nil, trivial⟩ fun members distinct pair mem => ?_
  exact distinct_insert distinct pair.1 (h pair.1 pair.2 mem)

namespace Parser

/-- Whatever is read has the property. -/
structure Yields {α : Type} (p : α → Prop) (outcome : Except Fault (Read α)) : Prop where
  holds : ∀ v s, outcome = .ok (v, s) → p v

section

variable {α β : Type} {p : α → Prop} {q : β → Prop}

theorem yields_ok {v : α} (h : p v) (s : List Char) : Yields p (.ok (v, s)) := by
  refine ⟨?_⟩
  rintro _ _ ⟨⟩
  exact h

theorem yields_failBefore (fault : JsonFault) (s : List Char) :
    Yields p (failBefore fault s) := ⟨fun _ _ h => nomatch h⟩

theorem yields_failInto (fault : JsonFault) (s : List Char) :
    Yields p (failInto fault s) := ⟨fun _ _ h => nomatch h⟩

theorem yields_ite {c : Prop} [Decidable c] {one other : Except Fault (Read α)}
    (h : Yields p one) (h' : Yields p other) : Yields p (if c then one else other) := by
  split
  · exact h
  · exact h'

theorem Yields.imp {outcome : Except Fault (Read α)} {p' : α → Prop} (h : Yields p outcome)
    (h' : ∀ v, p v → p' v) : Yields p' outcome :=
  ⟨fun v s found => h' v (h.holds v s found)⟩

/-- What is read after something else. -/
theorem Yields.bind {outcome : Except Fault (Read α)} {next : Read α → Except Fault (Read β)}
    (h : Yields p outcome) (h' : ∀ v s, p v → Yields q (next (v, s))) :
    Yields q (outcome >>= next) := by
  refine ⟨fun w s found => ?_⟩
  cases outcome with
  | error => cases found
  | ok read => exact (h' read.1 read.2 (h.holds _ _ rfl)).holds w s found

end

/-! ## Leaves -/

section

variable {p : Json → Prop}

theorem yields_literal {value : Json} (h : p value) (expected s : List Char) :
    Yields p (literal value expected s) := by
  induction expected generalizing s with
  | nil => exact yields_ok h s
  | cons e expected ih =>
    cases s with
    | nil => exact yields_failBefore ..
    | cons c s =>
      rw [literal]
      split
      · exact ih s
      · exact yields_failInto ..

variable (numbers : ∀ n, p (.number n))
include numbers

theorem yields_leaf (n : Number) (s : List Char) : Yields p (.ok (.number n, s)) :=
  yields_ok (numbers n) s

theorem yields_fractional (negative : Bool) (whole fraction : List Char) (exponent : Int)
    (s : List Char) : Yields p (fractional negative whole fraction exponent s) := by
  unfold fractional
  split
  · exact yields_leaf numbers ..
  · exact yields_failBefore ..

theorem yields_exponentPart (negative : Bool) (whole fraction s : List Char) :
    Yields p (exponentPart negative whole fraction s) := by
  unfold exponentPart
  split
  next down s _ =>
  split
  · exact yields_failBefore ..
  · refine yields_ite (yields_failInto ..) ?_
    split
    · exact yields_fractional numbers ..
    · exact yields_ite (yields_leaf numbers ..) (yields_failBefore ..)

theorem yields_whole (negative : Bool) (digits s : List Char) :
    Yields p (whole negative digits s) := by
  unfold whole
  split
  extract_lets value
  by_cases integral : Integral value
  · rw [dif_pos integral]
    exact yields_ite (yields_leaf numbers ..) (yields_fractional numbers ..)
  · rw [dif_neg integral]
    exact yields_fractional numbers ..

/-- Where a number is read, nothing but a number is read. -/
theorem yields_number (negative : Bool) (s : List Char) : Yields p (number negative s) := by
  unfold number
  split
  · exact yields_failBefore ..
  · split
    · exact yields_failInto ..
    · dsimp only
      split
      · split
        · exact yields_failInto ..
        · split
          · exact yields_exponentPart numbers ..
          · exact yields_exponentPart numbers ..
          · exact yields_fractional numbers ..
      · exact yields_exponentPart numbers ..
      · exact yields_exponentPart numbers ..
      · split
        · exact yields_failInto ..
        · exact yields_whole numbers ..
      · exact yields_whole numbers ..

end

/-! ## Containers -/

variable {item : List Char → Except Fault (Read Json)}

/-- What is read as items is an array of them. -/
theorem yields_items {p : Json → Prop} (h : ∀ s, Yields p (item s)) (fuel : Nat)
    {read : List Json} (before : ∀ v ∈ read, p v) (s : List Char) :
    Yields (fun v => ∃ items, v = .array items ∧ ∀ v ∈ items, p v) (items item fuel read s) := by
  induction fuel generalizing read s with
  | zero => exact yields_failBefore ..
  | succ fuel ih =>
    have onward (v : Json) (s : List Char) (hv : p v) :
        Yields (fun v => ∃ items, v = .array items ∧ ∀ v ∈ items, p v)
          (items item fuel (v :: read) s) :=
      ih (List.forall_mem_cons.mpr ⟨hv, before⟩) s
    rw [items]
    split
    · exact yields_failBefore ..
    · exact yields_ok ⟨_, rfl, fun v hv => before v (List.mem_reverse.mp hv)⟩ _
    · split
      · exact (h _).bind onward
      · split
        · exact yields_failBefore ..
        · exact yields_failInto ..
        · exact (h _).bind onward
    · split
      · exact (h _).bind onward
      · exact yields_failInto ..

theorem yields_member (h : ∀ s, Yields Distinct (item s)) (s : List Char) :
    Yields (fun m => Distinct m.2) (member item s) := by
  unfold member
  have key : Yields (fun _ => True) (stringBody s) := ⟨fun _ _ _ => trivial⟩
  refine key.bind fun k s _ => ?_
  dsimp only
  cases colon s with
  | error => exact ⟨fun _ _ found => nomatch found⟩
  | ok s =>
    exact (h s).bind fun v s hv => yields_ok (p := fun m : String × Json => Distinct m.2) hv s

theorem yields_members (h : ∀ s, Yields Distinct (item s)) (fuel : Nat)
    {read : List (String × Json)} (before : ∀ m ∈ read, Distinct m.2) (s : List Char) :
    Yields Distinct (members item fuel read s) := by
  induction fuel generalizing read s with
  | zero => exact yields_failBefore ..
  | succ fuel ih =>
    have onward (m : String × Json) (s : List Char) (hm : Distinct m.2) :
        Yields Distinct (members item fuel (m :: read) s) :=
      ih (List.forall_mem_cons.mpr ⟨hm, before⟩) s
    rw [members]
    split
    · exact yields_failBefore ..
    · split
      · refine yields_ok (distinct_ofPairs fun k v hv => ?_) _
        exact before (k, v) (List.mem_reverse.mp hv)
      · split
        · split
          · exact (yields_member h _).bind onward
          · exact yields_failInto ..
        · split
          · split
            · exact yields_failBefore ..
            · split
              · exact (yields_member h _).bind onward
              · exact yields_failInto ..
          · exact yields_failInto ..

/-! ## Values -/

/-- A value behind the blanks in front of it. -/
def valueRound (nesting : Nat) : List Char → Except Fault (Read Json)
  | [] => failBefore .endInValue []
  | c :: s =>
    if c = 'n' then literal .null ['u', 'l', 'l'] s
    else if c = 't' then literal (.bool true) ['r', 'u', 'e'] s
    else if c = 'f' then literal (.bool false) ['a', 'l', 's', 'e'] s
    else if c = '-' then number true s
    else if c.isDigit then number false (c :: s)
    else if c = '"' then do
      let (text, s) ← stringBody s
      return (.string text, s)
    else if c = '[' || c = '{' then
      match nesting with
      | 0 => failInto .nestingTooDeep (c :: s)
      | nesting + 1 =>
        if c = '[' then items (value nesting) (s.length + 1) [] s
        else members (value nesting) (s.length + 1) [] s
    else failInto .expectedValue (c :: s)

theorem value_eq (nesting : Nat) (s : List Char) :
    value nesting s = valueRound nesting (skipBlanks s) := by
  rw [value.eq_def]
  cases skipBlanks s <;> rfl

/-- What values have that are not containers, all values have that are read from a text if those
have it that begin as arrays and as objects do. -/
theorem yields_valueRound {p : Json → Prop} (null : p .null) (bool : ∀ b, p (.bool b))
    (number : ∀ n, p (.number n)) (string : ∀ text, p (.string text)) {nesting : Nat} {c : Char}
    {s : List Char}
    (array : ∀ n, nesting = n + 1 → c = '[' →
      Yields p (items (value n) (s.length + 1) [] s))
    (object : ∀ n, nesting = n + 1 → c = '{' →
      Yields p (members (value n) (s.length + 1) [] s)) :
    Yields p (valueRound nesting (c :: s)) := by
  have text : Yields (fun _ => True) (stringBody s) := ⟨fun _ _ _ => trivial⟩
  refine yields_ite (yields_literal null ..) ?_
  refine yields_ite (yields_literal (bool true) ..) ?_
  refine yields_ite (yields_literal (bool false) ..) ?_
  refine yields_ite (yields_number number ..) (yields_ite (yields_number number ..) ?_)
  refine yields_ite (text.bind fun text s _ => yields_ok (string text) s) ?_
  split
  · next opens =>
    cases nesting with
    | zero => exact yields_failInto ..
    | succ nesting =>
      dsimp only
      split
      · next bracket => exact array nesting rfl bracket
      · next other => exact object nesting rfl (by simpa [other] using opens)
  · exact yields_failInto ..

/-- A value is read without repeated keys if those inside it are. -/
theorem yields_value_of {nesting : Nat}
    (inner : ∀ n, nesting = n + 1 → ∀ s, Yields Distinct (value n s)) (s : List Char) :
    Yields Distinct (value nesting s) := by
  rw [value_eq]
  cases skipBlanks s with
  | nil => exact yields_failBefore ..
  | cons c s =>
    refine yields_valueRound trivial (fun _ => trivial) (fun _ => trivial) (fun _ => trivial)
      (fun n deeper _ => ?_) fun n deeper _ => ?_
    · refine (yields_items (inner n deeper) _ (List.forall_mem_nil _) s).imp ?_
      rintro _ ⟨items, rfl, distinct⟩
      exact (distinct_array items).mpr distinct
    · exact yields_members (inner n deeper) _ (List.forall_mem_nil _) s

/-- Values are read without repeated keys. -/
theorem yields_value (nesting : Nat) (s : List Char) : Yields Distinct (value nesting s) := by
  induction nesting generalizing s with
  | zero => exact yields_value_of (fun _ h => absurd h (Nat.zero_ne_add_one _)) s
  | succ nesting ih => exact yields_value_of (fun n h => Nat.succ.inj h ▸ ih) s

/-- Only a brace begins an object. -/
theorem eq_of_valueRound_object {nesting : Nat} {c : Char} {s left : List Char}
    {found : Members} (h : valueRound nesting (c :: s) = .ok (.object found, left)) :
    c = '{' := by
  refine Decidable.byContradiction fun other => ?_
  have anything (n : Nat) (s : List Char) : Yields (fun _ => True) (value n s) :=
    ⟨fun _ _ _ => trivial⟩
  have noObject : Yields (fun v => ∀ members, v ≠ .object members)
      (valueRound nesting (c :: s)) := by
    refine yields_valueRound (fun _ => nofun) (fun _ _ => nofun) (fun _ _ => nofun)
      (fun _ _ => nofun) (fun n _ _ => ?_) fun _ _ brace => (other brace).elim
    refine (yields_items (anything n) _ (List.forall_mem_nil _) s).imp ?_
    rintro _ ⟨items, rfl, -⟩
    exact nofun
  exact noObject.holds _ _ h found rfl

end Parser

/-- A text is a value if the value stands in front and nothing but blanks behind it. -/
theorem parse?_eq_some_iff (text : String) (v : Json) :
    parse? text = some v ↔ ∃ left, Parser.value nestingLimit text.toList = .ok (v, left) ∧
      Parser.skipBlanks left = [] := by
  rw [parse?, parse]
  cases found : Parser.value nestingLimit text.toList with
  | error e => exact ⟨nofun, nofun⟩
  | ok read =>
    simp only [bind, Except.bind]
    cases rest : Parser.skipBlanks read.2 with
    | nil =>
      refine ⟨?_, ?_⟩
      · rintro ⟨⟩
        exact ⟨read.2, rfl, rest⟩
      · rintro ⟨left, ⟨⟩, -⟩
        rfl
    | cons c s =>
      refine ⟨nofun, ?_⟩
      rintro ⟨left, ⟨⟩, none⟩
      rw [none] at rest
      cases rest

/-- **No object in a value that was read repeats a key.** -/
theorem distinct_of_parse? {text : String} {v : Json} (h : parse? text = some v) :
    v.Distinct := by
  obtain ⟨left, found, -⟩ := (parse?_eq_some_iff text v).mp h
  exact (Parser.yields_value nestingLimit text.toList).holds v left found

end Json

end UiStream

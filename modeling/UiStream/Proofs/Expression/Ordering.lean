import UiStream.Expression.Resolve
import UiStream.Proofs.Number.Monotone

/-!
# Comparing integers

A test asks whether two integers are equal exactly, and which is larger by their nearest doubles.
Rounding keeps the order (`Double.scaled_ofInt_mono`), so a test never takes a smaller integer for a
larger one; but two different integers can be rounded to one double (`Merged`), and then a test
takes them neither for equal nor for ordered.  This is all that can go wrong
(`Operator.integers_compared`), and it does go wrong (`Operator.integers_unordered`).
-/

namespace UiStream

/-! ## Integers and their doubles -/

/-- Two different integers that are rounded to one double. -/
def Merged (a b : Int) : Prop := a ≠ b ∧ (Double.ofInt a).scaled = (Double.ofInt b).scaled

instance (a b : Int) : Decidable (Merged a b) := inferInstanceAs (Decidable (_ ∧ _))

theorem Merged.symm {a b : Int} (h : Merged a b) : Merged b a := ⟨h.1.symm, h.2.symm⟩

theorem merged_comm {a b : Int} : Merged a b ↔ Merged b a := ⟨Merged.symm, Merged.symm⟩

/-- Integers below `2 ^ 53` in magnitude are not merged with any other. -/
theorem Merged.large {a b : Int} (h : Merged a b) : 2 ^ 53 ≤ a.natAbs ∧ 2 ^ 53 ≤ b.natAbs :=
  ⟨Nat.not_lt.mp fun small => Double.ofInt_ne_of_lt small h.1 h.2,
    Nat.not_lt.mp fun small => Double.ofInt_ne_of_lt small h.1.symm h.2.symm⟩

/-- An integer is smaller as a double if it is smaller and not merged. -/
theorem scaled_lt_iff {a b : Int} :
    (Double.ofInt a).scaled < (Double.ofInt b).scaled ↔ a < b ∧ ¬ Merged a b := by
  constructor
  · exact fun less => ⟨Double.lt_of_scaled_ofInt_lt less, fun merged => by
      rw [merged.2] at less
      exact Int.lt_irrefl _ less⟩
  · rintro ⟨less, distinct⟩
    have order := Double.scaled_ofInt_mono (Int.le_of_lt less)
    have apart : (Double.ofInt a).scaled ≠ (Double.ofInt b).scaled :=
      fun same => distinct ⟨Int.ne_of_lt less, same⟩
    omega

theorem scaled_le_iff {a b : Int} :
    (Double.ofInt a).scaled ≤ (Double.ofInt b).scaled ↔ a ≤ b ∨ Merged a b := by
  rw [← Int.not_lt, scaled_lt_iff, merged_comm, not_and_not_right, ← Int.not_lt,
    ← imp_iff_not_or]

/-! ## Tests of integers -/

/-- The condition that a subject compares with an operand as the operator says. -/
def Subject.against (subject : Subject) (operator : Operator) (operand : Json) : Condition :=
  .single { subject, comparison? := some ⟨operator, operand⟩ }

theorem Subject.holds_against (scope : Scope) (subject : Subject) (operator : Operator)
    (operand : Json) :
    (subject.against operator operand).holds scope =
      operator.holds (subject.value? scope) (operand.resolve scope) :=
  Bool.bne_false _

namespace Operator

section

variable {a b : Int} (ha : Integral a) (hb : Integral b)

/-- How an operator compares two integers. -/
def Compares (a b : Int) : Operator → Prop
  | eq => a = b
  | neq => a ≠ b
  | lt => a < b ∧ ¬ Merged a b
  | gt => b < a ∧ ¬ Merged a b
  | lte => a ≤ b ∨ Merged a b
  | gte => b ≤ a ∨ Merged a b

theorem holds_integers (operator : Operator) :
    operator.holds (some (.number (.integer a ha))) (some (.number (.integer b hb))) = true ↔
      operator.Compares a b := by
  cases operator with
  | eq => exact beq_iff_eq
  | neq => exact bne_iff_ne
  | lt => exact decide_eq_true_iff.trans scaled_lt_iff
  | gt =>
    exact decide_eq_true_iff.trans (scaled_lt_iff.trans (and_congr_right' (not_congr merged_comm)))
  | lte => exact decide_eq_true_iff.trans scaled_le_iff
  | gte => exact decide_eq_true_iff.trans (scaled_le_iff.trans (or_congr_right merged_comm))

/-- Of *less*, *equal* and *greater* no two compare the same integers. -/
theorem eq_of_compares {one other : Operator} (listed : one ∈ [lt, eq, gt])
    (listed' : other ∈ [lt, eq, gt]) (holds : one.Compares a b) (holds' : other.Compares a b) :
    one = other := by
  simp only [List.mem_cons, List.not_mem_nil, or_false] at listed listed'
  rcases listed with rfl | rfl | rfl <;> rcases listed' with rfl | rfl | rfl <;>
    simp only [Compares] at holds holds' <;> first | rfl | omega

/-- One of the three compares integers that are not merged. -/
theorem exists_compares (distinct : ¬ Merged a b) :
    ∃ operator ∈ [lt, eq, gt], operator.Compares a b := by
  rcases Int.lt_trichotomy a b with less | same | greater
  · exact ⟨lt, by decide, less, distinct⟩
  · exact ⟨eq, by decide, same⟩
  · exact ⟨gt, by decide, greater, distinct⟩

/-- None of the three compares merged integers. -/
theorem not_compares_of_merged (merged : Merged a b) {operator : Operator}
    (listed : operator ∈ [lt, eq, gt]) : ¬ operator.Compares a b := by
  simp only [List.mem_cons, List.not_mem_nil, or_false] at listed
  rcases listed with rfl | rfl | rfl
  · exact fun holds => holds.2 merged
  · exact merged.1
  · exact fun holds => holds.2 merged

end

/-- **Tests order integers that are not rounded to one double.**  Where a subject is one integer and
an operand means another, each operator holds as it does of the integers, except that two different
integers that are rounded to one double are not ordered; so exactly one of *less*, *equal* and
*greater* holds, and the other two orders are these or equality, if and only if they are not so
rounded, which no integer below `2 ^ 53` in magnitude is.  Comparing the other way round gives the
same. -/
theorem integers_compared {scope : Scope} {left right : Subject} {v w : Json} {a b : Int}
    (ha : Integral a) (hb : Integral b)
    (reads : left.value? scope = some (.number (.integer a ha)))
    (means : v.resolve scope = some (.number (.integer b hb)))
    (reads' : right.value? scope = some (.number (.integer b hb)))
    (means' : w.resolve scope = some (.number (.integer a ha))) :
    let Here (operator : Operator) : Prop := (left.against operator v).holds scope = true
    let Back (operator : Operator) : Prop := (right.against operator w).holds scope = true
    (∀ operator, Here operator ↔ operator.Compares a b) ∧
      ((∃! operator, operator ∈ [lt, eq, gt] ∧ Here operator) ∧
        (Here gte ↔ Here gt ∨ Here eq) ∧ (Here lte ↔ Here lt ∨ Here eq) ↔ ¬ Merged a b) ∧
      (Here gt ↔ Back lt) ∧
      (Merged a b → 2 ^ 53 ≤ a.natAbs ∧ 2 ^ 53 ≤ b.natAbs) := by
  intro Here Back
  have here (operator : Operator) : Here operator ↔ operator.Compares a b := by
    rw [← holds_integers ha hb, ← reads, ← means, ← Subject.holds_against]
  have back : Back lt ↔ lt.Compares b a := by
    rw [← holds_integers hb ha, ← reads', ← means', ← Subject.holds_against]
  refine ⟨here, ?_, ?_, Merged.large⟩
  · simp only [here]
    constructor
    · rintro ⟨⟨operator, ⟨listed, holds⟩, -⟩, -⟩ merged
      exact not_compares_of_merged merged listed holds
    · intro distinct
      obtain ⟨operator, listed, holds⟩ := exists_compares distinct
      refine ⟨⟨operator, ⟨listed, holds⟩, fun other both => ?_⟩, ?_, ?_⟩
      · exact eq_of_compares both.1 listed both.2 holds
      · simp only [Compares, distinct, not_false_eq_true, and_true, or_false]
        omega
      · simp only [Compares, distinct, not_false_eq_true, and_true, or_false]
        omega
  · rw [here, back]
    exact and_congr_right' (not_congr merged_comm)

/-- The least and the largest integer of 64 bits, each of them as the subject and as the operand. -/
theorem integers_compared_extremes :
    let scope : Scope := { state := .object [("a", .ofInt (-9223372036854775808)),
      ("b", .ofInt 18446744073709551615)] }
    let least : Json := .object [("$state", .string "/a")]
    let largest : Json := .object [("$state", .string "/b")]
    let Here (operator : Operator) : Prop :=
      ((Subject.state "/a").against operator largest).holds scope = true
    (Subject.state "/a").value? scope = some (.ofInt (-9223372036854775808)) ∧
      largest.resolve scope = some (.ofInt 18446744073709551615) ∧
      (Subject.state "/b").value? scope = some (.ofInt 18446744073709551615) ∧
      least.resolve scope = some (.ofInt (-9223372036854775808)) ∧
      (∃! operator, operator ∈ [lt, eq, gt] ∧ Here operator) ∧
      (Here gte ↔ Here gt ∨ Here eq) ∧ (Here lte ↔ Here lt ∨ Here eq) := by
  intro scope least largest Here
  have reads : (Subject.state "/a").value? scope = some (.ofInt (-9223372036854775808)) := by
    decide +kernel
  have means : largest.resolve scope = some (.ofInt 18446744073709551615) := by decide +kernel
  have reads' : (Subject.state "/b").value? scope = some (.ofInt 18446744073709551615) := by
    decide +kernel
  have means' : least.resolve scope = some (.ofInt (-9223372036854775808)) := by decide +kernel
  have apart : ¬ Merged (-9223372036854775808) 18446744073709551615 := by decide +kernel
  obtain ⟨-, consistent, -, -⟩ :=
    integers_compared (by decide) (by decide) reads means reads' means'
  exact ⟨reads, means, reads', means', consistent.mpr apart⟩

/-- The least positive integer that is no double and the double it is rounded to are in no order. -/
theorem integers_unordered :
    let scope : Scope := { state := .object [("a", .ofInt 9007199254740993),
      ("b", .ofInt 9007199254740992)] }
    let here (operator : Operator) : Bool :=
      ((Subject.state "/a").against operator (.object [("$state", .string "/b")])).holds scope
    here lt = false ∧ here eq = false ∧ here gt = false ∧ here gte = true := by
  decide +kernel

end Operator

end UiStream

import UiStream.Number.Double
import Mathlib.Tactic.Ring

/-!
# Integers that are doubles

An integer of at most `2 ^ 53` in magnitude is a double (`Double.scaled_ofInt`): rounding changes
no such integer, so different ones stay different as doubles (`Double.ofInt_inj`).  Above `2 ^ 53`
not every integer is a double, and different integers can be rounded to one.
-/

namespace UiStream

/-! ## Rounding what needs none -/

theorem roundDiv_mul (q : Nat) {d : Nat} (hd : 0 < d) : roundDiv (q * d) d = q := by
  rw [roundDiv, Nat.mul_mod_left, Nat.mul_div_cancel q hd]
  simp only [Nat.mul_zero, if_pos hd]

theorem floorLog2_one {num : Nat} (hn : num ≠ 0) : floorLog2 num 1 = (Nat.log2 num : Int) := by
  have below : 1 * Nat.pow 2 (Nat.log2 num) ≤ num := by
    rw [Nat.one_mul]
    exact Nat.log2_self_le hn
  have one : Nat.log2 1 = 0 := by decide
  simp only [floorLog2, one, Int.ofNat_zero, Int.sub_zero, Int.natAbs_natCast,
    if_neg (Int.not_lt.mpr (Int.natCast_nonneg _)), if_pos below]

/-- With a step of exponent `k` and a significand of 53 bits a pattern stands for the significand,
shifted by `k`. -/
theorem magnitudeUnits_step (k : Nat) {q : Nat} (least : patternsPerStep ≤ q)
    (most : q < 2 * patternsPerStep) :
    magnitudeUnits (k * patternsPerStep + q) = q * 2 ^ k := by
  have positive : 0 < patternsPerStep := by decide
  obtain ⟨r, rfl⟩ := Nat.exists_eq_add_of_le least
  have small : r < patternsPerStep := by omega
  have place : k * patternsPerStep + (patternsPerStep + r) = r + (k + 1) * patternsPerStep := by
    ring
  have high : ¬ r + (k + 1) * patternsPerStep < patternsPerStep := by
    rw [← place]
    omega
  rw [place, magnitudeUnits, if_neg high, Nat.add_mul_mod_self_right, Nat.mod_eq_of_lt small,
    Nat.add_mul_div_right _ _ positive, Nat.div_eq_of_lt small, Nat.zero_add, Nat.add_sub_cancel]
  rfl

/-! ## Integers of 53 bits -/

section Significand

variable {num : Nat}

/-- The 53 leading bits of a number, with zeros behind them if it has fewer. -/
def significand (num : Nat) : Nat := num * 2 ^ 53 / 2 ^ (Nat.log2 num + 1)

theorem log2_le_of_le (hn : num ≠ 0) (most : num ≤ 2 ^ 53) : Nat.log2 num ≤ 53 :=
  (Nat.pow_le_pow_iff_right (by decide)).mp ((Nat.log2_self_le hn).trans most)

/-- The leading bits of a number up to `2 ^ 53` are all of it. -/
theorem significand_spec (hn : num ≠ 0) (most : num ≤ 2 ^ 53) :
    significand num * 2 ^ (Nat.log2 num + 1) = num * 2 ^ 53 ∧
      patternsPerStep ≤ significand num ∧ significand num < 2 * patternsPerStep := by
  have lower : 2 ^ Nat.log2 num ≤ num := Nat.log2_self_le hn
  have upper : num < 2 ^ (Nat.log2 num + 1) := Nat.lt_log2_self
  have bits := log2_le_of_le hn most
  have divides : 2 ^ (Nat.log2 num + 1) ∣ num * 2 ^ 53 := by
    rcases Nat.lt_or_eq_of_le bits with bits | bits
    · exact Nat.dvd_mul_left_of_dvd (Nat.pow_dvd_pow 2 bits) num
    · have : num = 2 ^ 53 := le_antisymm most (bits ▸ lower)
      rw [bits, this, ← Nat.pow_add]
      exact Nat.pow_dvd_pow 2 (by decide)
  have shifted : significand num * 2 ^ (Nat.log2 num + 1) = num * 2 ^ 53 :=
    Nat.div_mul_cancel divides
  refine ⟨shifted, ?_, ?_⟩
  · refine Nat.le_of_mul_le_mul_right ?_ (Nat.two_pow_pos (Nat.log2 num + 1))
    rw [shifted, Nat.pow_succ, ← Nat.mul_assoc, Nat.mul_right_comm]
    exact Nat.mul_comm num _ ▸ Nat.mul_le_mul_left (patternsPerStep * 2) lower
  · refine Nat.lt_of_mul_lt_mul_right (a := 2 ^ (Nat.log2 num + 1)) ?_
    rw [shifted, Nat.mul_comm num]
    exact Nat.mul_lt_mul_of_pos_left upper (Nat.two_pow_pos 53)

theorem significand_shifted (hn : num ≠ 0) (most : num ≤ 2 ^ 53) :
    significand num * 2 ^ (Nat.log2 num + 1022) = num * unitsPerOne := by
  have units : unitsPerOne = 2 ^ 53 * 2 ^ 1021 := by decide +kernel
  rw [units, ← Nat.mul_assoc, ← (significand_spec hn most).1, Nat.mul_assoc, ← Nat.pow_add,
    Nat.add_assoc]

/-- The pattern of a number up to `2 ^ 53`. -/
theorem nearestMagnitude_one (hn : num ≠ 0) (most : num ≤ 2 ^ 53) :
    nearestMagnitude num 1 = (Nat.log2 num + 1022) * patternsPerStep + significand num := by
  have exponent : ((Nat.log2 num : Int) + 1022).toNat = Nat.log2 num + 1022 := by omega
  have positive : 0 < 1 * Nat.pow 2 (Nat.log2 num + 1022) := by
    rw [Nat.one_mul]
    exact Nat.two_pow_pos _
  have quotient : num * unitsPerOne = significand num * (1 * Nat.pow 2 (Nat.log2 num + 1022)) := by
    rw [Nat.one_mul]
    exact (significand_shifted hn most).symm
  rw [nearestMagnitude, if_neg hn, floorLog2_one hn]
  simp only [exponent]
  rw [quotient, roundDiv_mul _ positive]

/-- A number up to `2 ^ 53` has a finite pattern that stands for it. -/
theorem magnitudeUnits_nearestMagnitude_one (most : num ≤ 2 ^ 53) :
    nearestMagnitude num 1 < magnitudeLimit ∧
      magnitudeUnits (nearestMagnitude num 1) = num * unitsPerOne := by
  by_cases hn : num = 0
  · subst hn
    exact ⟨by decide, by rw [Nat.zero_mul]; decide⟩
  obtain ⟨-, least, fits⟩ := significand_spec hn most
  have bits := log2_le_of_le hn most
  rw [nearestMagnitude_one hn most, magnitudeUnits_step _ least fits]
  refine ⟨?_, significand_shifted hn most⟩
  simp only [patternsPerStep, magnitudeLimit] at fits ⊢
  omega

end Significand

namespace Double

/-- An integer up to `2 ^ 53` in magnitude is a double. -/
theorem scaled_ofInt {n : Int} (h : n.natAbs ≤ 2 ^ 53) :
    (ofInt n).scaled = n * (unitsPerOne : Int) := by
  obtain ⟨finite, units⟩ := magnitudeUnits_nearestMagnitude_one h
  rw [ofInt, ofMagnitude?, dif_pos finite, Option.getD_some, scaled, Double.units, units]
  by_cases negative : n < 0
  · rw [if_pos (decide_eq_true negative), Nat.cast_mul, ← Int.neg_mul]
    congr 1
    omega
  · rw [if_neg (by simpa using negative), Nat.cast_mul]
    congr 1
    omega

/-- Integers up to `2 ^ 53` in magnitude that are one double are one integer. -/
theorem ofInt_inj {m n : Int} (hm : m.natAbs ≤ 2 ^ 53) (hn : n.natAbs ≤ 2 ^ 53)
    (same : (ofInt m).scaled = (ofInt n).scaled) : m = n := by
  rw [scaled_ofInt hm, scaled_ofInt hn] at same
  have positive : (unitsPerOne : Int) ≠ 0 := by decide +kernel
  exact Int.eq_of_mul_eq_mul_right positive same

end Double

end UiStream

import UiStream.Proofs.Number.Rounding

/-!
# Rounding keeps the order

Of two integers the smaller one is never rounded to the larger double (`Double.scaled_ofInt_mono`).
Rounding a quotient keeps the order (`roundDiv_mono`); with it the pattern of the nearest double
does, since the significand of a number lies between two powers of two and a step to the next
exponent adds as many patterns as lie between them (`nearestMagnitude_one_mono`); and larger
patterns are larger numbers (`magnitudeUnits_mono`).

Next to an integer below `2 ^ 53` in magnitude are two others that are doubles as well, so no other
integer is rounded to it (`Double.ofInt_ne_of_lt`).
-/

namespace UiStream

/-! ## Rounded quotients -/

theorem roundDiv_bounds (num den : Nat) :
    num / den ≤ roundDiv num den ∧ roundDiv num den ≤ num / den + 1 := by
  rw [roundDiv]
  split
  · omega
  · split <;> omega

/-- A larger number has no smaller rounded quotient. -/
theorem roundDiv_mono {m n : Nat} (h : m ≤ n) (den : Nat) : roundDiv m den ≤ roundDiv n den := by
  -- Rounding up adds one, so it can matter only where the quotients are the same.
  rcases Nat.lt_or_eq_of_le (Nat.div_le_div_right (c := den) h) with below | same
  · have upper := (roundDiv_bounds m den).2
    have lower := (roundDiv_bounds n den).1
    omega
  · have rest : m % den ≤ n % den := by
      have hm := Nat.div_add_mod m den
      have hn := Nat.div_add_mod n den
      rw [same] at hm
      omega
    rw [roundDiv, roundDiv, same]
    split_ifs <;> omega

theorem roundDiv_le {num den q : Nat} (hd : 0 < den) (h : num ≤ q * den) : roundDiv num den ≤ q :=
  roundDiv_mul q hd ▸ roundDiv_mono h den

theorem le_roundDiv {num den q : Nat} (hd : 0 < den) (h : q * den ≤ num) : q ≤ roundDiv num den :=
  roundDiv_mul q hd ▸ roundDiv_mono h den

/-! ## Patterns -/

/-- A number in units of its last place, rounded: what the significand of the nearest double is,
or twice the least significand when it carries. -/
def rounded (num : Nat) : Nat := roundDiv (num * unitsPerOne) (2 ^ (Nat.log2 num + 1022))

theorem nearestMagnitude_one_eq {num : Nat} (hn : num ≠ 0) :
    nearestMagnitude num 1 = (Nat.log2 num + 1022) * patternsPerStep + rounded num := by
  have exponent : ((Nat.log2 num : Int) + 1022).toNat = Nat.log2 num + 1022 := by omega
  rw [nearestMagnitude, if_neg hn, floorLog2_one hn]
  simp only [exponent, Nat.one_mul]
  rfl

theorem rounded_bounds {num : Nat} (hn : num ≠ 0) :
    patternsPerStep ≤ rounded num ∧ rounded num ≤ 2 * patternsPerStep := by
  have lower : 2 ^ Nat.log2 num ≤ num := Nat.log2_self_le hn
  have upper : num ≤ 2 ^ (Nat.log2 num + 1) := Nat.le_of_lt Nat.lt_log2_self
  -- The exponent is a variable here, or the powers would be computed.
  have units : ∀ k, 1022 = k → unitsPerOne = patternsPerStep * 2 ^ k := by
    rintro _ rfl
    decide +kernel
  have place : patternsPerStep * 2 ^ (Nat.log2 num + 1022) = 2 ^ Nat.log2 num * unitsPerOne := by
    generalize power : 1022 = k
    rw [Nat.pow_add, units k power, Nat.mul_left_comm]
  have positive := Nat.two_pow_pos (Nat.log2 num + 1022)
  constructor
  · refine le_roundDiv positive ?_
    rw [place]
    exact Nat.mul_le_mul_right _ lower
  · refine roundDiv_le positive ?_
    rw [Nat.mul_assoc, place, ← Nat.mul_assoc, ← Nat.pow_succ']
    exact Nat.mul_le_mul_right _ upper

/-- A larger number has no smaller pattern. -/
theorem nearestMagnitude_one_mono {m n : Nat} (h : m ≤ n) :
    nearestMagnitude m 1 ≤ nearestMagnitude n 1 := by
  by_cases hm : m = 0
  · rw [hm, nearestMagnitude, if_pos rfl]
    exact Nat.zero_le _
  have hn : n ≠ 0 := by omega
  rw [nearestMagnitude_one_eq hm, nearestMagnitude_one_eq hn]
  have bits : Nat.log2 m ≤ Nat.log2 n := (Nat.le_log2 hn).mpr ((Nat.log2_self_le hm).trans h)
  -- With another bit there is another step, and a step is the most that a significand can carry.
  rcases Nat.lt_or_eq_of_le bits with fewer | same
  · have most := (rounded_bounds hm).2
    have least := (rounded_bounds hn).1
    have step : (Nat.log2 m + 1022 + 1) * patternsPerStep ≤
        (Nat.log2 n + 1022) * patternsPerStep := Nat.mul_le_mul_right _ (by omega)
    rw [Nat.succ_mul] at step
    omega
  · rw [rounded, rounded, same]
    exact Nat.add_le_add_left (roundDiv_mono (Nat.mul_le_mul_right _ h) _) _

/-- A pattern of a step. -/
theorem magnitudeUnits_of_le {p : Nat} (h : patternsPerStep ≤ p) :
    magnitudeUnits p =
      (patternsPerStep + p % patternsPerStep) * 2 ^ (p / patternsPerStep - 1) := by
  rw [magnitudeUnits, if_neg (Nat.not_lt.mpr h)]
  rfl

/-- A larger pattern stands for no smaller magnitude. -/
theorem magnitudeUnits_mono {p q : Nat} (h : p ≤ q) : magnitudeUnits p ≤ magnitudeUnits q := by
  have positive : 0 < patternsPerStep := by decide
  -- Below the first step a pattern is the number of units itself.
  by_cases hq : q < patternsPerStep
  · rw [magnitudeUnits, magnitudeUnits, if_pos (by omega), if_pos hq]
    exact h
  have least : patternsPerStep ≤ magnitudeUnits q := by
    rw [magnitudeUnits_of_le (by omega)]
    exact (Nat.le_add_right _ _).trans (Nat.le_mul_of_pos_right _ (Nat.two_pow_pos _))
  by_cases hp : p < patternsPerStep
  · rw [magnitudeUnits, if_pos hp]
    omega
  rw [magnitudeUnits_of_le (by omega), magnitudeUnits_of_le (by omega)]
  have some : 1 ≤ p / patternsPerStep := (Nat.one_le_div_iff positive).mpr (by omega)
  have small := Nat.mod_lt p positive
  rcases Nat.lt_or_eq_of_le (Nat.div_le_div_right (c := patternsPerStep) h) with below | same
  · calc (patternsPerStep + p % patternsPerStep) * 2 ^ (p / patternsPerStep - 1)
        ≤ patternsPerStep * 2 * 2 ^ (p / patternsPerStep - 1) :=
          Nat.mul_le_mul_right _ (by omega)
      _ = patternsPerStep * 2 ^ (p / patternsPerStep - 1 + 1) := by ring
      _ ≤ patternsPerStep * 2 ^ (q / patternsPerStep - 1) :=
          Nat.mul_le_mul_left _ (Nat.pow_le_pow_right (by decide) (by omega))
      _ ≤ _ := Nat.mul_le_mul_right _ (Nat.le_add_right _ _)
  · have hp := Nat.div_add_mod p patternsPerStep
    have hq := Nat.div_add_mod q patternsPerStep
    rw [same] at hp ⊢
    exact Nat.mul_le_mul_right _ (by omega)

/-! ## Integers -/

namespace Double

/-- The pattern of an integer is the nearest one that is finite. -/
theorem scaled_ofInt_eq (n : Int) :
    (ofInt n).scaled =
      if n < 0 then
        -(magnitudeUnits (min (nearestMagnitude n.natAbs 1) (magnitudeLimit - 1)) : Int)
      else (magnitudeUnits (min (nearestMagnitude n.natAbs 1) (magnitudeLimit - 1)) : Int) := by
  have limit : 0 < magnitudeLimit := by decide
  rw [ofInt, ofMagnitude?]
  split
  · next finite =>
    rw [Option.getD_some, scaled, units, Nat.min_eq_left (by omega)]
    simp only [decide_eq_true_eq]
  · next infinite =>
    rw [Option.getD_none, largest, scaled, units, Nat.min_eq_right (by omega)]
    simp only [decide_eq_true_eq]

/-- **Rounding keeps the order of integers.** -/
theorem scaled_ofInt_mono {m n : Int} (h : m ≤ n) : (ofInt m).scaled ≤ (ofInt n).scaled := by
  have mono {p q : Nat} (h : p ≤ q) :
      magnitudeUnits (min (nearestMagnitude p 1) (magnitudeLimit - 1)) ≤
        magnitudeUnits (min (nearestMagnitude q 1) (magnitudeLimit - 1)) :=
    magnitudeUnits_mono (min_le_min_right _ (nearestMagnitude_one_mono h))
  rw [scaled_ofInt_eq, scaled_ofInt_eq]
  split
  · split
    · have := mono (p := n.natAbs) (q := m.natAbs) (by omega)
      omega
    · omega
  · rw [if_neg (by omega)]
    exact Int.ofNat_le.mpr (mono (by omega))

/-- An integer that is larger as a double is larger. -/
theorem lt_of_scaled_ofInt_lt {m n : Int} (h : (ofInt m).scaled < (ofInt n).scaled) : m < n :=
  Int.not_le.mp fun le => Int.not_lt.mpr (scaled_ofInt_mono le) h

/-- No other integer is rounded to an integer below `2 ^ 53` in magnitude. -/
theorem ofInt_ne_of_lt {m n : Int} (small : m.natAbs < 2 ^ 53) (apart : m ≠ n) :
    (ofInt m).scaled ≠ (ofInt n).scaled := by
  have unit : (0 : Int) < unitsPerOne := by decide +kernel
  have here := scaled_ofInt (n := m) (by omega)
  rcases Int.lt_or_gt_of_ne apart with below | above
  · have next := scaled_ofInt (n := m + 1) (by omega)
    have order := scaled_ofInt_mono (m := m + 1) (n := n) below
    rw [next, Int.add_mul] at order
    omega
  · have next := scaled_ofInt (n := m - 1) (by omega)
    have order := scaled_ofInt_mono (m := n) (n := m - 1) (by omega)
    rw [next, Int.sub_mul] at order
    omega

end Double

end UiStream

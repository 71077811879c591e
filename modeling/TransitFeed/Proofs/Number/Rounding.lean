import TransitFeed.Number.Double
import TransitFeed.Number.Fixed

/-! # Rounding to places and back

A magnitude is rounded to a count of 10⁻⁷, and the count is rounded to a magnitude again. Where
the magnitudes lie closer to each other than the counts, the second rounding moves less than half a
count, so the count is found again. Where they lie farther apart, it finds the magnitude again.
-/

namespace TransitFeed

/-- Rounding moves by half a unit at most. -/
theorem roundHalfEven_bounds {den : Nat} (num : Nat) (positive : 0 < den) :
    2 * (roundHalfEven num den * den) ≤ 2 * num + den ∧
      2 * num ≤ 2 * (roundHalfEven num den * den) + den := by
  have split : num / den * den + num % den = num := Nat.div_add_mod' num den
  have rest : num % den < den := Nat.mod_lt num positive
  simp only [roundHalfEven]
  generalize num / den = quotient at split ⊢
  generalize num % den = r at split rest ⊢
  split
  · omega
  · split
    · rw [Nat.add_mul quotient, Nat.one_mul]
      omega
    · rcases Nat.mod_two_eq_zero_or_one quotient with even | odd
      · rw [even, Nat.add_zero]
        omega
      · rw [odd, Nat.add_mul quotient, Nat.one_mul]
        omega

theorem roundHalfEven_eq {num den k : Nat} (above : 2 * num < 2 * (k * den) + den)
    (below : 2 * (k * den) < 2 * num + den) : roundHalfEven num den = k := by
  have positive : 0 < den := by
    rcases Nat.eq_zero_or_pos den with rfl | positive
    · omega
    · exact positive
  obtain ⟨upper, lower⟩ := roundHalfEven_bounds num positive
  generalize roundHalfEven num den = n at upper lower ⊢
  rcases Nat.lt_trichotomy n k with less | same | greater
  · have apart : (n + 1) * den ≤ k * den := Nat.mul_le_mul_right den less
    rw [Nat.succ_mul] at apart
    omega
  · exact same
  · have apart : (k + 1) * den ≤ n * den := Nat.mul_le_mul_right den greater
    rw [Nat.succ_mul] at apart
    omega

namespace Double

/-- The power of two that a magnitude near a quotient is a multiple of. -/
def shiftOf (count : Nat) : Nat := (count * unitsPerOne / tenTo 7).log2 - 52

/-- The magnitude nearest to a count of 10⁻⁷. -/
def unitsOf (count : Nat) : Nat :=
  roundHalfEven (count * unitsPerOne) (tenTo 7 * twoTo (shiftOf count)) * twoTo (shiftOf count)

theorem unitsPerOne_eq {a b : Nat} (h : a + b = 1074) : unitsPerOne = twoTo a * twoTo b := by
  rw [← twoTo_add, h, unitsPerOne]

theorem fine_of_le {shift : Nat} (h : shift ≤ 1050) : tenTo 7 * twoTo shift < unitsPerOne := by
  rw [unitsPerOne_eq (show shift + (1074 - shift) = 1074 by omega), Nat.mul_comm]
  refine Nat.mul_lt_mul_of_pos_left ?_ (twoTo_pos shift)
  calc
    tenTo 7 < twoTo 24 := by decide
    _ ≤ twoTo (1074 - shift) := twoTo_le_twoTo (by omega)

theorem coarse_of_lt {shift : Nat} (h : 1050 < shift) : unitsPerOne < tenTo 7 * twoTo shift := by
  rw [unitsPerOne_eq (show 1051 + 23 = 1074 by rfl), Nat.mul_comm]
  refine Nat.mul_lt_mul_of_lt_of_le (by decide) (twoTo_le_twoTo h) (twoTo_pos shift)

theorem twoTo_dvd_of_le {units shift : Nat} (gaps : gap units ∣ units)
    (large : twoTo (52 + shift) ≤ units) : twoTo shift ∣ units := by
  have nonzero : units ≠ 0 := Nat.ne_of_gt (Nat.lt_of_lt_of_le (twoTo_pos _) large)
  have bits : 52 + shift ≤ units.log2 := (Nat.le_log2 nonzero).mpr large
  exact Nat.dvd_trans (twoTo_dvd_twoTo (by omega)) gaps

theorem add_half_le {units shift : Nat} (gaps : gap units ∣ units)
    (small : units < twoTo (53 + shift)) : units + twoTo shift ≤ twoTo (53 + shift) := by
  have double : twoTo (53 + shift) = twoTo (52 + shift) * 2 := by
    rw [show 53 + shift = (52 + shift) + 1 by omega, twoTo_succ]
  by_cases large : twoTo (52 + shift) ≤ units
  · obtain ⟨k, rfl⟩ := twoTo_dvd_of_le gaps large
    rw [show 53 + shift = shift + 53 by omega, twoTo_add] at small ⊢
    have below : k < twoTo 53 := Nat.lt_of_mul_lt_mul_left small
    calc
      twoTo shift * k + twoTo shift = twoTo shift * (k + 1) := (Nat.mul_succ _ _).symm
      _ ≤ twoTo shift * twoTo 53 := Nat.mul_le_mul_left _ below
  · have gap_le : twoTo shift ≤ twoTo (52 + shift) := twoTo_le_twoTo (by omega)
    omega

section

variable {units : Nat}

theorem roundedCount_bounds (units : Nat) :
    2 * (roundedCount 7 units * unitsPerOne) ≤ 2 * (units * tenTo 7) + unitsPerOne ∧
      2 * (units * tenTo 7) ≤ 2 * (roundedCount 7 units * unitsPerOne) + unitsPerOne :=
  roundHalfEven_bounds (units * tenTo 7) (twoTo_pos 1074)

theorem large_of_coarse {shift : Nat} (gaps : gap units ∣ units)
    (coarse : unitsPerOne < tenTo 7 * twoTo (shift + 1))
    (large : twoTo (53 + shift) ≤ roundedCount 7 units * unitsPerOne / tenTo 7) :
    twoTo (53 + shift) ≤ units := by
  have scaled := (Nat.le_div_iff_mul_le (tenTo_pos 7)).mp large
  obtain ⟨upper, -⟩ := roundedCount_bounds units
  -- Were the magnitude smaller, it would be smaller by more than half a count.
  refine Nat.le_of_not_lt fun small => ?_
  have apart := Nat.mul_le_mul_right (tenTo 7) (add_half_le gaps small)
  rw [Nat.add_mul] at apart
  rw [twoTo_succ, ← Nat.mul_assoc, Nat.mul_comm (tenTo 7)] at coarse
  omega

/-- Where magnitudes lie farther apart than counts, the magnitude is found again. -/
theorem unitsOf_coarse (gaps : gap units ∣ units) (coarse : 1050 < shiftOf (roundedCount 7 units)) :
    unitsOf (roundedCount 7 units) = units := by
  obtain ⟨shift, same⟩ : ∃ shift, shiftOf (roundedCount 7 units) = shift + 1 :=
    ⟨shiftOf (roundedCount 7 units) - 1, by omega⟩
  have wide : unitsPerOne < tenTo 7 * twoTo (shift + 1) := coarse_of_lt (same ▸ coarse)
  have bits : 53 + shift ≤ (roundedCount 7 units * unitsPerOne / tenTo 7).log2 := by
    have := same
    unfold shiftOf at this
    omega
  have nonzero : roundedCount 7 units * unitsPerOne / tenTo 7 ≠ 0 := by
    intro zero
    rw [zero] at bits
    simp at bits
  have large := large_of_coarse gaps wide ((Nat.le_log2 nonzero).mp bits)
  obtain ⟨k, whole⟩ : twoTo (shift + 1) ∣ units :=
    twoTo_dvd_of_le gaps (by rwa [show 52 + (shift + 1) = 53 + shift by omega])
  obtain ⟨upper, lower⟩ := roundedCount_bounds units
  have exact : k * (tenTo 7 * twoTo (shift + 1)) = units * tenTo 7 := by
    rw [whole, Nat.mul_comm (twoTo (shift + 1)), Nat.mul_assoc, Nat.mul_comm (tenTo 7)]
  rw [unitsOf, same, roundHalfEven_eq (k := k) (by omega) (by omega), whole, Nat.mul_comm]

/-- Where magnitudes lie closer than counts, the second rounding moves less than half a count. -/
theorem unitsOf_fine {count : Nat} (fine : shiftOf count ≤ 1050) :
    2 * (unitsOf count * tenTo 7) < 2 * (count * unitsPerOne) + unitsPerOne ∧
      2 * (count * unitsPerOne) < 2 * (unitsOf count * tenTo 7) + unitsPerOne := by
  have close := fine_of_le fine
  obtain ⟨upper, lower⟩ := roundHalfEven_bounds (count * unitsPerOne)
    (Nat.mul_pos (tenTo_pos 7) (twoTo_pos (shiftOf count)))
  have same : unitsOf count * tenTo 7 =
      roundHalfEven (count * unitsPerOne) (tenTo 7 * twoTo (shiftOf count)) *
        (tenTo 7 * twoTo (shiftOf count)) := by
    rw [unitsOf, Nat.mul_assoc, Nat.mul_comm (tenTo 7)]
  rw [same]
  omega

/-- The count of a magnitude is the count of the magnitude that is nearest to the count. -/
theorem roundedCount_unitsOf (gaps : gap units ∣ units) :
    roundedCount 7 (unitsOf (roundedCount 7 units)) = roundedCount 7 units := by
  by_cases fine : shiftOf (roundedCount 7 units) ≤ 1050
  · obtain ⟨upper, lower⟩ := unitsOf_fine fine
    exact roundHalfEven_eq (by omega) (by omega)
  · rw [unitsOf_coarse gaps (by omega)]

/-- Both roundings together move by one count at most. -/
theorem unitsOf_near (gaps : gap units ∣ units) :
    unitsOf (roundedCount 7 units) * tenTo 7 ≤ units * tenTo 7 + unitsPerOne ∧
      units * tenTo 7 ≤ unitsOf (roundedCount 7 units) * tenTo 7 + unitsPerOne := by
  by_cases fine : shiftOf (roundedCount 7 units) ≤ 1050
  · obtain ⟨upper, lower⟩ := unitsOf_fine fine
    obtain ⟨upper', lower'⟩ := roundedCount_bounds units
    omega
  · rw [unitsOf_coarse gaps (by omega)]
    omega

/-- What is read back is no more infinite than what was written. -/
theorem unitsOf_lt (representable : Representable units) :
    unitsOf (roundedCount 7 units) < limit := by
  by_cases fine : shiftOf (roundedCount 7 units) ≤ 1050
  · have small : roundedCount 7 units * unitsPerOne < twoTo 1103 * tenTo 7 := by
      rw [← Nat.div_lt_iff_lt_mul (tenTo_pos 7)]
      by_cases zero : roundedCount 7 units * unitsPerOne / tenTo 7 = 0
      · rw [zero]
        exact twoTo_pos 1103
      · refine (log2_lt_iff zero).mp ?_
        unfold shiftOf at fine
        omega
    have one_le : unitsPerOne ≤ twoTo 1103 * tenTo 7 :=
      Nat.le_trans (twoTo_le_twoTo (show 1074 ≤ 1103 by decide))
        (Nat.le_mul_of_pos_right _ (tenTo_pos 7))
    obtain ⟨upper, -⟩ := unitsOf_fine fine
    have below : unitsOf (roundedCount 7 units) * tenTo 7 < twoTo 1104 * tenTo 7 := by
      rw [twoTo_succ, Nat.mul_right_comm]
      omega
    exact Nat.lt_of_lt_of_le (Nat.lt_of_mul_lt_mul_right below)
      (twoTo_le_twoTo (show 1104 ≤ 53 + topShift by decide))
  · rw [unitsOf_coarse representable.1 (by omega)]
    exact representable.2

end

end Double

end TransitFeed

import TransitFeed.Cell.Problem
import TransitFeed.Proofs.Number.DecimalText

/-! # Rounding within bounds

Rounding does not go past a number to which it could round itself. So a decimal that lies between
whole numbers of degrees is read back between them, and one that is not negative is read back as
one that is not.
-/

namespace TransitFeed

theorem roundHalfEven_le_of_le {num den k : Nat} (positive : 0 < den) (h : num ≤ k * den) :
    roundHalfEven num den ≤ k := by
  obtain ⟨upper, -⟩ := roundHalfEven_bounds num positive
  refine Nat.le_of_not_lt fun greater => ?_
  have apart : (k + 1) * den ≤ roundHalfEven num den * den := Nat.mul_le_mul_right den greater
  rw [Nat.succ_mul] at apart
  omega

theorem roundHalfEven_mul {den : Nat} (positive : 0 < den) (k : Nat) :
    roundHalfEven (k * den) den = k :=
  roundHalfEven_eq (by omega) (by omega)

namespace Double

/-- The power of two that the magnitudes near a quotient are multiples of. -/
def shiftOfQuotient (num den : Nat) : Nat := (num * unitsPerOne / den).log2 - 52

/-- The magnitude nearest to a quotient. -/
def unitsOfQuotient (num den : Nat) : Nat :=
  roundHalfEven (num * unitsPerOne) (den * twoTo (shiftOfQuotient num den)) *
    twoTo (shiftOfQuotient num den)

theorem nearest_of_lt (negative : Bool) {num den : Nat} (below : unitsOfQuotient num den < limit) :
    ∃ r, nearest negative num den = finite negative (unitsOfQuotient num den) r := by
  have representable : Representable (unitsOfQuotient num den) :=
    ⟨gap_dvd_mul (significand_le _ _), below⟩
  refine ⟨representable, ?_⟩
  unfold nearest
  simp only [unitsOfQuotient, shiftOfQuotient] at below representable ⊢
  rw [dif_pos below]

variable {num den bound : Nat}

theorem mul_unitsPerOne_lt (small : bound < twoTo 53) :
    bound * unitsPerOne < twoTo (53 + 1074) := by
  rw [twoTo_add, ← unitsPerOne]
  exact Nat.mul_lt_mul_of_pos_right small (twoTo_pos 1074)

/-- Up to a whole number of 53 bits, magnitudes divide one. -/
theorem exists_mul_twoTo (positive : 0 < den) (small : bound < twoTo 53) (h : num ≤ bound * den) :
    ∃ k, unitsPerOne = k * twoTo (shiftOfQuotient num den) := by
  have quotient : num * unitsPerOne / den ≤ bound * unitsPerOne := by
    rw [Nat.div_le_iff_le_mul positive, Nat.mul_right_comm]
    have scaled : num * unitsPerOne ≤ bound * den * unitsPerOne := Nat.mul_le_mul_right _ h
    omega
  have limited : num * unitsPerOne / den < twoTo (53 + 1074) := by
    exact Nat.lt_of_le_of_lt quotient (mul_unitsPerOne_lt small)
  have shift : shiftOfQuotient num den ≤ 1074 := by
    unfold shiftOfQuotient
    rcases Nat.eq_zero_or_pos (num * unitsPerOne / den) with zero | nonzero
    · rw [zero]
      simp
    · have bits := (log2_lt_iff (Nat.ne_of_gt nonzero)).mpr limited
      omega
  exact ⟨twoTo (1074 - shiftOfQuotient num den), unitsPerOne_eq (by omega)⟩

theorem unitsOfQuotient_le (positive : 0 < den) (small : bound < twoTo 53)
    (h : num ≤ bound * den) : unitsOfQuotient num den ≤ bound * unitsPerOne := by
  -- The bound is itself one of the magnitudes to which the quotient can be rounded.
  obtain ⟨k, one⟩ := exists_mul_twoTo positive small h
  have wide : 0 < den * twoTo (shiftOfQuotient num den) := Nat.mul_pos positive (twoTo_pos _)
  have scaled : num * unitsPerOne ≤ bound * k * (den * twoTo (shiftOfQuotient num den)) := by
    calc
      num * unitsPerOne ≤ bound * den * unitsPerOne := Nat.mul_le_mul_right _ h
      _ = bound * den * (k * twoTo (shiftOfQuotient num den)) := by rw [← one]
      _ = bound * k * (den * twoTo (shiftOfQuotient num den)) := by
        rw [Nat.mul_mul_mul_comm]
  have rounded := Nat.mul_le_mul_right (twoTo (shiftOfQuotient num den))
    (roundHalfEven_le_of_le wide scaled)
  rw [Nat.mul_assoc bound, ← one] at rounded
  exact rounded

theorem unitsOfQuotient_whole (small : bound < twoTo 53) :
    unitsOfQuotient bound 1 = bound * unitsPerOne := by
  have whole : bound ≤ bound * 1 := by omega
  obtain ⟨k, one⟩ := exists_mul_twoTo Nat.one_pos small whole
  have wide : 0 < 1 * twoTo (shiftOfQuotient bound 1) := Nat.mul_pos Nat.one_pos (twoTo_pos _)
  have scaled : bound * unitsPerOne = bound * k * (1 * twoTo (shiftOfQuotient bound 1)) := by
    rw [Nat.one_mul, Nat.mul_assoc, ← one]
  rw [unitsOfQuotient, scaled, roundHalfEven_mul wide, Nat.one_mul]

theorem nearest_whole (negative : Bool) (small : bound < twoTo 53) :
    ∃ r, nearest negative bound 1 = finite negative (bound * unitsPerOne) r := by
  have below : unitsOfQuotient bound 1 < limit := by
    rw [unitsOfQuotient_whole small]
    exact Nat.lt_of_lt_of_le (mul_unitsPerOne_lt small) (twoTo_le_twoTo (by decide))
  have found := nearest_of_lt negative below
  rwa [unitsOfQuotient_whole small] at found

theorem le_greatest {units : Nat} (r : Representable units) :
    units ≤ topSignificand * twoTo topShift := by
  have below := add_half_le r.1 r.2
  rw [twoTo_add] at below
  rw [topSignificand, Nat.sub_mul, Nat.one_mul]
  omega

/-- What is read back of a magnitude lies in the same whole number of ones. -/
theorem unitsOf_roundedCount_le {units : Nat} (small : bound < twoTo 53)
    (h : units ≤ bound * unitsPerOne) :
    unitsOf (roundedCount 7 units) ≤ bound * unitsPerOne := by
  have count : roundedCount 7 units ≤ bound * tenTo 7 := by
    refine roundHalfEven_le_of_le (twoTo_pos 1074) ?_
    calc
      units * tenTo 7 ≤ bound * unitsPerOne * tenTo 7 := Nat.mul_le_mul_right _ h
      _ = bound * tenTo 7 * unitsPerOne := Nat.mul_right_comm _ _ _
  exact unitsOfQuotient_le (tenTo_pos 7) small count

theorem unitsOf_roundedCount_zero : unitsOf (roundedCount 7 0) = 0 := by
  have bounded : unitsOf (roundedCount 7 0) ≤ 0 * unitsPerOne :=
    unitsOf_roundedCount_le (twoTo_pos 53) (Nat.zero_le _)
  rw [Nat.zero_mul] at bounded
  exact Nat.le_zero.mp bounded

end Double

end TransitFeed

import Mathlib.Data.Nat.Log
import TransitFeed.Proofs.Number.Bounds

/-! # Rounding keeps the order

Numbers are rounded in the order in which they lie. Where the gaps between magnitudes grow, the
power of two at which they do lies between what is rounded below it and what is rounded above. So
decimals are read back in the order of what was written.
-/

namespace TransitFeed

theorem roundHalfEven_mono {num num' den : Nat} (positive : 0 < den) (h : num ≤ num') :
    roundHalfEven num den ≤ roundHalfEven num' den := by
  rcases Nat.eq_or_lt_of_le h with rfl | less
  · exact Nat.le_refl _
  · obtain ⟨upper, -⟩ := roundHalfEven_bounds num positive
    obtain ⟨-, lower⟩ := roundHalfEven_bounds num' positive
    -- A larger result for the smaller number would be a whole unit larger, which is too much.
    refine Nat.le_of_not_lt fun greater => ?_
    have apart : (roundHalfEven num' den + 1) * den ≤ roundHalfEven num den * den :=
      Nat.mul_le_mul_right den greater
    rw [Nat.succ_mul] at apart
    omega

theorem le_roundHalfEven {num den k : Nat} (positive : 0 < den) (h : k * den ≤ num) :
    k ≤ roundHalfEven num den := by
  have rounded := roundHalfEven_mono positive h
  rwa [roundHalfEven_mul positive] at rounded

namespace Double

variable {num num' den : Nat}

theorem shiftOfQuotient_mono (h : num ≤ num') :
    shiftOfQuotient num den ≤ shiftOfQuotient num' den := by
  have quotients : num * unitsPerOne / den ≤ num' * unitsPerOne / den :=
    Nat.div_le_div_right (Nat.mul_le_mul_right _ h)
  rw [shiftOfQuotient, shiftOfQuotient, Nat.log2_eq_log_two, Nat.log2_eq_log_two]
  exact Nat.sub_le_sub_right (Nat.log_mono_right quotients) 52

theorem unitsOfQuotient_le_twoTo (num den : Nat) :
    unitsOfQuotient num den ≤ twoTo (53 + shiftOfQuotient num den) := by
  rw [unitsOfQuotient, twoTo_add]
  exact Nat.mul_le_mul_right _ (significand_le _ _)

theorem twoTo_le_unitsOfQuotient (positive : 0 < den) (normal : 0 < shiftOfQuotient num den) :
    twoTo (52 + shiftOfQuotient num den) ≤ unitsOfQuotient num den := by
  have bits : 52 + shiftOfQuotient num den ≤ (num * unitsPerOne / den).log2 := by
    unfold shiftOfQuotient at normal ⊢
    omega
  have nonzero : num * unitsPerOne / den ≠ 0 := by
    intro zero
    rw [zero] at bits
    simp at bits
  have large : twoTo (52 + shiftOfQuotient num den) * den ≤ num * unitsPerOne :=
    (Nat.le_div_iff_mul_le positive).mp ((Nat.le_log2 nonzero).mp bits)
  rw [twoTo_add, Nat.mul_assoc, Nat.mul_comm (twoTo (shiftOfQuotient num den))] at large
  rw [unitsOfQuotient, twoTo_add]
  exact Nat.mul_le_mul_right _
    (le_roundHalfEven (Nat.mul_pos positive (twoTo_pos _)) large)

theorem unitsOfQuotient_mono (positive : 0 < den) (h : num ≤ num') :
    unitsOfQuotient num den ≤ unitsOfQuotient num' den := by
  rcases Nat.eq_or_lt_of_le (@shiftOfQuotient_mono num num' den h) with same | less
  · rw [unitsOfQuotient, unitsOfQuotient, ← same]
    exact Nat.mul_le_mul_right _ (roundHalfEven_mono (Nat.mul_pos positive (twoTo_pos _))
      (Nat.mul_le_mul_right _ h))
  · calc
      unitsOfQuotient num den ≤ twoTo (53 + shiftOfQuotient num den) :=
        unitsOfQuotient_le_twoTo num den
      _ ≤ twoTo (52 + shiftOfQuotient num' den) := twoTo_le_twoTo (by omega)
      _ ≤ unitsOfQuotient num' den := twoTo_le_unitsOfQuotient positive (by omega)

theorem unitsOf_roundedCount_mono {units units' : Nat} (h : units ≤ units') :
    unitsOf (roundedCount 7 units) ≤ unitsOf (roundedCount 7 units') :=
  unitsOfQuotient_mono (tenTo_pos 7)
    (roundHalfEven_mono (twoTo_pos 1074) (Nat.mul_le_mul_right _ h))

theorem signedUnits_false (units : Nat) : signedUnits false units = units := if_neg Bool.false_ne_true

theorem signedUnits_true (units : Nat) : signedUnits true units = -units := if_pos rfl

theorem signedUnits_reread_mono {negative negative' : Bool} {units units' : Nat}
    (h : signedUnits negative units ≤ signedUnits negative' units') :
    signedUnits negative (unitsOf (roundedCount 7 units)) ≤
      signedUnits negative' (unitsOf (roundedCount 7 units')) := by
  cases negative with
  | false =>
      cases negative' with
      | false =>
          simp only [signedUnits_false, Int.ofNat_le] at h ⊢
          exact unitsOf_roundedCount_mono h
      | true =>
          -- Only zeros of different signs lie in this order.
          rw [signedUnits_false, signedUnits_true] at h
          obtain rfl : units = 0 := by omega
          obtain rfl : units' = 0 := by omega
          rw [unitsOf_roundedCount_zero]
          exact h
  | true =>
      cases negative' with
      | false =>
          rw [signedUnits_false, signedUnits_true]
          omega
      | true =>
          simp only [signedUnits_true, Int.neg_le_neg_iff, Int.ofNat_le] at h ⊢
          exact unitsOf_roundedCount_mono h

theorem exists_finite {d : Double} {x : ℚ} (exact : d.rational? = some x) :
    ∃ negative units r, d = finite negative units r ∧
      x = signedUnits negative units / unitsPerOne := by
  cases d with
  | nan | infinite => contradiction
  | finite negative units r => exact ⟨negative, units, r, rfl, (Option.some.inj exact).symm⟩

/-- Doubles are read back in their order. -/
theorem reread_mono {d d' : Double} {x x' : ℚ} (exact : d.rational? = some x)
    (exact' : d'.rational? = some x') (h : x ≤ x') :
    ∃ y y', d.reread.rational? = some y ∧ d'.reread.rational? = some y' ∧ y ≤ y' := by
  obtain ⟨negative, units, r, rfl, rfl⟩ := exists_finite exact
  obtain ⟨negative', units', r', rfl, rfl⟩ := exists_finite exact'
  obtain ⟨_, same⟩ := reread_finite negative units r
  obtain ⟨_, same'⟩ := reread_finite negative' units' r'
  have one : (0 : ℚ) < unitsPerOne := Nat.cast_pos.mpr (twoTo_pos 1074)
  rw [div_le_div_iff_of_pos_right one, Int.cast_le] at h
  refine ⟨_, _, by rw [same]; rfl, by rw [same']; rfl, ?_⟩
  rw [div_le_div_iff_of_pos_right one, Int.cast_le]
  exact signedUnits_reread_mono h

end Double

end TransitFeed

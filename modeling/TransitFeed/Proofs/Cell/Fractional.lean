import TransitFeed.Proofs.Cell.Ranges
import TransitFeed.Proofs.Number.Order

/-! # Decimals in cells

A finite double is written with seven places and read back within 10⁻⁷, without a problem and in its
order among the doubles. What is read back is written as the same text, so that no further rewrite
moves it.
-/

namespace TransitFeed.Cell

namespace DecimalRange

theorem contains_all (negative : Bool) {units : Nat} (r : Double.Representable units) :
    DecimalRange.all.contains (.finite negative units r) = true := by
  have top := Double.le_greatest r
  unfold contains all Double.greatest
  simp only [Double.le, Bool.and_eq_true, decide_eq_true_iff, Double.signedUnits_false,
    Double.signedUnits_true]
  cases negative with
  | false =>
      rw [Double.signedUnits_false]
      omega
  | true =>
      rw [Double.signedUnits_true]
      omega

end DecimalRange

namespace Fractional

open Double

/-- Plain digits: an optional minus sign, at least one digit, a point, and a digit for each place. -/
def IsPlain (places : Nat) (text : List Char) : Prop :=
  ∃ sign whole fraction, text = sign ++ whole ++ '.' :: fraction ∧ (sign = [] ∨ sign = ['-']) ∧
    (whole ≠ [] ∧ ∀ c ∈ whole, c.isDigit = true) ∧
      fraction.length = places ∧ ∀ c ∈ fraction, c.isDigit = true

theorem isPlain_text (negative : Bool) (units : Nat) (r : Representable units) :
    IsPlain places (text (finite negative units r)).toList := by
  rw [text_finite, fixedText_finite, placesText_eq, ← List.append_assoc]
  generalize roundedCount 7 units = count
  refine ⟨_, _, _, rfl, ?_, ⟨Digits.ofNat_ne_nil _, Digits.isDigit_of_mem_ofNat⟩,
    Digits.length_padded (by decide) (Nat.mod_lt count (tenTo_pos 7)),
    Digits.isDigit_of_mem_padded⟩
  cases negative with
  | false => exact Or.inl rfl
  | true => exact Or.inr rfl

theorem reading_text {d : Double} {x : ℚ} (exact : d.rational? = some x) :
    read .all (text d) = ⟨d.reread, []⟩ := by
  obtain ⟨negative, units, r, rfl, -⟩ := exists_finite exact
  obtain ⟨r', same⟩ := reread_finite negative units r
  have clear : DecimalRange.all.problems (finite negative units r).reread = [] := by
    rw [same]
    exact DecimalRange.problems_eq_nil.mpr (DecimalRange.contains_all negative r')
  rw [read, parse?_text negative units r]
  exact congrArg (Reading.mk _) clear

theorem abs_reread_sub_le {d : Double} {x y : ℚ} (exact : d.rational? = some x)
    (back : d.reread.rational? = some y) : |y - x| ≤ 1 / 10 ^ 7 := by
  have near : Near d d.reread := near_reread fun negative beyond => by
    rw [beyond] at exact
    contradiction
  obtain ⟨negative, units, r, rfl, -⟩ := exists_finite exact
  obtain ⟨_, same⟩ := reread_finite negative units r
  rw [same] at near back
  obtain ⟨x', y', exact', back', close⟩ := near
  obtain rfl := Option.some.inj (exact.symm.trans exact')
  obtain rfl := Option.some.inj (back.symm.trans back')
  rwa [abs_sub_comm]

/-- A finite double is written in plain digits, and what is read of them is finite, within 10⁻⁷ of
    it, written as the same digits, and in the order of what was written. -/
theorem accurate_text {d : Double} {x : ℚ} (exact : d.rational? = some x) :
    IsPlain 7 (text d).toList ∧
      ∃ w y, read .all (text d) = ⟨w, []⟩ ∧ w.rational? = some y ∧ |y - x| ≤ 1 / 10 ^ 7 ∧
        text w = text d ∧
          ∀ d' x', d'.rational? = some x' → x ≤ x' →
            ∃ w' y', read .all (text d') = ⟨w', []⟩ ∧ w'.rational? = some y' ∧ y ≤ y' := by
  obtain ⟨y, -, back, -⟩ := reread_mono exact exact le_rfl
  refine ⟨?_, d.reread, y, reading_text exact, back, abs_reread_sub_le exact back,
    text_reread d, ?_⟩
  · obtain ⟨negative, units, r, rfl, -⟩ := exists_finite exact
    exact isPlain_text negative units r
  · intro d' x' exact' order
    obtain ⟨first, y', back', later, ordered⟩ := reread_mono exact exact' order
    obtain rfl := Option.some.inj (back.symm.trans back')
    exact ⟨d'.reread, y', reading_text exact', later, ordered⟩

/-- The greatest double, which has 309 digits before the point. -/
theorem accurate_text_greatest :
    ∃ x : ℚ, (greatest false).rational? = some x ∧
      IsPlain 7 (text (greatest false)).toList ∧
        ∃ w y, read .all (text (greatest false)) = ⟨w, []⟩ ∧ w.rational? = some y ∧
          |y - x| ≤ 1 / 10 ^ 7 ∧ text w = text (greatest false) := by
  obtain ⟨x, exact⟩ : ∃ x, (greatest false).rational? = some x := ⟨_, rfl⟩
  obtain ⟨plain, w, y, reading, back, close, stable, -⟩ := accurate_text exact
  exact ⟨x, exact, plain, w, y, reading, back, close, stable⟩

end Fractional

end TransitFeed.Cell

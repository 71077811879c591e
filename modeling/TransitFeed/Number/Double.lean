import TransitFeed.Number.Power

/-! # Double-precision numbers

A finite double is an exact multiple of 2⁻¹⁰⁷⁴, the least positive one, so its magnitude is a
natural number of such units. Rounding, comparing and printing are then exact arithmetic on
natural numbers.
-/

namespace TransitFeed

/-- The natural number nearest to `num / den`; of two nearest ones, the even one. -/
def roundHalfEven (num den : Nat) : Nat :=
  let quotient := num / den
  let rest := num % den
  if 2 * rest < den then quotient
  else if den < 2 * rest then quotient + 1
  else quotient + quotient % 2

theorem roundHalfEven_le (num den : Nat) : roundHalfEven num den ≤ num / den + 1 := by
  simp only [roundHalfEven]
  split
  · omega
  · split <;> omega

namespace Double

/-- How many units make one. -/
def unitsPerOne : Nat := twoTo 1074

/-- The greatest power of two that a significand of 53 bits is multiplied with. -/
def topShift : Nat := 2045

/-- Where the magnitudes end. -/
def limit : Nat := twoTo (53 + topShift)

/-- The distance from a magnitude to the next larger one. -/
def gap (units : Nat) : Nat := twoTo (units.log2 - 52)

/-- The magnitudes of finite doubles: 53 significant bits are enough, and there is a limit. -/
def Representable (units : Nat) : Prop := gap units ∣ units ∧ units < limit

instance (units : Nat) : Decidable (Representable units) :=
  inferInstanceAs (Decidable (_ ∧ _))

end Double

/-- A double-precision number. -/
inductive Double where
  /-- No number. -/
  | nan
  /-- Beyond all finite numbers. -/
  | infinite (negative : Bool)
  /-- A magnitude in units of 2⁻¹⁰⁷⁴ with a sign; zero has both signs. -/
  | finite (negative : Bool) (units : Nat) (representable : Double.Representable units)
  deriving DecidableEq

namespace Double

theorem gap_dvd_mul {q shift : Nat} (h : q ≤ twoTo 53) :
    gap (q * twoTo shift) ∣ q * twoTo shift := by
  rcases Nat.lt_or_eq_of_le h with hq | rfl
  · refine Nat.dvd_trans (twoTo_dvd_twoTo ?_) (Nat.dvd_mul_left _ q)
    rcases Nat.eq_zero_or_pos q with rfl | hpos
    · simp
    · have hne : q * twoTo shift ≠ 0 := Nat.ne_of_gt (Nat.mul_pos hpos (twoTo_pos shift))
      have hlt : q * twoTo shift < twoTo (53 + shift) := by
        rw [twoTo_add]
        exact Nat.mul_lt_mul_of_pos_right hq (twoTo_pos shift)
      have := (log2_lt_iff hne).2 hlt
      omega
  · rw [← twoTo_add, gap, log2_twoTo]
    exact twoTo_dvd_twoTo (by omega)

/-- The significand that rounding finds has at most 53 bits, or is the next power of two. -/
theorem significand_le (scaled den : Nat) :
    roundHalfEven scaled (den * twoTo ((scaled / den).log2 - 52)) ≤ twoTo 53 := by
  refine Nat.le_trans (roundHalfEven_le _ _) ?_
  rw [← Nat.div_div_eq_div_mul]
  generalize scaled / den = u
  rcases Nat.eq_zero_or_pos u with rfl | hpos
  · simp [twoTo_succ]
  · have h : u < twoTo (u.log2 + 1) := (log2_lt_iff (Nat.ne_of_gt hpos)).1 (Nat.lt_succ_self _)
    have : u / twoTo (u.log2 - 52) < twoTo 53 := by
      rw [Nat.div_lt_iff_lt_mul (twoTo_pos _), ← twoTo_add]
      exact Nat.lt_of_lt_of_le h (twoTo_le_twoTo (by omega))
    omega

/-- The double nearest to `num / den`; of two nearest ones, the one with an even last bit. What
    lies at least half a gap beyond the greatest finite double is infinite. -/
def nearest (negative : Bool) (num den : Nat) : Double :=
  let scaled := num * unitsPerOne
  let shift := (scaled / den).log2 - 52
  let units := roundHalfEven scaled (den * twoTo shift) * twoTo shift
  if h : units < limit then
    .finite negative units ⟨gap_dvd_mul (significand_le scaled den), h⟩
  else .infinite negative

def zero (negative : Bool) : Double :=
  .finite negative 0 ⟨Nat.dvd_zero _, twoTo_pos _⟩

def topSignificand : Nat := twoTo 53 - 1

theorem representable_greatest : Representable (topSignificand * twoTo topShift) := by
  have h : topSignificand < twoTo 53 := Nat.sub_lt (twoTo_pos 53) (by decide)
  refine ⟨gap_dvd_mul (Nat.le_of_lt h), ?_⟩
  rw [limit, twoTo_add]
  exact Nat.mul_lt_mul_of_pos_right h (twoTo_pos topShift)

def greatest (negative : Bool) : Double :=
  .finite negative (topSignificand * twoTo topShift) representable_greatest

def ofInt (n : Int) : Double := nearest (n < 0) n.natAbs 1

/-- The signed number of units of a finite double. -/
def signedUnits (negative : Bool) (units : Nat) : Int := if negative then -units else units

/-- The order of numbers. No number is neither below nor above, and the two zeros are equal. -/
def le : Double → Double → Bool
  | .nan, _ | _, .nan => false
  | .infinite true, _ | _, .infinite false => true
  | .infinite false, _ | _, .infinite true => false
  | .finite n u _, .finite m v _ => signedUnits n u ≤ signedUnits m v

/-- Whether the double is a number that is not infinite. -/
def isFinite : Double → Bool
  | .finite .. => true
  | _ => false

def isNaN : Double → Bool
  | .nan => true
  | _ => false

end Double

end TransitFeed

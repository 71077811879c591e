import Mathlib.Data.List.TakeDrop
import Mathlib.Data.Rat.Cast.Order
import Mathlib.Tactic.Linarith
import TransitFeed.Cell.Fractional
import TransitFeed.Proofs.Number.Digits
import TransitFeed.Proofs.Number.Rounding

/-! # Reading back decimals

The text of a finite double is a row of digits with a point before the last seven. It is read as
the count that was written, and the count as the double nearest to it.
-/

namespace TransitFeed

namespace Text

theorem isBlank_digit {c : Char} (h : c.isDigit = true) : isBlank c = false := by
  simp only [Char.isDigit, Bool.and_eq_true, decide_eq_true_eq, ge_iff_le,
    UInt32.le_iff_toNat_le] at h
  obtain ⟨low, high⟩ := h
  change 48 ≤ c.toNat at low
  change c.toNat ≤ 57 at high
  simp [isBlank]
  omega

theorem trim_eq_self {text : List Char} (h : ∀ c ∈ text, isBlank c = false) : trim text = text := by
  have kept {text : List Char} (h : ∀ c ∈ text, isBlank c = false) :
      text.dropWhile isBlank = text := by
    cases text with
    | nil => rfl
    | cons c rest => exact List.dropWhile_cons_of_neg (by simp [h c List.mem_cons_self])
  rw [trim, kept h, kept (fun c member => h c (List.mem_reverse.mp member)), List.reverse_reverse]

end Text

namespace Digits

theorem span_isDigit {digits rest : List Char} (h : ∀ c ∈ digits, c.isDigit = true)
    (ends : rest.takeWhile Char.isDigit = []) :
    (digits ++ rest).span Char.isDigit = (digits, rest) := by
  rw [List.span_eq_takeWhile_dropWhile, List.takeWhile_append_of_pos h,
    List.dropWhile_append_of_pos h, ends, List.append_nil]
  have whole := List.takeWhile_append_dropWhile (p := Char.isDigit) (l := rest)
  rw [ends, List.nil_append] at whole
  rw [whole]

theorem ofDigitChars_places (count : Nat) :
    Nat.ofDigitChars 10 (ofNat (count / tenTo 7) ++ padded 7 (count % tenTo 7)) 0 = count := by
  have width : (padded 7 (count % tenTo 7)).length = 7 :=
    length_padded (by decide) (Nat.mod_lt count (tenTo_pos 7))
  rw [Nat.ofDigitChars_append, Nat.ofDigitChars_eq_ofDigitChars_zero, ofDigitChars_padded, width,
    ofNat, Nat.ofDigitChars_ten_toDigits]
  exact Nat.div_add_mod count (tenTo 7)

end Digits

namespace Double

open Digits

theorem placesText_eq (count : Nat) :
    placesText 7 count = ofNat (count / tenTo 7) ++ '.' :: padded 7 (count % tenTo 7) := rfl

theorem ofUnsigned?_placesText (negative : Bool) (count : Nat) :
    Decimal.ofUnsigned? negative (placesText 7 count) = some ⟨negative, count, -7⟩ := by
  have width : (padded 7 (count % tenTo 7)).length = 7 :=
    length_padded (by decide) (Nat.mod_lt count (tenTo_pos 7))
  have whole : (ofNat (count / tenTo 7) ++ '.' :: padded 7 (count % tenTo 7)).span Char.isDigit =
      (ofNat (count / tenTo 7), '.' :: padded 7 (count % tenTo 7)) :=
    span_isDigit isDigit_of_mem_ofNat rfl
  have fraction : (padded 7 (count % tenTo 7) ++ []).span Char.isDigit =
      (padded 7 (count % tenTo 7), []) :=
    span_isDigit isDigit_of_mem_padded rfl
  rw [List.append_nil] at fraction
  have begun : (ofNat (count / tenTo 7)).isEmpty = false :=
    List.isEmpty_eq_false_iff.mpr (ofNat_ne_nil _)
  simp only [Decimal.ofUnsigned?, placesText_eq, whole, fraction, begun, Bool.false_and,
    Bool.false_eq_true, if_false, Decimal.exponent?, Option.map_some, ofDigitChars_places, width]
  rfl

theorem ofText?_placesText (count : Nat) :
    ofText? (placesText 7 count) = ofUnsigned? false (placesText 7 count) := by
  have digits : ∀ c ∈ ofNat (count / tenTo 7), c.isDigit = true := isDigit_of_mem_ofNat
  rw [placesText_eq]
  cases h : ofNat (count / tenTo 7) with
  | nil => exact absurd h (ofNat_ne_nil _)
  | cons c rest =>
      rw [h] at digits
      have digit := digits c List.mem_cons_self
      rw [List.cons_append]
      unfold ofText?
      split
      · next same =>
          rw [(List.cons.inj same).1] at digit
          exact absurd digit (by decide)
      · next same =>
          rw [(List.cons.inj same).1] at digit
          exact absurd digit (by decide)
      · rfl

theorem ofUnsigned?_of_decimal {negative : Bool} {text : List Char} {d : Decimal}
    (h : Decimal.ofUnsigned? negative text = some d) :
    ofUnsigned? negative text = some d.toDouble := by
  unfold ofUnsigned?
  rw [h]

theorem fixedText_finite (negative : Bool) (units : Nat) (r : Representable units) :
    (finite negative units r).fixedText 7 =
      (if negative then ['-'] else []) ++ placesText 7 (roundedCount 7 units) := rfl

theorem ofText?_minus (text : List Char) : ofText? ('-' :: text) = ofUnsigned? true text := rfl

theorem ofText?_fixedText (negative : Bool) (units : Nat) (r : Representable units) :
    ofText? ((finite negative units r).fixedText 7) =
      some (Decimal.toDouble ⟨negative, roundedCount 7 units, -7⟩) := by
  rw [fixedText_finite]
  generalize roundedCount 7 units = count
  have unsigned := ofUnsigned?_of_decimal (ofUnsigned?_placesText negative count)
  cases negative with
  | true =>
      rw [if_pos rfl, List.cons_append, List.nil_append, ofText?_minus]
      exact unsigned
  | false =>
      rw [if_neg Bool.false_ne_true, List.nil_append, ofText?_placesText]
      exact unsigned

theorem trim_fixedText (negative : Bool) (units : Nat) (r : Representable units) :
    Text.trim ((finite negative units r).fixedText 7) =
      (finite negative units r).fixedText 7 := by
  refine Text.trim_eq_self ?_
  intro c member
  rw [fixedText, placesText_eq] at member
  rcases List.mem_append.mp member with sign | member
  · cases negative with
    | true => rw [List.mem_singleton.mp sign]; decide
    | false => contradiction
  · rcases List.mem_append.mp member with whole | member
    · exact Text.isBlank_digit (isDigit_of_mem_ofNat c whole)
    · rcases List.mem_cons.mp member with rfl | fraction
      · decide
      · exact Text.isBlank_digit (isDigit_of_mem_padded c fraction)

/-- The double that is read from what is written of a double. -/
def reread : Double → Double
  | finite negative units _ => nearest negative (roundedCount 7 units) (tenTo 7)
  | other => other

theorem nearest_count (negative : Bool) {count : Nat} (below : unitsOf count < limit) :
    ∃ r, nearest negative count (tenTo 7) = finite negative (unitsOf count) r := by
  have representable : Representable (unitsOf count) :=
    ⟨gap_dvd_mul (significand_le _ _), below⟩
  refine ⟨representable, ?_⟩
  unfold nearest
  simp only [unitsOf, shiftOf] at below representable ⊢
  rw [dif_pos below]

theorem reread_finite (negative : Bool) (units : Nat) (r : Representable units) :
    ∃ r', reread (finite negative units r) =
      finite negative (unitsOf (roundedCount 7 units)) r' :=
  nearest_count negative (unitsOf_lt r)

theorem unitsOf_zero : unitsOf 0 = 0 := by
  have nothing (den : Nat) : roundHalfEven 0 den = 0 := by
    simp only [roundHalfEven, Nat.zero_div, Nat.zero_mod]
    split
    · rfl
    · split
      · omega
      · rfl
  rw [unitsOf, Nat.zero_mul, nothing, Nat.zero_mul]

theorem length_ofNat_le {n width : Nat} (positive : 0 < width) (h : n < tenTo width) :
    (ofNat n).length ≤ width :=
  (Nat.length_toDigits_le_iff (by decide) positive).mpr h

theorem twoTo_le_tenTo (n : Nat) : twoTo (93 * n) ≤ tenTo (28 * n) := by
  induction n with
  | zero => exact Nat.le_refl 1
  | succ n ih =>
      rw [Nat.mul_succ, Nat.mul_succ, twoTo_add, tenTo_add]
      exact Nat.mul_le_mul ih (by decide)

theorem length_roundedCount {units : Nat} (r : Representable units) :
    (ofNat (roundedCount 7 units)).length ≤ 317 := by
  refine length_ofNat_le (by decide) ?_
  have limited : limit = twoTo 1024 * unitsPerOne := by
    rw [limit, show 53 + topShift = 1024 + 1074 by decide, twoTo_add, unitsPerOne]
  have positive : 0 < unitsPerOne := twoTo_pos 1074
  have small : units * tenTo 7 / unitsPerOne < twoTo 1024 * tenTo 7 := by
    rw [Nat.div_lt_iff_lt_mul positive]
    calc
      units * tenTo 7 < limit * tenTo 7 := Nat.mul_lt_mul_of_pos_right r.2 (tenTo_pos 7)
      _ = twoTo 1024 * tenTo 7 * unitsPerOne := by rw [limited, Nat.mul_right_comm]
  have top : twoTo 1024 ≤ tenTo 308 * 2 := by
    rw [show 1024 = 93 * 11 + 1 by rfl, twoTo_succ]
    exact Nat.mul_le_mul_right 2 (twoTo_le_tenTo 11)
  calc
    roundedCount 7 units ≤ units * tenTo 7 / unitsPerOne + 1 := roundHalfEven_le _ _
    _ ≤ twoTo 1024 * tenTo 7 := small
    _ ≤ tenTo 308 * 2 * tenTo 7 := Nat.mul_le_mul_right _ top
    _ < tenTo 308 * tenTo 2 * tenTo 7 := by
      refine Nat.mul_lt_mul_of_pos_right ?_ (tenTo_pos 7)
      exact Nat.mul_lt_mul_of_pos_left (by decide) (tenTo_pos 308)
    _ = tenTo 317 := by rw [← tenTo_add, ← tenTo_add]

theorem toDouble_zero (negative : Bool) (exponent : Int) :
    Decimal.toDouble ⟨negative, 0, exponent⟩ = zero negative := by
  unfold Decimal.toDouble
  exact if_pos rfl

theorem toDouble_count (negative : Bool) {count : Nat} (nonzero : count ≠ 0)
    (short : (ofNat count).length ≤ 317) :
    Decimal.toDouble ⟨negative, count, -7⟩ = nearest negative count (tenTo 7) := by
  have low : ¬ ((ofNat count).length : Int) + -7 < -330 := by omega
  have high : ¬ 310 < ((ofNat count).length : Int) + -7 := by omega
  unfold Decimal.toDouble
  simp only [nonzero, low, high, if_false]
  rfl

theorem toDouble_roundedCount (negative : Bool) {units : Nat} (r : Representable units) :
    Decimal.toDouble ⟨negative, roundedCount 7 units, -7⟩ = reread (finite negative units r) := by
  obtain ⟨r', same⟩ := reread_finite negative units r
  have short := length_roundedCount r
  by_cases none_left : roundedCount 7 units = 0
  · simp only [none_left, unitsOf_zero] at same
    rw [none_left, toDouble_zero, same]
    rfl
  · rw [toDouble_count negative none_left short]
    rfl

def rational? : Double → Option ℚ
  | finite negative units _ => some (signedUnits negative units / unitsPerOne)
  | _ => none

/-- Whether two doubles are both no number, or numbers that differ by 10⁻⁷ at most. -/
def Near : Double → Double → Prop
  | nan, nan => True
  | a, b => ∃ x y, a.rational? = some x ∧ b.rational? = some y ∧ |x - y| ≤ 1 / 10 ^ 7

theorem abs_sub_le {negative : Bool} {u v one : Nat} (positive : 0 < one)
    (below : u * tenTo 7 ≤ v * tenTo 7 + one) (above : v * tenTo 7 ≤ u * tenTo 7 + one) :
    |(signedUnits negative u : ℚ) / one - signedUnits negative v / one| ≤ 1 / 10 ^ 7 := by
  have size : (0 : ℚ) < one := Nat.cast_pos.mpr positive
  have below' : (u : ℚ) * 10 ^ 7 ≤ v * 10 ^ 7 + one := by exact_mod_cast below
  have above' : (v : ℚ) * 10 ^ 7 ≤ u * 10 ^ 7 + one := by exact_mod_cast above
  rw [← sub_div, abs_le, le_div_iff₀ size, div_le_iff₀ size]
  cases negative with
  | true =>
      simp only [signedUnits, if_true, Int.cast_neg, Int.cast_natCast]
      constructor
      · linarith
      · linarith
  | false =>
      simp only [signedUnits, Bool.false_eq_true, if_false, Int.cast_natCast]
      constructor
      · linarith
      · linarith

/-- What is read back of a double that is not infinite is near it. -/
theorem near_reread {d : Double} (bounded : ∀ negative, d ≠ infinite negative) :
    Near d (reread d) := by
  cases d with
  | nan => trivial
  | infinite negative => exact absurd rfl (bounded negative)
  | finite negative units r =>
      obtain ⟨r', same⟩ := reread_finite negative units r
      obtain ⟨below, above⟩ := unitsOf_near r.1
      rw [same]
      exact ⟨_, _, rfl, rfl, abs_sub_le (twoTo_pos 1074) above below⟩

end Double

namespace Cell.Fractional

open Double

theorem text_finite (negative : Bool) (units : Nat) (r : Representable units) :
    (text (finite negative units r)).toList = (finite negative units r).fixedText 7 :=
  String.toList_ofList

theorem text_ne_empty (negative : Bool) (units : Nat) (r : Representable units) :
    text (finite negative units r) ≠ "" := by
  intro empty
  have characters := text_finite negative units r
  rw [empty, fixedText, placesText_eq] at characters
  simp at characters

theorem parse?_text (negative : Bool) (units : Nat) (r : Representable units) :
    parse? (text (finite negative units r)).toList =
      some (reread (finite negative units r)) := by
  obtain ⟨r', same⟩ := reread_finite negative units r
  rw [text_finite, parse?, trim_fixedText, ofText?_fixedText, toDouble_roundedCount negative r,
    same]
  rfl

theorem read_ne_infinite (range : DecimalRange) (cell : String) (negative : Bool) :
    (read range cell).value ≠ infinite negative := by
  intro same
  unfold read at same
  split at same
  · next d parsed =>
      obtain ⟨-, finite⟩ := Option.filter_eq_some_iff.mp parsed
      change d = infinite negative at same
      subst same
      contradiction
  · contradiction

theorem text_reread (d : Double) : text (reread d) = text d := by
  cases d with
  | nan => rfl
  | infinite negative => rfl
  | finite negative units r =>
      obtain ⟨r', same⟩ := reread_finite negative units r
      rw [same]
      show String.ofList (fixedText 7 _) = String.ofList (fixedText 7 _)
      simp only [fixedText, roundedCount_unitsOf r.1]

end Cell.Fractional

end TransitFeed

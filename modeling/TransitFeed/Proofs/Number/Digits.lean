import TransitFeed.Number.Digits
import TransitFeed.Number.Power

/-! # Reading back digits

The digits of a number stand for the number, with zeros in front and with a sign too.
-/

namespace TransitFeed.Digits

theorem isDigit_iff {c : Char} : c.isDigit = true ↔ 48 ≤ c.toNat ∧ c.toNat ≤ 57 := by
  simp only [Char.isDigit, Bool.and_eq_true, decide_eq_true_eq, UInt32.le_iff_toNat_le]
  rfl

theorem isDigit_of_mem_ofNat {n : Nat} : ∀ c ∈ ofNat n, c.isDigit = true :=
  fun _ member => Nat.isDigit_of_mem_toDigits (by decide) (by decide) member

theorem ofNat_ne_nil (n : Nat) : ofNat n ≠ [] := Nat.toDigits_ne_nil

theorem padded_eq_append (width n : Nat) :
    padded width n = List.replicate (width - (ofNat n).length) '0' ++ ofNat n := rfl

theorem isDigit_of_mem_padded {width n : Nat} : ∀ c ∈ padded width n, c.isDigit = true := by
  intro c member
  rw [padded_eq_append, List.mem_append] at member
  rcases member with zero | digit
  · rw [List.eq_of_mem_replicate zero]
    rfl
  · exact isDigit_of_mem_ofNat c digit

theorem padded_ne_nil (width n : Nat) : padded width n ≠ [] := by
  rw [padded_eq_append]
  exact List.append_ne_nil_of_right_ne_nil _ (ofNat_ne_nil n)

theorem ofDigitChars_padded (width n : Nat) : Nat.ofDigitChars 10 (padded width n) 0 = n := by
  rw [padded_eq_append, Nat.ofDigitChars_append, Nat.ofDigitChars_replicate_zero, Nat.mul_zero]
  exact Nat.ofDigitChars_ten_toDigits

theorem ofDigitChars_lt {digits : List Char} (h : ∀ c ∈ digits, c.isDigit = true) :
    Nat.ofDigitChars 10 digits 0 < tenTo digits.length := by
  have bound (start : Nat) :
      Nat.ofDigitChars 10 digits start < (start + 1) * tenTo digits.length := by
    induction digits generalizing start with
    | nil => simp
    | cons c rest ih =>
        obtain ⟨_, high⟩ := isDigit_iff.mp (h c List.mem_cons_self)
        have small : c.toNat - '0'.toNat ≤ 9 := by
          change c.toNat - 48 ≤ 9
          omega
        rw [Nat.ofDigitChars_cons, List.length_cons, tenTo_succ, Nat.mul_comm (tenTo _) 10]
        refine Nat.lt_of_lt_of_le (ih (fun c member => h c (List.mem_cons_of_mem _ member)) _) ?_
        rw [← Nat.mul_assoc]
        refine Nat.mul_le_mul_right _ ?_
        omega
  simpa using bound 0

theorem padded_zero_width (n : Nat) : padded 0 n = ofNat n := by
  simp [padded_eq_append]

theorem length_padded {width n : Nat} (positive : 0 < width) (h : n < tenTo width) :
    (padded width n).length = width := by
  have fits : (ofNat n).length ≤ width :=
    (Nat.length_toDigits_le_iff (by decide) positive).mpr h
  rw [padded_eq_append, List.length_append, List.length_replicate]
  omega

/-- Digits of one length with numbers in front stand for one number only if they are the same. -/
theorem ofDigitChars_inj {a b : List Char} (ha : ∀ c ∈ a, c.isDigit = true)
    (hb : ∀ c ∈ b, c.isDigit = true) (length : a.length = b.length) {s t : Nat}
    (same : Nat.ofDigitChars 10 a s = Nat.ofDigitChars 10 b t) : s = t ∧ a = b := by
  induction a generalizing b s t with
  | nil =>
      obtain rfl := List.length_eq_zero_iff.mp length.symm
      exact ⟨same, rfl⟩
  | cons c rest ih =>
      obtain ⟨d, rest', rfl⟩ := List.exists_cons_of_length_eq_add_one length.symm
      rw [Nat.ofDigitChars_cons, Nat.ofDigitChars_cons] at same
      obtain ⟨starts, rests⟩ := ih (fun x member => ha x (List.mem_cons_of_mem _ member))
        (fun x member => hb x (List.mem_cons_of_mem _ member)) (Nat.succ.inj length) same
      -- A digit is less than ten, so it can be told from the number in front of it.
      obtain ⟨lowC, highC⟩ := isDigit_iff.mp (ha c List.mem_cons_self)
      obtain ⟨lowD, highD⟩ := isDigit_iff.mp (hb d List.mem_cons_self)
      change 10 * s + (c.toNat - 48) = 10 * t + (d.toNat - 48) at starts
      obtain rfl : c = d := Char.toNat_inj.mp (by omega)
      exact ⟨by omega, congrArg (c :: ·) rests⟩

theorem padded_ofDigitChars {digits : List Char} (nonempty : digits ≠ [])
    (h : ∀ c ∈ digits, c.isDigit = true) :
    padded digits.length (Nat.ofDigitChars 10 digits 0) = digits := by
  have width := length_padded (List.length_pos_iff.mpr nonempty) (ofDigitChars_lt h)
  exact (ofDigitChars_inj isDigit_of_mem_padded h width (ofDigitChars_padded _ _)).2

theorem value?_padded (width n : Nat) : value? (padded width n) = some n := by
  have digits : (padded width n).all Char.isDigit = true :=
    List.all_eq_true.mpr isDigit_of_mem_padded
  have nonempty : (padded width n).isEmpty = false := by
    rw [List.isEmpty_eq_false_iff]
    exact padded_ne_nil width n
  simp only [value?, digits, nonempty, Bool.not_true, Bool.or_self, Bool.false_eq_true, if_false,
    ofDigitChars_padded]

theorem signed?_of_digits {digits : List Char} (h : ∀ c ∈ digits, c.isDigit = true) :
    signed? digits = (value? digits).map fun n => (n : Int) := by
  unfold signed?
  split
  · exact absurd (h '+' List.mem_cons_self) (by decide)
  · exact absurd (h '-' List.mem_cons_self) (by decide)
  · rfl

theorem signed?_padded (width n : Nat) : signed? (padded width n) = some (n : Int) := by
  rw [signed?_of_digits isDigit_of_mem_padded, value?_padded]
  rfl

theorem signed?_minus_padded (width n : Nat) :
    signed? ('-' :: padded width n) = some (-(n : Int)) := by
  rw [signed?, value?_padded]
  rfl

theorem signed?_paddedInt (width : Nat) (n : Int) : signed? (paddedInt width n) = some n := by
  cases n with
  | ofNat n => exact signed?_padded width n
  | negSucc n => exact signed?_minus_padded (width - 1) (n + 1)

theorem signed?_ofInt (n : Int) : signed? (ofInt n) = some n := by
  have unpadded : ofInt n = paddedInt 0 n := by
    cases n <;> simp only [ofInt, paddedInt, padded_zero_width, Nat.zero_sub]
  rw [unpadded, signed?_paddedInt]

theorem ofInt_ne_nil (n : Int) : ofInt n ≠ [] := by
  cases n with
  | ofNat n => exact ofNat_ne_nil n
  | negSucc n => simp [ofInt]

end TransitFeed.Digits

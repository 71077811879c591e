import TransitFeed.Proofs.Number.Digits

/-! # Spellings of integers

An integer has many spellings: its digits may have zeros and a plus sign in front. These are the
texts that are read as it, and no other ones.
-/

namespace TransitFeed.Digits

/-- One or more ASCII digits. -/
structure IsNumber (text : List Char) : Prop where
  nonempty : text ≠ []
  digits : ∀ c ∈ text, c.isDigit = true

/-- The texts of an integer: digits with at most one sign in front. -/
inductive Spells : List Char → Int → Prop where
  | unsigned {digits : List Char} : IsNumber digits → Spells digits (Nat.ofDigitChars 10 digits 0)
  | plus {digits : List Char} :
      IsNumber digits → Spells ('+' :: digits) (Nat.ofDigitChars 10 digits 0)
  | minus {digits : List Char} :
      IsNumber digits → Spells ('-' :: digits) (-Nat.ofDigitChars 10 digits 0)

theorem value?_eq_some_iff {text : List Char} {n : Nat} :
    value? text = some n ↔ IsNumber text ∧ Nat.ofDigitChars 10 text 0 = n := by
  unfold value?
  constructor
  · intro found
    split at found
    · contradiction
    · next fits =>
        simp only [Bool.or_eq_true, List.isEmpty_iff, Bool.not_eq_true', not_or,
          Bool.not_eq_false, List.all_eq_true] at fits
        exact ⟨⟨fits.1, fits.2⟩, Option.some.inj found⟩
  · rintro ⟨⟨nonempty, digits⟩, rfl⟩
    rw [if_neg]
    simp only [Bool.or_eq_true, List.isEmpty_iff, Bool.not_eq_true', not_or, Bool.not_eq_false,
      List.all_eq_true]
    exact ⟨nonempty, digits⟩

theorem isNumber_of_map {digits : List Char} {sign : Int → Int} {n : Int}
    (found : (value? digits : Option Int).map sign = some n) :
    IsNumber digits ∧ sign (Nat.ofDigitChars 10 digits 0) = n := by
  cases read : value? digits with
  | none =>
      rw [read] at found
      contradiction
  | some value =>
      rw [read] at found
      obtain ⟨number, rfl⟩ := value?_eq_some_iff.mp read
      exact ⟨number, Option.some.inj found⟩

theorem spells_of_signed? {text : List Char} {n : Int} (found : signed? text = some n) :
    Spells text n := by
  unfold signed? at found
  split at found
  · obtain ⟨number, rfl⟩ := isNumber_of_map found
    exact .plus number
  · obtain ⟨number, rfl⟩ := isNumber_of_map found
    exact .minus number
  · obtain ⟨number, rfl⟩ := isNumber_of_map found
    exact .unsigned number

theorem signed?_of_spells {text : List Char} {n : Int} (spelled : Spells text n) :
    signed? text = some n := by
  cases spelled with
  | unsigned number =>
      rw [signed?_of_digits number.digits, value?_eq_some_iff.mpr ⟨number, rfl⟩]
      rfl
  | plus number =>
      rw [signed?, value?_eq_some_iff.mpr ⟨number, rfl⟩]
      rfl
  | minus number =>
      rw [signed?, value?_eq_some_iff.mpr ⟨number, rfl⟩]
      rfl

theorem signed?_eq_some_iff {text : List Char} {n : Int} : signed? text = some n ↔ Spells text n :=
  ⟨spells_of_signed?, signed?_of_spells⟩

theorem Spells.mem {text : List Char} {n : Int} (spelled : Spells text n) :
    ∀ c ∈ text, c = '+' ∨ c = '-' ∨ c.isDigit = true := by
  intro c member
  cases spelled with
  | unsigned number => exact Or.inr (Or.inr (number.digits c member))
  | plus number =>
      rcases List.mem_cons.mp member with sign | digit
      · exact Or.inl sign
      · exact Or.inr (Or.inr (number.digits c digit))
  | minus number =>
      rcases List.mem_cons.mp member with sign | digit
      · exact Or.inr (Or.inl sign)
      · exact Or.inr (Or.inr (number.digits c digit))

theorem Spells.unique {text : List Char} {n k : Int} (first : Spells text n)
    (second : Spells text k) : n = k := by
  have same := signed?_eq_some_iff.mpr first
  rw [signed?_eq_some_iff.mpr second] at same
  exact (Option.some.inj same).symm

theorem Spells.no_colon {text : List Char} {n : Int} (spelled : Spells text n) :
    ∀ c ∈ text, decide (c = ':') = false := by
  intro c member
  refine decide_eq_false ?_
  rintro rfl
  exact absurd (spelled.mem ':' member) (by decide)

theorem spells_ofInt (n : Int) : Spells (ofInt n) n := signed?_eq_some_iff.mp (signed?_ofInt n)

theorem spells_paddedInt (width : Nat) (n : Int) : Spells (paddedInt width n) n :=
  signed?_eq_some_iff.mp (signed?_paddedInt width n)

end TransitFeed.Digits

import TransitFeed.Proofs.Cell.RoundTrip
import TransitFeed.Proofs.Number.Bounds

/-! # Values in their ranges

A value that was read without a problem is written so that it is read without one. Rounding keeps a
decimal in its range, and the parts of a time are found again if they were in theirs. A value that
is not missing can only have been out of range.
-/

namespace TransitFeed.Cell

def Problem.IsRange : Problem → Prop
  | .range .. => True
  | .number | .clock | .day | .link => False

namespace WholeRange

variable {r : WholeRange} {n : Int32}

theorem problems_eq_nil : r.problems n = [] ↔ r.low.toInt ≤ n.toInt ∧ n.toInt ≤ r.high.toInt := by
  rw [← Int32.le_iff_toInt_le, ← Int32.le_iff_toInt_le]
  unfold problems contains
  simp

theorem isRange_of_mem {problem : Problem} (found : problem ∈ r.problems n) : problem.IsRange := by
  unfold problems at found
  split at found
  · contradiction
  · rw [List.mem_singleton.mp found]
    trivial

end WholeRange

theorem Whole.read_cases (range : WholeRange) (cell : String) :
    read range cell = ⟨missing, [.number]⟩ ∨
      ∃ n, read range cell = ⟨n, range.problems n⟩ := by
  unfold read
  split
  · exact Or.inr ⟨_, rfl⟩
  · exact Or.inl rfl

namespace Clock

theorem read_cases (cell : String) :
    read cell = ⟨Whole.missing, [.clock]⟩ ∨
      ∃ h m s n : Int32, Spells cell.toList h m s ∧ total? h m s = some n ∧
        read cell = ⟨n, hours.problems h ++ sixty.problems m ++ sixty.problems s⟩ := by
  unfold read
  split
  · exact Or.inl rfl
  · next h m s parts =>
      split
      · exact Or.inl rfl
      · next n total => exact Or.inr ⟨h, m, s, n, parts?_eq_some_iff.mp parts, total, rfl⟩

/-- The times that are written with each part in its range are those of the 73 hours of a service
    day. -/
theorem problems_text_eq_nil {n : Int32} (present : n ≠ Whole.missing) :
    (read (text n)).problems = [] ↔ 0 ≤ n.toInt ∧ n.toInt ≤ 262799 := by
  obtain ⟨h, m, s, ofHours, ofMinutes, ofSeconds, reading⟩ := reading_text present
  have sum := sum_parts n.toInt
  rw [reading]
  simp only [List.append_eq_nil_iff, WholeRange.problems_eq_nil, ofHours, ofMinutes, ofSeconds]
  change ((0 ≤ _ ∧ _ ≤ 72) ∧ 0 ≤ _ ∧ _ ≤ 59) ∧ 0 ≤ _ ∧ _ ≤ 59 ↔ _
  constructor
  · omega
  · rintro ⟨low, high⟩
    rw [Int.tdiv_eq_ediv_of_nonneg low, Int.tmod_eq_emod_of_nonneg low,
      Int.tmod_eq_emod_of_nonneg low, Int.tdiv_eq_ediv_of_nonneg (by omega)]
    omega

theorem problems_text {h m s n : Int32} (total : total? h m s = some n)
    (clear : hours.problems h ++ sixty.problems m ++ sixty.problems s = []) :
    (read (text n)).problems = [] := by
  obtain ⟨present, sum⟩ := total?_eq_some_iff.mp total
  simp only [List.append_eq_nil_iff, WholeRange.problems_eq_nil] at clear
  change ((0 ≤ _ ∧ _ ≤ 72) ∧ 0 ≤ _ ∧ _ ≤ 59) ∧ 0 ≤ _ ∧ _ ≤ 59 at clear
  refine (problems_text_eq_nil present).mpr ?_
  omega

theorem isRange_of_mem {h m s : Int32} {problem : Problem}
    (found : problem ∈ hours.problems h ++ sixty.problems m ++ sixty.problems s) :
    problem.IsRange := by
  simp only [List.mem_append] at found
  rcases found with (found | found) | found
  · exact WholeRange.isRange_of_mem found
  · exact WholeRange.isRange_of_mem found
  · exact WholeRange.isRange_of_mem found

end Clock

namespace DecimalRange

variable {range : DecimalRange} {d : Double}

theorem problems_eq_nil : range.problems d = [] ↔ range.contains d = true := by
  unfold problems
  simp

theorem isRange_of_mem {problem : Problem} (found : problem ∈ range.problems d) :
    problem.IsRange := by
  unfold problems at found
  split at found
  · contradiction
  · rw [List.mem_singleton.mp found]
    trivial

/-- Whether finite numbers in the range are read back in the range. -/
def Stable (range : DecimalRange) : Prop :=
  ∀ negative units r, range.contains (.finite negative units r) = true →
    range.contains (Double.finite negative units r).reread = true

theorem contains_degrees {limit : Int} (positive : 0 ≤ limit)
    (small : limit.natAbs < twoTo 53) (negative : Bool) {units : Nat}
    (r : Double.Representable units) :
    DecimalRange.contains ⟨.ofInt (-limit), .ofInt limit⟩ (.finite negative units r) = true ↔
      units ≤ limit.natAbs * Double.unitsPerOne := by
  obtain ⟨_, high⟩ := Double.nearest_whole (decide (limit < 0)) small
  obtain ⟨_, low⟩ := Double.nearest_whole (decide (-limit < 0)) small
  have atHigh : Double.signedUnits (decide (limit < 0)) (limit.natAbs * Double.unitsPerOne) =
      ((limit.natAbs * Double.unitsPerOne : Nat) : Int) :=
    if_neg (by simpa using positive)
  have atLow : Double.signedUnits (decide (-limit < 0)) (limit.natAbs * Double.unitsPerOne) =
      -((limit.natAbs * Double.unitsPerOne : Nat) : Int) := by
    rcases Int.lt_or_eq_of_le positive with above | zero
    · exact if_pos (by simpa using above)
    · rw [← zero, Int.natAbs_zero, Nat.zero_mul]
      rfl
  unfold contains Double.ofInt
  rw [Int.natAbs_neg, high, low]
  simp only [Double.le, Bool.and_eq_true, decide_eq_true_iff, atHigh, atLow]
  generalize limit.natAbs * Double.unitsPerOne = bound
  cases negative with
  | true =>
      change -(bound : Int) ≤ -(units : Int) ∧ -(units : Int) ≤ bound ↔ _
      omega
  | false =>
      change -(bound : Int) ≤ (units : Int) ∧ (units : Int) ≤ bound ↔ _
      omega

theorem stable_degrees {limit : Int} (positive : 0 ≤ limit) (small : limit.natAbs < twoTo 53) :
    Stable ⟨.ofInt (-limit), .ofInt limit⟩ := by
  intro negative units r inside
  obtain ⟨r', same⟩ := Double.reread_finite negative units r
  rw [contains_degrees positive small] at inside
  rw [same, contains_degrees positive small]
  exact Double.unitsOf_roundedCount_le small inside

theorem contains_distance (negative : Bool) {units : Nat} (r : Double.Representable units) :
    DecimalRange.contains ⟨.zero false, .greatest false⟩ (.finite negative units r) = true ↔
      negative = false ∨ units = 0 := by
  have top := Double.le_greatest r
  unfold contains Double.zero Double.greatest
  simp only [Double.le, Bool.and_eq_true, decide_eq_true_iff]
  generalize Double.topSignificand * twoTo Double.topShift = bound at top
  cases negative with
  | true =>
      change 0 ≤ -(units : Int) ∧ -(units : Int) ≤ bound ↔ _
      simp only [Bool.true_eq_false, false_or]
      omega
  | false =>
      change 0 ≤ (units : Int) ∧ (units : Int) ≤ bound ↔ _
      simp only [true_or, iff_true]
      omega

theorem stable_distance : Stable ⟨.zero false, .greatest false⟩ := by
  intro negative units r inside
  obtain ⟨r', same⟩ := Double.reread_finite negative units r
  rw [contains_distance] at inside
  rw [same, contains_distance]
  refine inside.imp_right fun zero => ?_
  rw [zero]
  exact Double.unitsOf_roundedCount_zero

end DecimalRange

theorem Fractional.read_cases (range : DecimalRange) (cell : String) :
    read range cell = ⟨.nan, [.number]⟩ ∨
      ∃ d, read range cell = ⟨d, range.problems d⟩ := by
  unfold read
  split
  · exact Or.inr ⟨_, rfl⟩
  · exact Or.inl rfl

theorem DayCell.read_cases (cell : String) :
    read cell = ⟨none, [.day]⟩ ∨ ∃ d, read cell = ⟨some d, years.problems (.ofInt d.year)⟩ := by
  unfold read
  split
  · exact Or.inr ⟨_, rfl⟩
  · exact Or.inl rfl

theorem LinkCell.read_cases (cell : String) :
    read cell = ⟨none, [.link]⟩ ∨ ∃ link, read cell = ⟨some link, []⟩ := by
  unfold read
  split
  · exact Or.inr ⟨_, rfl⟩
  · exact Or.inl rfl

end TransitFeed.Cell

import TransitFeed.Proofs.Cell.Ranges

/-! # Times in cells

A time is read from spellings of its hours, minutes and seconds with colons between them, and from
nothing else. Parts outside their ranges are flagged and still counted, also with mixed signs, as
long as the total is a 32-bit integer that does not stand for a missing time. Every such integer is
written as a text from which it is read again.
-/

namespace TransitFeed.Cell

namespace Clock

variable {chars : List Char} {h m s n : Int32}

theorem Spells.count_colon (spelled : Spells chars h m s) : chars.count ':' = 2 := by
  obtain ⟨hours, minutes, seconds, rfl, ofHours, ofMinutes, ofSeconds⟩ := spelled
  have free {part : List Char} {k : Int} (spelled : Digits.Spells part k) : part.count ':' = 0 :=
    List.count_eq_zero.mpr fun member =>
      absurd (spelled.no_colon ':' member) (by decide)
  simp only [List.count_append, List.count_cons, free ofHours, free ofMinutes, free ofSeconds]
  rfl

theorem exists_total {k : Int} (above : -2147483648 < k) (below : k ≤ 2147483647) :
    ∃ n : Int32, n ≠ Whole.missing ∧ n.toInt = k := by
  obtain ⟨n, value⟩ := Whole.exists_toInt (Int.le_of_lt above) below
  refine ⟨n, ?_, value⟩
  rintro rfl
  change (-2147483648 : Int) = k at value
  omega

theorem toInt_bounds (present : n ≠ Whole.missing) :
    -2147483648 < n.toInt ∧ n.toInt ≤ 2147483647 := by
  have low : -2147483648 ≤ n.toInt := n.le_toInt
  have high : n.toInt < 2147483648 := n.toInt_lt
  have apart : n.toInt ≠ -2147483648 := fun same => present (Int32.toInt_inj.mp same)
  omega

/-- The total in 64-bit arithmetic. -/
def wideTotal (h m s : Int32) : Int64 := h.toInt64 * 3600 + m.toInt64 * 60 + s.toInt64

theorem toInt_wide {k : Int} (low : -2 ^ 63 ≤ k) (high : k < 2 ^ 63) : k.bmod (2 ^ 64) = k :=
  Int.bmod_eq_of_le (by omega) (by omega)

/-- No step of the 64-bit arithmetic overflows. -/
theorem wideTotal_exact (h m s : Int32) :
    (h.toInt64 * 3600).toInt = h.toInt * 3600 ∧ (m.toInt64 * 60).toInt = m.toInt * 60 ∧
      (h.toInt64 * 3600 + m.toInt64 * 60).toInt = h.toInt * 3600 + m.toInt * 60 ∧
        (wideTotal h m s).toInt = h.toInt * 3600 + m.toInt * 60 + s.toInt := by
  have lows : -2147483648 ≤ h.toInt ∧ -2147483648 ≤ m.toInt ∧ -2147483648 ≤ s.toInt :=
    ⟨h.le_toInt, m.le_toInt, s.le_toInt⟩
  have highs : h.toInt < 2147483648 ∧ m.toInt < 2147483648 ∧ s.toInt < 2147483648 :=
    ⟨h.toInt_lt, m.toInt_lt, s.toInt_lt⟩
  have ofHours : (h.toInt64 * 3600).toInt = h.toInt * 3600 := by
    rw [Int64.toInt_mul, Int32.toInt_toInt64, show (3600 : Int64).toInt = 3600 by rfl]
    exact toInt_wide (by omega) (by omega)
  have ofMinutes : (m.toInt64 * 60).toInt = m.toInt * 60 := by
    rw [Int64.toInt_mul, Int32.toInt_toInt64, show (60 : Int64).toInt = 60 by rfl]
    exact toInt_wide (by omega) (by omega)
  have both : (h.toInt64 * 3600 + m.toInt64 * 60).toInt = h.toInt * 3600 + m.toInt * 60 := by
    rw [Int64.toInt_add, ofHours, ofMinutes]
    exact toInt_wide (by omega) (by omega)
  refine ⟨ofHours, ofMinutes, both, ?_⟩
  rw [wideTotal, Int64.toInt_add, both, Int32.toInt_toInt64]
  exact toInt_wide (by omega) (by omega)

theorem total?_eq_wideTotal (h m s : Int32) :
    total? h m s = (Whole.ofInt? (wideTotal h m s).toInt).filter (· ≠ Whole.missing) := by
  obtain ⟨-, -, -, exact⟩ := wideTotal_exact h m s
  rw [total?, exact, Int.mul_comm 3600, Int.mul_comm 60]

/-- The texts of times whose totals are 32-bit integers and do not stand for a missing time. -/
structure IsTime (text : List Char) (h m s : Int32) : Prop where
  spelled : Spells text h m s
  above : -2147483648 < 3600 * h.toInt + 60 * m.toInt + s.toInt
  below : 3600 * h.toInt + 60 * m.toInt + s.toInt ≤ 2147483647

/-- The problem with a part that is negative or too large. -/
def outside (high part : Int) : List Problem :=
  if 0 ≤ part ∧ part ≤ high then [] else [.range (.ofInt 0) (.ofInt high) (.ofInt part)]

theorem problems_part (low high : Int32) (part : Int32) (zero : low.toInt = 0) :
    WholeRange.problems ⟨low, high⟩ part = outside high.toInt part.toInt := by
  unfold WholeRange.problems WholeRange.contains outside
  simp only [Bool.and_eq_true, decide_eq_true_eq, Int32.le_iff_toInt_le, zero]

theorem reading_of_isTime {cell : String} (time : IsTime cell.toList h m s) :
    ∃ n : Int32, n.toInt = 3600 * h.toInt + 60 * m.toInt + s.toInt ∧ n ≠ Whole.missing ∧
      read cell =
        ⟨n, outside 72 h.toInt ++ outside 59 m.toInt ++ outside 59 s.toInt⟩ := by
  obtain ⟨n, present, value⟩ := exists_total time.above time.below
  refine ⟨n, value, present, ?_⟩
  have total : total? h m s = some n := total?_eq_some_iff.mpr ⟨present, value⟩
  simp only [read, parts?_eq_some_iff.mpr time.spelled, total, hours, sixty,
    problems_part 0 _ _ rfl]
  rfl

theorem reading_cases (cell : String) :
    (∃ h m s, IsTime cell.toList h m s) ∨ read cell = ⟨Whole.missing, [.clock]⟩ := by
  rcases read_cases cell with failed | ⟨h, m, s, n, spelled, total, -⟩
  · exact Or.inr failed
  · obtain ⟨present, value⟩ := total?_eq_some_iff.mp total
    obtain ⟨above, below⟩ := toInt_bounds present
    rw [value] at above below
    exact Or.inl ⟨h, m, s, spelled, above, below⟩

theorem clock_not_mem_outside (h m s : Int) :
    Problem.clock ∉ outside 72 h ++ outside 59 m ++ outside 59 s := by
  have range {high part : Int} : Problem.clock ∉ outside high part := by
    unfold outside
    split
    · exact List.not_mem_nil
    · simp
  simp only [List.mem_append, range, or_self, not_false_eq_true]

/-- A time is read exactly from its texts, with a problem for each part outside its range, and the
    arithmetic is exact. All other texts give the missing time and one problem. -/
theorem read_grammar (cell : String) :
    (Problem.clock ∉ (read cell).problems ↔ ∃ h m s, IsTime cell.toList h m s) ∧
      (∀ h m s, IsTime cell.toList h m s →
        cell.toList.count ':' = 2 ∧
          ∃ n : Int32, n.toInt = 3600 * h.toInt + 60 * m.toInt + s.toInt ∧ n ≠ Whole.missing ∧
            read cell =
              ⟨n, outside 72 h.toInt ++ outside 59 m.toInt ++ outside 59 s.toInt⟩) ∧
        ((¬ ∃ h m s, IsTime cell.toList h m s) → read cell = ⟨Whole.missing, [.clock]⟩) ∧
          ∀ h m s : Int32,
            (h.toInt64 * 3600).toInt = h.toInt * 3600 ∧ (m.toInt64 * 60).toInt = m.toInt * 60 ∧
              (h.toInt64 * 3600 + m.toInt64 * 60).toInt = h.toInt * 3600 + m.toInt * 60 ∧
                (wideTotal h m s).toInt = h.toInt * 3600 + m.toInt * 60 + s.toInt ∧
                  total? h m s =
                    (Whole.ofInt? (wideTotal h m s).toInt).filter (· ≠ Whole.missing) := by
  refine ⟨⟨?accepted, ?clear⟩, ?reading, ?rejected, ?arithmetic⟩
  case accepted =>
    intro clear
    rcases reading_cases cell with time | failed
    · exact time
    · rw [failed] at clear
      exact absurd List.mem_cons_self clear
  case clear =>
    rintro ⟨h, m, s, time⟩
    obtain ⟨n, -, -, reading⟩ := reading_of_isTime time
    rw [reading]
    exact clock_not_mem_outside _ _ _
  case reading =>
    intro h m s time
    exact ⟨time.spelled.count_colon, reading_of_isTime time⟩
  case rejected =>
    intro none
    exact (reading_cases cell).resolve_left none
  case arithmetic =>
    intro h m s
    obtain ⟨ofHours, ofMinutes, both, all⟩ := wideTotal_exact h m s
    exact ⟨ofHours, ofMinutes, both, all, total?_eq_wideTotal h m s⟩

/-- Minutes that are counted back from far too many hours. -/
theorem read_grammar_mixedSigns :
    IsTime "1000000:-35791395:+07".toList 1000000 (-35791395) 7 ∧
      ∃ n : Int32, n.toInt = 1452516307 ∧
        read "1000000:-35791395:+07" =
          ⟨n, [.range (.ofInt 0) (.ofInt 72) (.ofInt 1000000),
            .range (.ofInt 0) (.ofInt 59) (.ofInt (-35791395))]⟩ := by
  have spelled : Spells "1000000:-35791395:+07".toList 1000000 (-35791395) 7 :=
    ⟨"1000000".toList, "-35791395".toList, "+07".toList, by decide,
      Digits.signed?_eq_some_iff.mp (by decide), Digits.signed?_eq_some_iff.mp (by decide),
      Digits.signed?_eq_some_iff.mp (by decide)⟩
  have time : IsTime "1000000:-35791395:+07".toList 1000000 (-35791395) 7 :=
    ⟨spelled, by decide, by decide⟩
  obtain ⟨-, reading, -⟩ := read_grammar "1000000:-35791395:+07"
  obtain ⟨-, n, value, -, same⟩ := reading _ _ _ time
  exact ⟨time, n, value, same⟩

theorem clock_not_mem_text (present : n ≠ Whole.missing) :
    Problem.clock ∉ (read (text n)).problems := by
  obtain ⟨h, m, s, -, -, -, reading⟩ := reading_text present
  rw [reading]
  exact isRange_of_mem

theorem present_of_read {cell : String} (accepted : Problem.clock ∉ (read cell).problems) :
    (read cell).value ≠ Whole.missing := by
  rcases reading_cases cell with ⟨h, m, s, time⟩ | failed
  · obtain ⟨n, -, present, reading⟩ := reading_of_isTime time
    rw [reading]
    exact present
  · rw [failed] at accepted
    exact absurd List.mem_cons_self accepted

/-- Every time that is not missing is read from its text, and without a problem exactly if it lies
    in the 73 hours of a service day. So what is read from any text is read again when it has been
    written. -/
theorem text_inverse :
    (∀ n : Int32, n ≠ Whole.missing →
      (read (text n)).value = n ∧ Problem.clock ∉ (read (text n)).problems ∧
        ((read (text n)).problems = [] ↔ 0 ≤ n.toInt ∧ n.toInt ≤ 262799)) ∧
      ∀ cell : String, Problem.clock ∉ (read cell).problems →
        (read cell).value ≠ Whole.missing ∧
          (read (text (read cell).value)).value = (read cell).value ∧
            Problem.clock ∉ (read (text (read cell).value)).problems := by
  constructor
  · intro n present
    exact ⟨read_text present, clock_not_mem_text present, problems_text_eq_nil present⟩
  · intro cell accepted
    have present := present_of_read accepted
    exact ⟨present, read_text present, clock_not_mem_text present⟩

/-- The least total, which is written as `-596523:-14:-07`. -/
theorem text_inverse_least :
    (-2147483647 : Int32) ≠ Whole.missing ∧
      (read (text (-2147483647))).value = -2147483647 ∧
        (read (text (-2147483647))).problems ≠ [] := by
  have present : (-2147483647 : Int32) ≠ Whole.missing := by decide
  obtain ⟨same, -, clear⟩ := text_inverse.1 _ present
  refine ⟨present, same, fun none => ?_⟩
  exact absurd (clear.mp none).1 (by decide)

end Clock

end TransitFeed.Cell

import TransitFeed.Proofs.Number.DecimalText
import TransitFeed.Proofs.Number.Spelling
import TransitFeed.Proofs.Text.Split
import TransitFeed.Table.Key
import TransitFeed.Table.Value

/-! # Reading back cells

What is written of a value that is not missing is read as the value, with the exception of a
decimal, which is read as the double nearest to what was written. No cell of such a value is empty.
-/

namespace TransitFeed

namespace Cell

namespace Whole

theorem ofInt?_toInt (n : Int32) : ofInt? n.toInt = some n := by
  have bounds : Int32.minValue.toInt ≤ n.toInt ∧ n.toInt ≤ Int32.maxValue.toInt :=
    ⟨n.minValue_le_toInt, n.toInt_le⟩
  rw [ofInt?, if_pos bounds, Int32.ofInt_toInt]

theorem ofInt?_eq_some_iff {k : Int} {n : Int32} : ofInt? k = some n ↔ n.toInt = k := by
  constructor
  · intro found
    unfold ofInt? at found
    split at found
    · next bounds =>
        have high := bounds.2
        change _ ≤ 2147483647 at high
        rw [← Option.some.inj found, Int32.toInt_ofInt_of_le bounds.1 (by omega)]
    · contradiction
  · rintro rfl
    exact ofInt?_toInt n

theorem exists_toInt {k : Int} (low : -2147483648 ≤ k) (high : k ≤ 2147483647) :
    ∃ n : Int32, n.toInt = k :=
  ⟨Int32.ofInt k, Int32.toInt_ofInt_of_le (by omega) (by omega)⟩

/-- The texts that are read as a 32-bit integer are its spellings. -/
theorem parse?_eq_some_iff {text : List Char} {n : Int32} :
    parse? text = some n ↔ Digits.Spells text n.toInt := by
  rw [parse?, Option.bind_eq_some_iff, ← Digits.signed?_eq_some_iff]
  constructor
  · rintro ⟨k, found, fits⟩
    rwa [ofInt?_eq_some_iff.mp fits]
  · intro found
    exact ⟨n.toInt, found, ofInt?_eq_some_iff.mpr rfl⟩

theorem text_toList {n : Int32} (present : n ≠ missing) :
    (text n).toList = Digits.ofInt n.toInt := by
  rw [text, if_neg present, String.toList_ofList]

theorem text_missing : text missing = "" := if_pos rfl

theorem text_ne_empty {n : Int32} (present : n ≠ missing) : text n ≠ "" := by
  intro empty
  have characters := text_toList present
  rw [empty] at characters
  exact Digits.ofInt_ne_nil _ characters.symm

theorem reading_text (range : WholeRange) {n : Int32} (present : n ≠ missing) :
    read range (text n) = ⟨n, range.problems n⟩ := by
  have parsed : parse? (text n).toList = some n := by
    rw [text_toList present]
    exact parse?_eq_some_iff.mpr (Digits.spells_ofInt n.toInt)
  rw [read, parsed]

theorem read_text (range : WholeRange) {n : Int32} (present : n ≠ missing) :
    (read range (text n)).value = n := by
  rw [reading_text range present]

end Whole

namespace Clock

variable {chars : List Char} {h m s n : Int32}

/-- The texts of hours, minutes and seconds: a spelling of each, with colons between them. -/
def Spells (text : List Char) (h m s : Int32) : Prop :=
  ∃ hours minutes seconds, text = hours ++ ':' :: (minutes ++ ':' :: seconds) ∧
    Digits.Spells hours h.toInt ∧ Digits.Spells minutes m.toInt ∧ Digits.Spells seconds s.toInt

theorem spells_of_parts? (found : parts? chars = some (h, m, s)) : Spells chars h m s := by
  unfold parts? at found
  split at found
  · next hours minutes seconds cut =>
      simp only [Option.bind_eq_bind, Option.bind_eq_some_iff, Option.some.injEq,
        Prod.mk.injEq] at found
      obtain ⟨_, ofHours, _, ofMinutes, _, ofSeconds, rfl, rfl, rfl⟩ := found
      have whole := Text.join_split ':' chars
      rw [cut] at whole
      refine ⟨hours, minutes, seconds, ?_, Whole.parse?_eq_some_iff.mp ofHours,
        Whole.parse?_eq_some_iff.mp ofMinutes, Whole.parse?_eq_some_iff.mp ofSeconds⟩
      rw [← whole]
      simp [Text.join]
  · contradiction

theorem parts?_of_spells (spelled : Spells chars h m s) : parts? chars = some (h, m, s) := by
  obtain ⟨hours, minutes, seconds, rfl, ofHours, ofMinutes, ofSeconds⟩ := spelled
  rw [parts?, Text.split_append ofHours.no_colon (by decide),
    Text.split_append ofMinutes.no_colon (by decide),
    Text.split_of_free ofSeconds.no_colon]
  simp only [Whole.parse?_eq_some_iff.mpr ofHours, Whole.parse?_eq_some_iff.mpr ofMinutes,
    Whole.parse?_eq_some_iff.mpr ofSeconds]
  rfl

theorem parts?_eq_some_iff : parts? chars = some (h, m, s) ↔ Spells chars h m s :=
  ⟨spells_of_parts?, parts?_of_spells⟩

theorem total?_eq_some_iff : total? h m s = some n ↔
    n ≠ Whole.missing ∧ n.toInt = 3600 * h.toInt + 60 * m.toInt + s.toInt := by
  rw [total?, Option.filter_eq_some_iff, Whole.ofInt?_eq_some_iff, decide_eq_true_iff]
  exact And.comm

theorem text_toList {n : Int32} (present : n ≠ Whole.missing) :
    (text n).toList = Digits.paddedInt 2 (n.toInt.tdiv 3600) ++
      ':' :: (Digits.paddedInt 2 ((n.toInt.tmod 3600).tdiv 60) ++
        ':' :: Digits.paddedInt 2 (n.toInt.tmod 60)) := by
  simp only [text, present, if_false, String.toList_ofList, List.append_assoc, List.cons_append]

theorem text_ne_empty {n : Int32} (present : n ≠ Whole.missing) : text n ≠ "" := by
  intro empty
  have characters := text_toList present
  rw [empty] at characters
  simp at characters

theorem sum_parts (n : Int) :
    3600 * n.tdiv 3600 + 60 * (n.tmod 3600).tdiv 60 + n.tmod 60 = n := by
  have hours := Int.mul_tdiv_add_tmod n 3600
  have minutes := Int.mul_tdiv_add_tmod (n.tmod 3600) 60
  rw [Int.tmod_tmod_of_dvd n (show (60 : Int) ∣ 3600 by decide)] at minutes
  omega

theorem part_bounds (n : Int32) :
    (-2147483648 ≤ n.toInt.tdiv 3600 ∧ n.toInt.tdiv 3600 ≤ 2147483647) ∧
      (-2147483648 ≤ (n.toInt.tmod 3600).tdiv 60 ∧ (n.toInt.tmod 3600).tdiv 60 ≤ 2147483647) ∧
        (-2147483648 ≤ n.toInt.tmod 60 ∧ n.toInt.tmod 60 ≤ 2147483647) := by
  have low : -2147483648 ≤ n.toInt := n.le_toInt
  have high : n.toInt < 2147483648 := n.toInt_lt
  have hours : (n.toInt.tdiv 3600).natAbs = n.toInt.natAbs / 3600 := Int.natAbs_tdiv _ _
  have minutes : ((n.toInt.tmod 3600).tdiv 60).natAbs = (n.toInt.tmod 3600).natAbs / 60 :=
    Int.natAbs_tdiv _ _
  have rest : (n.toInt.tmod 3600).natAbs = n.toInt.natAbs % 3600 := Int.natAbs_tmod _ _
  have seconds : (n.toInt.tmod 60).natAbs = n.toInt.natAbs % 60 := Int.natAbs_tmod _ _
  omega

theorem reading_text {n : Int32} (present : n ≠ Whole.missing) :
    ∃ h m s : Int32, h.toInt = n.toInt.tdiv 3600 ∧ m.toInt = (n.toInt.tmod 3600).tdiv 60 ∧
      s.toInt = n.toInt.tmod 60 ∧
        read (text n) = ⟨n, hours.problems h ++ sixty.problems m ++ sixty.problems s⟩ := by
  obtain ⟨⟨hl, hu⟩, ⟨ml, mu⟩, ⟨sl, su⟩⟩ := part_bounds n
  obtain ⟨h, ofHours⟩ := Whole.exists_toInt hl hu
  obtain ⟨m, ofMinutes⟩ := Whole.exists_toInt ml mu
  obtain ⟨s, ofSeconds⟩ := Whole.exists_toInt sl su
  have spelled : Spells (text n).toList h m s := by
    refine ⟨_, _, _, text_toList present, ?_, ?_, ?_⟩
    · rw [ofHours]
      exact Digits.spells_paddedInt 2 _
    · rw [ofMinutes]
      exact Digits.spells_paddedInt 2 _
    · rw [ofSeconds]
      exact Digits.spells_paddedInt 2 _
  have total : total? h m s = some n := by
    rw [total?_eq_some_iff, ofHours, ofMinutes, ofSeconds, sum_parts]
    exact ⟨present, rfl⟩
  refine ⟨h, m, s, ofHours, ofMinutes, ofSeconds, ?_⟩
  simp only [read, parts?_eq_some_iff.mpr spelled, total]

/-- A time is read as it was written, whatever its sign and however long it is. -/
theorem read_text {n : Int32} (present : n ≠ Whole.missing) : (read (text n)).value = n := by
  obtain ⟨h, m, s, -, -, -, reading⟩ := reading_text present
  rw [reading]

end Clock

namespace DayCell

/-- Days that were read from eight digits have years of four. -/
def FourDigits (d : Day) : Prop := 0 ≤ d.year ∧ d.year ≤ 9999

theorem text_ne_empty (d : Day) : text (some d) ≠ "" := by
  intro empty
  have nothing : (text (some d)).toList = [] := by rw [empty]; rfl
  rw [text, String.toList_ofList] at nothing
  change Day.text d = [] at nothing
  rw [Day.text, List.append_eq_nil_iff] at nothing
  exact Digits.padded_ne_nil _ _ nothing.2

theorem parse?_digits {y m d : Nat} (hy : y < tenTo 4) (hm : m < tenTo 2) (hd : d < tenTo 2) :
    parse? (Digits.padded 4 y ++ Digits.padded 2 m ++ Digits.padded 2 d) = Day.of? y m d := by
  have year : (Digits.padded 4 y).length = 4 := Digits.length_padded (by decide) hy
  have month : (Digits.padded 2 m).length = 2 := Digits.length_padded (by decide) hm
  have day : (Digits.padded 2 d).length = 2 := Digits.length_padded (by decide) hd
  have digits : (Digits.padded 4 y ++ Digits.padded 2 m ++ Digits.padded 2 d).all Char.isDigit =
      true := by
    refine List.all_eq_true.mpr ?_
    intro c member
    rcases List.mem_append.mp member with member | member
    · rcases List.mem_append.mp member with member | member
      · exact Digits.isDigit_of_mem_padded c member
      · exact Digits.isDigit_of_mem_padded c member
    · exact Digits.isDigit_of_mem_padded c member
  have width : (Digits.padded 4 y ++ Digits.padded 2 m ++ Digits.padded 2 d).length = 8 := by
    rw [List.length_append, List.length_append, year, month, day]
  have first : (Digits.padded 4 y ++ Digits.padded 2 m ++ Digits.padded 2 d).take 4 =
      Digits.padded 4 y := by
    rw [List.append_assoc, List.take_left' year]
  have second : ((Digits.padded 4 y ++ Digits.padded 2 m ++ Digits.padded 2 d).drop 4).take 2 =
      Digits.padded 2 m := by
    rw [List.append_assoc, List.drop_left' year, List.take_left' month]
  have third : (Digits.padded 4 y ++ Digits.padded 2 m ++ Digits.padded 2 d).drop 6 =
      Digits.padded 2 d := by
    rw [List.drop_left' (by rw [List.length_append, year, month])]
  rw [parse?, if_pos ⟨width, digits⟩, first, second, third]
  simp only [Digits.ofDigitChars_padded]

theorem of?_self (d : Day) : Day.of? d.year d.month d.day = some d := dif_pos d.real

theorem year_of? {year : Int} {month day : Nat} {d : Day} (h : Day.of? year month day = some d) :
    d.year = year := by
  unfold Day.of? at h
  split at h
  · cases h
    rfl
  · contradiction

theorem reading_text {d : Day} (four : FourDigits d) :
    read (text (some d)) = ⟨some d, years.problems (.ofInt d.year)⟩ := by
  obtain ⟨low, high⟩ := four
  have month : d.month < tenTo 2 := Nat.lt_of_le_of_lt d.month_le (by decide)
  have day : d.day < tenTo 2 := Nat.lt_of_le_of_lt d.day_le (by decide)
  have small : d.year.natAbs < tenTo 4 := by
    change d.year.natAbs < 10000
    omega
  have year : (d.year.natAbs : Int) = d.year := by omega
  have digits : (text (some d)).toList =
      Digits.padded 4 d.year.natAbs ++ Digits.padded 2 d.month ++ Digits.padded 2 d.day := by
    have sign : ¬ d.year < 0 := by omega
    rw [text, String.toList_ofList]
    change Day.text d = _
    rw [Day.text, Day.yearText, if_neg sign, if_pos high]
  have parsed : parse? (text (some d)).toList = some d := by
    rw [digits, parse?_digits small month day, year, of?_self]
  simp only [read, parsed]

theorem read_text {d : Day} (four : FourDigits d) : (read (text (some d))).value = some d := by
  rw [reading_text four]

theorem fourDigits_of_read {cell : String} {d : Day} (h : (read cell).value = some d) :
    FourDigits d := by
  unfold read at h
  split at h
  · next found =>
      cases h
      unfold parse? at found
      split at found
      · next digits =>
          obtain ⟨width, digits⟩ := digits
          have year : d.year = Nat.ofDigitChars 10 (cell.toList.take 4) 0 := year_of? found
          have small : Nat.ofDigitChars 10 (cell.toList.take 4) 0 <
              tenTo (cell.toList.take 4).length :=
            Digits.ofDigitChars_lt fun c member =>
              List.all_eq_true.mp digits c (List.mem_of_mem_take member)
          rw [List.length_take, width] at small
          change _ < 10000 at small
          constructor
          · omega
          · omega
      · contradiction
  · contradiction

end DayCell

namespace LinkCell

theorem reading_text (link : Link) : read (text (some link)) = ⟨some link, []⟩ := by
  have found : Link.of? link.text = some link := by
    unfold Link.of?
    split
    · next url parsed =>
        have same := link.parsed.symm.trans parsed
        cases link
        cases same
        rfl
    · next parsed =>
        exact absurd (link.parsed.symm.trans parsed) (by simp)
  simp only [read, text, Option.elim_some, found]

theorem read_text (link : Link) : (read (text (some link))).value = some link := by
  rw [reading_text]

theorem text_of_read {cell : String} {link : Link} (h : (read cell).value = some link) :
    link.text = cell := by
  unfold read at h
  split at h
  · next found =>
      cases h
      unfold Link.of? at found
      split at found
      · cases found
        rfl
      · contradiction
  · contradiction

end LinkCell

end Cell

end TransitFeed

import TransitFeed.Proofs.Cell.Ranges
import TransitFeed.Proofs.Text.Utf8

/-! # Days in cells

A day is read from eight digits that name one, and from nothing else; written, it gives these
digits again. Every day has a text of its own. Days of years with more than four digits, or before
the year zero, have signs in their texts and are not read back.
-/

namespace TransitFeed

namespace Day

theorem spells_yearText (year : Int) : Digits.Spells (yearText year) year := by
  rw [← Digits.signed?_eq_some_iff]
  unfold yearText
  split
  · next negative =>
      rw [Digits.signed?_minus_padded]
      exact congrArg some (by omega)
  · split
    · rw [Digits.signed?_padded]
      exact congrArg some (by omega)
    · rw [← Digits.padded_zero_width, Digits.signed?, Digits.value?_padded]
      change some (year.natAbs : Int) = some year
      exact congrArg some (by omega)

theorem yearText_injective {year other : Int} (same : yearText year = yearText other) :
    year = other :=
  (spells_yearText year).unique (same ▸ spells_yearText other)

theorem length_monthText (d : Day) : (Digits.padded 2 d.month).length = 2 :=
  Digits.length_padded (by decide) (Nat.lt_of_le_of_lt d.month_le (by decide))

theorem length_dayText (d : Day) : (Digits.padded 2 d.day).length = 2 :=
  Digits.length_padded (by decide) (Nat.lt_of_le_of_lt d.day_le (by decide))

theorem eq_of_numbers {d other : Day} (year : d.year = other.year) (month : d.month = other.month)
    (day : d.day = other.day) : d = other := by
  cases d
  cases other
  cases year
  cases month
  cases day
  rfl

/-- The month and the day take the last four characters, and the rest is the year. -/
theorem text_injective {d other : Day} (same : d.text = other.text) : d = other := by
  unfold text at same
  obtain ⟨years, days⟩ := List.append_inj' same (by rw [length_dayText, length_dayText])
  obtain ⟨years, months⟩ := List.append_inj' years (by rw [length_monthText, length_monthText])
  have number {n k : Nat} (same : Digits.padded 2 n = Digits.padded 2 k) : n = k := by
    rw [← Digits.ofDigitChars_padded 2 n, same, Digits.ofDigitChars_padded]
  exact eq_of_numbers (yearText_injective years) (number months) (number days)

end Day

namespace Cell.DayCell

variable {cell : String} {d : Day}

/-- Eight octets, all of them ASCII digits. -/
structure IsEightDigits (octets : Octets) : Prop where
  length : octets.length = 8
  digits : ∀ octet ∈ octets, 48 ≤ octet.toNat ∧ octet.toNat ≤ 57

theorem toNat_octet_digit {c : Char} (low : c.toNat < 0x80) :
    (UInt8.ofNat c.toNat).toNat = c.toNat :=
  Utf8.toNat_octet (by omega)

theorem isDigit_of_octets {c : Char}
    (digits : ∀ octet ∈ String.utf8EncodeChar c, 48 ≤ octet.toNat ∧ octet.toNat ≤ 57) :
    c.isDigit = true := by
  by_cases ascii : c.toNat < 0x80
  · rw [Utf8.utf8EncodeChar_ascii ascii] at digits
    have octet := digits _ List.mem_cons_self
    rw [toNat_octet_digit ascii] at octet
    exact Digits.isDigit_iff.mpr octet
  · obtain ⟨octet, rest, some⟩ := List.exists_cons_of_ne_nil
      (String.utf8EncodeChar_ne_nil (c := c))
    have inside : octet ∈ String.utf8EncodeChar c := by
      rw [some]
      exact List.mem_cons_self
    have high := Utf8.octet_of_wide (Nat.le_of_not_lt ascii) octet inside
    have digit := digits octet inside
    omega

theorem length_encode_digits {chars : List Char} (all : ∀ c ∈ chars, c.isDigit = true) :
    (chars.flatMap String.utf8EncodeChar).length = chars.length := by
  induction chars with
  | nil => rfl
  | cons c rest ih =>
      obtain ⟨-, high⟩ := Digits.isDigit_iff.mp (all c List.mem_cons_self)
      have later := ih fun c member => all c (List.mem_cons_of_mem _ member)
      rw [List.flatMap_cons, Utf8.utf8EncodeChar_ascii (by omega), List.singleton_append,
        List.length_cons, later, List.length_cons]

/-- Digits are counted alike in octets and in characters, and nothing else has octets of digits. -/
theorem isEightDigits_iff : IsEightDigits (Utf8.encode cell) ↔
    cell.toList.length = 8 ∧ cell.toList.all Char.isDigit = true := by
  rw [List.all_eq_true]
  constructor
  · rintro ⟨length, digits⟩
    have all : ∀ c ∈ cell.toList, c.isDigit = true := fun c member =>
      isDigit_of_octets fun octet inside => digits octet (List.mem_flatMap.mpr ⟨c, member, inside⟩)
    exact ⟨(length_encode_digits all).symm.trans length, all⟩
  · rintro ⟨length, all⟩
    refine ⟨(length_encode_digits all).trans length, ?_⟩
    intro octet member
    obtain ⟨c, inside, member⟩ := List.mem_flatMap.mp member
    obtain ⟨low, high⟩ := Digits.isDigit_iff.mp (all c inside)
    rw [Utf8.utf8EncodeChar_ascii (by omega), List.mem_singleton] at member
    rw [member, toNat_octet_digit (by omega)]
    exact ⟨low, high⟩

/-- The cells that name a day: eight digits, four of them for the year, two for the month and two
    for the day. -/
structure Names (cell : String) (d : Day) : Prop where
  digits : IsEightDigits (Utf8.encode cell)
  year : d.year = Nat.ofDigitChars 10 (cell.toList.take 4) 0
  month : d.month = Nat.ofDigitChars 10 ((cell.toList.drop 4).take 2) 0
  day : d.day = Nat.ofDigitChars 10 (cell.toList.drop 6) 0

theorem of?_eq_some_iff {year : Int} {month day : Nat} :
    Day.of? year month day = some d ↔ d.year = year ∧ d.month = month ∧ d.day = day := by
  constructor
  · intro found
    unfold Day.of? at found
    split at found
    · obtain rfl := Option.some.inj found
      exact ⟨rfl, rfl, rfl⟩
    · contradiction
  · rintro ⟨rfl, rfl, rfl⟩
    exact of?_self d

theorem parse?_eq_some_iff : parse? cell.toList = some d ↔ Names cell d := by
  constructor
  · intro found
    unfold parse? at found
    split at found
    · next digits =>
        obtain ⟨year, month, day⟩ := of?_eq_some_iff.mp found
        exact ⟨isEightDigits_iff.mpr digits, year, month, day⟩
    · contradiction
  · rintro ⟨digits, year, month, day⟩
    rw [parse?, if_pos (isEightDigits_iff.mp digits)]
    exact of?_eq_some_iff.mpr ⟨year, month, day⟩

theorem value_eq_some_iff : (read cell).value = some d ↔ Names cell d := by
  rw [← parse?_eq_some_iff]
  unfold read
  split
  · next found => rw [found]
  · next failed => rw [failed]

theorem read_of_nameless (nameless : ¬ ∃ d, Names cell d) : read cell = ⟨none, [.day]⟩ := by
  rcases read_cases cell with failed | ⟨d, found⟩
  · exact failed
  · exact absurd ⟨d, value_eq_some_iff.mp (by rw [found])⟩ nameless

theorem Names.text_eq (named : Names cell d) : text (some d) = cell := by
  obtain ⟨length, all⟩ := isEightDigits_iff.mp named.digits
  obtain ⟨low, high⟩ := fourDigits_of_read (value_eq_some_iff.mpr named)
  obtain ⟨-, year, month, day⟩ := named
  -- Each part is written in its width, since it has as many digits.
  have part {digits : List Char} {width n : Nat} (inside : digits ⊆ cell.toList)
      (wide : digits.length = width) (positive : 0 < width)
      (value : n = Nat.ofDigitChars 10 digits 0) : Digits.padded width n = digits := by
    rw [value, ← wide]
    exact Digits.padded_ofDigitChars (List.length_pos_iff.mp (wide ▸ positive)) fun c member =>
      List.all_eq_true.mp all c (inside member)
  have years : Day.yearText d.year = cell.toList.take 4 := by
    rw [Day.yearText, if_neg (by omega), if_pos high]
    exact part (List.take_subset _ _) (by rw [List.length_take, length]; rfl) (by decide)
      (by omega)
  have months : Digits.padded 2 d.month = (cell.toList.drop 4).take 2 :=
    part (fun c member => List.mem_of_mem_drop (List.mem_of_mem_take member))
      (by rw [List.length_take, List.length_drop, length]; rfl) (by decide) month
  have days : Digits.padded 2 d.day = cell.toList.drop 6 :=
    part (List.drop_subset _ _) (by rw [List.length_drop, length]) (by decide) day
  rw [text, ← String.ofList_toList (s := cell)]
  change String.ofList d.text = _
  rw [Day.text, years, months, days, List.append_assoc, ← List.drop_drop (i := 2) (j := 4),
    List.take_append_drop, List.take_append_drop]

/-- Texts of other years have a sign in front. -/
theorem parse?_text_of_signed (signed : ¬ FourDigits d) : parse? d.text = none := by
  have sign : ∃ c ∈ d.text, c.isDigit = false := by
    unfold Day.text Day.yearText
    split
    · exact ⟨'-', by simp, rfl⟩
    · split
      · exact absurd ⟨by omega, by assumption⟩ signed
      · exact ⟨'+', by simp, rfl⟩
  obtain ⟨c, member, digitless⟩ := sign
  unfold parse?
  rw [if_neg]
  rintro ⟨-, digits⟩
  rw [List.all_eq_true.mp digits c member] at digitless
  contradiction

theorem read_text_of_signed (signed : ¬ FourDigits d) :
    read (text (some d)) = ⟨none, [.day]⟩ := by
  have failed : parse? (text (some d)).toList = none := by
    rw [text, String.toList_ofList]
    exact parse?_text_of_signed signed
  rw [read, failed]

theorem problems_text_eq_nil (four : FourDigits d) :
    (read (text (some d))).problems = [] ↔ 2000 ≤ d.year ∧ d.year ≤ 2100 := by
  obtain ⟨low, high⟩ := four
  have exact : (Int32.ofInt d.year).toInt = d.year :=
    Int32.toInt_ofInt_of_le (by omega) (by omega)
  rw [reading_text ⟨low, high⟩, WholeRange.problems_eq_nil, exact]
  rfl

/-- A cell is read as a day exactly if its octets are eight digits that name one, and then it is
    what is written of the day; all other cells are problems. So the days of years from 0 to 9999
    are read back, without a problem exactly from 2000 to 2100, and no others are, although no two
    days are written alike. -/
theorem read_eightDigits :
    (∀ cell : String,
      (∀ d, (read cell).value = some d ↔ Names cell d) ∧
        (∀ d, Names cell d → FourDigits d ∧ text (some d) = cell) ∧
          ((¬ ∃ d, Names cell d) → read cell = ⟨none, [.day]⟩)) ∧
      (∀ d, FourDigits d → (read (text (some d))).value = some d ∧
        ((read (text (some d))).problems = [] ↔ 2000 ≤ d.year ∧ d.year ≤ 2100)) ∧
        (∀ d other, d ≠ other → text (some d) ≠ text (some other)) ∧
          ∀ d, ¬ FourDigits d → read (text (some d)) = ⟨none, [.day]⟩ := by
  refine ⟨fun cell => ⟨?_, ?_, ?_⟩, ?_, ?_, ?_⟩
  · exact fun d => value_eq_some_iff
  · exact fun d named => ⟨fourDigits_of_read (value_eq_some_iff.mpr named), named.text_eq⟩
  · exact read_of_nameless
  · exact fun d four => ⟨read_text four, problems_text_eq_nil four⟩
  · intro d other differ same
    exact differ (Day.text_injective (String.ofList_injective same))
  · exact fun d => read_text_of_signed

/-- The first leap day, one that is written with a sign, and digits that name no day. -/
theorem read_eightDigits_leapDays :
    let first : Day := ⟨0, 2, 29, by decide⟩
    let signed : Day := ⟨10000, 2, 29, by decide⟩
    Names "00000229" first ∧ text (some first) = "00000229" ∧
      (FourDigits first ∧ (read (text (some first))).problems ≠ []) ∧
        (first ≠ signed ∧ text (some first) ≠ text (some signed)) ∧
          (¬ FourDigits signed ∧ read (text (some signed)) = ⟨none, [.day]⟩) ∧
            (¬ ∃ d, Names "20230229" d) ∧ read "20230229" = ⟨none, [.day]⟩ := by
  intro first signed
  have named : Names "00000229" first := parse?_eq_some_iff.mp (by decide)
  have four : FourDigits first := ⟨by decide, by decide⟩
  have differ : first ≠ signed := by decide
  have late : ¬ FourDigits signed := fun four => absurd four.2 (by decide)
  have nameless : ¬ ∃ d, Names "20230229" d := by
    rintro ⟨d, named⟩
    have none : parse? "20230229".toList = none := by decide
    rw [parse?_eq_some_iff.mpr named] at none
    contradiction
  obtain ⟨cells, fours, apart, others⟩ := read_eightDigits
  obtain ⟨-, problems⟩ := fours first four
  refine ⟨named, ((cells _).2.1 first named).2, ⟨four, fun clean => ?_⟩, ⟨differ, ?_⟩,
    ⟨late, others signed late⟩, nameless, (cells _).2.2 nameless⟩
  · exact absurd (problems.mp clean).1 (by decide)
  · exact apart first signed differ

end Cell.DayCell

end TransitFeed

import TransitFeed.Proofs.Cell.Ranges
import TransitFeed.Proofs.Table.Values

/-! # Problems with values that were written

A value that is written was read from a cell that was at most out of range. Read back, it is out of
range only if that cell was.
-/

namespace TransitFeed

namespace Presence

theorem ofText_of_ne {text : String} (full : text ≠ "") : ofText text = .present text := if_neg full

theorem ofText_eq_present {text other : String} (same : ofText text = .present other) :
    text = other ∧ text ≠ "" := by
  unfold ofText at same
  split at same
  · contradiction
  · next full => exact ⟨present.inj same, full⟩

end Presence

namespace ColumnKind

/-- Whether an empty cell stands for a value in range, and decimals in range are read back in it. -/
def Stable : ColumnKind → Prop
  | .whole range fallback => fallback = Cell.Whole.missing ∨ range.problems fallback = []
  | .decimal range => range.Stable
  | .text | .clock | .day | .link | .reference _ => True

theorem problems_empty (kind : ColumnKind) : (kind.read (.ofText "")).problems = [] := by
  cases kind <;> rfl

theorem isRange_of_written {kind : ColumnKind} {presence : Presence}
    (written : (kind.read presence).value.cell ≠ "") {problem : Cell.Problem}
    (found : problem ∈ (kind.read presence).problems) : problem.IsRange := by
  cases presence with
  | absent | empty => cases kind <;> contradiction
  | present text =>
      cases kind with
      | text | reference target => contradiction
      | whole range fallback =>
          simp only [read] at written found
          rcases Cell.Whole.read_cases range text with unread | ⟨n, reading⟩
          · rw [unread] at written
            exact absurd rfl written
          · rw [reading] at found
            exact Cell.WholeRange.isRange_of_mem found
      | decimal range =>
          simp only [read] at written found
          rcases Cell.Fractional.read_cases range text with unread | ⟨d, reading⟩
          · rw [unread] at written
            exact absurd rfl written
          · rw [reading] at found
            exact Cell.DecimalRange.isRange_of_mem found
      | clock =>
          simp only [read] at written found
          rcases Cell.Clock.read_cases text with unread | ⟨h, m, s, n, -, -, reading⟩
          · rw [unread] at written
            exact absurd rfl written
          · rw [reading] at found
            exact Cell.Clock.isRange_of_mem found
      | day =>
          simp only [read] at written found
          rcases Cell.DayCell.read_cases text with unread | ⟨d, reading⟩
          · rw [unread] at written
            exact absurd rfl written
          · rw [reading] at found
            exact Cell.WholeRange.isRange_of_mem found
      | link =>
          simp only [read] at written found
          rcases Cell.LinkCell.read_cases text with unread | ⟨link, reading⟩
          · rw [unread] at written
            exact absurd rfl written
          · rw [reading] at found
            contradiction

theorem problems_wholeCell {range : Cell.WholeRange} (fallback : Int32) {n : Int32}
    (clear : n = Cell.Whole.missing ∨ range.problems n = []) :
    ((whole range fallback).read (.ofText (Value.whole n).cell)).problems = [] := by
  by_cases missing : n = Cell.Whole.missing
  · rw [missing]
    rfl
  · have full : (Value.whole n).cell ≠ "" := Cell.Whole.text_ne_empty missing
    rw [Presence.ofText_of_ne full]
    simp only [read, Value.cell, Cell.Whole.reading_text range missing]
    exact clear.resolve_left missing

theorem problems_decimalCell {range : Cell.DecimalRange} (stable : range.Stable) {d : Double}
    (bounded : ∀ negative, d ≠ .infinite negative) (clear : range.problems d = []) :
    ((decimal range).read (.ofText (Value.decimal d).cell)).problems = [] := by
  cases d with
  | nan => rfl
  | infinite negative => exact absurd rfl (bounded negative)
  | finite negative units r =>
      have full : (Value.decimal (.finite negative units r)).cell ≠ "" :=
        Cell.Fractional.text_ne_empty negative units r
      rw [Cell.DecimalRange.problems_eq_nil] at clear
      rw [Presence.ofText_of_ne full]
      simp only [read, Value.cell, Cell.Fractional.read, Cell.Fractional.parse?_text]
      rw [Cell.DecimalRange.problems_eq_nil]
      exact stable negative units r clear

theorem problems_clockCell {h m s n : Int32} (total : Cell.Clock.total? h m s = some n)
    (clear : Cell.Clock.hours.problems h ++ Cell.Clock.sixty.problems m ++
      Cell.Clock.sixty.problems s = []) :
    (clock.read (.ofText (Value.clock n).cell)).problems = [] := by
  have full : (Value.clock n).cell ≠ "" :=
    Cell.Clock.text_ne_empty (Cell.Clock.total?_eq_some_iff.mp total).1
  rw [Presence.ofText_of_ne full]
  exact Cell.Clock.problems_text total clear

theorem problems_dayCell {d : Day} (four : Cell.DayCell.FourDigits d)
    (clear : Cell.DayCell.years.problems (.ofInt d.year) = []) :
    (day.read (.ofText (Value.day (some d)).cell)).problems = [] := by
  have full : (Value.day (some d)).cell ≠ "" := Cell.DayCell.text_ne_empty d
  rw [Presence.ofText_of_ne full]
  simp only [read, Value.cell]
  rw [Cell.DayCell.reading_text four]
  exact clear

theorem problems_linkCell (found : Link) :
    (link.read (.ofText (Value.link (some found)).cell)).problems = [] := by
  by_cases blank : (Value.link (some found)).cell = ""
  · rw [blank, problems_empty]
  · rw [Presence.ofText_of_ne blank]
    simp only [read, Value.cell, Cell.LinkCell.reading_text]

/-- What was read without a problem is read back without one. -/
theorem problems_cell {kind : ColumnKind} (stable : kind.Stable) {presence : Presence}
    (clear : (kind.read presence).problems = []) :
    (kind.read (.ofText (kind.read presence).value.cell)).problems = [] := by
  have textual (kind : ColumnKind) (none : ∀ text, (kind.read (.present text)).problems = [])
      (cell : String) : (kind.read (.ofText cell)).problems = [] := by
    by_cases blank : cell = ""
    · rw [blank, problems_empty]
    · rw [Presence.ofText_of_ne blank, none]
  cases kind with
  | text => exact textual .text (fun _ => rfl) _
  | reference target => exact textual (.reference target) (fun _ => rfl) _
  | whole range fallback =>
      cases presence with
      | absent | empty => exact problems_wholeCell fallback stable
      | present text =>
          simp only [read] at clear ⊢
          rcases Cell.Whole.read_cases range text with unread | ⟨n, reading⟩
          · rw [unread] at clear
            contradiction
          · rw [reading] at clear ⊢
            exact problems_wholeCell fallback (Or.inr clear)
  | decimal range =>
      cases presence with
      | absent | empty => rfl
      | present text =>
          have bounded := Cell.Fractional.read_ne_infinite range text
          simp only [read] at clear ⊢
          rcases Cell.Fractional.read_cases range text with unread | ⟨d, reading⟩
          · rw [unread] at clear
            contradiction
          · rw [reading] at bounded clear ⊢
            exact problems_decimalCell stable bounded clear
  | clock =>
      cases presence with
      | absent | empty => rfl
      | present text =>
          simp only [read] at clear ⊢
          rcases Cell.Clock.read_cases text with unread | ⟨h, m, s, n, -, total, reading⟩
          · rw [unread] at clear
            contradiction
          · rw [reading] at clear ⊢
            exact problems_clockCell total clear
  | day =>
      cases presence with
      | absent | empty => rfl
      | present text =>
          have four (d : Day) (same : (Cell.DayCell.read text).value = some d) :
              Cell.DayCell.FourDigits d := Cell.DayCell.fourDigits_of_read same
          simp only [read] at clear ⊢
          rcases Cell.DayCell.read_cases text with unread | ⟨d, reading⟩
          · rw [unread] at clear
            contradiction
          · have digits := four d (by rw [reading])
            rw [reading] at clear ⊢
            exact problems_dayCell digits clear
  | link =>
      cases presence with
      | absent | empty => rfl
      | present text =>
          simp only [read] at clear
          change (link.read (.ofText
            (Value.link (Cell.LinkCell.read text).value).cell)).problems = []
          rcases Cell.LinkCell.read_cases text with unread | ⟨found, reading⟩
          · rw [unread] at clear
            contradiction
          · rw [reading]
            exact problems_linkCell found

theorem cell_ne_empty_reread (kind : ColumnKind) {v : Value} (written : v.cell ≠ "") :
    (kind.reread v).cell ≠ "" := by
  cases v with
  | whole n =>
      have present : n ≠ Cell.Whole.missing := by
        rintro rfl
        exact written Cell.Whole.text_missing
      rwa [reread, if_neg present]
  | decimal d => rwa [reread, Value.cell, Cell.Fractional.text_reread]
  | text | clock | day | link => exact written

/-- A problem with a value that is read back is that it is out of range, and so it was at first. -/
theorem range_of_reread {kind : ColumnKind} (stable : kind.Stable) {presence : Presence}
    (full : ∀ text, presence = .present text → text ≠ "") {problem : Cell.Problem}
    (found : problem ∈ (kind.read (.ofText (kind.read presence).value.cell)).problems) :
    problem.IsRange ∧ ∃ first ∈ (kind.read presence).problems, first.IsRange := by
  have written : (kind.read presence).value.cell ≠ "" := by
    intro blank
    rw [blank, problems_empty] at found
    contradiction
  constructor
  · refine isRange_of_written ?_ found
    rw [read_cell (kind.keeps_read full)]
    exact kind.cell_ne_empty_reread written
  · have some_problem : (kind.read presence).problems ≠ [] := by
      intro clear
      rw [problems_cell stable clear] at found
      contradiction
    obtain ⟨first, inside⟩ := List.exists_mem_of_ne_nil _ some_problem
    exact ⟨first, inside, isRange_of_written written inside⟩

end ColumnKind

namespace Column

variable (name : String) (required : Bool)

@[simp] theorem stable_text : (text name required).kind.Stable := trivial

@[simp] theorem stable_whole (low high : Int32) :
    (whole name required low high).kind.Stable := Or.inl rfl

theorem stable_wholeOrZero {high : Int32} (positive : 0 ≤ high.toInt) :
    (wholeOrZero name high).kind.Stable :=
  Or.inr (Cell.WholeRange.problems_eq_nil.mpr ⟨Int.le_refl 0, positive⟩)

theorem stable_degrees {limit : Int} (positive : 0 ≤ limit) (small : limit.natAbs < twoTo 53) :
    (degrees name limit).kind.Stable :=
  Cell.DecimalRange.stable_degrees positive small

@[simp] theorem stable_distance : (distance name).kind.Stable := Cell.DecimalRange.stable_distance

@[simp] theorem stable_clock : (clock name required).kind.Stable := trivial

@[simp] theorem stable_day : (day name required).kind.Stable := trivial

@[simp] theorem stable_link : (link name required).kind.Stable := trivial

@[simp] theorem stable_reference (target : Table) :
    (reference name required target).kind.Stable := trivial

end Column

/-- No column of a feed leaves its range when it is read back. -/
theorem FeedTable.stable_schema (f : Feed) (which : FeedTable) :
    ∀ column ∈ (f.schema which).columns, column.kind.Stable := by
  have latitude (name : String) : (Column.degrees name 90).kind.Stable :=
    Column.stable_degrees name (by decide) (by decide)
  have longitude (name : String) : (Column.degrees name 180).kind.Stable :=
    Column.stable_degrees name (by decide) (by decide)
  have stop : (Column.wholeOrZero "location_type" 4).kind.Stable :=
    Column.stable_wholeOrZero _ (by decide)
  have inexact : (Column.wholeOrZero "exact_times" 1).kind.Stable :=
    Column.stable_wholeOrZero _ (by decide)
  cases which with
  | agency => simp [Feed.schema, Schema.agency]
  | stops => simp [Feed.schema, Schema.stops, latitude, longitude, stop]
  | routes => simp [Feed.schema, Schema.routes]
  | trips => simp [Feed.schema, Schema.trips]
  | stopTimes => simp [Feed.schema, Schema.stopTimes]
  | calendar => simp [Feed.schema, Schema.calendar]
  | calendarDates => simp [Feed.schema, Schema.calendarDates]
  | shapes => simp [Feed.schema, Schema.shapes, latitude, longitude]
  | frequencies => simp [Feed.schema, Schema.frequencies, inexact]
  | feedInfo => simp [Feed.schema, Schema.feedInfo]

end TransitFeed

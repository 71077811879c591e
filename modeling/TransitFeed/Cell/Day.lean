import TransitFeed.Cell.Problem
import TransitFeed.Number.Digits

/-! # Cells with days

A day of the calendar is written in eight digits: four for the year, two for the month and two for
the day.
-/

namespace TransitFeed

namespace Calendar

/-- Whether a year has a 29th of February. -/
def isLeap (year : Int) : Bool := year % 4 = 0 && (year % 100 ≠ 0 || year % 400 = 0)

/-- How many days a month of a year has; a month that does not exist has none. -/
def length (year : Int) (month : Nat) : Nat :=
  match month with
  | 2 => if isLeap year then 29 else 28
  | 4 | 6 | 9 | 11 => 30
  | 1 | 3 | 5 | 7 | 8 | 10 | 12 => 31
  | _ => 0

/-- The first year that days are kept for. -/
def firstYear : Int := -262143

/-- The last year that days are kept for. -/
def lastYear : Int := 262142

/-- Whether there is such a day. -/
def Exists (year : Int) (month day : Nat) : Prop :=
  firstYear ≤ year ∧ year ≤ lastYear ∧ 1 ≤ day ∧ day ≤ length year month

instance (year : Int) (month day : Nat) : Decidable (Exists year month day) :=
  inferInstanceAs (Decidable (_ ∧ _))

end Calendar

/-- A day of the Gregorian calendar, which is taken to have been in use at all times. -/
structure Day where
  year : Int
  month : Nat
  day : Nat
  real : Calendar.Exists year month day
  deriving DecidableEq

namespace Day

/-- The day with the given numbers, if there is one. -/
def of? (year : Int) (month day : Nat) : Option Day :=
  if h : Calendar.Exists year month day then some ⟨year, month, day, h⟩ else none

/-- Years are written with four digits; a year that needs more, or a sign, has a sign and at least
    four digits. -/
def yearText (year : Int) : List Char :=
  if year < 0 then '-' :: Digits.padded 4 year.natAbs
  else if year ≤ 9999 then Digits.padded 4 year.natAbs
  else '+' :: Digits.ofNat year.natAbs

def text (d : Day) : List Char :=
  yearText d.year ++ Digits.padded 2 d.month ++ Digits.padded 2 d.day

end Day

namespace Cell.DayCell

/-- The years that are expected, from 2000 to 2100. -/
def years : WholeRange := ⟨2000, 2100⟩

def parse? (text : List Char) : Option Day :=
  if text.length = 8 ∧ text.all Char.isDigit then
    let number (digits : List Char) : Nat := Nat.ofDigitChars 10 digits 0
    Day.of? (number (text.take 4)) (number ((text.drop 4).take 2)) (number (text.drop 6))
  else none

/-- The day of a cell that is not empty. -/
def read (cell : String) : Reading (Option Day) :=
  match parse? cell.toList with
  | some d => ⟨some d, years.problems (.ofInt d.year)⟩
  | none => ⟨none, [.day]⟩

def text (day : Option Day) : String := String.ofList (day.elim [] Day.text)

end Cell.DayCell

end TransitFeed

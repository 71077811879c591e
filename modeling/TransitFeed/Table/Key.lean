import TransitFeed.Cell.Day

/-! # Keys

A record is known by a key: an identifier, or an identifier together with a number or a day.
Equal texts of keys of one shape belong to equal keys.
-/

namespace TransitFeed

namespace Day

/-- A number that grows with the days. -/
def ordinal (d : Day) : Int := (d.year * 16 + d.month) * 32 + d.day

theorem month_le (d : Day) : d.month ≤ 12 := by
  have h := d.real.2.2
  revert h
  generalize d.month = m
  intro h
  by_cases hm : m ≤ 12
  · exact hm
  · have : Calendar.length d.year m = 0 := by
      unfold Calendar.length
      split <;> omega
    omega

theorem day_le (d : Day) : d.day ≤ 31 := by
  have : Calendar.length d.year d.month ≤ 31 := by
    unfold Calendar.length
    split
    · split <;> omega
    all_goals omega
  have := d.real.2.2
  omega

theorem ordinal_injective {a b : Day} (h : a.ordinal = b.ordinal) : a = b := by
  have := a.month_le
  have := b.month_le
  have := a.day_le
  have := b.day_le
  obtain ⟨y, m, d, ha⟩ := a
  obtain ⟨y', m', d', hb⟩ := b
  simp only [ordinal] at *
  obtain rfl : y = y' := by omega
  obtain rfl : m = m' := by omega
  obtain rfl : d = d' := by omega
  rfl

end Day

/-- What a record is known by. -/
inductive Key where
  /-- An identifier. -/
  | name (id : String)
  /-- An identifier and a position. -/
  | numbered (id : String) (part : Int32)
  /-- An identifier and a day. -/
  | dated (id : String) (day : Day)
  deriving DecidableEq

namespace Key

def text : Key → String
  | .name id => id
  | .numbered id part => id ++ ":" ++ String.ofList (Digits.ofInt part.toInt)
  | .dated id day => id ++ ":" ++ String.ofList day.text

def id : Key → String
  | .name id | .numbered id _ | .dated id _ => id

/-- A number for each shape of keys. -/
def shape : Key → Nat
  | .name _ => 0
  | .numbered .. => 1
  | .dated .. => 2

/-- A number for what follows the identifier. -/
def ordinal : Key → Int
  | .name _ => 0
  | .numbered _ part => part.toInt
  | .dated _ day => day.ordinal

theorem eq_of_parts {a b : Key} (hs : a.shape = b.shape) (hi : a.id = b.id)
    (ho : a.ordinal = b.ordinal) : a = b := by
  cases a <;> cases b <;> simp only [shape, id, ordinal] at hs hi ho <;> try contradiction
  · rw [hi]
  · rw [hi, Int32.toInt_inj.1 ho]
  · rw [hi, Day.ordinal_injective ho]

/-- By shape, then by identifier, then by position or day. -/
instance : Ord Key :=
  ⟨compareLex (compareOn shape) (compareLex (compareOn id) (compareOn ordinal))⟩

instance : Std.TransOrd Key := inferInstanceAs (Std.TransCmp (compareLex _ _))

instance : Std.LawfulEqOrd Key where
  eq_of_compare h := by
    obtain ⟨hs, h⟩ := compareLex_eq_eq.1 h
    obtain ⟨hi, ho⟩ := compareLex_eq_eq.1 h
    exact eq_of_parts (Std.LawfulEqCmp.eq_of_compare hs) (Std.LawfulEqCmp.eq_of_compare hi)
      (Std.LawfulEqCmp.eq_of_compare ho)

end Key

end TransitFeed

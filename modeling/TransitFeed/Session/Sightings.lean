import Std.Data.TreeSet.Basic

/-! # Sightings of references

A reference is checked the first time that its key is seen in its column. So a key that is missing
is reported once, however many rows refer to it.
-/

namespace TransitFeed

/-- A key seen in a column. -/
structure Sighting where
  column : String
  key : String
  deriving Repr, DecidableEq

namespace Sighting

/-- By column, then by key. -/
instance : Ord Sighting := ⟨compareLex (compareOn column) (compareOn key)⟩

instance : Std.TransOrd Sighting := inferInstanceAs (Std.TransCmp (compareLex _ _))

instance : Std.LawfulEqOrd Sighting where
  eq_of_compare {a b} h := by
    obtain ⟨hc, hk⟩ := compareLex_eq_eq.1 h
    cases a
    cases b
    exact congr (congrArg Sighting.mk (Std.LawfulEqCmp.eq_of_compare hc))
      (Std.LawfulEqCmp.eq_of_compare hk)

end Sighting

/-- The keys seen so far in a session. -/
abbrev Sightings := Std.TreeSet Sighting

end TransitFeed

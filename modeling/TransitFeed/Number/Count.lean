import TransitFeed.Number.Fixed

/-! # Counts for people

Log lines give large counts in thousands or millions with one decimal place.
-/

namespace TransitFeed.Count

/-- The double nearest to the quotient of a count, itself rounded to a double, and a number. -/
def quotient (count divisor : Nat) : Double :=
  match Double.nearest false count 1 with
  | .finite _ units _ => .nearest false units (Double.unitsPerOne * divisor)
  | other => other

/-- `950`, `12.5k`, `3.3M`. -/
def text (count : Nat) : String :=
  if 1000000 ≤ count then String.ofList (Double.fixedText 1 (quotient count 1000000)) ++ "M"
  else if 1000 ≤ count then String.ofList (Double.fixedText 1 (quotient count 1000)) ++ "k"
  else String.ofList (Digits.ofNat count)

end TransitFeed.Count

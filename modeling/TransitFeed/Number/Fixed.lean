import TransitFeed.Number.Double
import TransitFeed.Number.Digits

/-! # Doubles with a fixed number of decimal places

The exact value is rounded to a multiple of 10⁻ᵏ; a value halfway between two of them goes to
the even one.
-/

namespace TransitFeed.Double

/-- A count of 10⁻ᵏ as text with `k` decimal places. -/
def placesText (places count : Nat) : List Char :=
  let (whole, fraction) := (count / tenTo places, count % tenTo places)
  Digits.ofNat whole ++ (if places = 0 then [] else '.' :: Digits.padded places fraction)

/-- The magnitude in multiples of 10⁻ᵏ. -/
def roundedCount (places units : Nat) : Nat := roundHalfEven (units * tenTo places) unitsPerOne

/-- The text with `places` decimal places, never in scientific notation. A negative zero keeps its
    sign. -/
def fixedText (places : Nat) : Double → List Char
  | .nan => "NaN".toList
  | .infinite negative => if negative then "-inf".toList else "inf".toList
  | .finite negative units _ =>
    (if negative then ['-'] else []) ++ placesText places (roundedCount places units)

end TransitFeed.Double

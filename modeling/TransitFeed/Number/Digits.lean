/-! # Decimal digits

Natural numbers and integers as rows of ASCII digits.
-/

namespace TransitFeed.Digits

/-- The number that one or more ASCII digits stand for. -/
def value? (digits : List Char) : Option Nat :=
  if digits.isEmpty || !digits.all Char.isDigit then none
  else some (Nat.ofDigitChars 10 digits 0)

/-- The integer of one or more ASCII digits with at most one sign in front. -/
def signed? : List Char → Option Int
  | '+' :: digits => (value? digits).map fun n => (n : Int)
  | '-' :: digits => (value? digits).map fun n => -(n : Int)
  | digits => (value? digits).map fun n => (n : Int)

/-- The digits of a number, without leading zeros. -/
def ofNat (n : Nat) : List Char := Nat.toDigits 10 n

/-- The digits of an integer, with a minus sign in front of a negative one. -/
def ofInt : Int → List Char
  | .ofNat n => ofNat n
  | .negSucc n => '-' :: ofNat (n + 1)

/-- The digits of a number, with zeros in front up to a width. -/
def padded (width n : Nat) : List Char := (ofNat n).leftpad width '0'

/-- The text of an integer that is at least `width` characters wide: zeros stand between the sign
    and the digits. -/
def paddedInt (width : Nat) : Int → List Char
  | .ofNat n => padded width n
  | .negSucc n => '-' :: padded (width - 1) (n + 1)

end TransitFeed.Digits

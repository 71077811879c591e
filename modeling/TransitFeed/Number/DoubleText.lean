import TransitFeed.Number.Double
import TransitFeed.Number.Digits

/-! # Reading doubles from text

A decimal is a row of digits with an optional point, an optional sign in front and an optional
power of ten behind. Its value is rounded once, to the nearest double.
-/

namespace TransitFeed

/-- `digits · 10 ^ exponent`, with a sign. -/
structure Decimal where
  negative : Bool
  digits : Nat
  exponent : Int
  deriving Repr, DecidableEq

namespace Decimal

/-- The power of ten behind the digits: nothing, or a letter e and an integer. -/
def exponent? : List Char → Option Int
  | [] => some 0
  | c :: rest => if c = 'e' ∨ c = 'E' then Digits.signed? rest else none

/-- The parts of a decimal without a sign. At least one digit stands before or after the
    point. -/
def ofUnsigned? (negative : Bool) (text : List Char) : Option Decimal :=
  let (whole, rest) := text.span Char.isDigit
  let (fraction, rest) :=
    match rest with
    | '.' :: rest => rest.span Char.isDigit
    | _ => ([], rest)
  if whole.isEmpty && fraction.isEmpty then none
  else (exponent? rest).map fun e =>
    ⟨negative, Nat.ofDigitChars 10 (whole ++ fraction) 0, e - fraction.length⟩

/-- The nearest double. The two bounds only spare the work: what has more than 310 digits before
    the point is beyond all finite doubles, and what has more than 330 zeros after it is nearer to
    zero than to the least positive double. -/
def toDouble (d : Decimal) : Double :=
  let places : Int := (Digits.ofNat d.digits).length + d.exponent
  if d.digits = 0 then .zero d.negative
  else if 310 < places then .infinite d.negative
  else if places < -330 then .zero d.negative
  else match d.exponent with
    | .ofNat e => .nearest d.negative (d.digits * tenTo e) 1
    | .negSucc e => .nearest d.negative d.digits (tenTo (e + 1))

end Decimal

namespace Double

/-- The words for doubles that have no digits, in any case. -/
def ofWord? (negative : Bool) (text : List Char) : Option Double :=
  let word := String.ofList (text.map Char.toLower)
  if word = "inf" ∨ word = "infinity" then some (.infinite negative)
  else if word = "nan" then some .nan
  else none

def ofUnsigned? (negative : Bool) (text : List Char) : Option Double :=
  match Decimal.ofUnsigned? negative text with
  | some d => some d.toDouble
  | none => ofWord? negative text

def ofText? : List Char → Option Double
  | '+' :: text => ofUnsigned? false text
  | '-' :: text => ofUnsigned? true text
  | text => ofUnsigned? false text

end Double

end TransitFeed

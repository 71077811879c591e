import TransitFeed.Number.Double
import TransitFeed.Number.Digits

/-! # The shortest decimal of a double

All decimals between two bounds read back as the same double. The shortest of them lies on the
coarsest grid of multiples of a power of ten that has a point between the bounds; of several such
points the one nearest to the double is taken.
-/

namespace TransitFeed

/-- Which of two equally near decimals is taken. -/
inductive Tie where
  /-- The one that is farther from zero. -/
  | away
  /-- The one with an even last digit. -/
  | even
  deriving Repr, DecidableEq

/-- Where the digits of a double are set. -/
structure DecimalLayout where
  /-- Which of two equally near decimals is taken. -/
  tie : Tie
  /-- Digits and zeros are written out as long as the point stands after the first `high` digits
      at most. Without a bound there is no other notation. -/
  high : Option Int
  /-- Digits and zeros are written out as long as the point stands more than this many places
      before or after the start of the digits. -/
  low : Int
  /-- Whether a point and a zero follow a whole number. -/
  pointed : Bool
  deriving Repr, DecidableEq

namespace Double

/-- The numbers between two bounds, in quarters of a unit, that round to a magnitude. -/
structure Interval where
  low : Nat
  high : Nat
  /-- Whether the bounds themselves round to the magnitude. -/
  closed : Bool
  deriving Repr, DecidableEq

namespace Interval

/-- Half the way to the two neighbours. Below a power of two the gap is half as wide, except where
    the gaps have reached one unit. A bound goes to the neighbour with an even last bit. -/
def around (units : Nat) : Interval :=
  let above := gap units
  let below := if units = twoTo units.log2 ∧ 52 < units.log2 then above / 2 else above
  { low := 4 * units - 2 * below
    high := 4 * units + 2 * above
    closed := units / above % 2 = 0 }

/-- Whether `num / den` quarters of a unit lie in the interval. -/
def contains (i : Interval) (num den : Nat) : Bool :=
  if i.closed then i.low * den ≤ num && num ≤ i.high * den
  else i.low * den < num && num < i.high * den

end Interval

/-- One power of ten as a fraction. -/
def powerOfTen : Int → Nat × Nat
  | .ofNat e => (tenTo e, 1)
  | .negSucc e => (1, tenTo (e + 1))

/-- The multiple of `10 ^ exponent` in the interval around a magnitude that is nearest to it. -/
def gridPoint? (tie : Tie) (units : Nat) (exponent : Int) : Option Nat :=
  let (num, den) := powerOfTen exponent
  -- `n` steps of the grid are `n * step / den` units
  let step := num * unitsPerOne
  let below := units * den / step
  let interval := Interval.around units
  let inside (n : Nat) : Bool := interval.contains (4 * n * step) den
  match inside below, inside (below + 1) with
  | false, false => none
  | true, false => some below
  | false, true => some (below + 1)
  | true, true =>
    let rest := 2 * (units * den % step)
    if rest < step then some below
    else if step < rest then some (below + 1)
    else match tie with
      | .away => some (below + 1)
      | .even => some (below + below % 2)

/-- The digits of the shortest decimal and the power of ten behind them. Seventeen digits are
    always enough, and the first grid tried has two or three digits too few for the first one. -/
def shortest (tie : Tie) (units : Nat) : Nat × Int :=
  let top : Int := ((units.log2 : Int) - 1074) * 30103 / 100000 + 3
  let found := (List.range 24).findSome? fun (i : Nat) =>
    (gridPoint? tie units (top - i)).map fun n => (n, top - (i : Int))
  found.getD (0, 0)

end Double

namespace DecimalLayout

/-- Decimal text without a power of ten. -/
def plain : DecimalLayout := { tie := .away, high := none, low := 0, pointed := false }

/-- Numbers in JSON: a power of ten behind the digits from 10¹⁶ on and below 10⁻⁵. -/
def json : DecimalLayout := { tie := .even, high := some 16, low := -5, pointed := true }

/-- Whether a number is written out whose point stands after `point` of its digits. -/
def writesOut (layout : DecimalLayout) (point : Int) : Bool :=
  match layout.high with
  | none => true
  | some high => layout.low < point && point ≤ high

/-- The text of `digits · 10 ^ exponent`. -/
def magnitude (layout : DecimalLayout) (digits : List Char) (exponent : Int) : List Char :=
  let point : Int := digits.length + exponent
  if layout.writesOut point then
    if 0 ≤ exponent then
      digits ++ List.replicate exponent.toNat '0' ++ (if layout.pointed then ".0".toList else [])
    else if 0 < point then
      digits.take point.toNat ++ '.' :: digits.drop point.toNat
    else
      "0.".toList ++ List.replicate (-point).toNat '0' ++ digits
  else
    let power := point - 1
    let mantissa :=
      match digits with
      | [] => []
      | [d] => [d]
      | d :: rest => d :: '.' :: rest
    mantissa ++ 'e' :: (if power < 0 then '-' else '+') :: Digits.ofNat power.natAbs

def ofUnits (layout : DecimalLayout) (units : Nat) : List Char :=
  if units = 0 then layout.magnitude ['0'] 0
  else
    let (digits, exponent) := Double.shortest layout.tie units
    layout.magnitude (Digits.ofNat digits) exponent

def text (layout : DecimalLayout) : Double → List Char
  | .nan => "NaN".toList
  | .infinite negative => if negative then "-inf".toList else "inf".toList
  | .finite negative units _ => (if negative then ['-'] else []) ++ layout.ofUnits units

end DecimalLayout

/-- The shortest text that reads back as the same double, without a power of ten. -/
def Double.plainText (d : Double) : String := String.ofList (DecimalLayout.plain.text d)

end TransitFeed

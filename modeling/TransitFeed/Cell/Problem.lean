import TransitFeed.Number.Double

/-! # Problems with cells

Reading a cell never fails. A cell that cannot be read gives the missing value of its type and one
problem; a value outside its range is kept, with a problem for each bound that was given for a part
of it.
-/

namespace TransitFeed

namespace Cell

/-- Something wrong with a single cell. -/
inductive Problem where
  /-- The cell is no number. -/
  | number
  /-- The cell is no time of day. -/
  | clock
  /-- The cell is no day of the calendar. -/
  | day
  /-- The cell is no absolute URL. -/
  | link
  /-- A number lies outside its inclusive bounds. -/
  | range (low high actual : Double)
  deriving DecidableEq

/-- A value and the problems found while reading it. -/
structure Reading (α : Type) where
  value : α
  problems : List Problem
  deriving DecidableEq

/-- A range of 32-bit integers with both ends. -/
structure WholeRange where
  low : Int32
  high : Int32
  deriving Repr, DecidableEq

namespace WholeRange

def all : WholeRange := ⟨Int32.minValue, Int32.maxValue⟩

def contains (r : WholeRange) (n : Int32) : Bool := r.low ≤ n && n ≤ r.high

/-- The problem with a number outside the range. -/
def problems (r : WholeRange) (n : Int32) : List Problem :=
  if r.contains n then []
  else [.range (.ofInt r.low.toInt) (.ofInt r.high.toInt) (.ofInt n.toInt)]

end WholeRange

/-- A range of doubles with both ends. -/
structure DecimalRange where
  low : Double
  high : Double
  deriving DecidableEq

namespace DecimalRange

def all : DecimalRange := ⟨.greatest true, .greatest false⟩

def contains (r : DecimalRange) (d : Double) : Bool := r.low.le d && d.le r.high

/-- The problem with a number outside the range. -/
def problems (r : DecimalRange) (d : Double) : List Problem :=
  if r.contains d then [] else [.range r.low r.high d]

end DecimalRange

end Cell

end TransitFeed

import TransitFeed.Cell.Clock
import TransitFeed.Cell.Day
import TransitFeed.Cell.Fractional
import TransitFeed.Cell.Link

/-! # Values

A record keeps one value for each column of its table. Every type of value has a missing one, which
is written as an empty cell.
-/

namespace TransitFeed

/-- What a record keeps for a column. -/
inductive Value where
  /-- A text, or the key of a record that is referred to. -/
  | text (text : Option String)
  | whole (number : Int32)
  /-- A time in seconds from midnight. -/
  | clock (seconds : Int32)
  | decimal (number : Double)
  | day (day : Option Day)
  | link (link : Option Link)
  deriving DecidableEq

namespace Value

def cell : Value → String
  | .text t => t.getD ""
  | .whole n => Cell.Whole.text n
  | .clock n => Cell.Clock.text n
  | .decimal d => Cell.Fractional.text d
  | .day d => Cell.DayCell.text d
  | .link l => Cell.LinkCell.text l

/-- The text of a value that is one. -/
def text? : Value → Option (Option String)
  | .text t => some t
  | _ => none

/-- The number of a value that can be a position; a missing one is none. -/
def part? : Value → Option Int32
  | .whole n | .clock n => if n = Cell.Whole.missing then none else some n
  | _ => none

/-- The day of a value that is one. -/
def day? : Value → Option Day
  | .day d => d
  | _ => none

end Value

end TransitFeed

import TransitFeed.Cell.Problem
import TransitFeed.Number.Digits

/-! # Cells with whole numbers

A whole number is a 32-bit integer in decimal digits. The least integer stands for a missing one
and is written as an empty cell.
-/

namespace TransitFeed.Cell.Whole

/-- What stands for a number that is absent or cannot be read. -/
def missing : Int32 := Int32.minValue

/-- The 32-bit integer of a number in its range. -/
def ofInt? (n : Int) : Option Int32 :=
  if Int32.minValue.toInt ≤ n ∧ n ≤ Int32.maxValue.toInt then some (.ofInt n) else none

/-- The 32-bit integer that a text stands for. -/
def parse? (text : List Char) : Option Int32 := (Digits.signed? text).bind ofInt?

/-- The number of a cell that is not empty. -/
def read (range : WholeRange) (cell : String) : Reading Int32 :=
  match parse? cell.toList with
  | some n => ⟨n, range.problems n⟩
  | none => ⟨missing, [.number]⟩

def text (n : Int32) : String :=
  if n = missing then "" else String.ofList (Digits.ofInt n.toInt)

end TransitFeed.Cell.Whole

import TransitFeed.Cell.Problem
import TransitFeed.Number.DoubleText
import TransitFeed.Number.Fixed
import TransitFeed.Text.Blank

/-! # Cells with decimal numbers

A decimal number is a finite double. It is written with seven places: on coordinates the last one
is about a centimetre.
-/

namespace TransitFeed.Cell.Fractional

def places : Nat := 7

/-- The finite double that a text stands for, with white space around it ignored. -/
def parse? (text : List Char) : Option Double :=
  (Double.ofText? (Text.trim text)).filter Double.isFinite

/-- The number of a cell that is not empty. -/
def read (range : DecimalRange) (cell : String) : Reading Double :=
  match parse? cell.toList with
  | some d => ⟨d, range.problems d⟩
  | none => ⟨.nan, [.number]⟩

/-- The cell of a number. What is no number is written as an empty cell. -/
def text (d : Double) : String :=
  if d.isNaN then "" else String.ofList (d.fixedText places)

end TransitFeed.Cell.Fractional

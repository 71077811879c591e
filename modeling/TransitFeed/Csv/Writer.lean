import TransitFeed.Text.Split

/-! # Writing comma-separated values

A record ends with a line feed. A cell stands between quotation marks only if it has to: if it
contains a comma, a quotation mark or a line break, or if it is empty and alone, where the line
would be blank.
-/

namespace TransitFeed.Csv

/-- Whether a character gives a cell quotation marks. -/
def isSpecial (c : Char) : Bool := c = ',' || c = '"' || c = '\n' || c = '\r'

def doubled (cell : List Char) : List Char :=
  cell.flatMap fun c => if c = '"' then ['"', '"'] else [c]

/-- A cell up to the quotation mark that ends it. -/
def openCell (cell : List Char) : List Char :=
  if cell.any isSpecial then '"' :: doubled cell else cell

def cellText (cell : List Char) : List Char :=
  if cell.any isSpecial then openCell cell ++ ['"'] else cell

/-- The cells of a record with commas between them. -/
def row (cells : List (List Char)) : List Char := Text.join [','] (cells.map cellText)

def line (cells : List String) : String :=
  let text := row (cells.map String.toList)
  String.ofList ((if text.isEmpty then ['"', '"'] else text) ++ ['\n'])

/-- A record that has not been ended: its last cell waits for what follows. -/
def openLine (cells : List String) : String :=
  let cells := cells.map String.toList
  let complete := cells.dropLast.flatMap fun cell => cellText cell ++ [',']
  String.ofList (complete ++ (cells.getLast?.elim [] openCell))

end TransitFeed.Csv

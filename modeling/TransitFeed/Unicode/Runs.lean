import TransitFeed.Text.Split

/-! # Tables of characters

A property of characters is given by runs of code points with the same value. A table is written as
a text of words; each word has the distance from the start of the run before, in hexadecimal, and
then the value, which starts with a capital letter.
-/

namespace TransitFeed.Unicode

/-- The starts of the runs in ascending order, each with its value. -/
structure Runs where
  entries : Array (Nat × String)

namespace Runs

/-- The value of a row of hexadecimal digits. -/
def hex (digits : List Char) : Nat :=
  digits.foldl (fun n c => n * 16 + (if c.isDigit then c.toNat - 48 else c.toNat - 87)) 0

/-- The characters of code points in hexadecimal with dots between them. -/
def chars (codes : List Char) : List Char :=
  (Text.split (· = '.') codes).map fun code => Char.ofNat (hex code)

def ofText (text : String) : Runs :=
  let words := Text.split (fun c => c = ' ' || c = '\n') text.toList
  let add (state : Nat × Array (Nat × String)) (word : List Char) :=
    let (distance, value) := word.span fun c => !c.isUpper
    let start := state.1 + hex distance
    (start, state.2.push (start, String.ofList value))
  ⟨(words.foldl add (0, #[])).2⟩

/-- How many runs start at a code point or before it, if between `low` and `high` of them do. -/
def countUpTo (runs : Runs) (code low high : Nat) : Nat :=
  if low < high then
    let middle := (low + high) / 2
    match runs.entries[middle]? with
    | some (start, _) =>
      if start ≤ code then countUpTo runs code (middle + 1) high else countUpTo runs code low middle
    | none => low
  else low
termination_by high - low

/-- The run that a code point is in. -/
def run? (runs : Runs) (code : Nat) : Option (Nat × String) :=
  runs.entries[runs.countUpTo code 0 runs.entries.size - 1]?

def value (runs : Runs) (code : Nat) : String :=
  match runs.run? code with
  | some (_, value) => value
  | none => ""

/-- The value of the run that starts at a code point. -/
def startingAt? (runs : Runs) (code : Nat) : Option String :=
  match runs.run? code with
  | some (start, value) => if start = code then some value else none
  | none => none

end Runs

end TransitFeed.Unicode

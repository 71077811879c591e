import TransitFeed.Cell.Whole
import TransitFeed.Text.Split

/-! # Cells with times of day

A time is written as hours, minutes and seconds with colons between them and counted in seconds
from midnight. A service day goes on after midnight, and some trains run for three days.
-/

namespace TransitFeed.Cell.Clock

/-- The hours of a service day. -/
def hours : WholeRange := ⟨0, 72⟩

/-- The minutes of an hour, and the seconds of a minute. -/
def sixty : WholeRange := ⟨0, 59⟩

/-- The seconds of a time whose parts are known, if they are a 32-bit integer that does not stand
    for a missing time. -/
def total? (h m s : Int32) : Option Int32 :=
  (Whole.ofInt? (3600 * h.toInt + 60 * m.toInt + s.toInt)).filter (· ≠ Whole.missing)

/-- The hours, minutes and seconds of a text. -/
def parts? (text : List Char) : Option (Int32 × Int32 × Int32) :=
  match Text.split (· = ':') text with
  | [h, m, s] => do some (← Whole.parse? h, ← Whole.parse? m, ← Whole.parse? s)
  | _ => none

/-- The time of a cell that is not empty, in seconds. -/
def read (cell : String) : Reading Int32 :=
  match parts? cell.toList with
  | none => ⟨Whole.missing, [.clock]⟩
  | some (h, m, s) =>
    match total? h m s with
    | none => ⟨Whole.missing, [.clock]⟩
    | some total => ⟨total, hours.problems h ++ sixty.problems m ++ sixty.problems s⟩

/-- The cell of a time. Every part has the sign of the whole and is at least two characters wide;
    the hours do not end at 24. -/
def text (seconds : Int32) : String :=
  if seconds = Whole.missing then ""
  else
    let n := seconds.toInt
    let part (k : Int) : List Char := Digits.paddedInt 2 k
    String.ofList (part (n.tdiv 3600) ++ ':' :: part ((n.tmod 3600).tdiv 60) ++
      ':' :: part (n.tmod 60))

end TransitFeed.Cell.Clock

import TransitFeed.Number.Digits

/-! # Progress

A listener is told when the reading of a table begins, with the size of its entry, and how many
octets each read delivers. One listener logs every completed tenth.
-/

namespace TransitFeed

namespace Progress

/-- What a listener is told. -/
inductive Event where
  /-- The reading of `total` octets begins. -/
  | begin (description : String) (total : Nat)
  /-- So many octets were read. -/
  | advance (octets : Nat)
  deriving Repr, DecidableEq

/-- How many octets one read delivers at most. -/
def blockSize : Nat := 8192

/-- The reads that deliver so many octets. -/
def blocks (octets : Nat) : List Nat :=
  if octets = 0 then []
  else if octets ≤ blockSize then [octets]
  else blockSize :: blocks (octets - blockSize)
termination_by octets
decreasing_by simp only [blockSize] at *; omega

/-- How many octets are read until at least so many have been read. -/
def readAhead (octets available : Nat) : Nat :=
  min available ((octets + blockSize - 1) / blockSize * blockSize)

end Progress

/-- The tenths of a task. The numbers are 64-bit words. -/
structure TenthLog where
  task : String := ""
  total : UInt64 := 0
  done : UInt64 := 0
  /-- The last tenth that was logged. -/
  tenth : UInt64 := 0
  deriving Repr, DecidableEq

namespace TenthLog

def begin (task : String) (total : UInt64) : TenthLog := { task, total }

/-- The tenths that are complete; a task of size zero has none. -/
def complete (log : TenthLog) : UInt64 :=
  if log.total = 0 then 0 else min log.done log.total * 10 / log.total

def line (log : TenthLog) (tenth : UInt64) : String :=
  log.task ++ ": " ++ String.ofList (Digits.ofNat (tenth * 10).toNat) ++ "%"

/-- More is done; a line is logged if a new tenth is complete. -/
def advance (log : TenthLog) (units : UInt64) : TenthLog × Option String :=
  let log := { log with done := log.done + units }
  if log.tenth < log.complete then
    ({ log with tenth := log.complete }, some (log.line log.complete))
  else (log, none)

end TenthLog

end TransitFeed

/-! # Settings

What can be chosen for the work on a feed.
-/

namespace TransitFeed

/-- The choices for a session. -/
structure Settings where
  /-- A line is logged every so many rows; 0 stands for never. -/
  milestoneRows : Nat := 500000
  /-- Whether independent tables are loaded at the same time. What is loaded is the same, but the
      order of its diagnostics may differ. -/
  parallel : Bool := true
  /-- Whether tables without records are left out of an archive that is written. -/
  skipEmptyTables : Bool := true
  deriving Repr, DecidableEq

namespace Settings

/-- Whether a line is logged at a row. -/
def isMilestone (s : Settings) (row : Nat) : Bool :=
  0 < s.milestoneRows && row % s.milestoneRows = 0

end Settings

end TransitFeed

import TransitFeed.Diagnostic.Basic
import TransitFeed.Number.Count
import TransitFeed.Session.Pool
import TransitFeed.Session.Progress
import TransitFeed.Session.Settings
import TransitFeed.Session.Sightings

/-! # Sessions

All tables of a feed are loaded and written in one session. It keeps what they share: the settings,
the texts and references seen, the diagnostics, and what a listener and a log are told.
-/

namespace TransitFeed

/-- How important a line of the log is. -/
inductive Level where
  | debug
  | info
  | warn
  | error
  deriving Repr, DecidableEq

namespace Level

def name : Level → String
  | .debug => "DEBUG"
  | .info => "INFO"
  | .warn => "WARN"
  | .error => "ERROR"

end Level

/-- A line of the log. -/
structure LogLine where
  level : Level
  text : String
  deriving Repr, DecidableEq

/-- What the tables of a feed share while they are loaded and written. -/
structure Session where
  settings : Settings := {}
  pool : Pool := {}
  sightings : Sightings := ∅
  /-- In the order in which they were found. -/
  diagnostics : Array Diagnostic := #[]
  log : Array LogLine := #[]
  /-- What the listener was told, if there is one. -/
  progress : Option (Array Progress.Event) := none

namespace Session

def logs (s : Session) (level : Level) (text : String) : Session :=
  { s with log := s.log.push ⟨level, text⟩ }

def report (s : Session) (d : Diagnostic) : Session :=
  { s with diagnostics := s.diagnostics.push d }

/-- Records a diagnostic of a table as a whole. -/
def reportTable (s : Session) (table : String) (kind : Diagnostic.Kind) : Session :=
  s.report ⟨table, 0, none, kind⟩

/-- Records a diagnostic of a row and a column. -/
def reportAt (s : Session) (table : String) (row : Nat) (column : String)
    (kind : Diagnostic.Kind) : Session :=
  s.report ⟨table, row, some column, kind⟩

/-- Makes a text one instance with all equal ones, and gives that instance. -/
def share (s : Session) (text : String) : Nat × Session :=
  let (held, pool) := s.pool.share text
  (held, { s with pool })

/-- The session in which a text has been shared. -/
def intern (s : Session) (text : String) : Session := (s.share text).2

/-- Notes that a key was seen in a column. -/
def sight (s : Session) (column key : String) : Session :=
  { s with sightings := s.sightings.insert ⟨column, key⟩ }

/-- Whether a key was seen in a column. -/
def hasSeen (s : Session) (column key : String) : Bool := s.sightings.contains ⟨column, key⟩

def tell (s : Session) (event : Progress.Event) : Session :=
  { s with progress := s.progress.map (·.push event) }

/-- Logs a row if it is a milestone. -/
def passRow (s : Session) (row : Nat) : Session :=
  if s.settings.isMilestone row then s.logs .info ("record number " ++ Count.text row) else s

end Session

end TransitFeed

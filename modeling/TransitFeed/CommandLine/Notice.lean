import TransitFeed.Fault
import TransitFeed.Session.Basic

/-! # Notices

What a run tells while it goes on, and why it fails.
-/

namespace TransitFeed.CommandLine

/-- What is told. -/
inductive Notice where
  /-- A line of the log of loading or writing. -/
  | detail (line : LogLine)
  | feedsFound (count : Nat)
  | noMatch (pattern : String)
  | kindFound (kind : String) (count : Nat)
  | lacksTables (path : String)
  | reportWritten (path : String)
  | feedDone (path : String) (diagnostics : Nat)
  | feedFailed (path : String) (fault : Fault)
  deriving Repr, DecidableEq

namespace Notice

def number (n : Nat) : String := String.ofList (Digits.ofNat n)

def line : Notice → LogLine
  | .detail line => line
  | .feedsFound count => ⟨.info, number count ++ " feed(s) to process"⟩
  | .noMatch pattern => ⟨.warn, "no files match " ++ pattern⟩
  | .kindFound kind count => ⟨.info, "diagnostics of kind " ++ kind ++ ": " ++ number count⟩
  | .lacksTables path => ⟨.warn, path ++ " is missing required tables"⟩
  | .reportWritten path => ⟨.info, "report → " ++ path⟩
  | .feedDone path diagnostics =>
    ⟨.info, path ++ " done: " ++ number diagnostics ++ " diagnostics"⟩
  | .feedFailed path fault => ⟨.error, path ++ ": " ++ fault.line⟩

end Notice

/-- Why a run fails. -/
inductive Failure where
  | settingsUnreadable (path : String)
  | settingsMalformed (path : String)
  | folderNotCreated (path : String)
  | badPattern (pattern : String)
  | noFeeds
  | feedsFailed (failed total : Nat)
  deriving Repr, DecidableEq

namespace Failure

def message : Failure → String
  | .settingsUnreadable path => "reading config " ++ path
  | .settingsMalformed path => "parsing config " ++ path
  | .folderNotCreated path => "creating " ++ path
  | .badPattern pattern => "Failed to read glob pattern '" ++ pattern ++ "'"
  | .noFeeds => "no feed archives found"
  | .feedsFailed failed total =>
    Notice.number failed ++ " of " ++ Notice.number total ++ " feeds failed"

end Failure

/-- Where notices go. -/
class Noticeboard (m : Type → Type) where
  /-- Tells a notice. -/
  tell : Notice → m Unit

/-- The same place for a program that can fail. -/
instance {ε : Type} {m : Type → Type} [Monad m] [Noticeboard m] : Noticeboard (ExceptT ε m) where
  tell notice := ExceptT.lift (Noticeboard.tell notice)

end TransitFeed.CommandLine

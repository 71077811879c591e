import TransitFeed.Archive.Zip.Reader
import TransitFeed.Feed.Turns
import TransitFeed.Feed.Write

/-! # Examining a feed

All that a run finds out about one feed. It depends on the settings, on the content of the file and
on the turns that its tables take, and on nothing else, in particular not on other feeds.
-/

namespace TransitFeed.CommandLine

/-- What is found out about a feed. -/
structure Examination where
  /-- The feed as far as it was loaded. -/
  feed : Feed
  session : Session
  /-- Why the feed could not be loaded to its end. -/
  fault : Option Fault
  /-- How large the feed is, and what is wrong with it. -/
  report : Report

/-- The feed written anew, with a log of its own. -/
def Examination.copy (e : Examination) : WrittenFeed :=
  e.feed.write [] { e.session with log := #[] }

/-- The archive in a file, or why there is none. A folder can be opened but not read. -/
def openArchive (path : String) : Except FileError Octets → Except Fault Archive
  | .ok content => (Zip.read content).mapError fun cause => ⟨[.directoryOf path], cause⟩
  | .error .isADirectory =>
    .error ⟨[.directoryOf path, .archiveFile .isADirectory], .file .isADirectory⟩
  | .error error => .error ⟨[.openingFile path], .file error⟩

/-- Loads a feed in a session of its own. The schedule says how tables take turns that are loaded
    at the same time. -/
def examine (settings : Settings) (showsProgress : Bool) (path : String)
    (content : Except FileError Octets) (schedule : List FeedTable := []) : Examination :=
  let session : Session := { settings, progress := if showsProgress then some #[] else none }
  let session := session.logs .info ("loading feed " ++ path)
  let loaded := ({} : Feed).loadInTurns (openArchive path content) session schedule
  { feed := loaded.feed
    session := loaded.session
    fault := loaded.fault
    report := ⟨path, loaded.feed.sizes, loaded.session.diagnostics.toList⟩ }

/-- Where the schedules come from. -/
class Scheduler (m : Type → Type) where
  /-- The schedule of the next feed. -/
  schedule : m (List FeedTable)

/-- The same place for a program that can fail. -/
instance {ε : Type} {m : Type → Type} [Monad m] [Scheduler m] : Scheduler (ExceptT ε m) where
  schedule := ExceptT.lift Scheduler.schedule

/-- The lines that tell the progress of each table. -/
def progressLines (session : Session) : List LogLine :=
  let tell (state : TenthLog × List String) : Progress.Event → TenthLog × List String
    | .begin description total =>
      (TenthLog.begin description (UInt64.ofNat total), description :: state.2)
    | .advance octets =>
      let (log, line) := state.1.advance (UInt64.ofNat octets)
      (log, line.toList ++ state.2)
  let (_, lines) := (session.progress.getD #[]).toList.foldl tell ({}, [])
  lines.reverse.map fun text => ⟨.info, text⟩

end TransitFeed.CommandLine

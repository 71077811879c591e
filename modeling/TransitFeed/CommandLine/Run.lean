import TransitFeed.Archive.Zip.Writer
import TransitFeed.CommandLine.Arguments
import TransitFeed.CommandLine.Examination
import TransitFeed.CommandLine.Notice
import TransitFeed.Glob.Search
import TransitFeed.Session.SettingsFile

/-! # A run

A run finds the archives, loads each of them in a session of its own, and writes what is asked for:
the feed anew and a report. A feed that fails does not keep the run from the other ones.
-/

namespace TransitFeed.CommandLine

variable {m : Type → Type} [Monad m] [FileSystem m] [Noticeboard m] [Scheduler m]

/-- The settings of a run. A listener follows one table at a time. -/
def readSettings (options : Options) : ExceptT Failure m Settings := do
  let settings ← match options.settingsFile with
    | none => pure {}
    | some path =>
      match Settings.ofFile (← FileSystem.read path).toOption with
      | .ok settings => pure settings
      | .error .unreadable => throw (.settingsUnreadable path)
      | .error .malformed => throw (.settingsMalformed path)
  if options.isSequential || options.showsProgress then return { settings with parallel := false }
  else return settings

/-- Creates the folders that files are written to. -/
def createFolders : List String → ExceptT Failure m Unit
  | [] => pure ()
  | path :: rest => do
    match ← FileSystem.createFolders path with
    | .ok () => createFolders rest
    | .error _ => throw (.folderNotCreated path)

/-- The paths that match the patterns, for one pattern after the other. -/
def expand : List String → ExceptT Failure m (List String)
  | [] => pure []
  | text :: rest => do
    match Glob.Pattern.ofText? text with
    | none => throw (.badPattern text)
    | some pattern =>
      let found ← pattern.search
      if found.isEmpty then Noticeboard.tell (.noMatch text)
      return found ++ (← expand rest)

def create (path : String) (content : Octets) : ExceptT Fault m Unit := do
  match ← FileSystem.write path content with
  | .ok () => pure ()
  | .error error => throw ⟨[.creatingFile path], .file error⟩

def tellLines : List LogLine → m Unit
  | [] => pure ()
  | line :: rest => do
    Noticeboard.tell (.detail line)
    tellLines rest

/-- Tells how many diagnostics of each kind there are. -/
def tellCounts : List (String × Nat) → m Unit
  | [] => pure ()
  | (kind, count) :: rest => do
    Noticeboard.tell (.kindFound kind count)
    tellCounts rest

/-- Writes a feed anew, if copies are asked for and the feed was loaded to its end. -/
def writeCopy (options : Options) (name : String) (found : Examination) : ExceptT Fault m Unit :=
  match options.outputFolder, found.fault with
  | some folder, none => do
    create (Path.append folder name) (Zip.write found.copy.package.archive)
    tellLines found.copy.session.log.toList
    match found.copy.fault with
    | some fault => throw fault
    | none => pure ()
  | _, _ => pure ()

def tellReport (path : String) (report : Report) : m Unit := do
  tellCounts report.counts.toList
  if report.lacksTables then Noticeboard.tell (.lacksTables path)

/-- Writes a report, if reports are asked for. It is named like the feed. -/
def writeReport (options : Options) (name : String) (report : Report) : ExceptT Fault m Unit :=
  match options.reportFolder with
  | some folder => do
    let path := Path.append folder (Path.stem name ++ ".json")
    create path (Utf8.encode report.text)
    Noticeboard.tell (.reportWritten path)
  | none => pure ()

/-- Tells that a feed is done, or fails with what kept it from being loaded to its end. -/
def conclude (path : String) (found : Examination) : ExceptT Fault m Unit :=
  match found.fault with
  | some fault => throw fault
  | none => Noticeboard.tell (.feedDone path found.report.diagnostics.length)

/-- Tells and writes what was found out about a feed. A feed that is cut short by a fault still gets
    its report. -/
def deliver (options : Options) (path name : String) (found : Examination) :
    ExceptT Fault m Unit := do
  tellLines (found.session.log.toList ++ progressLines found.session)
  writeCopy options name found
  tellReport path found.report
  writeReport options name found.report
  conclude path found

/-- Does what is asked for with one feed. -/
def process (options : Options) (settings : Settings) (path : String) : ExceptT Fault m Unit :=
  match Path.fileName? path with
  | none => throw (.of (.noFileName path))
  | some name => do
    let content ← FileSystem.read path
    deliver options path name
      (examine settings options.showsProgress path content (← Scheduler.schedule))

/-- Does what is asked for with all feeds and counts those that fail. -/
def processAll (options : Options) (settings : Settings) : List String → m Nat
  | [] => pure 0
  | path :: rest => do
    match ← (process options settings path).run with
    | .ok () => processAll options settings rest
    | .error fault =>
      Noticeboard.tell (.feedFailed path fault)
      return (← processAll options settings rest) + 1

/-- Does all that comes before the first feed: reads the settings, creates the folders that files
    are written to, and finds the feeds. -/
def prepare (options : Options) : ExceptT Failure m (Settings × List String) := do
  let settings ← readSettings options
  createFolders (options.outputFolder.toList ++ options.reportFolder.toList)
  let paths ← expand options.inputs
  if paths.isEmpty then throw .noFeeds
  Noticeboard.tell (.feedsFound paths.length)
  return (settings, paths)

def run (options : Options) : ExceptT Failure m Unit := do
  let (settings, paths) ← prepare options
  let failed ← ExceptT.lift (processAll options settings paths)
  if 0 < failed then throw (.feedsFailed failed paths.length)

/-- How a program ends. -/
inductive Outcome where
  | done
  | failed (failure : Failure)
  | refused (refusal : Refusal)
  deriving Repr, DecidableEq

namespace Outcome

def code : Outcome → Nat
  | .done | .refused .help | .refused .version => 0
  | .failed _ => 1
  | .refused (.misused _) => 2

end Outcome

def execute (arguments : List String) : m Outcome := do
  match Options.ofArguments arguments with
  | .error refusal => return .refused refusal
  | .ok options =>
    match ← (run options).run with
    | .ok () => return .done
    | .error failure => return .failed failure

end TransitFeed.CommandLine

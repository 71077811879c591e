import TransitFeed.CommandLine.Run

/-! # The program

Runs on the real files, logs to the standard output and tells its failure on the standard error.
-/

namespace TransitFeed

/-- What an error of the operating system is. -/
def FileError.ofSystem : IO.Error → FileError
  | .noFileOrDirectory .. | .noSuchThing .. => .notFound
  | .alreadyExists .. => .alreadyExists
  | .inappropriateType .. => .isADirectory
  | error => .other (toString error)

/-- Does something with files and keeps its error. -/
def tryFiles {α : Type} (act : IO α) : IO (Except FileError α) := do
  return (← act.toBaseIO).mapError FileError.ofSystem

/-- A path as the operating system takes it. -/
def place (path : String) := (· / path) <$> IO.currentDir

instance : FileSystem IO where
  kind? path := do
    if path = "" then return none
    match ← (do (← place path).metadata).toBaseIO with
    | .error _ => return none
    | .ok data =>
      match data.type with
      | .dir => return some .folder
      | _ => return some .file
  names path := do
    let entries ← (do (← place path).readDir).toBaseIO
    let names := (entries.toOption.getD #[]).map fun entry => entry.fileName
    return (names.qsort fun a b => a < b).toList
  read path := tryFiles do return (← IO.FS.readBinFile (← place path)).toList
  createFolders path := tryFiles do IO.FS.createDirAll (← place path)
  write path content := tryFiles do IO.FS.writeBinFile (← place path) ⟨content.toArray⟩

instance : CommandLine.Noticeboard IO where
  tell notice := do
    let line := notice.line
    unless line.level = .debug do IO.println (line.level.name ++ " " ++ line.text)

/-- Tables are loaded one after the other. -/
instance : CommandLine.Scheduler IO where
  schedule := return []

/-- How the program is used. -/
def usage : String := "Usage: transit-feed [OPTIONS] <INPUTS>...

Loads archives of public transport feeds, reports what is wrong with their data and writes clean
copies of them.

Arguments:
  <INPUTS>...  Archives, or patterns such as feeds/*.zip

Options:
      --config <FILE>        Settings in YAML
      --output-dir <FOLDER>  Where clean copies go
      --report-dir <FOLDER>  Where reports in JSON go
      --progress             Log the progress of each table (implies --sequential)
      --sequential           Load tables one at a time
  -h, --help                 Show this help
  -V, --version              Show the version"

end TransitFeed

open TransitFeed in
/-- The program. -/
def main (arguments : List String) : IO UInt32 := do
  let outcome : CommandLine.Outcome ← CommandLine.execute arguments
  match outcome with
  | .done => pure ()
  | .failed failure => IO.eprintln ("Error: " ++ failure.message)
  | .refused .help => IO.println usage
  | .refused .version => IO.println "transit-feed 1.0"
  | .refused (.misused error) => IO.eprintln ("error: " ++ error.message ++ "\n\n" ++ usage)
  return UInt32.ofNat outcome.code

import TransitFeed.File.Basic
import TransitFeed.Number.Digits

/-! # Faults

A fault ends what is being done: an archive or a file cannot be read or written. It has a cause, and
for each step that was under way a context.
-/

namespace TransitFeed

namespace Fault

/-- Why something cannot be done. -/
inductive Cause where
  /-- A file is no archive. -/
  | notAnArchive (reason : String)
  /-- An archive needs something that is not provided for. -/
  | unsupported (reason : String)
  /-- An archive already has an entry of a name. -/
  | duplicateEntry (name : String)
  /-- An entry is not what it was when it was written. -/
  | invalidChecksum
  /-- A record has not as many cells as the one before. -/
  | unequalRecord (found expected : Nat)
  | file (error : FileError)
  /-- A path ends in no name. -/
  | noFileName (path : String)
  deriving Repr, DecidableEq

namespace Cause

def number (n : Nat) : String := String.ofList (Digits.ofNat n)

def message : Cause → String
  | .notAnArchive reason => "invalid Zip archive: " ++ reason
  | .unsupported reason => "unsupported Zip archive: " ++ reason
  | .duplicateEntry name => "invalid Zip archive: Duplicate filename: " ++ name
  | .invalidChecksum => "Invalid checksum"
  | .unequalRecord found expected =>
    "CSV error: found record with " ++ number found ++ " fields, but the previous record has " ++
      number expected ++ " fields"
  | .file error => error.message
  | .noFileName path => path ++ " has no file name"

def passwordRequired : Cause := .unsupported "Password required to decrypt file"

end Cause

/-- What was being done. -/
inductive Context where
  /-- An archive in memory was being opened. -/
  | directory
  /-- The archive of a file was being opened. -/
  | directoryOf (path : String)
  /-- An error of its file made an archive unreadable. -/
  | archiveFile (error : FileError)
  | openingFile (path : String)
  | openingEntry (table : String)
  | readingEntry (name : String)
  | startOfEntry
  | header
  | row (number : Nat)
  | startingEntry (table : String)
  | creatingFile (path : String)
  deriving Repr, DecidableEq

namespace Context

def message : Context → String
  | .directory => "reading zip directory"
  | .directoryOf path => "reading zip directory of " ++ path
  | .archiveFile error => "i/o error: " ++ error.message
  | .openingFile path => "opening " ++ path
  | .openingEntry table => "opening archive entry for table " ++ table
  | .readingEntry name => "reading " ++ name
  | .startOfEntry => "reading start of entry"
  | .header => "reading header"
  | .row number => "reading row " ++ Cause.number number
  | .startingEntry table => "starting archive entry for " ++ table
  | .creatingFile path => "creating " ++ path

end Context

end Fault

/-- A cause with its contexts, the outermost first. -/
structure Fault where
  contexts : List Fault.Context
  cause : Fault.Cause
  deriving Repr, DecidableEq

namespace Fault

/-- A fault of which nothing is known but its cause. -/
def of (cause : Cause) : Fault := ⟨[], cause⟩

def within (fault : Fault) (context : Context) : Fault :=
  { fault with contexts := context :: fault.contexts }

/-- The messages from the outermost context to the cause. -/
def messages (fault : Fault) : List String :=
  fault.contexts.map Context.message ++ [fault.cause.message]

def line (fault : Fault) : String := String.intercalate ": " fault.messages

end Fault

end TransitFeed

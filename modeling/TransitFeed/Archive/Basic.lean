import TransitFeed.Text.Utf8

/-! # Archives

An archive is a row of named entries. The table `stops` is the entry `stops.txt`, or else the first
entry of that name in a folder.
-/

namespace TransitFeed

/-- Whether the content of an entry can be read. -/
inductive EntryState where
  | intact
  /-- All octets can be read, and then their checksum proves wrong. -/
  | corrupt
  /-- Reading the entry takes a password. -/
  | locked
  deriving Repr, DecidableEq

/-- A file in an archive. -/
structure Entry where
  name : String
  content : Octets
  state : EntryState := .intact
  /-- The length of the content as its archive declares it. -/
  size : Nat := content.length
  deriving Repr, DecidableEq

abbrev Archive := List Entry

namespace Archive

def entry? (archive : Archive) (name : String) : Option Entry :=
  List.find? (fun entry => entry.name = name) archive

/-- Where the entry of a table is. -/
inductive Location where
  /-- Under its own name. -/
  | top (entry : Entry)
  /-- In a folder, whose name ends in a slash. -/
  | nested (folder : String) (entry : Entry)
  deriving Repr, DecidableEq

/-- The name of a folder that holds a file, if the name of an entry says so. -/
def folder? (fileName entryName : String) : Option String :=
  let suffix := '/' :: fileName.toList
  let name := entryName.toList
  if suffix.isSuffixOf name then
    some (String.ofList (name.take (name.length - fileName.toList.length)))
  else none

def locate? (archive : Archive) (table : String) : Option Location :=
  let fileName := table ++ ".txt"
  match archive.entry? fileName with
  | some entry => some (.top entry)
  | none => archive.findSome? fun entry =>
      (folder? fileName entry.name).map fun folder => .nested folder entry

end Archive

end TransitFeed

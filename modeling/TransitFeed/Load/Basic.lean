import TransitFeed.Archive.Basic
import TransitFeed.Fault
import TransitFeed.Load.Row

/-! # Loading a table

The entry of a table is located, its header is read, and then one row after the other. A fault ends
the load; the rows read before it are kept.
-/

namespace TransitFeed

/-- What a load leaves. -/
structure Loaded where
  session : Session
  table : Table
  fault : Option Fault := none
  /-- The instances of the texts of the records that were read. -/
  instances : Instances := ∅

namespace Scan

/-- The scan after all rows. -/
def rows (schema : Schema) (header : Csv.Record) (scan : Scan) (rows : List Csv.Record) : Scan :=
  rows.foldl (Scan.step schema (Field.layout schema header)) scan

/-- What is left when the content has ended. -/
def complete (schema : Schema) (scan : Scan) : Loaded :=
  let session :=
    if scan.row = 0 then scan.session.reportTable schema.name .emptyTable else scan.session
  let session := session.logs .info <|
    "read " ++ Count.text scan.row ++ " rows from " ++ schema.name ++ ", kept " ++
      Count.text scan.table.size
  { session, table := scan.table, instances := scan.held.records }

/-- What is left when the content breaks off. -/
def broken (scan : Scan) (entry : Entry) (contexts : List Fault.Context) : Loaded :=
  let session := scan.session.logs .warn <|
    entry.name ++ " failed after " ++ Count.text scan.row ++ " rows, keeping " ++
      Count.text scan.table.size ++ " records"
  { session
    table := scan.table
    fault := some ⟨.readingEntry entry.name :: contexts, .invalidChecksum⟩
    instances := scan.held.records }

end Scan

namespace Entry

/-- The content without a byte order mark in front. -/
def body (entry : Entry) : Octets := Utf8.withoutMark entry.content

/-- The records that can be read. The end of a corrupt entry is never reached, so its last record
    has to end with a line break. -/
def records (entry : Entry) : List Csv.Record :=
  if entry.state = .intact then Csv.records entry.body else Csv.terminated entry.body

def isBlankHeader (header : Csv.Record) : Bool := header.all List.isEmpty

/-- How many octets are read. After a header without names nothing more is read. -/
def lengthRead (entry : Entry) : Nat :=
  let all := entry.content.length
  match entry.records with
  | header :: _ =>
    if isBlankHeader header then
      let body := Utf8.withoutMark entry.body
      match Csv.Reader.initial.lengthToRecord body with
      | some n => Progress.readAhead (all - body.length + n) all
      | none => all
    else all
  | [] => all

end Entry

namespace Session

/-- Tells the listener of an entry that is read. -/
def tellReading (s : Session) (entry : Entry) : Session :=
  let begun := s.tell (.begin ("Loading table " ++ entry.name) entry.size)
  (Progress.blocks entry.lengthRead).foldl (fun s octets => s.tell (.advance octets)) begun

end Session

namespace Schema

def readEntry (schema : Schema) (entry : Entry) (table : Table) (session : Session) : Loaded :=
  let scan : Scan := { session := session.tellReading entry, table }
  match entry.records with
  | [] =>
    if entry.state = .intact then
      { session := scan.session.reportTable schema.name .emptyTable, table }
    else if entry.content.isEmpty then scan.broken entry [.startOfEntry]
    else scan.broken entry [.header]
  | header :: records =>
    if Entry.isBlankHeader header then
      { session := scan.session.reportTable schema.name .emptyTable, table }
    else
      let begun := { scan with session := scan.session.logs .debug "parsed header" }
      let scan := begun.rows schema header records
      if entry.state = .intact then scan.complete schema
      else scan.broken entry [.row (scan.row + 1)]

def openEntry (schema : Schema) (entry : Entry) (table : Table) (session : Session) : Loaded :=
  if entry.state = .locked then
    { session, table, fault := some ⟨[.openingEntry schema.name], .passwordRequired⟩ }
  else
    schema.readEntry entry table (session.logs .info ("loading table " ++ schema.name))

/-- Loads a table from an archive: its records are added to those that the table has. -/
def load (schema : Schema) (archive : Archive) (table : Table) (session : Session) : Loaded :=
  match archive.locate? schema.name with
  | some (.top entry) => schema.openEntry entry table session
  | some (.nested folder entry) =>
    let session := session.logs .warn ("table " ++ schema.name ++ " found in a subdirectory")
    let session := session.reportTable schema.name (.tableInSubdirectory folder)
    schema.openEntry entry table session
  | none =>
    if schema.required then { session := session.reportTable schema.name .missingTable, table }
    else
      { session := session.logs .info <|
          "table " ++ schema.name ++ " was missing but it is not required"
        table }

end Schema

end TransitFeed

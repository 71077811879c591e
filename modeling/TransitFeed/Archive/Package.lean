import TransitFeed.Archive.Basic
import TransitFeed.Csv.Writer
import TransitFeed.Fault
import TransitFeed.Session.Basic
import TransitFeed.Table.Value

/-! # Writing tables

A table is written into an archive as one entry: a header and a line for each record. Names in an
archive are distinct. A record that has not as many cells as the header is a fault; what was
written before it stays.
-/

namespace TransitFeed

/-- An entry that was written. -/
structure Sheet where
  name : String
  text : String
  deriving Repr, DecidableEq

/-- An archive that is being written, with its entries in order. -/
abbrev Package := List Sheet

namespace Package

/-- Whether there is an entry of a name. -/
def hasName (package : Package) (name : String) : Bool :=
  List.any package fun sheet => sheet.name = name

/-- The archive that is read from what was written. -/
def archive (package : Package) : Archive :=
  package.map fun sheet => { name := sheet.name, content := Utf8.encode sheet.text }

end Package

/-- A table that is being written. -/
structure Writing where
  session : Session
  text : String
  /-- How many records have been begun. -/
  row : Nat := 0
  fault : Option Fault := none

namespace Writing

/-- Writes the records up to the first one that has not `width` cells. -/
def rows (width : Nat) (w : Writing) : List (List Value) → Writing
  | [] => w
  | values :: rest =>
    let row := w.row + 1
    let session := w.session.passRow row
    let cells := values.map Value.cell
    if cells.length = width then
      rows width { session, row, text := w.text ++ Csv.line cells } rest
    else
      { session, row
        text := w.text ++ Csv.openLine cells
        fault := some (.of (.unequalRecord cells.length width)) }

end Writing

/-- What a write leaves. -/
structure Written where
  session : Session
  package : Package
  /-- How many records were begun. -/
  rows : Nat
  fault : Option Fault

namespace Package

/-- Writes a table with the given columns and records. -/
def write (package : Package) (table : String) (columns : List String)
    (records : List (List Value)) (session : Session) : Written :=
  let session := session.logs .info ("writing table " ++ table)
  let name := table ++ ".txt"
  if package.hasName name then
    { session, package, rows := 0
      fault := some ⟨[.startingEntry table], .duplicateEntry name⟩ }
  else
    let begun : Writing := { session, text := Csv.line columns }
    let done := begun.rows columns.length records
    let session :=
      if done.fault.isNone then
        done.session.logs .info ("wrote " ++ Count.text done.row ++ " rows")
      else done.session
    { session, package := package ++ [⟨name, done.text⟩], rows := done.row, fault := done.fault }

end Package

end TransitFeed

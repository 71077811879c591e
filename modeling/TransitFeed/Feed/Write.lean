import TransitFeed.Archive.Package
import TransitFeed.Feed.Schemas

/-! # Writing a feed

The tables are written one after the other, each with its records in the order of their rows.
-/

namespace TransitFeed

namespace Feed

def writeTable (feed : Feed) (which : FeedTable) (package : Package) (session : Session) :
    Written :=
  package.write which.name (feed.schema which).columnNames
    ((feed.get which).byRow.map fun (_, record) => record.values) session

end Feed

/-- A feed that is being written. -/
structure WrittenFeed where
  session : Session
  package : Package
  /-- How many records of each table were written. -/
  rows : Counts := ∅
  fault : Option Fault := none

namespace WrittenFeed

/-- Writes the next table. After a fault nothing more is written. -/
def table (feed : Feed) (w : WrittenFeed) (which : FeedTable) : WrittenFeed :=
  if w.fault.isSome then w
  else if (feed.get which).isEmpty && w.session.settings.skipEmptyTables then
    { w with session := w.session.logs .debug ("skipping empty table " ++ which.name) }
  else
    let written := feed.writeTable which w.package w.session
    { session := written.session
      package := written.package
      rows := if written.fault.isNone then w.rows.insert which.name written.rows else w.rows
      fault := written.fault }

end WrittenFeed

/-- Writes all tables of a feed into an archive. Empty ones are left out if the settings say so. -/
def Feed.write (feed : Feed) (package : Package) (session : Session) : WrittenFeed :=
  FeedTable.all.foldl (WrittenFeed.table feed) { session, package }

end TransitFeed

import TransitFeed.Feed.Schemas
import TransitFeed.Load.Basic

/-! # Loading a feed

Tables are loaded in stages: a table with references is read once the tables that it refers to are
complete. All tables of a stage are loaded even if one of them meets a fault; then the load ends
there.
-/

namespace TransitFeed

/-- A feed that is being loaded. -/
structure LoadedFeed where
  feed : Feed
  session : Session
  fault : Option Fault := none

namespace LoadedFeed

/-- Loads one table. The first fault of a load is the one that counts. An archive that cannot be
    opened is such a fault. -/
def table (archive : Except Fault Archive) (l : LoadedFeed) (which : FeedTable) : LoadedFeed :=
  match archive with
  | .error fault => { l with fault := l.fault.or (some fault) }
  | .ok archive =>
    let loaded := (l.feed.schema which).load archive (l.feed.get which) l.session
    { feed := l.feed.set which loaded.table
      session := loaded.session
      fault := l.fault.or loaded.fault }

/-- Loads the tables of a stage, unless an earlier stage met a fault. -/
def stage (archive : Except Fault Archive) (l : LoadedFeed) (tables : List FeedTable) :
    LoadedFeed :=
  if l.fault.isSome then l else tables.foldl (table archive) l

/-- Logs what a load without a fault has found. -/
def complete (l : LoadedFeed) : LoadedFeed :=
  if l.fault.isSome then l
  else
    let count (n : Nat) : String := String.ofList (Digits.ofNat n)
    let line :=
      "loaded feed: " ++ count l.feed.stops.size ++ " stops, " ++ count l.feed.trips.size ++
        " trips, " ++ count l.feed.stopTimes.size ++ " stop times, " ++
        count l.session.diagnostics.size ++ " diagnostics"
    { l with session := l.session.logs .info line }

end LoadedFeed

/-- The stages of a load. No table refers to a table of its own stage or of a later one. -/
def FeedTable.stages : List (List FeedTable) :=
  [[.agency, .stops, .calendar, .calendarDates, .shapes, .feedInfo], [.routes], [.trips],
    [.stopTimes, .frequencies]]

/-- Loads all tables of a feed from an archive, or from what could not be opened. The records are
    added to those that the feed has. -/
def Feed.load (feed : Feed) (archive : Except Fault Archive) (session : Session) : LoadedFeed :=
  (FeedTable.stages.foldl (LoadedFeed.stage archive) { feed, session }).complete

end TransitFeed

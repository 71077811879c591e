import TransitFeed.Diagnostic.Report
import TransitFeed.Table.Schema

/-! # Feeds

A feed of public transport has ten tables. Some of them refer to others: routes to agencies, trips
to routes, and times and frequencies to trips and stops.
-/

namespace TransitFeed

/-- A table of a feed. -/
inductive FeedTable where
  | agency
  | stops
  | routes
  | trips
  | stopTimes
  | calendar
  | calendarDates
  | shapes
  | frequencies
  | feedInfo
  deriving Repr, DecidableEq

namespace FeedTable

/-- All tables, in the order in which they are written. -/
def all : List FeedTable :=
  [.agency, .stops, .routes, .trips, .stopTimes, .calendar, .calendarDates, .shapes, .frequencies,
    .feedInfo]

/-- The name of a table, which is the name of its entry without `.txt`. -/
def name : FeedTable → String
  | .agency => "agency"
  | .stops => "stops"
  | .routes => "routes"
  | .trips => "trips"
  | .stopTimes => "stop_times"
  | .calendar => "calendar"
  | .calendarDates => "calendar_dates"
  | .shapes => "shapes"
  | .frequencies => "frequencies"
  | .feedInfo => "feed_info"

end FeedTable

/-- The tables of one feed. -/
structure Feed where
  agency : Table := ⟨FeedTable.agency.name, ∅⟩
  stops : Table := ⟨FeedTable.stops.name, ∅⟩
  routes : Table := ⟨FeedTable.routes.name, ∅⟩
  trips : Table := ⟨FeedTable.trips.name, ∅⟩
  stopTimes : Table := ⟨FeedTable.stopTimes.name, ∅⟩
  calendar : Table := ⟨FeedTable.calendar.name, ∅⟩
  calendarDates : Table := ⟨FeedTable.calendarDates.name, ∅⟩
  shapes : Table := ⟨FeedTable.shapes.name, ∅⟩
  frequencies : Table := ⟨FeedTable.frequencies.name, ∅⟩
  feedInfo : Table := ⟨FeedTable.feedInfo.name, ∅⟩

namespace Feed

/-- A table of the feed. -/
def get (f : Feed) : FeedTable → Table
  | .agency => f.agency
  | .stops => f.stops
  | .routes => f.routes
  | .trips => f.trips
  | .stopTimes => f.stopTimes
  | .calendar => f.calendar
  | .calendarDates => f.calendarDates
  | .shapes => f.shapes
  | .frequencies => f.frequencies
  | .feedInfo => f.feedInfo

/-- The feed with one table in place of another. -/
def set (f : Feed) (which : FeedTable) (table : Table) : Feed :=
  match which with
  | .agency => { f with agency := table }
  | .stops => { f with stops := table }
  | .routes => { f with routes := table }
  | .trips => { f with trips := table }
  | .stopTimes => { f with stopTimes := table }
  | .calendar => { f with calendar := table }
  | .calendarDates => { f with calendarDates := table }
  | .shapes => { f with shapes := table }
  | .frequencies => { f with frequencies := table }
  | .feedInfo => { f with feedInfo := table }

@[simp] theorem get_set_self (f : Feed) (which : FeedTable) (table : Table) :
    (f.set which table).get which = table := by
  cases which <;> rfl

theorem get_set_of_ne (f : Feed) {which other : FeedTable} (table : Table) (h : which ≠ other) :
    (f.set which table).get other = f.get other := by
  cases which <;> cases other <;> first | rfl | exact absurd rfl h

def sizes (f : Feed) : Counts :=
  FeedTable.all.foldl (fun counts which => counts.insert which.name (f.get which).size) ∅

end Feed

end TransitFeed

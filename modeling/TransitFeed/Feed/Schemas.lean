import TransitFeed.Feed.Basic

/-! # The schemas of a feed

The columns of the ten tables in the order in which they are read and written.
-/

namespace TransitFeed

namespace Column

def text (name : String) (required : Bool) : Column := ⟨name, .text, required⟩

/-- A column of whole numbers; an empty cell is a missing number. -/
def whole (name : String) (required : Bool) (low high : Int32) : Column :=
  ⟨name, .whole ⟨low, high⟩ Cell.Whole.missing, required⟩

/-- A column of whole numbers in which an empty cell stands for zero. -/
def wholeOrZero (name : String) (high : Int32) : Column := ⟨name, .whole ⟨0, high⟩ 0, false⟩

/-- A column of degrees on both sides of zero. -/
def degrees (name : String) (limit : Int) : Column :=
  ⟨name, .decimal ⟨.ofInt (-limit), .ofInt limit⟩, true⟩

def distance (name : String) : Column := ⟨name, .decimal ⟨.zero false, .greatest false⟩, false⟩

def clock (name : String) (required : Bool) : Column := ⟨name, .clock, required⟩

def day (name : String) (required : Bool) : Column := ⟨name, .day, required⟩

def link (name : String) (required : Bool) : Column := ⟨name, .link, required⟩

def reference (name : String) (required : Bool) (target : Table) : Column :=
  ⟨name, .reference target, required⟩

end Column

namespace Schema

/-- Who runs the services. A feed with a single agency may leave its identifier out. -/
def agency : Schema where
  name := FeedTable.agency.name
  required := true
  identity := .namedOrEmpty "agency_id"
  keyLabel := "agency_id"
  columns := [
    .text "agency_id" false,
    .text "agency_name" true,
    .link "agency_url" true,
    .text "agency_timezone" true,
    .text "agency_lang" false,
    .text "agency_phone" false,
    .link "agency_fare_url" false,
    .text "agency_email" false]

/-- Where vehicles stop. Without a type of its own a location is a plain stop. -/
def stops : Schema where
  name := FeedTable.stops.name
  required := true
  identity := .named "stop_id"
  keyLabel := "stop_id"
  columns := [
    .text "stop_id" true,
    .text "stop_code" false,
    .text "stop_name" true,
    .text "stop_desc" false,
    .degrees "stop_lat" 90,
    .degrees "stop_lon" 180,
    .text "zone_id" false,
    .link "stop_url" false,
    .wholeOrZero "location_type" 4,
    .text "parent_station" false,
    .text "stop_timezone" false,
    .whole "wheelchair_boarding" false 0 2]

/-- The lines that passengers know. The types are 0 to 12 and an extended range up to 1702. -/
def routes (agencies : Table) : Schema where
  name := FeedTable.routes.name
  required := true
  identity := .named "route_id"
  keyLabel := "route_id"
  columns := [
    .text "route_id" true,
    .reference "agency_id" false agencies,
    .text "route_short_name" false,
    .text "route_long_name" false,
    .text "route_desc" false,
    .whole "route_type" true 0 1702,
    .link "route_url" false,
    .text "route_color" false,
    .text "route_text_color" false,
    .whole "route_sort_order" false 0 Int32.maxValue]

/-- One journey along a route. Its service may be in either of two tables and is not looked up. -/
def trips (routes : Table) : Schema where
  name := FeedTable.trips.name
  required := true
  identity := .named "trip_id"
  keyLabel := "trip_id"
  columns := [
    .reference "route_id" true routes,
    .text "service_id" true,
    .text "trip_id" true,
    .text "trip_headsign" false,
    .text "trip_short_name" false,
    .whole "direction_id" false 0 1,
    .text "block_id" false,
    .text "shape_id" false,
    .whole "wheelchair_accessible" false 0 2,
    .whole "bikes_allowed" false 0 2]

/-- The visits of trips to stops. Only some of them need times. -/
def stopTimes (trips stops : Table) : Schema where
  name := FeedTable.stopTimes.name
  required := true
  identity := .numbered "trip_id" "stop_sequence"
  keyLabel := "trip_id,stop_sequence"
  columns := [
    .reference "trip_id" true trips,
    .clock "arrival_time" false,
    .clock "departure_time" false,
    .reference "stop_id" true stops,
    .whole "stop_sequence" true 0 Int32.maxValue,
    .text "stop_headsign" false,
    .whole "pickup_type" false 0 3,
    .whole "drop_off_type" false 0 3,
    .distance "shape_dist_traveled",
    .whole "timepoint" false 0 1]

/-- The days of the week on which services run, between two days. -/
def calendar : Schema where
  name := FeedTable.calendar.name
  required := false
  identity := .named "service_id"
  keyLabel := "service_id"
  columns := [
    .text "service_id" true,
    .whole "monday" true 0 1,
    .whole "tuesday" true 0 1,
    .whole "wednesday" true 0 1,
    .whole "thursday" true 0 1,
    .whole "friday" true 0 1,
    .whole "saturday" true 0 1,
    .whole "sunday" true 0 1,
    .day "start_date" true,
    .day "end_date" true]

/-- Single days on which services are added (1) or removed (2). -/
def calendarDates : Schema where
  name := FeedTable.calendarDates.name
  required := false
  identity := .dated "service_id" "date"
  keyLabel := "service_id,date"
  columns := [
    .text "service_id" true,
    .day "date" true,
    .whole "exception_type" true 1 2]

/-- The points of the lines that vehicles follow. -/
def shapes : Schema where
  name := FeedTable.shapes.name
  required := false
  identity := .numbered "shape_id" "shape_pt_sequence"
  keyLabel := "shape_id,shape_pt_sequence"
  columns := [
    .text "shape_id" true,
    .degrees "shape_pt_lat" 90,
    .degrees "shape_pt_lon" 180,
    .whole "shape_pt_sequence" true 0 Int32.maxValue,
    .distance "shape_dist_traveled"]

/-- Trips that run at intervals between two times. Without a word on it the times are not exact. -/
def frequencies (trips : Table) : Schema where
  name := FeedTable.frequencies.name
  required := false
  identity := .numbered "trip_id" "start_time"
  keyLabel := "trip_id,start_time"
  columns := [
    .reference "trip_id" true trips,
    .clock "start_time" true,
    .clock "end_time" true,
    .whole "headway_secs" true 1 86400,
    .wholeOrZero "exact_times" 1]

/-- Who publishes the feed. -/
def feedInfo : Schema where
  name := FeedTable.feedInfo.name
  required := false
  identity := .named "feed_publisher_name"
  keyLabel := "feed_publisher_name"
  columns := [
    .text "feed_publisher_name" true,
    .link "feed_publisher_url" true,
    .text "feed_lang" true,
    .day "feed_start_date" false,
    .day "feed_end_date" false,
    .text "feed_version" false,
    .text "feed_contact_email" false,
    .link "feed_contact_url" false]

end Schema

/-- The schema of a table; references go to the tables that the feed has now. -/
def Feed.schema (f : Feed) : FeedTable → Schema
  | .agency => .agency
  | .stops => .stops
  | .routes => .routes f.agency
  | .trips => .trips f.routes
  | .stopTimes => .stopTimes f.trips f.stops
  | .calendar => .calendar
  | .calendarDates => .calendarDates
  | .shapes => .shapes
  | .frequencies => .frequencies f.trips
  | .feedInfo => .feedInfo

theorem Feed.schema_name (f : Feed) (which : FeedTable) : (f.schema which).name = which.name := by
  cases which <;> rfl

end TransitFeed

import Std.Data.TreeMap.Basic
import TransitFeed.Diagnostic.Basic
import TransitFeed.Json.Basic

/-! # Reports

A report tells how large the tables of a feed are and what is wrong with them. It is written as
JSON, for whoever decides whether a feed is good enough.
-/

namespace TransitFeed

/-- Numbers by name, in the order of the names. -/
abbrev Counts := Std.TreeMap String Nat

namespace Counts

def increment (counts : Counts) (name : String) : Counts :=
  counts.insert name (counts.getD name 0 + 1)

def json (counts : Counts) : Json :=
  .object (counts.toList.map fun (name, n) => (name, .count n))

end Counts

namespace Diagnostic

/-- How many diagnostics there are of each kind. -/
def tally (diagnostics : List Diagnostic) : Counts :=
  diagnostics.foldl (fun counts d => counts.increment d.kind.name) ∅

/-- What a kind adds to the members of a diagnostic. -/
def Kind.members : Kind → List (String × Json)
  | .tableInSubdirectory folder => [("prefix", .text folder)]
  | .cell (.range low high actual) =>
    [("min", .double low), ("max", .double high), ("actual", .double actual)]
  | .duplicateKey key | .referentialIntegrity key => [("key", .text key)]
  | _ => []

def json (d : Diagnostic) : Json :=
  .object ([("table", .text d.table), ("row", .count d.row)] ++
    (d.column.toList.map fun column => ("column", .text column)) ++
    ("kind", .text d.kind.tag) :: d.kind.members)

def jsonText (d : Diagnostic) : String := String.ofList d.json.compact

end Diagnostic

/-- What a load found. -/
structure Report where
  feed : String
  tables : Counts
  diagnostics : List Diagnostic

namespace Report

/-- How many diagnostics there are of each kind. -/
def counts (r : Report) : Counts := Diagnostic.tally r.diagnostics

/-- Whether a required table was not there at all. -/
def lacksTables (r : Report) : Bool := r.diagnostics.any fun d => d.kind = .missingTable

def json (r : Report) : Json :=
  .object [
    ("feed", .text r.feed),
    ("tables", r.tables.json),
    ("counts_by_kind", r.counts.json),
    ("diagnostics", .array (r.diagnostics.map Diagnostic.json))]

def text (r : Report) : String := String.ofList (r.json.pretty 0)

end Report

end TransitFeed

import Std.Data.TreeMap.Basic
import TransitFeed.Table.Key
import TransitFeed.Table.Value

/-! # Tables

A table keeps one record under each key. Its records are put in order by the rows they were read
from; records of the same row, which come from different archives, by the texts of their keys.
-/

namespace TransitFeed

/-- One row of a table. -/
structure Record where
  /-- The number of the row that the record was read from; the header is not counted. -/
  row : Nat
  /-- One value for each column. -/
  values : List Value
  deriving DecidableEq

/-- Records by their keys. -/
structure Table where
  name : String
  records : Std.TreeMap Key Record := ∅

namespace Table

def size (t : Table) : Nat := t.records.size

def isEmpty (t : Table) : Bool := t.records.isEmpty

def get? (t : Table) (key : Key) : Option Record := t.records.get? key

/-- Whether there is a record under a key. -/
def contains (t : Table) (key : Key) : Bool := t.records.contains key

/-- The table in which a record is under a key; a record that was there before is gone. -/
def insert (t : Table) (key : Key) (record : Record) : Table :=
  { t with records := t.records.insert key record }

def keys (t : Table) : List Key := t.records.keys

end Table

/-- Where a record stands among the others. -/
structure RowPlace where
  row : Nat
  key : Key

namespace RowPlace

def text (p : RowPlace) : String := p.key.text

/-- By row, then by the text of the key. -/
instance : Ord RowPlace :=
  ⟨compareLex (compareOn row) (compareLex (compareOn text) (compareOn key))⟩

instance : Std.TransOrd RowPlace := inferInstanceAs (Std.TransCmp (compareLex _ _))

instance : Std.LawfulEqOrd RowPlace where
  eq_of_compare {a b} h := by
    obtain ⟨hr, h⟩ := compareLex_eq_eq.1 h
    obtain ⟨_, hk⟩ := compareLex_eq_eq.1 h
    cases a
    cases b
    exact congr (congrArg RowPlace.mk (Std.LawfulEqCmp.eq_of_compare hr))
      (Std.LawfulEqCmp.eq_of_compare hk)

end RowPlace

namespace Table

def places (t : Table) : Std.TreeMap RowPlace Record :=
  t.records.foldl (fun places key record => places.insert ⟨record.row, key⟩ record) ∅

/-- The records in the order of their rows, with their keys. -/
def byRow (t : Table) : List (Key × Record) :=
  t.places.toList.map fun (place, record) => (place.key, record)

end Table

end TransitFeed

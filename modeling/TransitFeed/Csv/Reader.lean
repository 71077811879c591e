import TransitFeed.Text.Utf8

/-! # Reading comma-separated values

A record is a row of cells with commas between them and ends with a line feed or a carriage return.
A cell may stand between quotation marks; then commas and line breaks belong to it, and two
quotation marks stand for one. Blank lines are no records. The octets are read one by one.
-/

namespace TransitFeed.Csv

abbrev Record := List Octets

/-- Where in a record the next octet is. -/
inductive Place where
  /-- Before the record. -/
  | recordStart
  /-- Before a cell. -/
  | cellStart
  /-- In a cell that does not start with a quotation mark. -/
  | bare
  /-- Between quotation marks. -/
  | quoted
  /-- After a quotation mark that ends the quoted part or is the first of two. -/
  | quoteSeen
  deriving Repr, DecidableEq

/-- What an octet means outside quotation marks. -/
inductive Sign where
  | comma
  | lineBreak
  | quote
  | plain
  deriving Repr, DecidableEq

def Sign.of (octet : UInt8) : Sign :=
  if octet = 44 then .comma
  else if octet = 10 ∨ octet = 13 then .lineBreak
  else if octet = 34 then .quote
  else .plain

/-- What has been read. All rows are kept backwards. -/
structure Reader where
  place : Place
  /-- The octets of the cell that is being read. -/
  cell : Octets
  /-- The complete cells of the record that is being read. -/
  cells : List Octets
  /-- The complete records. -/
  records : List Record
  deriving Repr, DecidableEq

namespace Reader

/-- Before the first octet. -/
def initial : Reader := ⟨.recordStart, [], [], []⟩

def keep (r : Reader) (place : Place) (octet : UInt8) : Reader :=
  { r with place, cell := octet :: r.cell }

def endCell (r : Reader) : Reader :=
  { r with place := .cellStart, cell := [], cells := r.cell.reverse :: r.cells }

def endRecord (r : Reader) : Reader :=
  { place := .recordStart, cell := [], cells := [],
    records := (r.cell.reverse :: r.cells).reverse :: r.records }

def step (r : Reader) (octet : UInt8) : Reader :=
  match r.place, Sign.of octet with
  | .recordStart, .lineBreak => r
  | .recordStart, .quote | .cellStart, .quote => { r with place := .quoted }
  | .quoted, .quote => { r with place := .quoteSeen }
  | .quoted, _ => r.keep .quoted octet
  | .quoteSeen, .quote => r.keep .quoted octet
  | .bare, .quote => r.keep .bare octet
  | _, .comma => r.endCell
  | _, .lineBreak => r.endRecord
  | _, .plain => r.keep .bare octet

/-- The content has ended: a record without a line break ends here. -/
def finish (r : Reader) : Reader := if r.place = .recordStart then r else r.endRecord

/-- How many octets are read until the first record is complete, if it ends with a line break. -/
def lengthToRecord (r : Reader) : Octets → Option Nat
  | [] => none
  | octet :: rest =>
    let next := r.step octet
    if next.records.isEmpty then (next.lengthToRecord rest).map (· + 1) else some 1

end Reader

/-- The reader after all octets. A byte order mark in front is skipped. -/
def scan (content : Octets) : Reader := (Utf8.withoutMark content).foldl Reader.step Reader.initial

/-- The records that end with a line break. -/
def terminated (content : Octets) : List Record := (scan content).records.reverse

/-- The records; the last one may end with the content. -/
def records (content : Octets) : List Record := (scan content).finish.records.reverse

end TransitFeed.Csv

import TransitFeed.Csv.Reader
import TransitFeed.Session.Basic
import TransitFeed.Table.Schema

/-! # Reading a row

The values of a record depend on the header and the cells alone. What the session is told of a cell
is a second thing: problems are recorded, texts are pooled and references are checked.
-/

namespace TransitFeed

/-- What a row has for a column. -/
inductive Presence where
  /-- The header does not name the column. -/
  | absent
  /-- The cell is empty, or the row ends before it. -/
  | empty
  /-- The cell has a text. -/
  | present (text : String)
  deriving Repr, DecidableEq

namespace Presence

/-- What a row has at a position of the header. -/
def ofCell (cells : Csv.Record) (position : Option Nat) : Presence :=
  match position with
  | none => .absent
  | some i =>
    match cells[i]? with
    | none | some [] => .empty
    | some octets => .present (Utf8.decode octets)

end Presence

namespace ColumnKind

/-- The value of what a row has for a column, and the problems with it. -/
def read (kind : ColumnKind) (presence : Presence) : Cell.Reading Value :=
  match kind, presence with
  | .text, .present t | .reference _, .present t => ⟨.text (some t), []⟩
  | .text, _ | .reference _, _ => ⟨.text none, []⟩
  | .whole range _, .present t =>
    let reading := Cell.Whole.read range t
    ⟨.whole reading.value, reading.problems⟩
  | .whole _ fallback, _ => ⟨.whole fallback, []⟩
  | .decimal range, .present t =>
    let reading := Cell.Fractional.read range t
    ⟨.decimal reading.value, reading.problems⟩
  | .decimal _, _ => ⟨.decimal .nan, []⟩
  | .clock, .present t =>
    let reading := Cell.Clock.read t
    ⟨.clock reading.value, reading.problems⟩
  | .clock, _ => ⟨.clock Cell.Whole.missing, []⟩
  | .day, .present t =>
    let reading := Cell.DayCell.read t
    ⟨.day reading.value, reading.problems⟩
  | .day, _ => ⟨.day none, []⟩
  | .link, .present t =>
    let reading := Cell.LinkCell.read t
    ⟨.link reading.value, reading.problems⟩
  | .link, _ => ⟨.link none, []⟩

end ColumnKind

/-- A column with its first position in the header. -/
structure Field where
  column : Column
  position : Option Nat

namespace Field

def headerNames (header : Csv.Record) : List String := header.map Utf8.decode

/-- The columns of a schema in a header. -/
def layout (schema : Schema) (header : Csv.Record) : List Field :=
  let names := headerNames header
  schema.columns.map fun column => ⟨column, names.idxOf? column.name⟩

def presence (f : Field) (cells : Csv.Record) : Presence := .ofCell cells f.position

/-- The value and the problems of the field in a row. -/
def read (f : Field) (cells : Csv.Record) : Cell.Reading Value :=
  f.column.kind.read (f.presence cells)

end Field

def rowValues (layout : List Field) (cells : Csv.Record) : List Value :=
  layout.map fun field => (field.read cells).value

namespace Session

def reportProblems (s : Session) (table : String) (row : Nat) (column : String)
    (problems : List Cell.Problem) : Session :=
  problems.foldl (fun s problem => s.reportAt table row column (.cell problem)) s

/-- Checks a reference the first time that its key is seen in its column. -/
def checkReference (s : Session) (table : String) (row : Nat) (column key : String)
    (target : Table) : Session :=
  let isNew := !s.hasSeen column key
  let s := s.sight column key
  if isNew && !target.contains (.name key) then
    s.reportAt table row column (.referentialIntegrity key)
  else s

/-- What the session is told of a text that was read as a value of a kind. A text that the record
    keeps as a text becomes an instance of the session. -/
def noteText (s : Session) (table : String) (row : Nat) (column : Column) (text : String) :
    Option Nat × Session :=
  match column.kind with
  | .text => (s.share text).map some id
  | .reference target =>
    ((s.checkReference table row column.name text target).share text).map some id
  | _ => (none, s.reportProblems table row column.name (column.kind.read (.present text)).problems)

end Session

/-- The instances of the texts of records, with one or none for each column. -/
abbrev Instances := Std.TreeMap Key (List (Option Nat))

/-- The instances that a scan was given. They stand beside the records: two records are equal if
    their texts are, whatever instances these texts are. -/
structure Holdings where
  /-- Those of the columns of the current row that have been read. -/
  row : List (Option Nat) := []
  /-- Those of the records that were kept. -/
  records : Instances := ∅

namespace Holdings

/-- A row is begun. -/
def next (h : Holdings) : Holdings := { h with row := [] }

/-- A column of the row has been read. -/
def add (h : Holdings) (held : Option Nat) : Holdings := { h with row := h.row ++ [held] }

/-- The record of the row is kept. -/
def keep (h : Holdings) (key : Key) : Holdings := { h with records := h.records.insert key h.row }

end Holdings

/-- A table that is being read. -/
structure Scan where
  session : Session
  table : Table
  /-- How many rows have been read. -/
  row : Nat := 0
  /-- The columns that were reported to be missing. -/
  reported : List String := []
  held : Holdings := {}

namespace Scan

def hold (scan : Scan) (held : Option Nat) : Scan := { scan with held := scan.held.add held }

/-- What the session is told of a field of the current row. -/
def note (schema : Schema) (cells : Csv.Record) (scan : Scan) (field : Field) : Scan :=
  let table := schema.name
  let column := field.column
  match field.presence cells with
  | .absent =>
    if scan.reported.contains column.name then scan.hold none
    else
      { scan.hold none with
        session := scan.session.reportAt table 0 column.name .missingColumn
        reported := column.name :: scan.reported }
  | .empty =>
    if column.required then
      { scan.hold none with
        session := scan.session.reportAt table scan.row column.name .emptyField }
    else scan.hold none
  | .present text =>
    let (held, session) := scan.session.noteText table scan.row column text
    { scan.hold held with session }

/-- Keeps the record of the current row. A record without a key is dropped; one with a key that is
    taken replaces the earlier one. -/
def keep (schema : Schema) (scan : Scan) (values : List Value) : Scan :=
  let report (kind : Diagnostic.Kind) : Session :=
    scan.session.reportAt schema.name scan.row schema.keyLabel kind
  match schema.key? values with
  | none => { scan with session := report .missingKey }
  | some key =>
    { scan with
      table := scan.table.insert key ⟨scan.row, values⟩
      held := scan.held.keep key
      session :=
        if scan.table.contains key then report (.duplicateKey key.text) else scan.session }

def step (schema : Schema) (layout : List Field) (scan : Scan) (cells : Csv.Record) : Scan :=
  let row := scan.row + 1
  let counted := { scan with row, session := scan.session.passRow row, held := scan.held.next }
  let noted := layout.foldl (note schema cells) counted
  noted.keep schema (rowValues layout cells)

end Scan

end TransitFeed

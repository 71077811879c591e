import TransitFeed.Load.Basic

/-! # What a load does with its session

What a load keeps and how it ends depend on the archive and the table alone. The session is told
one thing after the other, and what it is told does not depend on what it was told before. So a
load is a table, a fault and a list of effects, and it may be told apart from its session.
-/

namespace TransitFeed

/-- One thing that a session is told. -/
inductive Effect where
  | log (level : Level) (text : String)
  | tell (event : Progress.Event)
  /-- A row is passed, which is logged if it is a milestone. -/
  | pass (row : Nat)
  | intern (text : String)
  | report (d : Diagnostic)
  /-- A reference is met, and checked if it is new. -/
  | refer (table : String) (row : Nat) (column key : String) (target : Table)

namespace Session

def apply (s : Session) : Effect → Session
  | .log level text => s.logs level text
  | .tell event => s.tell event
  | .pass row => s.passRow row
  | .intern text => s.intern text
  | .report d => s.report d
  | .refer table row column key target => s.checkReference table row column key target

def run (s : Session) (effects : List Effect) : Session := effects.foldl apply s

end Session

/-- What a scan keeps for itself: all but the session. -/
structure Notes where
  table : Table
  row : Nat := 0
  reported : List String := []

namespace Notes

def reportAt (schema : Schema) (n : Notes) (column : String) (kind : Diagnostic.Kind) : Effect :=
  .report ⟨schema.name, n.row, some column, kind⟩

def textEffects (schema : Schema) (n : Notes) (column : Column) (text : String) : List Effect :=
  match column.kind with
  | .text => [.intern text]
  | .reference target => [.refer schema.name n.row column.name text target, .intern text]
  | _ => (column.kind.read (.present text)).problems.map fun problem =>
      n.reportAt schema column.name (.cell problem)

/-- What the session is told of a field of the current row. -/
def fieldEffects (schema : Schema) (cells : Csv.Record) (n : Notes) (field : Field) :
    List Effect :=
  match field.presence cells with
  | .absent =>
    if n.reported.contains field.column.name then []
    else [.report ⟨schema.name, 0, some field.column.name, .missingColumn⟩]
  | .empty =>
    if field.column.required then [n.reportAt schema field.column.name .emptyField] else []
  | .present text => n.textEffects schema field.column text

def afterField (cells : Csv.Record) (n : Notes) (field : Field) : Notes :=
  match field.presence cells with
  | .absent =>
    if n.reported.contains field.column.name then n
    else { n with reported := field.column.name :: n.reported }
  | _ => n

def fieldsEffects (schema : Schema) (cells : Csv.Record) (n : Notes) :
    List Field → List Effect
  | [] => []
  | field :: rest =>
    n.fieldEffects schema cells field ++ (n.afterField cells field).fieldsEffects schema cells rest

def keepEffects (schema : Schema) (n : Notes) (values : List Value) : List Effect :=
  match schema.key? values with
  | none => [n.reportAt schema schema.keyLabel .missingKey]
  | some key =>
    if n.table.contains key then [n.reportAt schema schema.keyLabel (.duplicateKey key.text)]
    else []

def keep (schema : Schema) (n : Notes) (values : List Value) : Notes :=
  match schema.key? values with
  | none => n
  | some key => { n with table := n.table.insert key ⟨n.row, values⟩ }

def next (n : Notes) : Notes := { n with row := n.row + 1 }

/-- What the session is told of one more row. -/
def stepEffects (schema : Schema) (layout : List Field) (n : Notes) (cells : Csv.Record) :
    List Effect :=
  .pass n.next.row :: (n.next.fieldsEffects schema cells layout ++
    (layout.foldl (afterField cells) n.next).keepEffects schema (rowValues layout cells))

def step (schema : Schema) (layout : List Field) (n : Notes) (cells : Csv.Record) : Notes :=
  (layout.foldl (afterField cells) n.next).keep schema (rowValues layout cells)

def rowsEffects (schema : Schema) (layout : List Field) (n : Notes) :
    List Csv.Record → List Effect
  | [] => []
  | cells :: rest =>
    n.stepEffects schema layout cells ++ (n.step schema layout cells).rowsEffects schema layout rest

def rows (schema : Schema) (layout : List Field) (n : Notes) (records : List Csv.Record) : Notes :=
  records.foldl (step schema layout) n

end Notes

namespace Archive

def Location.entry : Location → Entry
  | .top entry => entry
  | .nested _ entry => entry

/-- A header and the records behind it in an entry. -/
structure Source where
  entry : Entry
  header : Csv.Record
  records : List Csv.Record
  deriving Repr, DecidableEq

/-- The rows of a table in an archive, if its entry can be opened and has a header with names. -/
def source? (archive : Archive) (table : String) : Option Source :=
  match archive.locate? table with
  | none => none
  | some location =>
    match location.entry.records with
    | [] => none
    | header :: records =>
      if location.entry.state = .locked ∨ Entry.isBlankHeader header then none
      else some ⟨location.entry, header, records⟩

end Archive

namespace Schema

def reportTable (schema : Schema) (kind : Diagnostic.Kind) : Effect :=
  .report ⟨schema.name, 0, none, kind⟩

def readingEffects (entry : Entry) : List Effect :=
  .tell (.begin ("Loading table " ++ entry.name) entry.size) ::
    (Progress.blocks entry.lengthRead).map fun octets => .tell (.advance octets)

def brokenEffect (entry : Entry) (n : Notes) : Effect :=
  .log .warn (entry.name ++ " failed after " ++ Count.text n.row ++ " rows, keeping " ++
    Count.text n.table.size ++ " records")

def headerEffects (schema : Schema) (entry : Entry) (table : Table) : List Effect :=
  match entry.records with
  | [] => [if entry.state = .intact then schema.reportTable .emptyTable
      else brokenEffect entry { table }]
  | header :: _ =>
    [if Entry.isBlankHeader header then schema.reportTable .emptyTable
      else .log .debug "parsed header"]

def locationEffects (schema : Schema) : Archive.Location → List Effect
  | .top _ => []
  | .nested folder _ =>
    [.log .warn ("table " ++ schema.name ++ " found in a subdirectory"),
      schema.reportTable (.tableInSubdirectory folder)]

/-- What the session is told of a table before its first row. -/
def openEffects (schema : Schema) (archive : Archive) (table : Table) : List Effect :=
  match archive.locate? schema.name with
  | none =>
    [if schema.required then schema.reportTable .missingTable
      else .log .info ("table " ++ schema.name ++ " was missing but it is not required")]
  | some location =>
    schema.locationEffects location ++
      if location.entry.state = .locked then []
      else .log .info ("loading table " ++ schema.name) :: (readingEffects location.entry ++
        schema.headerEffects location.entry table)

def openFault (schema : Schema) (archive : Archive) : Option Fault :=
  (archive.locate? schema.name).bind fun location =>
    if location.entry.state = .locked then some ⟨[.openingEntry schema.name], .passwordRequired⟩
    else if location.entry.records = [] ∧ location.entry.state ≠ .intact then
      some ⟨[.readingEntry location.entry.name,
        if location.entry.content.isEmpty then .startOfEntry else .header], .invalidChecksum⟩
    else none

def closeEffects (schema : Schema) (entry : Entry) (n : Notes) : List Effect :=
  if entry.state = .intact then
    (if n.row = 0 then [schema.reportTable .emptyTable] else []) ++
      [.log .info ("read " ++ Count.text n.row ++ " rows from " ++ schema.name ++ ", kept " ++
        Count.text n.table.size)]
  else [brokenEffect entry n]

def closeFault (entry : Entry) (n : Notes) : Option Fault :=
  if entry.state = .intact then none
  else some ⟨[.readingEntry entry.name, .row (n.row + 1)], .invalidChecksum⟩

def scanned (schema : Schema) (source : Archive.Source) (table : Table) : Notes :=
  ({ table } : Notes).rows schema (Field.layout schema source.header) source.records

/-- The table that a load leaves. -/
def loadTable (schema : Schema) (archive : Archive) (table : Table) : Table :=
  match archive.source? schema.name with
  | none => table
  | some source => (schema.scanned source table).table

def loadFault (schema : Schema) (archive : Archive) (table : Table) : Option Fault :=
  match archive.source? schema.name with
  | none => schema.openFault archive
  | some source => closeFault source.entry (schema.scanned source table)

/-- What the session is told of a load. -/
def loadEffects (schema : Schema) (archive : Archive) (table : Table) : List Effect :=
  schema.openEffects archive table ++
    match archive.source? schema.name with
    | none => []
    | some source =>
      ({ table } : Notes).rowsEffects schema (Field.layout schema source.header) source.records ++
        schema.closeEffects source.entry (schema.scanned source table)

end Schema

end TransitFeed

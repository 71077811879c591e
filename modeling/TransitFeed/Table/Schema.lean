import TransitFeed.Table.Basic

/-! # Schemas

A schema says which columns a table has, how their cells are read, and which of them make the key
of a record. A column of references knows the table that they refer to.
-/

namespace TransitFeed

/-- How the cells of a column are read. -/
inductive ColumnKind where
  | text
  /-- A whole number; `fallback` stands for an empty cell. -/
  | whole (range : Cell.WholeRange) (fallback : Int32)
  | decimal (range : Cell.DecimalRange)
  | clock
  | day
  | link
  /-- The key of a record of another table. -/
  | reference (target : Table)

/-- A column of a table. -/
structure Column where
  name : String
  kind : ColumnKind
  /-- Whether an empty cell is a problem. -/
  required : Bool

/-- Which columns make the key of a record. -/
inductive Identity where
  /-- One column with the identifier. -/
  | named (id : String)
  /-- One column with the identifier; records without one share the empty identifier. -/
  | namedOrEmpty (id : String)
  /-- A column with the identifier and one with a number. Records without a number have no key, or,
      if `orMissing` says so, one with the missing number. -/
  | numbered (id part : String) (orMissing : Bool := false)
  /-- A column with the identifier and one with a day. -/
  | dated (id day : String)
  deriving Repr, DecidableEq

/-- What is known of a table before it is read. -/
structure Schema where
  name : String
  /-- Whether an archive without the table is a problem. -/
  required : Bool
  columns : List Column
  identity : Identity
  /-- What stands for the columns of the key in diagnostics. -/
  keyLabel : String

namespace Schema

def columnNames (s : Schema) : List String := s.columns.map (·.name)

/-- What the last column of a name has among values, if it has what is looked for. -/
def find? {α : Type} (s : Schema) (values : List Value) (name : String)
    (look : Value → Option α) : Option α :=
  ((s.columns.zip values).filterMap fun (column, value) =>
    if column.name = name then look value else none).getLast?

def textOf (s : Schema) (values : List Value) (name : String) : Option String :=
  (s.find? values name Value.text?).join

/-- The key of a record with the given values, if the columns that make it are not empty. -/
def key? (s : Schema) (values : List Value) : Option Key :=
  match s.identity with
  | .named id => (s.textOf values id).map .name
  | .namedOrEmpty id => some (.name ((s.textOf values id).getD ""))
  | .numbered id part orMissing =>
    match s.textOf values id, s.find? values part Value.part? with
    | some id, some part => some (.numbered id part)
    | some id, none => if orMissing then some (.numbered id Cell.Whole.missing) else none
    | none, _ => none
  | .dated id day =>
    match s.textOf values id, s.find? values day Value.day? with
    | some id, some day => some (.dated id day)
    | _, _ => none

/-- Whether records are known by an identifier alone. -/
def isSimple (s : Schema) : Bool :=
  match s.identity with
  | .named _ | .namedOrEmpty _ => true
  | .numbered .. | .dated .. => false

/-- The identifier of a record that is known by it alone. -/
def id? (s : Schema) (values : List Value) : Option String :=
  match s.identity with
  | .named id | .namedOrEmpty id => s.textOf values id
  | .numbered .. | .dated .. => none

/-- The position of a record that is known by one. -/
def position? (s : Schema) (values : List Value) : Option Int32 :=
  match s.identity with
  | .numbered _ part _ => s.find? values part Value.part?
  | .named _ | .namedOrEmpty _ | .dated .. => none

end Schema

end TransitFeed

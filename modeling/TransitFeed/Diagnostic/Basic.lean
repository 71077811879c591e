import TransitFeed.Cell.Problem
import TransitFeed.Number.Shortest
import TransitFeed.Text.Quoted

/-! # Diagnostics

A problem with the data of a feed does not stop a load. It is recorded with its kind and its place:
a table, a row and a column.
-/

namespace TransitFeed

namespace Diagnostic

/-- How far a problem reaches. -/
inductive Tier where
  /-- A whole table. -/
  | structural
  /-- One cell, which is read as a missing value or kept in spite of its bounds. -/
  | field
  /-- One row, whose record is dropped, replaces another one or refers to nothing. -/
  | rowIntegrity
  deriving Repr, DecidableEq

namespace Tier

def name : Tier → String
  | .structural => "structural"
  | .field => "field"
  | .rowIntegrity => "row_integrity"

end Tier

/-- What is wrong. -/
inductive Kind where
  /-- The archive has no entry for a required table. -/
  | missingTable
  /-- The entry of a table lies in a folder. -/
  | tableInSubdirectory (folder : String)
  /-- A table has no rows. -/
  | emptyTable
  /-- The header does not name a column. -/
  | missingColumn
  /-- A required cell is empty. -/
  | emptyField
  /-- A cell cannot be read, or its value is out of bounds. -/
  | cell (problem : Cell.Problem)
  /-- A record has no key and is dropped. -/
  | missingKey
  /-- A record has the key of an earlier one and replaces it. -/
  | duplicateKey (key : String)
  /-- A reference names a key that its target table does not have. -/
  | referentialIntegrity (key : String)
  deriving DecidableEq

namespace Kind

/-- The name of a kind in messages and counts. -/
def name : Kind → String
  | .missingTable => "MissingTableError"
  | .tableInSubdirectory _ => "TableInSubdirectoryError"
  | .emptyTable => "EmptyTableError"
  | .missingColumn => "MissingColumnError"
  | .emptyField => "EmptyFieldError"
  | .cell .number => "NumberParseError"
  | .cell .clock => "TimeParseError"
  | .cell .day => "DateParseError"
  | .cell .link => "URLParseError"
  | .cell (.range ..) => "RangeError"
  | .missingKey => "MissingKeyError"
  | .duplicateKey _ => "DuplicateKeyError"
  | .referentialIntegrity _ => "ReferentialIntegrityError"

def tag : Kind → String
  | .missingTable => "missing_table"
  | .tableInSubdirectory _ => "table_in_subdirectory"
  | .emptyTable => "empty_table"
  | .missingColumn => "missing_column"
  | .emptyField => "empty_field"
  | .cell .number => "number_parse"
  | .cell .clock => "time_parse"
  | .cell .day => "date_parse"
  | .cell .link => "url_parse"
  | .cell (.range ..) => "range"
  | .missingKey => "missing_key"
  | .duplicateKey _ => "duplicate_key"
  | .referentialIntegrity _ => "referential_integrity"

/-- How far a problem of this kind reaches. -/
def tier : Kind → Tier
  | .missingTable | .tableInSubdirectory _ | .emptyTable => .structural
  | .missingColumn | .emptyField | .cell _ => .field
  | .missingKey | .duplicateKey _ | .referentialIntegrity _ => .rowIntegrity

/-- What a message says behind the place. -/
def detail : Kind → String
  | .tableInSubdirectory folder => ": found under " ++ Text.quote folder
  | .cell (.range low high actual) =>
    ": " ++ actual.plainText ++ " outside [" ++ low.plainText ++ ", " ++ high.plainText ++ "]"
  | .duplicateKey key => ": key " ++ Text.quote key ++ " already present"
  | .referentialIntegrity key => ": " ++ Text.quote key ++ " not found"
  | _ => ""

end Kind

end Diagnostic

/-- A problem and its place. Rows are counted from 1 without the header; row 0 stands for the table
    as a whole. -/
structure Diagnostic where
  table : String
  row : Nat
  column : Option String
  kind : Diagnostic.Kind
  deriving DecidableEq

namespace Diagnostic

def message (d : Diagnostic) : String :=
  d.kind.name ++ " in " ++ d.table ++
    (if d.row = 0 then "" else " row " ++ String.ofList (Digits.ofNat d.row)) ++
    (d.column.elim "" fun column => " column " ++ column) ++
    d.kind.detail

end Diagnostic

end TransitFeed

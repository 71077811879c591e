import TransitFeed.Session.Settings
import TransitFeed.Text.Utf8
import TransitFeed.Yaml.Document

/-! # Settings in a file

Settings are written as a mapping in YAML. What is not said keeps its default, and entries that are
no settings mean nothing.
-/

namespace TransitFeed

/-- Why there are no settings in a file. -/
inductive SettingsError where
  /-- There is no such file, or it is no text. -/
  | unreadable
  /-- The text is not in YAML, or a setting has no value of its type. -/
  | malformed
  deriving Repr, DecidableEq

namespace Settings

/-- The settings that were found. -/
structure Found where
  milestoneRows : Option Nat := none
  parallel : Option Bool := none
  skipEmptyTables : Option Bool := none

namespace Found

/-- One more entry. A setting is given once at most. -/
def add? (f : Found) (key value : Yaml.Node) : Option Found := do
  let key ← key.scalar?
  match key.text with
  | "milestone_rows" =>
    if f.milestoneRows.isSome then none
    else some { f with milestoneRows := some (← (← value.scalar?).nat64?) }
  | "parallel" =>
    if f.parallel.isSome then none
    else some { f with parallel := some (← (← value.scalar?).bool?) }
  | "skip_empty_tables" =>
    if f.skipEmptyTables.isSome then none
    else some { f with skipEmptyTables := some (← (← value.scalar?).bool?) }
  | _ => some f

/-- The settings, with defaults for those that were not found. -/
def settings (f : Found) : Settings :=
  let defaults : Settings := {}
  { milestoneRows := f.milestoneRows.getD defaults.milestoneRows
    parallel := f.parallel.getD defaults.parallel
    skipEmptyTables := f.skipEmptyTables.getD defaults.skipEmptyTables }

end Found

/-- The settings that a document gives. A document that is empty gives none. -/
def ofNode? : Option Yaml.Node → Option Settings
  | none => some {}
  | some (.scalar s) => if s.style = .plain ∧ s.text = "" then some {} else none
  | some (.mapping entries) => do
    let found ← entries.foldlM (fun f (key, value) => f.add? key value) ({} : Found)
    some found.settings
  | some _ => none

def ofText? (text : String) : Option Settings := do ofNode? (← Yaml.parse? text)

/-- The settings that the content of a file gives. -/
def ofFile (content : Option Octets) : Except SettingsError Settings :=
  match content.bind Utf8.decode? with
  | none => .error .unreadable
  | some text =>
    match ofText? text with
    | none => .error .malformed
    | some settings => .ok settings

end Settings

end TransitFeed

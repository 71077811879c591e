import TransitFeed.Proofs.Load.Keys
import TransitFeed.Proofs.Session.Past

/-! # The places of diagnostics

What a load reports has its place: before the rows, at a field of a row, at the key of a row, or
behind the rows. Only the reports of fields can be about references.
-/

namespace TransitFeed

namespace Diagnostic

/-- Whether a diagnostic is about a cell of a row, or says that the header lacks the column. -/
structure AtField (table : String) (row : Nat) (column : Column) (d : Diagnostic) : Prop where
  table : d.table = table
  column : d.column = some column.name
  row : d.row = row ∨ d.row = 0 ∧ d.kind = .missingColumn

/-- Whether a diagnostic is about the key of a row. -/
structure AtKey (schema : Schema) (row : Nat) (d : Diagnostic) : Prop where
  table : d.table = schema.name
  column : d.column = some schema.keyLabel
  row : d.row = row
  other : d.dangling? = none

end Diagnostic

/-- The reports of a row: of each field in the order of the columns, and of the key. -/
structure RowReports where
  fields : List (List Diagnostic)
  key : List Diagnostic

def RowReports.inOrder (r : RowReports) : List Diagnostic := r.fields.flatten ++ r.key

structure RowReports.Fits (schema : Schema) (row : Nat) (r : RowReports) : Prop where
  fields : List.Forall₂ (fun column found => ∀ d ∈ found, d.AtField schema.name row column)
    schema.columns r.fields
  key : ∀ d ∈ r.key, d.AtKey schema row

/-- The reports of a load: before the rows, of each of them, and behind them. -/
structure LoadReports where
  opening : List Diagnostic
  rows : List RowReports
  closing : List Diagnostic

def LoadReports.inOrder (r : LoadReports) : List Diagnostic :=
  r.opening ++ r.rows.flatMap RowReports.inOrder ++ r.closing

/-- Whether reports of a load with a number of rows are at their places. -/
structure LoadReports.Fits (schema : Schema) (count : Nat) (r : LoadReports) : Prop where
  opening : ∀ d ∈ r.opening, d.AtTable schema
  count : r.rows.length = count
  rows : ∀ i (row : RowReports), r.rows[i]? = some row → row.Fits schema (i + 1)
  closing : ∀ d ∈ r.closing, d.AtTable schema

namespace Notes

variable {schema : Schema} {cells : Csv.Record} {n : Notes} {s : Session} {d : Diagnostic}

theorem atField_of_mem_reports {field : Field}
    (told : d ∈ s.reports (n.fieldEffects schema cells field)) :
    d.AtField schema.name n.row field.column := by
  rcases Session.mem_reports told with reported | ⟨e, inside, l, looked, rfl⟩
  · have complaint := complaint_of_mem_fieldEffects reported
    unfold Field.Complaint at complaint
    split at complaint
    · rw [complaint]
      exact ⟨rfl, rfl, Or.inr ⟨rfl, rfl⟩⟩
    · rw [complaint]
      exact ⟨rfl, rfl, Or.inl rfl⟩
    · obtain ⟨problem, -, rfl⟩ := complaint
      exact ⟨rfl, rfl, Or.inl rfl⟩
  · have found : l ∈ (n.fieldEffects schema cells field).filterMap Effect.lookup? :=
      List.mem_filterMap.mpr ⟨e, inside, looked⟩
    rw [lookups_fieldEffects, Option.mem_toList] at found
    unfold Field.lookup? at found
    split at found
    · rw [← Option.some.inj found]
      exact ⟨rfl, rfl, Or.inl rfl⟩
    · contradiction

variable (schema cells) in
theorem exists_fields (layout : List Field) (n : Notes) (s : Session) :
    ∃ fields : List (List Diagnostic),
      s.reports (n.fieldsEffects schema cells layout) = fields.flatten ∧
        List.Forall₂ (fun field found => ∀ d ∈ found, d.AtField schema.name n.row field.column)
          layout fields := by
  induction layout generalizing n s with
  | nil => exact ⟨[], rfl, .nil⟩
  | cons field rest ih =>
      obtain ⟨fields, told, placed⟩ := ih (n.afterField cells field)
        (s.run (n.fieldEffects schema cells field))
      rw [afterField_row] at placed
      refine ⟨s.reports (n.fieldEffects schema cells field) :: fields, ?_, .cons ?_ placed⟩
      · rw [fieldsEffects, Session.reports_append, told, List.flatten_cons]
      · exact fun d found => atField_of_mem_reports found

theorem atKey_of_mem_reports {values : List Value}
    (told : d ∈ s.reports (n.keepEffects schema values)) : d.AtKey schema n.row := by
  rcases Session.mem_reports told with reported | ⟨e, inside, l, looked, rfl⟩
  · unfold keepEffects at reported
    split at reported
    · rw [Effect.report.inj (List.mem_singleton.mp reported)]
      exact ⟨rfl, rfl, rfl, rfl⟩
    · split at reported
      · rw [Effect.report.inj (List.mem_singleton.mp reported)]
        exact ⟨rfl, rfl, rfl, rfl⟩
      · contradiction
  · have quiet := Effect.lookup?_of_aside (n.aside_keepEffects schema values e inside)
    rw [quiet] at looked
    contradiction

variable (schema cells) in
theorem exists_row (header : Csv.Record) (n : Notes) (s : Session) :
    ∃ row : RowReports,
      s.reports (n.stepEffects schema (Field.layout schema header) cells) = row.inOrder ∧
        row.Fits schema (n.row + 1) := by
  let layout := Field.layout schema header
  let noted := n.next.fieldsEffects schema cells layout
  let after := layout.foldl (afterField cells) n.next
  let passed := s.apply (.pass n.next.row)
  have counted : after.row = n.row + 1 := foldl_afterField_row cells layout n.next
  obtain ⟨fields, told, placed⟩ := exists_fields schema cells layout n.next
    passed
  refine ⟨⟨fields, (passed.run noted).reports (after.keepEffects schema
    (rowValues layout cells))⟩, ?_, ?_, ?_⟩
  · have steps : s.reports (n.stepEffects schema layout cells) =
        passed.reports (noted ++ after.keepEffects schema (rowValues layout cells)) := rfl
    rw [steps, Session.reports_append, told]
    rfl
  · exact List.forall₂_map_left_iff.mp placed
  · intro d found
    rw [← counted]
    exact atKey_of_mem_reports found

variable (schema) in
theorem exists_rows (header : Csv.Record) (records : List Csv.Record) (n : Notes) (s : Session) :
    ∃ rows : List RowReports,
      s.reports (n.rowsEffects schema (Field.layout schema header) records) =
          rows.flatMap RowReports.inOrder ∧
        rows.length = records.length ∧
          ∀ i (row : RowReports), rows[i]? = some row → row.Fits schema (n.row + i + 1) := by
  induction records generalizing n s with
  | nil => exact ⟨[], rfl, rfl, fun i row at_i => nomatch at_i⟩
  | cons cells rest ih =>
      let layout := Field.layout schema header
      obtain ⟨first, told, fits⟩ := exists_row schema cells header n s
      obtain ⟨rows, later, count, placed⟩ := ih (n.step schema layout cells)
        (s.run (n.stepEffects schema layout cells))
      refine ⟨first :: rows, ?_, ?_, ?_⟩
      · rw [rowsEffects, Session.reports_append, told, later, List.flatMap_cons]
      · rw [List.length_cons, count, List.length_cons]
      · intro i row at_i
        cases i with
        | zero =>
            rw [← Option.some.inj at_i]
            exact fits
        | succ i =>
            have ended := placed i row at_i
            rwa [step_row, show n.row + 1 + i + 1 = n.row + (i + 1) + 1 by omega] at ended

end Notes

namespace Schema

variable {schema : Schema} {s : Session}

theorem atTable_of_mem_reports {effects : List Effect}
    (aside : ∀ e ∈ effects, e.Aside schema.name)
    (about : ∀ d, .report d ∈ effects → d.AtTable schema) :
    ∀ d ∈ s.reports effects, d.AtTable schema := by
  intro d told
  rcases Session.mem_reports told with reported | ⟨e, inside, l, looked, -⟩
  · exact about d reported
  · rw [Effect.lookup?_of_aside (aside e inside)] at looked
    contradiction

variable (schema) in
theorem exists_reports (archive : Archive) (table : Table) (s : Session) :
    ∃ placed : LoadReports, s.reports (schema.loadEffects archive table) = placed.inOrder ∧
      placed.Fits schema (schema.rowsRead archive).length := by
  have opened : ∀ d ∈ s.reports (schema.openEffects archive table), d.AtTable schema :=
    atTable_of_mem_reports (schema.aside_openEffects archive table) fun _ =>
      atTable_of_mem_openEffects
  unfold loadEffects rowsRead
  cases archive.source? schema.name with
  | none =>
      refine ⟨⟨s.reports (schema.openEffects archive table), [], []⟩, ?_, opened, rfl, ?_, ?_⟩
      · simp [LoadReports.inOrder]
      · exact fun i row at_i => nomatch at_i
      · exact fun d found => nomatch found
  | some source =>
      let begun := s.run (schema.openEffects archive table)
      let scanned := ({ table } : Notes).rowsEffects schema (Field.layout schema source.header)
        source.records
      let closing := schema.closeEffects source.entry (schema.scanned source table)
      obtain ⟨rows, told, count, placed⟩ := Notes.exists_rows schema source.header
        source.records { table } begun
      refine ⟨⟨s.reports (schema.openEffects archive table), rows,
        (begun.run scanned).reports closing⟩, ?_, opened, ?_, ?_, ?_⟩
      · unfold LoadReports.inOrder
        rw [← told, Session.reports_append, Session.reports_append, List.append_assoc]
      · rw [count, List.length_map]
      · intro i row at_i
        have fits := placed i row at_i
        rwa [Nat.zero_add] at fits
      · exact atTable_of_mem_reports (schema.aside_closeEffects _ _) fun _ =>
          atTable_of_mem_closeEffects

end Schema

end TransitFeed

import TransitFeed.Proofs.Load.Rows
import TransitFeed.Proofs.Table.Values

/-! # Absent columns and empty cells

The columns that the header does not name are reported once, with the first row, in the order of the
schema. A required cell that is empty is reported in every row. Neither depends on what else is wrong
with a row or on what the session was told of other tables.
-/

namespace TransitFeed

namespace Field

theorem presence_eq_absent (field : Field) (cells : Csv.Record) :
    field.presence cells = .absent ↔ field.position = none := by
  unfold presence Presence.ofCell
  cases field.position with
  | none => simp
  | some i =>
      dsimp only
      split
      · simp
      · simp
      · simp

/-- A row has an empty cell, or none, in a column that must not be empty. -/
def LeftEmpty (cells : Csv.Record) (field : Field) : Prop :=
  field.column.required = true ∧ field.presence cells = .empty

instance (cells : Csv.Record) (field : Field) : Decidable (field.LeftEmpty cells) :=
  inferInstanceAs (Decidable (_ ∧ _))

/-- A field has no column in the header and is not known to have none. -/
def NewlyAbsent (known : List String) (field : Field) : Prop :=
  field.position = none ∧ field.column.name ∉ known

instance (known : List String) (field : Field) : Decidable (field.NewlyAbsent known) :=
  inferInstanceAs (Decidable (_ ∧ _))

end Field

namespace Notes

variable (schema : Schema) (cells : Csv.Record) (layout : List Field) (n : Notes)

theorem filter_absent_field (field : Field) :
    (Effect.told (n.fieldEffects schema cells field)).filter (·.kind = .missingColumn) =
      if field.NewlyAbsent n.reported then
        [⟨schema.name, 0, some field.column.name, .missingColumn⟩] else [] := by
  have absent := field.presence_eq_absent cells
  by_cases lost : field.position = none
  · unfold fieldEffects
    rw [absent.mpr lost]
    by_cases known : field.column.name ∈ n.reported
    · simp [Field.NewlyAbsent, known]
    · simp only [Field.NewlyAbsent, lost, known, List.contains_iff_mem, not_false_eq_true,
        and_self, if_true, if_false]
      rfl
  · have named : ¬ field.NewlyAbsent n.reported := fun both => lost both.1
    rw [if_neg named, List.filter_eq_nil_iff]
    intro d member
    have complaint := complaint_of_mem_fieldEffects (Effect.mem_told.mp member)
    unfold Field.Complaint at complaint
    split at complaint
    · next gone => exact absurd (absent.mp gone) lost
    · simp [complaint]
    · obtain ⟨problem, -, rfl⟩ := complaint
      simp

theorem filter_empty_field (field : Field) :
    (Effect.told (n.fieldEffects schema cells field)).filter (·.kind = .emptyField) =
      if field.LeftEmpty cells then
        [⟨schema.name, n.row, some field.column.name, .emptyField⟩] else [] := by
  by_cases blank : field.presence cells = .empty
  · unfold fieldEffects
    rw [blank]
    by_cases required : field.column.required = true
    · simp only [Field.LeftEmpty, blank, required, and_self, if_true]
      rfl
    · simp [Field.LeftEmpty, required]
  · have full : ¬ field.LeftEmpty cells := fun both => blank both.2
    rw [if_neg full, List.filter_eq_nil_iff]
    intro d member
    have complaint := complaint_of_mem_fieldEffects (Effect.mem_told.mp member)
    unfold Field.Complaint at complaint
    split at complaint
    · simp [complaint]
    · next empty => exact absurd empty blank
    · obtain ⟨problem, -, rfl⟩ := complaint
      simp

theorem filter_empty_fields :
    (Effect.told (n.fieldsEffects schema cells layout)).filter (·.kind = .emptyField) =
      (layout.filter (fun field => field.LeftEmpty cells)).map fun field =>
        ⟨schema.name, n.row, some field.column.name, .emptyField⟩ := by
  induction layout generalizing n with
  | nil => rfl
  | cons field rest ih =>
      rw [fieldsEffects, Effect.told_append, List.filter_append, filter_empty_field, ih,
        afterField_row]
      by_cases blank : field.LeftEmpty cells
      · rw [if_pos blank, List.filter_cons_of_pos (by simpa using blank)]
        rfl
      · rw [if_neg blank, List.filter_cons_of_neg (by simpa using blank)]
        rfl

theorem reported_afterField (field : Field) :
    (n.afterField cells field).reported =
      if field.NewlyAbsent n.reported then field.column.name :: n.reported else n.reported := by
  have absent := field.presence_eq_absent cells
  unfold afterField
  by_cases lost : field.position = none
  · rw [absent.mpr lost]
    by_cases known : field.column.name ∈ n.reported
    · simp [Field.NewlyAbsent, known]
    · simp [Field.NewlyAbsent, lost, known]
  · have named : ¬ field.NewlyAbsent n.reported := fun both => lost both.1
    rw [if_neg named]
    split
    · next gone => exact absurd (absent.mp gone) lost
    · rfl

variable {layout} in
/-- Columns of distinct names are reported as if each were the first. -/
theorem filter_absent_fields (distinct : (layout.map (·.column.name)).Nodup) :
    (Effect.told (n.fieldsEffects schema cells layout)).filter (·.kind = .missingColumn) =
      (layout.filter (fun field => field.NewlyAbsent n.reported)).map fun field =>
        ⟨schema.name, 0, some field.column.name, .missingColumn⟩ := by
  induction layout generalizing n with
  | nil => rfl
  | cons field rest ih =>
      obtain ⟨apart, distinct⟩ := List.nodup_cons.mp distinct
      have same : rest.filter (fun other => other.NewlyAbsent (n.afterField cells field).reported) =
          rest.filter (fun field => field.NewlyAbsent n.reported) := by
        refine List.filter_congr fun other listed => decide_eq_decide.mpr ?_
        have differs : other.column.name ≠ field.column.name := fun same =>
          apart (List.mem_map.mpr ⟨other, listed, same⟩)
        rw [reported_afterField]
        split
        · simp only [Field.NewlyAbsent, List.mem_cons, differs, false_or]
        · exact Iff.rfl
      rw [fieldsEffects, Effect.told_append, List.filter_append, filter_absent_field,
        ih _ distinct, same]
      by_cases lost : field.NewlyAbsent n.reported
      · rw [if_pos lost, List.filter_cons_of_pos (by simpa using lost)]
        rfl
      · rw [if_neg lost, List.filter_cons_of_neg (by simpa using lost)]
        rfl

/-- Every absent column of a layout has been reported. -/
def KnowsAbsent (layout : List Field) (n : Notes) : Prop :=
  ∀ field ∈ layout, ¬ field.NewlyAbsent n.reported

theorem subset_reported_afterField (field : Field) :
    n.reported ⊆ (n.afterField cells field).reported := by
  rw [reported_afterField]
  split
  · exact List.subset_cons_self _ _
  · exact List.Subset.refl _

theorem subset_reported_foldl :
    n.reported ⊆ (layout.foldl (afterField cells) n).reported := by
  induction layout generalizing n with
  | nil => exact List.Subset.refl _
  | cons field rest ih =>
      exact List.Subset.trans (n.subset_reported_afterField cells field) (ih _)

theorem reported_step :
    (n.step schema layout cells).reported = (layout.foldl (afterField cells) n.next).reported := by
  unfold step keep
  split
  · rfl
  · rfl

theorem knowsAbsent_foldl : (layout.foldl (afterField cells) n).KnowsAbsent layout := by
  induction layout generalizing n with
  | nil =>
      intro field listed
      contradiction
  | cons first rest ih =>
      intro field listed
      rcases List.mem_cons.mp listed with rfl | later
      · intro lost
        have known : field.column.name ∈ (n.afterField cells field).reported := by
          rw [reported_afterField]
          split
          · exact List.mem_cons_self
          · next old => exact not_not.mp fun new => old ⟨lost.1, new⟩
        exact lost.2 (subset_reported_foldl cells rest _ known)
      · exact ih _ field later

theorem knowsAbsent_step : (n.step schema layout cells).KnowsAbsent layout := by
  unfold KnowsAbsent
  rw [reported_step]
  exact knowsAbsent_foldl cells layout n.next

variable {layout} (distinct : (layout.map (·.column.name)).Nodup) (records : List Csv.Record)
include distinct

theorem filter_absent_step :
    (Effect.told (n.stepEffects schema layout cells)).filter (·.kind = .missingColumn) =
      (layout.filter (fun field => field.NewlyAbsent n.reported)).map fun field =>
        ⟨schema.name, 0, some field.column.name, .missingColumn⟩ := by
  rw [filter_told_stepEffects_of_field, filter_absent_fields schema cells n.next distinct]
  · rfl
  · intro d missing
    rw [of_decide_eq_true missing]
    rfl

variable {n} in
theorem filter_absent_rows_of_known (known : n.KnowsAbsent layout) :
    (Effect.told (n.rowsEffects schema layout records)).filter (·.kind = .missingColumn) = [] := by
  induction records generalizing n with
  | nil => rfl
  | cons cells rest ih =>
      have here : layout.filter (fun field => field.NewlyAbsent n.reported) = [] := by
        rw [List.filter_eq_nil_iff]
        intro field listed
        simpa using known field listed
      rw [rowsEffects, Effect.told_append, List.filter_append, filter_absent_step _ _ _ distinct,
        here, ih (n.knowsAbsent_step schema cells layout)]
      rfl

theorem filter_absent_rows :
    (Effect.told (n.rowsEffects schema layout records)).filter (·.kind = .missingColumn) =
      if records = [] then [] else
        (layout.filter (fun field => field.NewlyAbsent n.reported)).map fun field =>
          ⟨schema.name, 0, some field.column.name, .missingColumn⟩ := by
  cases records with
  | nil => rfl
  | cons cells rest =>
      rw [rowsEffects, Effect.told_append, List.filter_append, filter_absent_step _ _ _ distinct,
        filter_absent_rows_of_known schema distinct rest (n.knowsAbsent_step schema cells layout),
        List.append_nil, if_neg (List.cons_ne_nil _ _)]

omit distinct in
theorem filter_empty_rows (layout : List Field) :
    (Effect.told (n.rowsEffects schema layout records)).filter (·.kind = .emptyField) =
      records.zipIdx.flatMap fun row =>
        (layout.filter (fun field => field.LeftEmpty row.1)).map fun field =>
          ⟨schema.name, n.row + row.2 + 1, some field.column.name, .emptyField⟩ := by
  rw [filter_told_rowsEffects]
  refine List.flatMap_congr fun row inside => ?_
  rw [filter_told_stepEffects_of_field, filter_empty_fields]
  · have counted := n.row_rows_take schema layout inside
    rw [show (n.rows schema layout (records.take row.2)).next.row = n.row + row.2 + 1 from
      congrArg (· + 1) counted]
  · intro d empty
    rw [of_decide_eq_true empty]
    rfl

end Notes

namespace Schema

variable (schema : Schema) (header : Csv.Record)

/-- The columns that the header does not name, in the order of the schema. -/
def absentNames : List String :=
  schema.columnNames.filter (· ∉ Field.headerNames header)

/-- The columns that must not be empty and that the header names, but for which a row has an empty
    cell or ends before it. Of columns of one name in the header the first one counts. -/
def emptyNames (cells : Csv.Record) : List String :=
  let names := Field.headerNames header
  (schema.columns.filter fun column => column.required = true ∧ column.name ∈ names ∧
    cells.getD (names.idxOf column.name) [] = []).map Column.name

theorem newlyAbsent_layout :
    ((Field.layout schema header).filter (fun field => field.NewlyAbsent [])).map
      (·.column.name) = schema.absentNames header := by
  unfold Field.layout absentNames columnNames
  rw [List.filter_map, List.filter_map, List.map_map]
  refine congrArg (List.map _) (List.filter_congr fun column _ => decide_eq_decide.mpr ?_)
  simp [Field.NewlyAbsent]

theorem leftEmpty_iff (names : List String) (column : Column) (cells : Csv.Record) :
    (⟨column, names.idxOf? column.name⟩ : Field).LeftEmpty cells ↔
      column.required = true ∧ column.name ∈ names ∧
        cells.getD (names.idxOf column.name) [] = [] := by
  unfold Field.LeftEmpty Field.presence Presence.ofCell
  refine and_congr_right fun _ => ?_
  cases place : names.idxOf? column.name with
  | none =>
      have unnamed : column.name ∉ names := List.idxOf?_eq_none_iff.mp place
      simp [unnamed]
  | some i =>
      have named : column.name ∈ names := List.isSome_idxOf?.mp (by simp [place])
      have first : names.idxOf column.name = i := by
        rw [List.idxOf_eq_getD_idxOf?, place, Option.getD_some]
      rw [first, List.getD_eq_getElem?_getD]
      simp only [named, true_and]
      cases cells[i]? with
      | none => simp
      | some cell => cases cell <;> simp

theorem leftEmpty_layout (cells : Csv.Record) :
    ((Field.layout schema header).filter (fun field => field.LeftEmpty cells)).map
      (·.column.name) = schema.emptyNames header cells := by
  unfold Field.layout emptyNames
  rw [List.filter_map, List.map_map]
  refine congrArg (List.map _) (List.filter_congr fun column _ => decide_eq_decide.mpr ?_)
  exact leftEmpty_iff _ column cells

end Schema

namespace Feed

/-- A load that reads rows reports each column of its table that the header does not name once,
    in the order of the columns, and it reports each required cell that is empty with its row. Of a
    header without rows no column is reported. -/
theorem load_columns (f : Feed) (which : FeedTable) {archive : Archive} {source : Archive.Source}
    (opened : archive.source? which.name = some source) (table : Table) (s : Session) :
    let schema := f.schema which
    ∃ new, (schema.load archive table s).session.diagnostics.toList =
        s.diagnostics.toList ++ new ∧
      new.filter (·.kind = .missingColumn) =
        (if source.records = [] then [] else
          (schema.absentNames source.header).map fun name =>
            ⟨which.name, 0, some name, .missingColumn⟩) ∧
      new.filter (·.kind = .emptyField) =
        source.records.zipIdx.flatMap fun (cells, i) =>
          (schema.emptyNames source.header cells).map fun name =>
            ⟨which.name, i + 1, some name, .emptyField⟩ := by
  intro schema
  have same : schema.name = which.name := schema_name f which
  have distinct : ((Field.layout schema source.header).map (·.column.name)).Nodup := by
    have names : (Field.layout schema source.header).map (·.column.name) =
        which.form.columnNames := by
      rw [← FeedTable.columnNames_schema f which]
      unfold Field.layout
      rw [List.map_map]
      rfl
    rw [names]
    exact which.nodup_columnNames
  have rows : schema.rowsTold archive table = Effect.told (({ table } : Notes).rowsEffects schema
      (Field.layout schema source.header) source.records) := by
    unfold Schema.rowsTold
    rw [same, opened]
  refine ⟨_, Schema.diagnostics_load schema archive table s, ?_, ?_⟩
  · rw [Schema.filter_reports_load, rows, Notes.filter_absent_rows _ _ distinct, ← same,
      ← Schema.newlyAbsent_layout, List.map_map]
    · rfl
    · exact fun _ => rfl
    · intro d missing
      rw [of_decide_eq_true missing]
      simp [Diagnostic.Kind.tier]
  · rw [Schema.filter_reports_load, rows, Notes.filter_empty_rows, ← same]
    · refine List.flatMap_congr fun row _ => ?_
      obtain ⟨cells, i⟩ := row
      dsimp only
      rw [← Schema.leftEmpty_layout, List.map_map, Nat.zero_add]
      rfl
    · exact fun _ => rfl
    · intro d empty
      rw [of_decide_eq_true empty]
      simp [Diagnostic.Kind.tier]

/-- Stops without most of their columns. One is named twice, and a row ends too early. -/
def sparseStops : Archive :=
  [{ name := "stops.txt"
     content := Utf8.encode "stop_name,stop_id,stop_name,zone_id\n,S1,First,\n\nSecond\n" }]

/-- The first name and the second identifier are empty. -/
theorem load_columns_sparseStops :
    let loaded := (({} : Feed).schema .stops).load sparseStops { name := "stops" } {}
    loaded.session.diagnostics.toList.filter (·.kind = .emptyField) =
        [⟨"stops", 1, some "stop_name", .emptyField⟩, ⟨"stops", 2, some "stop_id", .emptyField⟩] ∧
      (loaded.session.diagnostics.toList.filter (·.kind = .missingColumn)).length = 9 := by
  intro loaded
  have opened : sparseStops.source? FeedTable.stops.name =
      some ⟨sparseStops.head (by decide), ["stop_name", "stop_id", "stop_name", "zone_id"].map
        Utf8.encode, [["", "S1", "First", ""].map Utf8.encode, ["Second"].map Utf8.encode]⟩ := by
    decide +kernel
  obtain ⟨new, told, missing, empty⟩ := load_columns {} .stops opened { name := "stops" } {}
  have all : loaded.session.diagnostics.toList = new := told
  rw [all, missing, empty]
  constructor
  · decide +kernel
  · decide +kernel

end Feed

end TransitFeed

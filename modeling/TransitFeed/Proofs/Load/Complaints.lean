import TransitFeed.Proofs.Load.References
import TransitFeed.Proofs.Table.Order

/-! # Rows and what is said of them

A record of a table is what some row gives, and its number says which row. Whatever a load reports
of a field it reports with the number of the row, and it reports every problem with a cell. Rows
that have keys of their own are kept without a word.
-/

namespace TransitFeed

/-- What a load reports of a field of a row. -/
def Field.Complaint (schema : Schema) (cells : Csv.Record) (row : Nat) (field : Field)
    (d : Diagnostic) : Prop :=
  match field.presence cells with
  | .absent => d = ⟨schema.name, 0, some field.column.name, .missingColumn⟩
  | .empty => d = ⟨schema.name, row, some field.column.name, .emptyField⟩
  | .present _ => ∃ problem ∈ (field.read cells).problems,
      d = ⟨schema.name, row, some field.column.name, .cell problem⟩

namespace Notes

variable {schema : Schema} {cells : Csv.Record} {layout : List Field} {records : List Csv.Record}
  {d : Diagnostic}

theorem complaint_of_mem_fieldEffects {n : Notes} {field : Field}
    (told : .report d ∈ n.fieldEffects schema cells field) :
    field.Complaint schema cells n.row d := by
  unfold fieldEffects at told
  unfold Field.Complaint Field.read
  cases presence : field.presence cells with
  | absent =>
      simp only [presence] at told
      split at told
      · contradiction
      · exact Effect.report.inj (List.mem_singleton.mp told)
  | empty =>
      simp only [presence] at told
      split at told
      · exact Effect.report.inj (List.mem_singleton.mp told)
      · contradiction
  | present text =>
      simp only [presence] at told ⊢
      unfold textEffects at told
      split at told
      · exact absurd (List.mem_singleton.mp told) (by simp)
      · simp at told
      · obtain ⟨problem, found, same⟩ := List.mem_map.mp told
        exact ⟨problem, found, (Effect.report.inj same).symm⟩

theorem mem_fieldEffects_of_problem (n : Notes) {field : Field} {problem : Cell.Problem}
    (found : problem ∈ (field.read cells).problems) :
    .report ⟨schema.name, n.row, some field.column.name, .cell problem⟩ ∈
      n.fieldEffects schema cells field := by
  unfold Field.read at found
  unfold fieldEffects
  cases presence : field.presence cells with
  | absent | empty =>
      rw [presence] at found
      cases kind : field.column.kind <;> rw [kind] at found <;> contradiction
  | present text =>
      rw [presence] at found
      simp only
      unfold textEffects
      cases kind : field.column.kind with
      | text | reference target =>
          rw [kind] at found
          contradiction
      | whole | decimal | clock | day | link =>
          rw [kind] at found
          exact List.mem_map.mpr ⟨problem, found, rfl⟩

theorem complaint_of_mem_fieldsEffects {n : Notes}
    (told : .report d ∈ n.fieldsEffects schema cells layout) :
    ∃ field ∈ layout, field.Complaint schema cells n.row d := by
  induction layout generalizing n with
  | nil => contradiction
  | cons field rest ih =>
      rcases List.mem_append.mp told with here | later
      · exact ⟨field, List.mem_cons_self, complaint_of_mem_fieldEffects here⟩
      · obtain ⟨other, listed, complaint⟩ := ih later
        rw [afterField_row] at complaint
        exact ⟨other, List.mem_cons_of_mem _ listed, complaint⟩

theorem mem_fieldsEffects_of_problem (n : Notes) {field : Field} (listed : field ∈ layout)
    {problem : Cell.Problem} (found : problem ∈ (field.read cells).problems) :
    .report ⟨schema.name, n.row, some field.column.name, .cell problem⟩ ∈
      n.fieldsEffects schema cells layout := by
  induction layout generalizing n with
  | nil => contradiction
  | cons first rest ih =>
      rcases List.mem_cons.mp listed with rfl | later
      · exact List.mem_append_left _ (n.mem_fieldEffects_of_problem found)
      · have told := ih (n.afterField cells first) later
        rw [afterField_row] at told
        exact List.mem_append_right _ told

theorem mem_rowsEffects_of_problem (n : Notes) {i : Nat} (at_i : records[i]? = some cells)
    {field : Field} (listed : field ∈ layout) {problem : Cell.Problem}
    (found : problem ∈ (field.read cells).problems) :
    .report ⟨schema.name, n.row + i + 1, some field.column.name, .cell problem⟩ ∈
      n.rowsEffects schema layout records := by
  induction records generalizing n i with
  | nil => contradiction
  | cons first rest ih =>
      cases i with
      | zero =>
          obtain rfl : first = cells := Option.some.inj at_i
          refine List.mem_append_left _ (List.mem_cons_of_mem _ (List.mem_append_left _ ?_))
          exact n.next.mem_fieldsEffects_of_problem listed found
      | succ i =>
          have told := ih (n.step schema layout first) at_i
          rw [step_row, show n.row + 1 + i + 1 = n.row + (i + 1) + 1 by omega] at told
          exact List.mem_append_right _ told

theorem origin_rows {n : Notes} {key : Key} {record : Record}
    (found : (n.rows schema layout records).table.get? key = some record) :
    n.table.get? key = some record ∨ ∃ i cells, records[i]? = some cells ∧
      record = ⟨n.row + i + 1, rowValues layout cells⟩ := by
  induction records generalizing n with
  | nil => exact Or.inl found
  | cons first rest ih =>
      rcases ih (n := n.step schema layout first) found with before | ⟨i, cells, at_i, rfl⟩
      · rw [step_table] at before
        split at before
        · exact Or.inl before
        · rw [Table.get?_insert] at before
          split at before
          · exact Or.inr ⟨0, first, rfl, (Option.some.inj before).symm⟩
          · exact Or.inl before
      · refine Or.inr ⟨i + 1, cells, at_i, ?_⟩
        rw [step_row, show n.row + 1 + i + 1 = n.row + (i + 1) + 1 by omega]

/-- A record whose key is new is kept without a word. -/
theorem not_mem_keepEffects_of_fresh {n : Notes} {values : List Value} {key : Key}
    (found : schema.key? values = some key) (fresh : n.table.get? key = none) :
    .report d ∉ n.keepEffects schema values := by
  have new : ¬ n.table.contains key = true := by
    rw [Table.contains_iff, fresh]
    rintro ⟨record, taken⟩
    contradiction
  unfold keepEffects
  rw [found]
  simp only [if_neg new]
  exact List.not_mem_nil

/-- Of rows with distinct keys only their fields are complained of. -/
theorem complaint_of_mem_rowsEffects {keys : List Key}
    (own : records.map (fun cells => schema.key? (rowValues layout cells)) = keys.map some)
    (distinct : keys.Nodup) {n : Notes} (fresh : ∀ key ∈ keys, n.table.get? key = none)
    (told : .report d ∈ n.rowsEffects schema layout records) :
    ∃ i cells, records[i]? = some cells ∧ ∃ field ∈ layout,
      field.Complaint schema cells (n.row + i + 1) d := by
  induction keys generalizing records n with
  | nil =>
      have nothing : records = [] := List.map_eq_nil_iff.mp own
      subst nothing
      contradiction
  | cons key keys ih =>
      obtain ⟨cells, records, rfl⟩ : ∃ cells others, records = cells :: others := by
        cases records with
        | nil => contradiction
        | cons cells others => exact ⟨cells, others, rfl⟩
      obtain ⟨here, later⟩ := List.cons.inj own
      have found : schema.key? (rowValues layout cells) = some key := here
      obtain ⟨apart, distinct⟩ := List.nodup_cons.mp distinct
      rcases List.mem_append.mp told with first | there
      · rcases List.mem_cons.mp first with passed | first
        · contradiction
        · rcases List.mem_append.mp first with noted | kept
          · exact ⟨0, cells, rfl, complaint_of_mem_fieldsEffects noted⟩
          · have new : (layout.foldl (afterField cells) n.next).table.get? key = none := by
              rw [foldl_afterField_table]
              exact fresh key List.mem_cons_self
            exact absurd kept (not_mem_keepEffects_of_fresh found new)
      · have after : ∀ other ∈ keys,
            (n.step schema layout cells).table.get? other = none := by
          intro other listed
          have differs : key ≠ other := fun same => apart (same ▸ listed)
          rw [step_table, found]
          simp only
          rw [Table.get?_insert, if_neg differs]
          exact fresh other (List.mem_cons_of_mem _ listed)
        obtain ⟨i, row, at_i, complaint⟩ := ih later distinct after there
        rw [step_row, show n.row + 1 + i + 1 = n.row + (i + 1) + 1 by omega] at complaint
        exact ⟨i + 1, row, at_i, complaint⟩

end Notes

namespace Schema

variable {schema : Schema} {archive : Archive} {source : Archive.Source}

theorem mem_loadEffects_of_problem (table : Table)
    (opened : archive.source? schema.name = some source) {i : Nat} {cells : Csv.Record}
    (at_i : source.records[i]? = some cells) {column : Column} (listed : column ∈ schema.columns)
    {problem : Cell.Problem}
    (found : problem ∈ (column.kind.read (.ofCell cells
      ((Field.headerNames source.header).idxOf? column.name))).problems) :
    .report ⟨schema.name, i + 1, some column.name, .cell problem⟩ ∈
      schema.loadEffects archive table := by
  have field : (⟨column, (Field.headerNames source.header).idxOf? column.name⟩ : Field) ∈
      Field.layout schema source.header := List.mem_map.mpr ⟨column, listed, rfl⟩
  have told : .report ⟨schema.name, 0 + i + 1, some column.name, .cell problem⟩ ∈
      ({ table } : Notes).rowsEffects schema (Field.layout schema source.header) source.records :=
    Notes.mem_rowsEffects_of_problem _ at_i field found
  rw [Nat.zero_add] at told
  unfold loadEffects
  rw [opened]
  exact List.mem_append_right _ (List.mem_append_left _ told)

theorem origin_loadTable {name : String} {key : Key} {record : Record}
    (found : (schema.loadTable archive ⟨name, ∅⟩).get? key = some record) :
    ∃ source i cells, archive.source? schema.name = some source ∧
      source.records[i]? = some cells ∧
        record = ⟨i + 1, rowValues (Field.layout schema source.header) cells⟩ := by
  unfold loadTable at found
  cases opened : archive.source? schema.name with
  | none =>
      rw [opened] at found
      exact absurd found (by simp)
  | some source =>
      rw [opened] at found
      rcases Notes.origin_rows found with before | ⟨i, cells, at_i, rfl⟩
      · exact absurd before (by simp)
      · exact ⟨source, i, cells, rfl, at_i, by rw [Nat.zero_add]⟩

end Schema

end TransitFeed

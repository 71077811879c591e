import TransitFeed.Proofs.Load.Complaints
import TransitFeed.Proofs.Session.Reports

/-! # What a load reports row by row

A load reports things of its table as a whole before the first row and behind the last one. In
between it reports, for each row, first what is wrong with its fields and then what is wrong with
its key.
-/

namespace TransitFeed

namespace Effect

/-- The diagnostics that effects report, whatever was told before. -/
def told (effects : List Effect) : List Diagnostic := effects.filterMap report?

@[simp] theorem told_append (a b : List Effect) : told (a ++ b) = told a ++ told b :=
  List.filterMap_append

@[simp] theorem told_nil : told [] = [] := rfl

theorem told_cons (e : Effect) (rest : List Effect) :
    told (e :: rest) = e.report?.toList ++ told rest := by
  cases e <;> rfl

theorem mem_told {effects : List Effect} {d : Diagnostic} :
    d ∈ told effects ↔ .report d ∈ effects := by
  unfold told
  rw [List.mem_filterMap]
  constructor
  · rintro ⟨e, member, reported⟩
    cases e with
    | report found =>
        obtain rfl : found = d := Option.some.inj reported
        exact member
    | log | tell | pass | intern | refer => contradiction
  · intro member
    exact ⟨_, member, rfl⟩

end Effect

namespace Session

theorem filter_reports_of_told (s : Session) (effects : List Effect) {q : Diagnostic → Bool}
    (other : ∀ l : Lookup, q l.diagnostic = false) :
    (s.reports effects).filter q = (Effect.told effects).filter q := by
  induction effects generalizing s with
  | nil => rfl
  | cons e rest ih =>
      have here : (s.news e).filter q = e.report?.toList.filter q := by
        unfold news
        rw [List.filter_append]
        cases e.lookup? with
        | none => exact List.append_nil _
        | some l =>
            dsimp only
            split
            · rw [List.filter_cons_of_neg (by simp [other l]), List.filter_nil, List.append_nil]
            · exact List.append_nil _
      rw [reports, List.filter_append, here, ih, Effect.told_cons, List.filter_append]

end Session

namespace Notes

variable (schema : Schema) (cells : Csv.Record) (layout : List Field) (n : Notes)

theorem rowsEffects_eq_flatMap (records : List Csv.Record) :
    n.rowsEffects schema layout records = records.zipIdx.flatMap fun row =>
      (n.rows schema layout (records.take row.2)).stepEffects schema layout row.1 := by
  induction records generalizing n with
  | nil => rfl
  | cons cells rest ih =>
      rw [rowsEffects, ih, List.zipIdx_cons', List.flatMap_cons, List.flatMap_map]
      rfl

theorem told_stepEffects :
    Effect.told (n.stepEffects schema layout cells) =
      Effect.told (n.next.fieldsEffects schema cells layout) ++
        Effect.told ((layout.foldl (afterField cells) n.next).keepEffects schema
          (rowValues layout cells)) :=
  Effect.told_append _ _

theorem filter_told_rowsEffects (q : Diagnostic → Bool) (records : List Csv.Record) :
    (Effect.told (n.rowsEffects schema layout records)).filter q =
      records.zipIdx.flatMap fun row => (Effect.told
        ((n.rows schema layout (records.take row.2)).stepEffects schema layout row.1)).filter q := by
  rw [rowsEffects_eq_flatMap, Effect.told, List.filterMap_flatMap, List.filter_flatMap]
  rfl

theorem row_rows_take {records : List Csv.Record} {row : Csv.Record × Nat}
    (inside : row ∈ records.zipIdx) :
    (n.rows schema layout (records.take row.2)).row = n.row + row.2 := by
  have bound : row.2 < records.length :=
    (List.getElem?_eq_some_iff.mp (List.mem_zipIdx_iff_getElem?.mp inside)).1
  rw [row_rows, List.length_take, Nat.min_eq_left (Nat.le_of_lt bound)]

end Notes

/-- Whether a diagnostic is about a table as a whole. -/
structure Diagnostic.AtTable (schema : Schema) (d : Diagnostic) : Prop where
  table : d.table = schema.name
  column : d.column = none
  row : d.row = 0
  tier : d.kind.tier = .structural

theorem Field.Complaint.tier {schema : Schema} {cells : Csv.Record} {row : Nat} {field : Field}
    {d : Diagnostic} (complaint : field.Complaint schema cells row d) : d.kind.tier = .field := by
  unfold Complaint at complaint
  split at complaint
  · rw [complaint]
    rfl
  · rw [complaint]
    rfl
  · obtain ⟨problem, -, rfl⟩ := complaint
    rfl

namespace Notes

variable {schema : Schema} {layout : List Field} {n : Notes} {d : Diagnostic}

theorem tier_of_mem_keepEffects {values : List Value}
    (told : .report d ∈ n.keepEffects schema values) : d.kind.tier = .rowIntegrity := by
  unfold keepEffects at told
  split at told
  · obtain rfl := Effect.report.inj (List.mem_singleton.mp told)
    rfl
  · split at told
    · obtain rfl := Effect.report.inj (List.mem_singleton.mp told)
      rfl
    · contradiction

theorem tier_of_mem_rowsEffects {records : List Csv.Record}
    (told : .report d ∈ n.rowsEffects schema layout records) : d.kind.tier ≠ .structural := by
  induction records generalizing n with
  | nil => contradiction
  | cons cells rest ih =>
      rcases List.mem_append.mp told with here | later
      · rcases List.mem_cons.mp here with passed | here
        · contradiction
        · rcases List.mem_append.mp here with noted | kept
          · obtain ⟨field, -, complaint⟩ := complaint_of_mem_fieldsEffects noted
            simp [complaint.tier]
          · simp [tier_of_mem_keepEffects kept]
      · exact ih later

theorem filter_told_stepEffects (cells : Csv.Record) {q : Diagnostic → Bool}
    (integrity : ∀ d, q d = true → d.kind.tier = .rowIntegrity) :
    (Effect.told (n.stepEffects schema layout cells)).filter q =
      (Effect.told (n.next.keepEffects schema (rowValues layout cells))).filter q := by
  have noted : (Effect.told (n.next.fieldsEffects schema cells layout)).filter q = [] := by
    rw [List.filter_eq_nil_iff]
    intro d member holds
    obtain ⟨field, -, complaint⟩ := complaint_of_mem_fieldsEffects (Effect.mem_told.mp member)
    have tier := integrity d holds
    rw [complaint.tier] at tier
    contradiction
  have same : (layout.foldl (afterField cells) n.next).keepEffects schema (rowValues layout cells) =
      n.next.keepEffects schema (rowValues layout cells) := by
    unfold keepEffects reportAt
    rw [foldl_afterField_row, foldl_afterField_table]
  rw [told_stepEffects, List.filter_append, noted, List.nil_append, same]

theorem filter_told_stepEffects_of_field (cells : Csv.Record) {q : Diagnostic → Bool}
    (cell : ∀ d, q d = true → d.kind.tier = .field) :
    (Effect.told (n.stepEffects schema layout cells)).filter q =
      (Effect.told (n.next.fieldsEffects schema cells layout)).filter q := by
  have kept : (Effect.told ((layout.foldl (afterField cells) n.next).keepEffects schema
      (rowValues layout cells))).filter q = [] := by
    rw [List.filter_eq_nil_iff]
    intro d member holds
    have tier := cell d holds
    rw [tier_of_mem_keepEffects (Effect.mem_told.mp member)] at tier
    contradiction
  rw [told_stepEffects, List.filter_append, kept, List.append_nil]

end Notes

namespace Schema

variable {schema : Schema} {archive : Archive} {table : Table} {d : Diagnostic}

theorem atTable_of_mem_reportTable {kind : Diagnostic.Kind} (tier : kind.tier = .structural)
    (told : .report d ∈ [schema.reportTable kind]) : d.AtTable schema := by
  rw [Effect.report.inj (List.mem_singleton.mp told)]
  exact ⟨rfl, rfl, rfl, tier⟩

theorem atTable_of_mem_headerEffects {entry : Entry}
    (told : .report d ∈ schema.headerEffects entry table) : d.AtTable schema := by
  unfold headerEffects at told
  split at told
  · split at told
    · exact atTable_of_mem_reportTable rfl told
    · exact absurd (List.mem_singleton.mp told) (by simp [brokenEffect])
  · split at told
    · exact atTable_of_mem_reportTable rfl told
    · exact absurd (List.mem_singleton.mp told) (by simp)

theorem not_mem_readingEffects (entry : Entry) : .report d ∉ readingEffects entry := by
  intro told
  rcases List.mem_cons.mp told with begun | advance
  · contradiction
  · obtain ⟨octets, -, same⟩ := List.mem_map.mp advance
    contradiction

theorem atTable_of_mem_openEffects (told : .report d ∈ schema.openEffects archive table) :
    d.AtTable schema := by
  unfold openEffects at told
  split at told
  · split at told
    · exact atTable_of_mem_reportTable rfl told
    · exact absurd (List.mem_singleton.mp told) (by simp)
  · next location found =>
    rcases List.mem_append.mp told with folder | told
    · cases location with
      | top entry => contradiction
      | nested folder entry =>
          rcases List.mem_cons.mp folder with line | report
          · contradiction
          · exact atTable_of_mem_reportTable rfl report
    · split at told
      · contradiction
      · rcases List.mem_cons.mp told with line | told
        · contradiction
        · rcases List.mem_append.mp told with reading | header
          · exact absurd reading (not_mem_readingEffects _)
          · exact atTable_of_mem_headerEffects header

theorem atTable_of_mem_closeEffects {entry : Entry} {n : Notes}
    (told : .report d ∈ schema.closeEffects entry n) : d.AtTable schema := by
  unfold closeEffects at told
  split at told
  · rcases List.mem_append.mp told with blank | line
    · split at blank
      · exact atTable_of_mem_reportTable rfl blank
      · contradiction
    · exact absurd (List.mem_singleton.mp line) (by simp)
  · exact absurd (List.mem_singleton.mp told) (by simp [brokenEffect])

variable (schema archive table)

/-- What the rows of a load report, dangling references apart. -/
def rowsTold : List Diagnostic :=
  match archive.source? schema.name with
  | none => []
  | some source => Effect.told
      (({ table } : Notes).rowsEffects schema (Field.layout schema source.header) source.records)

theorem diagnostics_load (s : Session) :
    (schema.load archive table s).session.diagnostics.toList =
      s.diagnostics.toList ++ s.reports (schema.loadEffects archive table) := by
  rw [load_eq, Session.diagnostics_run]

/-- Diagnostics that are not about the table as a whole, and no dangling references, are reported
    of rows. -/
theorem filter_reports_load (s : Session) {q : Diagnostic → Bool}
    (other : ∀ l : Lookup, q l.diagnostic = false)
    (low : ∀ d, q d = true → d.kind.tier ≠ .structural) :
    (s.reports (schema.loadEffects archive table)).filter q =
      (schema.rowsTold archive table).filter q := by
  have opened : (Effect.told (schema.openEffects archive table)).filter q = [] := by
    rw [List.filter_eq_nil_iff]
    intro d member holds
    exact low d holds ((atTable_of_mem_openEffects (Effect.mem_told.mp member)).tier)
  have closed (entry : Entry) (n : Notes) :
      (Effect.told (schema.closeEffects entry n)).filter q = [] := by
    rw [List.filter_eq_nil_iff]
    intro d member holds
    exact low d holds ((atTable_of_mem_closeEffects (Effect.mem_told.mp member)).tier)
  rw [Session.filter_reports_of_told s _ other]
  unfold loadEffects rowsTold
  rw [Effect.told_append, List.filter_append, opened, List.nil_append]
  cases archive.source? schema.name with
  | none => rfl
  | some source =>
      dsimp only
      rw [Effect.told_append, List.filter_append, closed, List.append_nil]

end Schema

end TransitFeed

import TransitFeed.Proofs.Feed.Origins
import TransitFeed.Proofs.Feed.RoundTrip
import TransitFeed.Proofs.Session.Agree
import TransitFeed.Proofs.Table.Problems

/-! # What is said of a feed that was written

A feed that was written complains of little when it is loaded again. A required table without
records is missing, a required cell may be empty, and what was out of range or dangling before may
be so again. Nothing else is wrong with it.
-/

namespace TransitFeed

namespace Feed

variable {f : Feed} {settings : Settings} {which : FeedTable} {d : Diagnostic}

theorem not_mem_openEffects_written (sound : f.Sound) (written : f.isWritten settings which = true)
    (targets : Feed) (table : Table) :
    .report d ∉ (targets.schema which).openEffects
      (Package.archive (f.sheets settings FeedTable.all)) table := by
  have header : (targets.schema which).headerEffects (f.sheet which).entry table =
      [.log .debug "parsed header"] := by
    rw [Schema.headerEffects, records_sheet (sound which)]
    simp only [linesOf, List.map_cons, named_header]
    rfl
  unfold Schema.openEffects
  rw [schema_name, locate?_written which.mem_all written]
  simp only [Archive.Location.entry, header, Schema.locationEffects, Schema.readingEffects]
  simp

theorem loadEffects_skipped (skipped : f.isWritten settings which = false) (targets : Feed)
    (table : Table) :
    (targets.schema which).loadEffects (Package.archive (f.sheets settings FeedTable.all)) table =
      [if which.form.required then .report ⟨which.name, 0, none, .missingTable⟩
        else .log .info ("table " ++ which.name ++ " was missing but it is not required")] := by
  have required : (targets.schema which).required = which.form.required := by
    cases which <;> rfl
  unfold Schema.loadEffects Schema.openEffects Schema.reportTable
  rw [schema_name, locate?_skipped skipped, source?_skipped skipped, required]
  rfl

/-- What may be said of a cell in a row that was written: it is empty, or it has a problem. -/
def HeldCell.Complaint (cell : HeldCell f which) (row : Nat) (d : Diagnostic) : Prop :=
  d = ⟨which.name, row, some cell.column.name, .emptyField⟩ ∨
    ∃ problem ∈ (cell.column.kind.read (.ofText cell.value.cell)).problems,
      d = ⟨which.name, row, some cell.column.name, .cell problem⟩

theorem complaint_cells (sound : f.Sound) {key : Key} {record : Record}
    (held : (f.get which).get? key = some record) (targets : Feed) {row : Nat} {field : Field}
    (listed : field ∈ Field.layout (targets.schema which)
      (which.form.columnNames.map Utf8.encode))
    (complaint : field.Complaint (targets.schema which)
      ((record.values.map Value.cell).map Utf8.encode) row d) :
    ∃ cell : HeldCell f which, cell.key = key ∧ cell.record = record ∧ cell.Complaint row d := by
  obtain ⟨found, inside, rfl⟩ := List.mem_map.mp listed
  obtain ⟨j, at_j⟩ := List.mem_iff_getElem?.mp inside
  obtain ⟨column, at_j', name, same⟩ := FeedTable.column_schema targets {} at_j
  change which.form.columns[j]? = some column at at_j'
  obtain ⟨inColumns, at_form⟩ := List.getElem?_eq_some_iff.mp at_j'
  have inValues : j < record.values.length := (sound which key record held).2.length_eq ▸ inColumns
  have cell := Schema.presence_cells which.nodup_columnNames inColumns inValues
  rw [at_form] at cell
  refine ⟨⟨key, record, j, column, record.values[j], held, at_j',
    List.getElem?_eq_getElem inValues⟩, rfl, rfl, ?_⟩
  unfold Field.Complaint Field.read Field.presence at complaint
  simp only [← name, ← same, cell, schema_name] at complaint
  unfold HeldCell.Complaint
  by_cases blank : record.values[j].cell = ""
  · rw [blank] at complaint
    exact Or.inl complaint
  · rw [Presence.ofText_of_ne blank] at complaint ⊢
    exact Or.inr complaint

theorem keys_written (sound : f.Sound) (targets : Feed) :
    ((f.get which).byRow.map fun entry => (entry.2.values.map Value.cell).map Utf8.encode).map
        (fun cells => (targets.schema which).key? (rowValues (Field.layout (targets.schema which)
          (which.form.columnNames.map Utf8.encode)) cells)) =
      ((f.get which).byRow.map Prod.fst).map some := by
  calc
    _ = (((f.get which).byRow.map fun entry =>
          (entry.2.values.map Value.cell).map Utf8.encode).map (rowValues
            (Field.layout (targets.schema which)
              (which.form.columnNames.map Utf8.encode)))).map (targets.schema which).key? :=
      List.map_map.symm
    _ = ((f.get which).rereadEntries which).map fun entry => some entry.1 := by
      rw [rowValues_written sound targets, List.map_map]
      exact List.map_congr_left (key?_rereadEntries sound targets)
    _ = ((f.get which).byRow.map Prod.fst).map some := by
      rw [Table.rereadEntries, List.map_map, List.map_map]
      rfl

theorem complaint_rows_written (sound : f.Sound) (targets : Feed)
    (told : .report d ∈ Notes.rowsEffects (targets.schema which)
      (Field.layout (targets.schema which) (which.form.columnNames.map Utf8.encode))
      { table := ⟨which.name, ∅⟩ } ((f.get which).byRow.map fun entry =>
        (entry.2.values.map Value.cell).map Utf8.encode)) :
    ∃ (i : Nat) (cell : HeldCell f which),
      (f.get which).byRow[i]? = some (cell.key, cell.record) ∧ cell.Complaint (i + 1) d := by
  obtain ⟨i, cells, at_i, field, listed, complaint⟩ :=
    Notes.complaint_of_mem_rowsEffects (keys_written sound targets) (Table.nodup_byRow_keys _)
      (fun key _ => Table.get?_empty _ key) told
  rw [List.getElem?_map, Option.map_eq_some_iff] at at_i
  obtain ⟨⟨key, record⟩, at_i, rfl⟩ := at_i
  have held := (Table.mem_byRow _ key record).mp (List.mem_of_getElem? at_i)
  rw [Nat.zero_add] at complaint
  obtain ⟨cell, rfl, rfl, said⟩ := complaint_cells sound held targets listed complaint
  exact ⟨i, cell, at_i, said⟩

/-- What is said of a table that was written, or of one that was left out because it is empty. -/
theorem complaint_written (sound : f.Sound) (skips : settings.skipEmptyTables = true)
    (targets : Feed)
    (told : .report d ∈ (targets.schema which).loadEffects
      (Package.archive (f.sheets settings FeedTable.all)) ⟨which.name, ∅⟩) :
    ((f.get which).isEmpty = true ∧ which.form.required = true ∧
        d = ⟨which.name, 0, none, .missingTable⟩) ∨
      ∃ (i : Nat) (cell : HeldCell f which),
        (f.get which).byRow[i]? = some (cell.key, cell.record) ∧ cell.Complaint (i + 1) d := by
  cases written : f.isWritten settings which with
  | false =>
      have empty : (f.get which).isEmpty = true := by
        simpa [isWritten, skips] using written
      rw [loadEffects_skipped written, List.mem_singleton] at told
      by_cases needed : which.form.required = true
      · rw [if_pos needed] at told
        exact Or.inl ⟨empty, needed, Effect.report.inj told⟩
      · rw [if_neg needed] at told
        contradiction
  | true =>
      have full : (f.get which).byRow ≠ [] := by
        rw [Ne, ← Table.isEmpty_iff]
        simpa [isWritten, skips] using written
      unfold Schema.loadEffects at told
      rw [schema_name, source?_written sound which.mem_all written] at told
      simp only [List.mem_append] at told
      rcases told with opened | rows | closed
      · exact absurd opened (not_mem_openEffects_written sound written targets _)
      · exact Or.inr (complaint_rows_written sound targets rows)
      · refine absurd closed ?_
        unfold Schema.closeEffects Schema.scanned
        rw [if_pos rfl, Notes.row_rows, Nat.zero_add, List.length_map,
          if_neg (List.length_eq_zero_iff.not.mpr full)]
        simp

theorem mem_fillEffects {archive : Archive} {tables : List FeedTable} (distinct : tables.Nodup)
    {e : Effect} (told : e ∈ f.fillEffects archive tables) :
    ∃ which ∈ tables, ∃ targets : Feed,
      e ∈ (targets.schema which).loadEffects archive (f.get which) := by
  induction tables generalizing f with
  | nil => contradiction
  | cons first rest ih =>
      obtain ⟨apart, distinct⟩ := List.nodup_cons.mp distinct
      rcases List.mem_append.mp told with here | later
      · exact ⟨first, List.mem_cons_self, f, here⟩
      · obtain ⟨which, listed, targets, told⟩ := ih distinct later
        have other : first ≠ which := by
          rintro rfl
          exact apart listed
        rw [get_fill_of_ne archive f other] at told
        exact ⟨which, List.mem_cons_of_mem _ listed, targets, told⟩

/-- The diagnostics of required tables that were left out because they have no records. -/
def missing (f : Feed) (tables : List FeedTable) : List Diagnostic :=
  (tables.filter fun which => which.form.required && (f.get which).isEmpty).map fun which =>
    ⟨which.name, 0, none, .missingTable⟩

def isMissingTable (d : Diagnostic) : Bool := d.kind = .missingTable

theorem missing_cons (f : Feed) (which : FeedTable) (tables : List FeedTable) :
    f.missing (which :: tables) = f.missing [which] ++ f.missing tables := by
  rw [missing, ← List.singleton_append, List.filter_append, List.map_append]
  rfl

theorem missing_written (sound : f.Sound) (skips : settings.skipEmptyTables = true)
    (targets : Feed) (which : FeedTable) :
    (((targets.schema which).loadEffects (Package.archive (f.sheets settings FeedTable.all))
        ⟨which.name, ∅⟩).filterMap Effect.report?).filter isMissingTable = f.missing [which] := by
  cases empty : (f.get which).isEmpty with
  | true =>
      have skipped : f.isWritten settings which = false := by simp [isWritten, empty, skips]
      rw [loadEffects_skipped skipped]
      by_cases needed : which.form.required = true
      · simp [missing, empty, needed, Effect.report?, isMissingTable]
      · simp [missing, needed, Effect.report?]
  | false =>
      have nothing : f.missing [which] = [] := by simp [missing, empty]
      rw [nothing, List.filter_eq_nil_iff]
      intro d reported absent
      obtain ⟨e, told, report⟩ := List.mem_filterMap.mp reported
      cases e with
      | report found =>
          obtain rfl : found = d := Option.some.inj report
          rcases complaint_written sound skips targets told with
            ⟨none_left, -⟩ | ⟨i, cell, -, rfl | ⟨problem, -, rfl⟩⟩
          · rw [empty] at none_left
            contradiction
          · exact absurd absent (by simp [isMissingTable])
          · exact absurd absent (by simp [isMissingTable])
      | log | tell | pass | intern | refer => contradiction

theorem missing_fillEffects (sound : f.Sound) (skips : settings.skipEmptyTables = true)
    {tables : List FeedTable} (distinct : tables.Nodup) {g : Feed}
    (empty : ∀ which ∈ tables, g.get which = ⟨which.name, ∅⟩) :
    ((g.fillEffects (Package.archive (f.sheets settings FeedTable.all)) tables).filterMap
        Effect.report?).filter isMissingTable = f.missing tables := by
  induction tables generalizing g with
  | nil => rfl
  | cons which rest ih =>
      obtain ⟨apart, distinct⟩ := List.nodup_cons.mp distinct
      have later : ∀ other ∈ rest, (g.fill (Package.archive
          (f.sheets settings FeedTable.all)) which).get other = ⟨other.name, ∅⟩ := by
        intro other listed
        have differs : which ≠ other := fun same => apart (same ▸ listed)
        rw [get_fill_of_ne _ g differs]
        exact empty other (List.mem_cons_of_mem _ listed)
      rw [fillEffects, List.filterMap_append, List.filter_append, ih distinct later,
        empty which List.mem_cons_self, missing_written sound skips, ← missing_cons]

section

variable {writing : Session} {progress : Option (Array Progress.Event)}

theorem filter_isMissingTable (s : Session) :
    s.diagnostics.toList.filter isMissingTable = s.others.filter isMissingTable := by
  rw [Session.others, List.filter_filter]
  refine List.filter_congr fun d _ => ?_
  cases absent : isMissingTable d with
  | false => rfl
  | true =>
      have kind : d.kind = .missingTable := of_decide_eq_true absent
      simp [Diagnostic.dangling?, kind]

/-- Whatever is said of a copy is that a required table is missing, that a cell which was written is
    empty or has a problem, or that a reference is dangling. -/
theorem complaint_copy (sound : f.Sound) (skips : writing.settings.skipEmptyTables = true)
    (reported : d ∈ (f.copy writing { settings, progress }).session.diagnostics.toList) :
    (∃ which : FeedTable, d = ⟨which.name, 0, none, .missingTable⟩) ∨
      (∃ (which : FeedTable) (i : Nat) (cell : HeldCell f which),
        (f.get which).byRow[i]? = some (cell.key, cell.record) ∧ cell.Complaint (i + 1) d) ∨
        ∃ key, d.kind = .referentialIntegrity key := by
  have clean := fault_copy sound writing { settings, progress }
  rw [copy_eq sound] at clean reported
  rw [diagnostics_load clean] at reported
  rcases Session.mem_reports (List.mem_append.mp reported |>.resolve_left (by simp)) with
    told | ⟨e, -, l, -, rfl⟩
  · obtain ⟨which, -, targets, told⟩ := mem_fillEffects FeedTable.nodup_loadOrder told
    rw [get_empty] at told
    rcases complaint_written sound skips targets told with ⟨-, -, rfl⟩ | cell
    · exact Or.inl ⟨which, rfl⟩
    · exact Or.inr (Or.inl ⟨which, cell⟩)
  · exact Or.inr (Or.inr ⟨l.key, rfl⟩)

theorem missing_copy (sound : f.Sound) (skips : writing.settings.skipEmptyTables = true) :
    (f.copy writing { settings, progress }).session.diagnostics.toList.filter isMissingTable =
      f.missing FeedTable.loadOrder := by
  have clean := fault_copy sound writing { settings, progress }
  rw [copy_eq sound] at clean ⊢
  obtain ⟨opened, same, -, -, line, ran⟩ := load_of_clean clean
  cases same
  have plain : ∀ e ∈ fillEffects (Package.archive (f.sheets writing.settings FeedTable.all)) {}
      FeedTable.loadOrder ++ [.log .info line], e.Plain := by
    intro e member
    rcases List.mem_append.mp member with told | logged
    · exact plain_fillEffects _ _ _ e told
    · rw [List.mem_singleton.mp logged]
      trivial
  -- Dangling references are set apart, since the effects alone do not say which are reported.
  have nothing : Session.others { settings, progress } = [] := rfl
  rw [ran, filter_isMissingTable, Session.others_run _ plain, nothing, List.nil_append,
    List.filterMap_append, List.filter_append, missing_fillEffects sound skips
      FeedTable.nodup_loadOrder fun which _ => get_empty which]
  exact List.append_nil _

theorem contains_copy (sound : f.Sound) (writing reading : Session) (which : FeedTable) (key : Key)
    (held : (f.get which).contains key = true) :
    ((f.copy writing reading).feed.get which).contains key = true := by
  obtain ⟨record, found⟩ := (Table.contains_iff _ key).mp held
  obtain ⟨i, at_i⟩ := List.mem_iff_getElem?.mp ((Table.mem_byRow _ key record).mpr found)
  exact (Table.contains_iff _ key).mpr
    ⟨_, (get?_copy sound writing reading which key _).mpr ⟨i, record, at_i, rfl⟩⟩

theorem cell_of_hasText (sound : f.Sound) {target : FeedTable} {name text : String}
    (refers : (name, target) ∈ which.references)
    (present : (Package.archive (f.sheets settings FeedTable.all)).HasText which.name name text) :
    ∃ (cell : HeldCell f which) (held : Table), cell.column.kind = .reference held ∧
      cell.column.name = name ∧ cell.value.cell = text ∧ cell.value.cell ≠ "" := by
  obtain ⟨source, opened, cells, inside, present⟩ := present
  cases written : f.isWritten settings which with
  | false =>
      rw [source?_skipped written] at opened
      contradiction
  | true =>
      rw [source?_written sound which.mem_all written] at opened
      cases opened
      obtain ⟨⟨key, record⟩, listed, rfl⟩ := List.mem_map.mp inside
      have found := (Table.mem_byRow _ key record).mp listed
      have columns : (name, ({} : Feed).get target) ∈ which.form.references := by
        rw [FeedTable.form, references_schema]
        exact List.mem_map.mpr ⟨_, refers, rfl⟩
      obtain ⟨column, listed, kind, rfl⟩ := (Schema.mem_references _ _ _).mp columns
      obtain ⟨j, inColumns, rfl⟩ := List.mem_iff_getElem.mp listed
      have inValues : j < record.values.length :=
        (sound which key record found).2.length_eq ▸ inColumns
      have cell := Schema.presence_cells which.nodup_columnNames inColumns inValues
      obtain ⟨same, full⟩ := Presence.ofText_eq_present (cell.symm.trans present)
      exact ⟨⟨key, record, j, _, _, found, List.getElem?_eq_getElem inColumns,
        List.getElem?_eq_getElem inValues⟩, _, kind, rfl, same, full⟩

end

section

variable {archive : Archive} {settings settings' : Settings}
  {progress progress' : Option (Array Progress.Event)} {writing : Session}

theorem dangling_copy
    (clean : (({} : Feed).load (.ok archive) { settings, progress }).fault = none) {p : Sighting}
    (reported : p ∈ ((({} : Feed).load (.ok archive) { settings, progress }).feed.copy writing
      { settings := settings', progress := progress' }).session.dangling) :
    p ∈ (({} : Feed).load (.ok archive) { settings, progress }).session.dangling := by
  have sound := sound_empty.load (.ok archive) { settings, progress }
  have again := fault_copy sound writing { settings := settings', progress := progress' }
  have copied := contains_copy sound writing { settings := settings', progress := progress' }
  obtain ⟨opened, same, filled, -⟩ := load_of_clean clean
  obtain rfl : archive = opened := Except.ok.inj same
  rw [copy_eq sound] at again reported copied
  rw [mem_dangling_iff_meets again,
    meets_fillEffects _ _ _ _ FeedTable.ordered_loadOrder] at reported
  obtain ⟨which, listed, target, refers, present, missing⟩ := reported
  obtain ⟨opened, same, refilled, -⟩ := load_of_clean again
  cases same
  rw [← refilled] at missing
  -- The reference is a cell of a record, and the record comes from a row that has it too.
  obtain ⟨cell, held, kind, name, text, full⟩ := cell_of_hasText sound refers present
  rw [mem_dangling_iff_meets clean, meets_fillEffects _ _ _ _ FeedTable.ordered_loadOrder]
  refine ⟨which, listed, target, refers, ?_, ?_⟩
  · rw [← name, ← text]
    exact cell.hasText clean kind full
  · rw [← filled, Bool.not_eq_true']
    refine Bool.eq_false_iff.mpr fun held => ?_
    rw [copied target (.name p.key) held] at missing
    contradiction

/-- A problem with a cell in a copy is that it is out of range, and so it was in the row that its
    record came from. -/
theorem range_copy
    (clean : (({} : Feed).load (.ok archive) { settings, progress }).fault = none)
    (cell : HeldCell (({} : Feed).load (.ok archive) { settings, progress }).feed which)
    {problem : Cell.Problem}
    (found : problem ∈ (cell.column.kind.read (.ofText cell.value.cell)).problems) :
    problem.IsRange ∧ ∃ first : Cell.Problem, first.IsRange ∧
      ⟨which.name, cell.record.row, some cell.column.name, .cell first⟩ ∈
        (({} : Feed).load (.ok archive) { settings, progress }).session.diagnostics.toList := by
  obtain ⟨source, i, cells, -, -, -, value, reported⟩ := cell.origin clean
  rw [value] at found
  obtain ⟨range, first, problem, before⟩ := ColumnKind.range_of_reread
    (FeedTable.stable_schema {} which cell.column (List.mem_of_getElem? cell.listed))
    (fun text => Presence.ne_empty_of_ofCell) found
  exact ⟨range, first, before, reported first problem⟩

/-- What a feed can still be blamed for that was loaded without a fault, written and loaded again.
    The required tables without records are missing, and required cells may be empty. A reference
    that is dangling was reported before, and so was a range that is left, in the row that the
    record came from. -/
theorem complaints_of_copy
    (clean : (({} : Feed).load (.ok archive) { settings, progress }).fault = none)
    (writing : Session) (skips : writing.settings.skipEmptyTables = true) (settings' : Settings)
    (progress' : Option (Array Progress.Event)) :
    let first := ({} : Feed).load (.ok archive) { settings, progress }
    let second := first.feed.copy writing { settings := settings', progress := progress' }
    second.fault = none ∧
      (∀ d ∈ second.session.diagnostics.toList, d.kind = .missingTable ∨ d.kind = .emptyField ∨
        (∃ problem : Cell.Problem, problem.IsRange ∧ d.kind = .cell problem) ∨
          ∃ key, d.kind = .referentialIntegrity key) ∧
      second.session.diagnostics.toList.filter isMissingTable =
        first.feed.missing FeedTable.loadOrder ∧
      (∀ p ∈ second.session.dangling, p ∈ first.session.dangling) ∧
      ∀ d ∈ second.session.diagnostics.toList, ∀ problem, d.kind = .cell problem →
        ∃ (which : FeedTable) (key : Key) (record back : Record) (column : String)
          (before : Cell.Problem), d.table = which.name ∧ d.column = some column ∧
            (second.feed.get which).get? key = some back ∧ back.row = d.row ∧
              (first.feed.get which).get? key = some record ∧ before.IsRange ∧
                ⟨which.name, record.row, some column, .cell before⟩ ∈
                  first.session.diagnostics.toList := by
  intro first second
  have sound : first.feed.Sound := sound_empty.load (.ok archive) { settings, progress }
  refine ⟨fault_copy sound writing _, ?_, missing_copy sound skips,
    fun p => dangling_copy clean, ?_⟩
  · intro d reported
    rcases complaint_copy sound skips reported with
      ⟨which, rfl⟩ | ⟨which, i, cell, at_i, rfl | ⟨problem, found, rfl⟩⟩ | dangling
    · exact Or.inl rfl
    · exact Or.inr (Or.inl rfl)
    · exact Or.inr (Or.inr (Or.inl ⟨problem, (range_copy clean cell found).1, rfl⟩))
    · exact Or.inr (Or.inr (Or.inr dangling))
  · intro d reported problem kind
    rcases complaint_copy sound skips reported with
      ⟨which, rfl⟩ | ⟨which, i, cell, at_i, rfl | ⟨problem, found, rfl⟩⟩ | ⟨key, dangling⟩
    · contradiction
    · contradiction
    · obtain ⟨-, before, range, told⟩ := range_copy clean cell found
      exact ⟨which, cell.key, cell.record, _, cell.column.name, before, rfl, rfl,
        (get?_copy sound writing _ which cell.key _).mpr ⟨i, cell.record, at_i, rfl⟩, rfl,
        cell.held, range, told⟩
    · rw [kind] at dangling
      contradiction

end

/-- A trip that there is not, at intervals of no length from a start that is written oddly. -/
def strayTrip : Archive :=
  [{ name := "frequencies.txt"
     content := Utf8.encode "trip_id,start_time,headway_secs\nT1,6:60:00,0\n" }]

/-- Five tables are missing, and the trip and the interval were reported before. The start is
    written as seven o'clock and no longer out of range. -/
theorem complaints_of_copy_strayTrip :
    let first := ({} : Feed).load (.ok strayTrip) {}
    let second := first.feed.copy {} {}
    first.fault = none ∧
      (second.session.diagnostics.toList.filter isMissingTable).map Diagnostic.table =
        ["agency", "stops", "routes", "trips", "stop_times"] ∧
      ⟨"trip_id", "T1"⟩ ∈ first.session.dangling ∧
      ∃ (row : Nat) (before : Cell.Problem), before.IsRange ∧
        ⟨"frequencies", row, some "headway_secs", .cell before⟩ ∈
          first.session.diagnostics.toList := by
  have clean : (({} : Feed).load (.ok strayTrip) {}).fault = none := by decide +kernel
  obtain ⟨-, -, missing, dangling, ranges⟩ := complaints_of_copy clean {} rfl {} none
  have unknown := dangling ⟨"trip_id", "T1"⟩ (by decide +kernel)
  obtain ⟨which, key, record, back, column, before, table, named, -, -, -, range, told⟩ :=
    ranges ⟨"frequencies", 1, some "headway_secs",
      .cell (.range (.ofInt 1) (.ofInt 86400) (.ofInt 0))⟩ (by decide +kernel) _ rfl
  have tables := congrArg (List.map Diagnostic.table) missing
  refine ⟨clean, ?_, unknown, record.row, before, range, ?_⟩
  · exact tables.trans (by decide +kernel)
  · cases named
    change "frequencies" = which.name at table
    rw [table]
    exact told

end Feed

end TransitFeed

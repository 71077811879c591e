import TransitFeed.Proofs.Feed.ReadBack
import TransitFeed.Proofs.Feed.References
import TransitFeed.Proofs.Load.Complaints
import TransitFeed.Proofs.Session.Reports

/-! # Where the records of a feed come from

A feed that was loaded from one archive has the records of the rows of that archive, and whatever
is wrong with a cell of such a row was reported. The dangling references are those that rows have
and their targets have not.
-/

namespace TransitFeed

namespace FeedTable

theorem column_schema (f g : Feed) {which : FeedTable} {j : Nat} {column : Column}
    (at_j : (f.schema which).columns[j]? = some column) :
    ∃ other, (g.schema which).columns[j]? = some other ∧ other.name = column.name ∧
      ∀ presence, other.kind.read presence = column.kind.read presence := by
  have same : (f.schema which).columns.map Column.plain =
      (g.schema which).columns.map Column.plain :=
    (plain_schema f which).trans (plain_schema g which).symm
  have there : ((g.schema which).columns.map Column.plain)[j]? = some column.plain := by
    rw [← same, List.getElem?_map, at_j]
    rfl
  rw [List.getElem?_map, Option.map_eq_some_iff] at there
  obtain ⟨other, at_j', plain⟩ := there
  have name : other.plain.name = column.plain.name := by rw [plain]
  refine ⟨other, at_j', name, ?_⟩
  intro presence
  have kind : other.kind.plain = column.kind.plain := congrArg Column.kind plain
  rw [← ColumnKind.read_plain, kind, ColumnKind.read_plain]

end FeedTable

theorem rowValues_getElem? {schema : Schema} (header cells : Csv.Record) {j : Nat}
    {column : Column} (at_j : schema.columns[j]? = some column) :
    (rowValues (Field.layout schema header) cells)[j]? = some (column.kind.read (.ofCell cells
      ((Field.headerNames header).idxOf? column.name))).value := by
  rw [rowValues, Field.layout, List.map_map, List.getElem?_map, at_j]
  rfl

theorem ColumnKind.present_of_reference {target : Table} {presence : Presence}
    (full : ((reference target).read presence).value.cell ≠ "") :
    presence = .present ((reference target).read presence).value.cell := by
  cases presence with
  | absent | empty => exact absurd rfl full
  | present text => rfl

namespace Feed

variable {archive : Archive} {session : Session}

theorem diagnostics_load {f : Feed} (clean : (f.load (.ok archive) session).fault = none) :
    (f.load (.ok archive) session).session.diagnostics.toList =
      session.diagnostics.toList ++
        session.reports (f.fillEffects archive FeedTable.loadOrder) := by
  obtain ⟨opened, same, -, -, line, ran⟩ := load_of_clean clean
  obtain rfl : archive = opened := Except.ok.inj same
  rw [ran, Session.diagnostics_run, Session.reports_append]
  exact congrArg _ (List.append_nil _)

/-- A record of a feed is what a row of its archive gives, and all problems with the cells of the
    row were reported. -/
theorem origin_load (clean : (({} : Feed).load (.ok archive) session).fault = none)
    {which : FeedTable} {key : Key} {record : Record}
    (found : ((({} : Feed).load (.ok archive) session).feed.get which).get? key = some record) :
    ∃ source i cells, archive.source? which.name = some source ∧
      source.records[i]? = some cells ∧
        record = ⟨i + 1, rowValues (Field.layout which.form source.header) cells⟩ ∧
          ∀ column ∈ which.form.columns, ∀ problem ∈ (column.kind.read (.ofCell cells
              ((Field.headerNames source.header).idxOf? column.name))).problems,
            ⟨which.name, i + 1, some column.name, .cell problem⟩ ∈
              (({} : Feed).load (.ok archive) session).session.diagnostics.toList := by
  have reported := diagnostics_load clean
  obtain ⟨opened, same, filled, -⟩ := load_of_clean clean
  obtain rfl : archive = opened := Except.ok.inj same
  obtain ⟨targets, loaded, told⟩ := foldl_fill_of_mem archive {} FeedTable.nodup_loadOrder
    which.mem_loadOrder
  rw [filled, loaded, get_empty] at found
  obtain ⟨source, i, cells, opened, at_i, rfl⟩ := Schema.origin_loadTable found
  refine ⟨source, i, cells, (schema_name targets which) ▸ opened, at_i, ?_, ?_⟩
  · rw [FeedTable.rowValues_schema]
  · intro column listed problem wrong
    obtain ⟨j, at_j⟩ := List.mem_iff_getElem?.mp listed
    obtain ⟨other, at_j', name, same⟩ := FeedTable.column_schema {} targets at_j
    rw [← name, ← same] at wrong
    have effect := Schema.mem_loadEffects_of_problem (({} : Feed).get which) opened at_i
      (List.mem_of_getElem? at_j') wrong
    rw [reported, ← name, ← schema_name targets which]
    exact List.mem_append_right _ (session.mem_reports_of_report (told _ effect))

/-- A cell of a record that a feed holds, in its column. -/
structure HeldCell (f : Feed) (which : FeedTable) where
  key : Key
  record : Record
  place : Nat
  column : Column
  value : Value
  held : (f.get which).get? key = some record
  listed : which.form.columns[place]? = some column
  filled : record.values[place]? = some value

theorem HeldCell.origin (clean : (({} : Feed).load (.ok archive) session).fault = none)
    {which : FeedTable} (cell : HeldCell (({} : Feed).load (.ok archive) session).feed which) :
    ∃ source i cells, archive.source? which.name = some source ∧
      source.records[i]? = some cells ∧ cell.record.row = i + 1 ∧
        let reading := cell.column.kind.read (.ofCell cells
          ((Field.headerNames source.header).idxOf? cell.column.name))
        cell.value = reading.value ∧ ∀ problem ∈ reading.problems,
          ⟨which.name, cell.record.row, some cell.column.name, .cell problem⟩ ∈
            (({} : Feed).load (.ok archive) session).session.diagnostics.toList := by
  obtain ⟨source, i, cells, opened, at_i, record, reported⟩ := origin_load clean cell.held
  have row : cell.record.row = i + 1 := congrArg Record.row record
  have filled := cell.filled
  rw [record, rowValues_getElem? source.header cells cell.listed] at filled
  refine ⟨source, i, cells, opened, at_i, row, (Option.some.inj filled).symm, ?_⟩
  rw [row]
  exact reported cell.column (List.mem_of_getElem? cell.listed)

theorem agree_fillEffects (f : Feed) (archive : Archive) :
    Effect.Agree (f.fillEffects archive FeedTable.loadOrder) := by
  apply agree_of_meets (FeedTable.loadOrder.foldl (fill archive) f)
  intro p missing met
  obtain ⟨which, -, target, refers, -, held⟩ :=
    (f.meets_fillEffects archive p missing FeedTable.ordered_loadOrder).mp met
  exact ⟨which, target, refers, held⟩

/-- A load in a new session reports the references that it meets and finds dangling. -/
theorem mem_dangling_iff_meets {f : Feed} {settings : Settings}
    {progress : Option (Array Progress.Event)}
    (clean : (f.load (.ok archive) { settings, progress }).fault = none) (p : Sighting) :
    p ∈ (f.load (.ok archive) { settings, progress }).session.dangling ↔
      Effect.Meets (f.fillEffects archive FeedTable.loadOrder) p true := by
  obtain ⟨opened, same, -, -, line, ran⟩ := load_of_clean clean
  obtain rfl : archive = opened := Except.ok.inj same
  obtain ⟨new, reported, -, members⟩ := Session.dangling_run { settings, progress }
    (f.plain_fillEffects archive FeedTable.loadOrder) (f.agree_fillEffects archive)
  have all : ((Session.run { settings, progress }
      (f.fillEffects archive FeedTable.loadOrder)).run [.log .info line]).dangling = new := reported
  rw [ran, Session.run_append, all, members]
  simp

theorem HeldCell.hasText (clean : (({} : Feed).load (.ok archive) session).fault = none)
    {which : FeedTable} (cell : HeldCell (({} : Feed).load (.ok archive) session).feed which)
    {target : Table} (refers : cell.column.kind = .reference target)
    (full : cell.value.cell ≠ "") :
    archive.HasText which.name cell.column.name cell.value.cell := by
  obtain ⟨source, i, cells, opened, at_i, -, value, -⟩ := cell.origin clean
  rw [refers] at value
  rw [value] at full ⊢
  exact ⟨source, opened, cells, List.mem_of_getElem? at_i, ColumnKind.present_of_reference full⟩

end Feed

end TransitFeed

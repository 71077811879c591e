import TransitFeed.Proofs.Archive.Location
import TransitFeed.Proofs.Feed.Written

/-! # Reading back a feed

The archive that a sound feed is written into has what the feed has: every table is found under its
name or is empty, its header names every column, and its rows are the records in their order. Read
into an empty feed, the records are under their keys again, with the numbers of their rows and the
values that are read from what was written.
-/

namespace TransitFeed

abbrev Sheet.entry (sheet : Sheet) : Entry := { name := sheet.name, content := Utf8.encode sheet.text }

namespace Feed

variable {f : Feed} {settings : Settings} {tables : List FeedTable} {which : FeedTable}

theorem archive_sheets : Package.archive (f.sheets settings tables) =
    (tables.filter (f.isWritten settings)).map fun table => (f.sheet table).entry := by
  rw [Package.archive, sheets, List.map_map]
  rfl

theorem locate?_written (inside : which ∈ tables) (written : f.isWritten settings which = true) :
    (Package.archive (f.sheets settings tables)).locate? which.name =
      some (.top (f.sheet which).entry) := by
  have here : which ∈ tables.filter (f.isWritten settings) := List.mem_filter.mpr ⟨inside, written⟩
  rw [archive_sheets]
  refine Archive.locate?_of_named (List.mem_map.mpr ⟨which, here, rfl⟩) rfl ?_
  intro entry member named
  obtain ⟨table, -, rfl⟩ := List.mem_map.mp member
  obtain rfl := FeedTable.fileName_injective named
  rfl

theorem not_isNested_sheet (which : FeedTable) (fileName : String) :
    ¬ (f.sheet which).entry.IsNested fileName := by
  have flat : '/' ∉ (which.name ++ ".txt").toList := by
    cases which <;> decide
  rintro ⟨parent, path⟩
  have name : which.name ++ ".txt" = parent ++ "/" ++ fileName := path
  rw [name, String.toList_append, String.toList_append] at flat
  exact flat (List.mem_append_left _ (List.mem_append_right _ List.mem_cons_self))

theorem locate?_skipped (skipped : f.isWritten settings which = false) :
    (Package.archive (f.sheets settings tables)).locate? which.name = none := by
  rw [archive_sheets]
  refine Archive.locate?_eq_none ?_
  rintro ⟨entry, member, either⟩
  obtain ⟨table, inside, rfl⟩ := List.mem_map.mp member
  rcases either with named | nested
  · obtain rfl := FeedTable.fileName_injective named
    rw [(List.mem_filter.mp inside).2] at skipped
    contradiction
  · exact not_isNested_sheet table _ nested

end Feed

namespace FeedTable

theorem columnNames_head (which : FeedTable) : ∃ name more,
    which.form.columnNames = name :: more ∧ name ≠ "" ∧ name.toList.head? ≠ some '\uFEFF' := by
  cases which <;> exact ⟨_, _, rfl, by decide, by decide⟩

end FeedTable

namespace Feed

variable {f : Feed} {which : FeedTable}

theorem linesOf_ne_nil (sound : (f.get which).Sound which) :
    ∀ cells ∈ f.linesOf which, cells ≠ [] := by
  obtain ⟨name, more, names, -⟩ := which.columnNames_head
  intro cells member
  rcases List.mem_cons.mp member with rfl | member
  · rw [names]
    exact List.cons_ne_nil _ _
  · obtain ⟨⟨key, record⟩, inside, rfl⟩ := List.mem_map.mp member
    have kept := (sound key record ((Table.mem_byRow _ key record).mp inside)).2.length_eq
    have count : which.form.columns.length = (name :: more).length := by
      rw [← names, Schema.columnNames, List.length_map]
    intro nothing
    rw [List.map_eq_nil_iff.mp nothing, count] at kept
    contradiction

theorem records_sheet (sound : (f.get which).Sound which) :
    (f.sheet which).entry.records = (f.linesOf which).map (List.map Utf8.encode) := by
  obtain ⟨name, more, names, -, unmarked⟩ := which.columnNames_head
  have lines : f.linesOf which = (name :: more) ::
      ((f.get which).byRow.map fun entry => entry.2.values.map Value.cell) := by
    rw [linesOf, names]
  have nonempty := linesOf_ne_nil sound
  rw [lines] at nonempty ⊢
  refine Entry.records_of_lines rfl ?_ unmarked fun cells member =>
    nonempty cells (List.mem_cons_of_mem _ member)
  rw [← lines]
  rfl

theorem named_header (which : FeedTable) :
    Entry.isBlankHeader (which.form.columnNames.map Utf8.encode) = false := by
  obtain ⟨name, more, names, named, -⟩ := which.columnNames_head
  have full : Utf8.encode name ≠ [] := by
    rwa [Ne, Utf8.encode_eq_nil]
  simp [Entry.isBlankHeader, names, full]

theorem source?_written (sound : f.Sound) {settings : Settings} {tables : List FeedTable}
    (inside : which ∈ tables) (written : f.isWritten settings which = true) :
    (Package.archive (f.sheets settings tables)).source? which.name =
      some ⟨(f.sheet which).entry, which.form.columnNames.map Utf8.encode,
        (f.get which).byRow.map fun entry =>
          (entry.2.values.map Value.cell).map Utf8.encode⟩ := by
  unfold Archive.source?
  rw [locate?_written inside written]
  simp only [Archive.Location.entry, records_sheet (sound which), linesOf, List.map_cons,
    named_header]
  simp [Function.comp_def]

theorem source?_skipped {settings : Settings} {tables : List FeedTable}
    (skipped : f.isWritten settings which = false) :
    (Package.archive (f.sheets settings tables)).source? which.name = none := by
  unfold Archive.source?
  rw [locate?_skipped skipped]

end Feed

theorem Notes.get?_rows {schema : Schema} {layout : List Field} {records : List Csv.Record}
    {entries : List (Key × List Value)}
    (read : records.map (rowValues layout) = entries.map Prod.snd)
    (own : ∀ entry ∈ entries, schema.key? entry.2 = some entry.1)
    (distinct : entries.Pairwise fun a b => a.1 ≠ b.1) (n : Notes) (key : Key) (record : Record) :
    (n.rows schema layout records).table.get? key = some record ↔
      (∃ i values, entries[i]? = some (key, values) ∧ record = ⟨n.row + i + 1, values⟩) ∨
        (∀ entry ∈ entries, entry.1 ≠ key) ∧ n.table.get? key = some record := by
  -- For all notes, since every row counts one more and may put a record into the table.
  induction entries generalizing records n with
  | nil =>
      have nothing : records = [] := List.map_eq_nil_iff.mp read
      subst nothing
      simp [rows]
  | cons first rest ih =>
      obtain ⟨name, values⟩ := first
      obtain ⟨cells, records, rfl⟩ : ∃ cells others, records = cells :: others := by
        cases records with
        | nil => contradiction
        | cons cells others => exact ⟨cells, others, rfl⟩
      obtain ⟨here, later⟩ := List.cons.inj read
      obtain ⟨apart, distinct⟩ := List.pairwise_cons.mp distinct
      have found : schema.key? (rowValues layout cells) = some name := by
        rw [here]
        exact own _ List.mem_cons_self
      rw [rows, List.foldl_cons]
      change (Notes.rows schema layout (n.step schema layout cells) records).table.get? key = _ ↔ _
      rw [ih later (fun entry member => own entry (List.mem_cons_of_mem _ member)) distinct,
        step_row, step_table, found]
      simp only [here, Table.get?_insert]
      constructor
      · rintro (⟨i, held, at_i, rfl⟩ | ⟨elsewhere, old⟩)
        · refine Or.inl ⟨i + 1, held, at_i, ?_⟩
          rw [show n.row + 1 + i + 1 = n.row + (i + 1) + 1 by omega]
        · split at old
          · next same =>
              cases old
              exact Or.inl ⟨0, values, by rw [same]; rfl, rfl⟩
          · next differs =>
              refine Or.inr ⟨?_, old⟩
              intro entry member
              rcases List.mem_cons.mp member with rfl | member
              · exact differs
              · exact elsewhere entry member
      -- No later row has the key of the first one, so its record stays.
      · rintro (⟨i, held, at_i, rfl⟩ | ⟨elsewhere, old⟩)
        · cases i with
          | zero =>
              cases at_i
              refine Or.inr ⟨fun entry member => (apart entry member).symm, ?_⟩
              rw [if_pos rfl]
          | succ i =>
              refine Or.inl ⟨i, held, at_i, ?_⟩
              rw [show n.row + 1 + i + 1 = n.row + (i + 1) + 1 by omega]
        · refine Or.inr ⟨fun entry member => elsewhere entry (List.mem_cons_of_mem _ member), ?_⟩
          rw [if_neg (elsewhere _ List.mem_cons_self)]
          exact old

namespace Table

/-- The entries in order with the values that are read from what is written of them. -/
def rereadEntries (which : FeedTable) (t : Table) : List (Key × List Value) :=
  t.byRow.map fun entry => (entry.1, which.form.reread entry.2.values)

theorem byRow_eq_mapIdx {t : Table} {entries : List (Key × List Value)}
    (holds : ∀ key record, t.get? key = some record ↔
      ∃ i values, entries[i]? = some (key, values) ∧ record = ⟨i + 1, values⟩) :
    t.byRow = entries.mapIdx fun i entry => (entry.1, ⟨i + 1, entry.2⟩) := by
  refine byRow_eq_of_pairwise t ?_ ?_
  · rw [List.pairwise_iff_getElem]
    intro i j hi hj less
    apply Before.of_row
    simp only [List.getElem_mapIdx]
    omega
  · intro key record
    rw [holds, List.mem_mapIdx]
    constructor
    · rintro ⟨i, within, same⟩
      obtain ⟨rfl, rfl⟩ := Prod.mk.inj same
      exact ⟨i, entries[i].2, List.getElem?_eq_getElem within, rfl⟩
    · rintro ⟨i, values, at_i, rfl⟩
      obtain ⟨within, same⟩ := List.getElem?_eq_some_iff.mp at_i
      exact ⟨i, within, by rw [same]⟩

end Table

namespace Feed

variable {f : Feed} {settings : Settings} {which : FeedTable}

theorem rowValues_written (sound : f.Sound) (targets : Feed) :
    ((f.get which).byRow.map fun entry => (entry.2.values.map Value.cell).map Utf8.encode).map
        (rowValues (Field.layout (targets.schema which)
          (which.form.columnNames.map Utf8.encode))) =
      ((f.get which).rereadEntries which).map Prod.snd := by
  rw [Table.rereadEntries, List.map_map, List.map_map, List.map_inj_left]
  rintro ⟨key, record⟩ member
  have kept := (sound which key record ((Table.mem_byRow _ key record).mp member)).2
  change rowValues (Field.layout (targets.schema which) _) _ = which.form.reread record.values
  rw [FeedTable.rowValues_schema, Schema.rowValues_cells which.nodup_columnNames kept]

theorem key?_rereadEntries (sound : f.Sound) (targets : Feed) :
    ∀ entry ∈ (f.get which).rereadEntries which,
      (targets.schema which).key? entry.2 = some entry.1 := by
  intro entry member
  obtain ⟨⟨key, record⟩, inside, rfl⟩ := List.mem_map.mp member
  rw [FeedTable.key?_schema, Schema.key?_reread which.plainKey_form]
  exact (sound which key record ((Table.mem_byRow _ key record).mp inside)).1

theorem scanned_written (sound : f.Sound) (targets : Feed) (source : Archive.Source)
    (header : source.header = which.form.columnNames.map Utf8.encode)
    (records : source.records = (f.get which).byRow.map fun entry =>
      (entry.2.values.map Value.cell).map Utf8.encode) :
    ((targets.schema which).scanned source ⟨which.name, ∅⟩).table.byRow =
      ((f.get which).rereadEntries which).mapIdx fun i entry => (entry.1, ⟨i + 1, entry.2⟩) := by
  have distinct : ((f.get which).rereadEntries which).Pairwise fun a b => a.1 ≠ b.1 := by
    rw [Table.rereadEntries, List.pairwise_map]
    exact List.pairwise_map.mp (Table.nodup_byRow_keys (f.get which))
  refine Table.byRow_eq_mapIdx fun key record => ?_
  rw [Schema.scanned, header, records, Notes.get?_rows (rowValues_written sound targets)
    (key?_rereadEntries sound targets) distinct]
  simp

theorem byRow_loadTable (sound : f.Sound) (targets : Feed) :
    ((targets.schema which).loadTable (Package.archive (f.sheets settings FeedTable.all))
        ⟨which.name, ∅⟩).byRow =
      ((f.get which).rereadEntries which).mapIdx fun i entry => (entry.1, ⟨i + 1, entry.2⟩) := by
  have inside := which.mem_all
  unfold Schema.loadTable
  rw [schema_name]
  cases written : f.isWritten settings which with
  | true =>
      rw [source?_written sound inside written]
      exact scanned_written sound targets _ rfl rfl
  | false =>
      have nothing : (f.get which).byRow = [] := by
        rw [← Table.isEmpty_iff]
        unfold isWritten at written
        simp only [Bool.not_eq_false', Bool.and_eq_true] at written
        exact written.1
      rw [source?_skipped written]
      simp only [Table.rereadEntries, nothing, List.map_nil, List.mapIdx_nil]
      exact (Table.isEmpty_iff _).mp rfl

theorem loadFault_written (sound : f.Sound) (targets : Feed) (t : Table) :
    (targets.schema which).loadFault (Package.archive (f.sheets settings FeedTable.all)) t =
      none := by
  have inside := which.mem_all
  unfold Schema.loadFault
  rw [schema_name]
  cases written : f.isWritten settings which with
  | true =>
      rw [source?_written sound inside written]
      rfl
  | false =>
      rw [source?_skipped written]
      simp only [Schema.openFault, schema_name, locate?_skipped written, Option.bind_none]

end Feed

namespace Feed

/-- The feed that is loaded from what was written of a feed. -/
def copy (f : Feed) (writing reading : Session) : LoadedFeed :=
  ({} : Feed).load (.ok (Package.archive (f.write [] writing).package)) reading

/-- Among other tables a table is filled by a load of its own, and the session is told of it. -/
theorem foldl_fill_of_mem (archive : Archive) (f : Feed) {tables : List FeedTable}
    (distinct : tables.Nodup) {which : FeedTable} (inside : which ∈ tables) :
    ∃ targets : Feed, (tables.foldl (fill archive) f).get which =
        (targets.schema which).loadTable archive (f.get which) ∧
      ∀ e ∈ (targets.schema which).loadEffects archive (f.get which),
        e ∈ f.fillEffects archive tables := by
  induction tables generalizing f with
  | nil => contradiction
  | cons first rest ih =>
      obtain ⟨apart, distinct⟩ := List.nodup_cons.mp distinct
      rw [List.foldl_cons]
      rcases List.mem_cons.mp inside with rfl | inside
      · exact ⟨f, by rw [get_foldl_fill archive _ apart, get_fill_self],
          fun e told => List.mem_append_left _ told⟩
      · obtain ⟨targets, same, told⟩ := ih (f.fill archive first) distinct inside
        have other : first ≠ which := by
          rintro rfl
          exact apart inside
        rw [get_fill_of_ne archive f other] at same told
        exact ⟨targets, same, fun e member => List.mem_append_right _ (told e member)⟩

theorem get_empty (which : FeedTable) : ({} : Feed).get which = ⟨which.name, ∅⟩ := by
  cases which <;> rfl

variable {f : Feed} (sound : f.Sound) (writing reading : Session)

include sound in
theorem copy_eq :
    f.copy writing reading =
      ({} : Feed).load (.ok (Package.archive (f.sheets writing.settings FeedTable.all)))
        reading := by
  rw [copy, (write_of_sound sound writing).2]

include sound in
theorem fault_copy : (f.copy writing reading).fault = none := by
  have clean (g : Feed) (tables : List FeedTable) :
      g.fillFault (Package.archive (f.sheets writing.settings FeedTable.all)) tables = none := by
    induction tables generalizing g with
    | nil => rfl
    | cons which rest ih =>
        rw [fillFault, loadFault_written sound, ih]
        rfl
  rw [copy_eq sound, Feed.load, LoadedFeed.fault_complete, LoadedFeed.foldl_stage_of_clean_tables]
  · rw [LoadedFeed.foldl_table_ok, clean]
    rfl
  · rw [LoadedFeed.foldl_table_ok, clean]
    rfl

include sound in
theorem byRow_copy (which : FeedTable) :
    ((f.copy writing reading).feed.get which).byRow =
      ((f.get which).rereadEntries which).mapIdx fun i entry => (entry.1, ⟨i + 1, entry.2⟩) := by
  have clean := fault_copy sound writing reading
  rw [copy_eq sound] at clean ⊢
  obtain ⟨opened, same, filled, -⟩ := load_of_clean clean
  cases same
  obtain ⟨targets, loaded, -⟩ := foldl_fill_of_mem
    (Package.archive (f.sheets writing.settings FeedTable.all)) {} FeedTable.nodup_loadOrder
    which.mem_loadOrder
  rw [filled, loaded, get_empty]
  exact byRow_loadTable sound targets

end Feed

end TransitFeed

import Mathlib.Data.List.Nodup
import TransitFeed.Proofs.Archive.Location
import TransitFeed.Proofs.Load.Keys

/-! # What a load reports of a table as a whole

A load reports where its table is, if it is missing or in a folder. That the table is empty it
reports if there is an entry and the load ends without a fault and without a row.
-/

namespace TransitFeed

namespace Diagnostic

/-- Whether a diagnostic says where a table is, or that it is nowhere. -/
def Kind.isLocation : Kind → Bool
  | .missingTable | .tableInSubdirectory _ => true
  | _ => false

theorem tier_of_isLocation {d : Diagnostic} (located : d.kind.isLocation = true) :
    d.kind.tier = .structural := by
  unfold Kind.isLocation at located
  split at located
  · next kind => rw [kind]; rfl
  · next kind => rw [kind]; rfl
  · contradiction

theorem tier_of_emptyTable (d : Diagnostic) (empty : decide (d.kind = .emptyTable) = true) :
    d.kind.tier = .structural := by
  rw [of_decide_eq_true empty]
  rfl

end Diagnostic

namespace Schema

variable {schema : Schema} {archive : Archive} {table : Table} {location : Archive.Location}

variable (schema) in
/-- The complaint that a table has no rows, if it has none. -/
def emptiness (empty : Prop) [Decidable empty] : List Diagnostic :=
  if empty then [⟨schema.name, 0, none, .emptyTable⟩] else []

theorem told_readingEffects (entry : Entry) : Effect.told (readingEffects entry) = [] := by
  rw [List.eq_nil_iff_forall_not_mem]
  exact fun d told => not_mem_readingEffects entry (Effect.mem_told.mp told)

theorem told_headerEffects (entry : Entry) :
    Effect.told (schema.headerEffects entry table) =
      match entry.records with
      | [] => schema.emptiness (entry.state = .intact)
      | header :: _ => schema.emptiness (Entry.isBlankHeader header = true) := by
  unfold headerEffects emptiness
  cases entry.records with
  | nil =>
      dsimp only
      split
      · rfl
      · rfl
  | cons header records =>
      dsimp only
      split
      · rfl
      · rfl

theorem told_closeEffects (entry : Entry) (n : Notes) :
    Effect.told (schema.closeEffects entry n) =
      schema.emptiness (entry.state = .intact ∧ n.row = 0) := by
  unfold closeEffects emptiness
  by_cases intact : entry.state = .intact
  · by_cases blank : n.row = 0
    · simp only [intact, blank, if_true, and_self]
      rfl
    · simp only [intact, blank, if_true, if_false, and_false]
      rfl
  · simp only [intact, if_false, false_and]
    rfl

theorem told_openEffects (found : archive.locate? schema.name = some location) :
    Effect.told (schema.openEffects archive table) =
      Effect.told (schema.locationEffects location) ++
        if location.entry.state = .locked then []
        else Effect.told (schema.headerEffects location.entry table) := by
  unfold openEffects
  rw [found]
  dsimp only
  rw [Effect.told_append]
  split
  · rfl
  · rw [Effect.told_cons, Effect.told_append, told_readingEffects]
    rfl

theorem emptiness_congr {a b : Prop} [Decidable a] [Decidable b] (same : a ↔ b) :
    schema.emptiness a = schema.emptiness b := by
  unfold emptiness
  simp only [same]

theorem filter_told_rows_of_structural {q : Diagnostic → Bool}
    (structural : ∀ d, q d = true → d.kind.tier = .structural) (layout : List Field) (n : Notes)
    (records : List Csv.Record) :
    (Effect.told (n.rowsEffects schema layout records)).filter q = [] := by
  rw [List.filter_eq_nil_iff]
  intro d told holds
  exact Notes.tier_of_mem_rowsEffects (Effect.mem_told.mp told) (structural d holds)

variable (schema table) in
theorem closes_empty_iff (source : Archive.Source) (values : Csv.Record → List Value) :
    source.entry.state = .intact ∧ (schema.scanned source table).row = 0 ↔
      closeFault source.entry (schema.scanned source table) = none ∧
        source.records.map values = [] := by
  have counted : (schema.scanned source table).row = source.records.length := by
    unfold scanned
    rw [Notes.row_rows, Nat.zero_add]
  rw [counted, List.length_eq_zero_iff, List.map_eq_nil_iff]
  refine and_congr_left fun _ => ?_
  unfold closeFault
  split
  · next intact => exact iff_of_true intact rfl
  · next torn => exact iff_of_false torn (by simp)

/-- Of a table as a whole, a load that finds an entry reports where it is, and that it is empty if
    the load ends without a fault and without a row. -/
theorem told_structural (found : archive.locate? schema.name = some location)
    {q : Diagnostic → Bool} (structural : ∀ d, q d = true → d.kind.tier = .structural) :
    (Effect.told (schema.loadEffects archive table)).filter q =
      (Effect.told (schema.locationEffects location) ++ schema.emptiness
        (schema.loadFault archive table = none ∧ schema.rowsRead archive = [])).filter q := by
  unfold loadEffects loadFault rowsRead
  rw [Effect.told_append, told_openEffects found]
  by_cases locked : location.entry.state = .locked
  · rw [Archive.source?_of_locked found locked]
    simp [openFault, found, locked, emptiness]
  · rw [if_neg locked, Archive.source?_of_locate? found locked, told_headerEffects]
    -- Rows that are read report nothing of the table, so the header or the end of the rows does.
    cases rows : location.entry.records with
    | nil =>
        have same : location.entry.state = .intact ↔ schema.openFault archive = none ∧ True := by
          simp [openFault, found, locked, rows]
        simp only [emptiness_congr same, Effect.told_nil, List.append_nil]
    | cons header records =>
        by_cases blank : Entry.isBlankHeader header = true
        · have same : True ↔ schema.openFault archive = none ∧ True := by
            simp [openFault, found, locked, rows]
          simp only [blank, if_true, emptiness_congr same, Effect.told_nil, List.append_nil]
        · have same := closes_empty_iff schema table
            ⟨location.entry, header, records⟩ (rowValues (Field.layout schema header))
          simp only [blank, Bool.false_eq_true, if_false, Effect.told_append, List.filter_append,
            filter_told_rows_of_structural structural, told_closeEffects, emptiness_congr same]
          simp [emptiness]

theorem filter_reports_structural (s : Session)
    (found : archive.locate? schema.name = some location) {q : Diagnostic → Bool}
    (structural : ∀ d, q d = true → d.kind.tier = .structural) :
    (s.reports (schema.loadEffects archive table)).filter q =
      (Effect.told (schema.locationEffects location) ++ schema.emptiness
        (schema.loadFault archive table = none ∧ schema.rowsRead archive = [])).filter q := by
  rw [Session.filter_reports_of_told s, told_structural found structural]
  intro l
  rw [Bool.eq_false_iff]
  intro holds
  have tier := structural _ holds
  contradiction

theorem filter_location (s : Session) (found : archive.locate? schema.name = some location) :
    (s.reports (schema.loadEffects archive table)).filter (·.kind.isLocation) =
      Effect.told (schema.locationEffects location) := by
  rw [filter_reports_structural s found fun _ => Diagnostic.tier_of_isLocation, List.filter_append]
  have quiet (empty : Prop) [Decidable empty] :
      (schema.emptiness empty).filter (·.kind.isLocation) = [] := by
    unfold emptiness
    split
    · rfl
    · rfl
  rw [quiet, List.append_nil]
  cases location with
  | top entry => rfl
  | nested folder entry => rfl

theorem filter_emptyTable (s : Session) (found : archive.locate? schema.name = some location) :
    (s.reports (schema.loadEffects archive table)).filter (·.kind = .emptyTable) =
      schema.emptiness
        (schema.loadFault archive table = none ∧ schema.rowsRead archive = []) := by
  rw [filter_reports_structural s found Diagnostic.tier_of_emptyTable, List.filter_append]
  have elsewhere : (Effect.told (schema.locationEffects location)).filter
      (·.kind = .emptyTable) = [] := by
    cases location with
    | top entry => rfl
    | nested folder entry => rfl
  rw [elsewhere, List.nil_append]
  unfold emptiness
  split
  · rfl
  · rfl

theorem reports_of_none (s : Session) (lost : archive.locate? schema.name = none) :
    s.reports (schema.loadEffects archive table) =
      if schema.required then [⟨schema.name, 0, none, .missingTable⟩] else [] := by
  unfold loadEffects openEffects Archive.source?
  rw [lost]
  dsimp only
  split
  · rfl
  · rfl

theorem load_of_none (s : Session) (lost : archive.locate? schema.name = none) :
    let loaded := schema.load archive table s
    loaded.table = table ∧ loaded.fault = none ∧ { loaded.session with log := s.log } =
      if schema.required then s.reportTable schema.name .missingTable else s := by
  unfold load
  rw [lost]
  dsimp only
  split
  · exact ⟨rfl, rfl, rfl⟩
  · exact ⟨rfl, rfl, rfl⟩

theorem loadTable_of_no_rows (nothing : schema.rowsRead archive = []) :
    schema.loadTable archive table = table := by
  unfold rowsRead at nothing
  unfold loadTable
  split
  · rfl
  · next source opened =>
    rw [opened] at nothing
    unfold scanned
    rw [List.map_eq_nil_iff.mp nothing]
    rfl

theorem eq_of_missingTable {s : Session} {d : Diagnostic}
    (told : d ∈ s.reports (schema.loadEffects archive table)) (missing : d.kind = .missingTable) :
    s.reports (schema.loadEffects archive table) = [d] := by
  cases found : archive.locate? schema.name with
  | some location =>
      have located : d ∈ Effect.told (schema.locationEffects location) := by
        rw [← filter_location s found, List.mem_filter]
        exact ⟨told, by rw [missing]; rfl⟩
      cases location with
      | top entry => contradiction
      | nested folder entry =>
          rw [List.mem_singleton.mp located] at missing
          contradiction
  | none =>
      rw [reports_of_none s found] at told ⊢
      split at told
      · next required =>
        rw [if_pos required, List.mem_singleton.mp told]
      · contradiction

/-- A load reads the entry of the name of its table, if there is one. Otherwise it reads the first
    one of that name in a folder and reports the folder, and if there is none either, it does
    nothing but report a required table to be missing. It reports an empty table if an entry was
    found and the load ends without a fault and without a row, and then the table is as before. -/
theorem load_located (schema : Schema) {archive : Archive}
    (distinct : (archive.map Entry.name).Nodup) (table : Table) (s : Session) :
    let fileName := schema.name ++ ".txt"
    let loaded := schema.load archive table s
    let empty := archive.Holds schema.name ∧ loaded.fault = none ∧ schema.rowsRead archive = []
    ∃ new, loaded.session.diagnostics.toList = s.diagnostics.toList ++ new ∧
      (∀ entry ∈ archive, entry.name = fileName →
        loaded = schema.openEntry entry table s ∧ new.filter (·.kind.isLocation) = []) ∧
      ((∀ other ∈ archive, other.name ≠ fileName) →
        ∀ before entry after, archive = before ++ entry :: after →
          (∀ other ∈ before, ¬ other.IsNested fileName) →
            ∀ parent, entry.name = parent ++ "/" ++ fileName →
              loaded = schema.openEntry entry table
                ((s.logs .warn ("table " ++ schema.name ++ " found in a subdirectory")).reportTable
                  schema.name (.tableInSubdirectory (parent ++ "/"))) ∧
              new.filter (·.kind.isLocation) =
                [⟨schema.name, 0, none, .tableInSubdirectory (parent ++ "/")⟩]) ∧
      (¬ archive.Holds schema.name →
        loaded.table = table ∧ loaded.fault = none ∧ { loaded.session with log := s.log } =
          if schema.required then s.reportTable schema.name .missingTable else s) ∧
      (empty → loaded.table = table ∧
        new.filter (·.kind = .emptyTable) = [⟨schema.name, 0, none, .emptyTable⟩]) ∧
      (¬ empty → new.filter (·.kind = .emptyTable) = []) ∧
      ∀ d ∈ new, d.kind = .missingTable → new = [d] := by
  intro fileName loaded empty
  have made : loaded = ⟨s.run (schema.loadEffects archive table), schema.loadTable archive table,
      schema.loadFault archive table, schema.loadInstances archive s.pool⟩ :=
    schema.load_eq table s archive
  have fault : loaded.fault = schema.loadFault archive table := by rw [made]
  refine ⟨_, diagnostics_load schema archive table s, ?named, ?nested, ?lost, ?empty, ?filled,
    fun d => eq_of_missingTable⟩
  case named =>
    intro entry inside named
    have found := Archive.locate?_of_named inside named fun other listed same =>
      List.inj_on_of_nodup_map distinct listed inside (same.trans named.symm)
    refine ⟨?_, filter_location s found⟩
    unfold loaded load
    rw [found]
  case nested =>
    intro unnamed before entry after split first parent nested
    subst split
    have found := Archive.locate?_of_nested unnamed first nested
    refine ⟨?_, filter_location s found⟩
    unfold loaded load
    rw [found]
  case lost => exact fun lost => load_of_none s (Archive.locate?_eq_none lost)
  case empty =>
    rintro ⟨holds, complete, nothing⟩
    obtain ⟨location, found⟩ := Archive.exists_locate? holds
    rw [filter_emptyTable s found, emptiness, if_pos ⟨fault ▸ complete, nothing⟩, made]
    exact ⟨loadTable_of_no_rows nothing, rfl⟩
  case filled =>
    intro filled
    by_cases holds : archive.Holds schema.name
    · obtain ⟨location, found⟩ := Archive.exists_locate? holds
      have rows : ¬ (schema.loadFault archive table = none ∧ schema.rowsRead archive = []) :=
        fun both => filled ⟨holds, fault.trans both.1, both.2⟩
      rw [filter_emptyTable s found, emptiness, if_neg rows]
    · rw [reports_of_none s (Archive.locate?_eq_none holds)]
      split
      · rfl
      · rfl

/-- Stops in two folders, first without rows, behind a file whose name ends like theirs. -/
def twoFolders : Archive :=
  [{ name := "blue_stops.txt", content := Utf8.encode "stop_id\nS1" },
    { name := "old/stops.txt", content := Utf8.encode "stop_id,stop_name" },
    { name := "new/stops.txt", content := Utf8.encode "stop_id,stop_name\nS1,First" }]

/-- The first folder is reported, and the table in it is empty. -/
theorem load_located_twoFolders :
    let loaded := (({} : Feed).schema .stops).load twoFolders { name := "stops" } {}
    (twoFolders.map Entry.name).Nodup ∧
      loaded.session.diagnostics.toList.filter (·.kind.isLocation) =
        [⟨"stops", 0, none, .tableInSubdirectory "old/"⟩] ∧
      loaded.session.diagnostics.toList.filter (·.kind = .emptyTable) =
        [⟨"stops", 0, none, .emptyTable⟩] := by
  intro loaded
  have distinct : (twoFolders.map Entry.name).Nodup := by decide
  obtain ⟨new, told, -, nested, -, empty, -⟩ :=
    load_located (({} : Feed).schema .stops) distinct { name := "stops" } {}
  have all : loaded.session.diagnostics.toList = new := told
  have other : Archive.folder? "stops.txt" "blue_stops.txt" = none := by decide +kernel
  have first : ∀ other ∈ twoFolders.take 1, ¬ other.IsNested "stops.txt" := by
    intro entry early
    obtain rfl := List.mem_singleton.mp early
    rintro ⟨parent, name⟩
    have name : "blue_stops.txt" = parent ++ "/" ++ "stops.txt" := name
    have folder := Archive.folder?_nested "stops.txt" parent
    rw [← name, other] at folder
    contradiction
  have unnamed : ∀ other ∈ twoFolders, other.name ≠ "stops.txt" := by decide
  have inside : "old/stops.txt" = "old" ++ "/" ++ "stops.txt" := by decide +kernel
  have holds : Archive.Holds twoFolders "stops" :=
    ⟨_, List.mem_cons_of_mem _ List.mem_cons_self, Or.inr ⟨"old", inside⟩⟩
  have folder := (nested unnamed (twoFolders.take 1) _ (twoFolders.drop 2) rfl first "old" inside).2
  rw [show "old" ++ "/" = "old/" by decide +kernel] at folder
  rw [all]
  refine ⟨distinct, folder, (empty ⟨holds, ?_, ?_⟩).2⟩
  · decide +kernel
  · decide +kernel

end Schema

end TransitFeed

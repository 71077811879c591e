import TransitFeed.Feed.Schemas
import TransitFeed.Proofs.Csv.Terminated
import TransitFeed.Proofs.Session.Run

/-! # Entries that prove corrupt

A corrupt entry is read to its last octet before its checksum proves wrong. What its load keeps is
what a load of an intact entry keeps that ends with the last complete record. Of the session this
takes in all but the log and what a listener is told.
-/

namespace TransitFeed

namespace Effect

/-- Whether an effect is more than a line of the log or an event. -/
def lasts : Effect → Bool
  | .log .. | .tell _ | .pass _ => false
  | .intern _ | .report _ | .refer .. => true

end Effect

namespace Session

/-- A session without its log and without a listener. -/
def kept (s : Session) : Session := { s with log := #[], progress := none }

theorem kept_apply_of_lasts (s : Session) {e : Effect} (lasts : e.lasts = true) :
    (s.apply e).kept = s.kept.apply e := by
  cases e with
  | log | tell | pass => contradiction
  | intern | report => rfl
  | refer table row column key target =>
      change (s.checkReference table row column key target).kept =
        s.kept.checkReference table row column key target
      unfold checkReference
      change kept (if (!s.hasSeen column key && !target.contains (.name key)) = true then _
        else _) = if (!s.hasSeen column key && !target.contains (.name key)) = true then _ else _
      split
      · rfl
      · rfl

theorem kept_apply_of_not_lasts (s : Session) {e : Effect} (passes : ¬ e.lasts = true) :
    (s.apply e).kept = s.kept := by
  cases e with
  | log | tell => rfl
  | pass row =>
      rw [apply_pass]
      rfl
  | intern | report | refer => exact absurd rfl passes

theorem kept_run (s : Session) (effects : List Effect) :
    (s.run effects).kept = s.kept.run (effects.filter Effect.lasts) := by
  induction effects generalizing s with
  | nil => rfl
  | cons e rest ih =>
      rw [run_cons, ih]
      by_cases lasts : e.lasts = true
      · rw [List.filter_cons_of_pos lasts, kept_apply_of_lasts s lasts, run_cons]
      · rw [List.filter_cons_of_neg lasts, kept_apply_of_not_lasts s lasts]

/-- Records that the entry of a table lies in a folder, if it does. -/
def found (s : Session) (schema : Schema) : Archive.Location → Session
  | .top _ => s
  | .nested folder _ => s.reportTable schema.name (.tableInSubdirectory folder)

theorem kept_found (s : Session) (schema : Schema) (location : Archive.Location) :
    (s.found schema location).kept =
      s.kept.run ((schema.locationEffects location).filter Effect.lasts) := by
  cases location with
  | top entry => rfl
  | nested folder entry => rfl

end Session

namespace Archive

/-- The location with another entry. -/
def Location.map (change : Entry → Entry) : Location → Location
  | .top entry => .top (change entry)
  | .nested folder entry => .nested folder (change entry)

theorem Location.entry_map (change : Entry → Entry) (location : Location) :
    (location.map change).entry = change location.entry := by
  cases location with
  | top entry => rfl
  | nested folder entry => rfl

/-- The archive with other entries for the corrupt ones. -/
def mended (change : Entry → Entry) (archive : Archive) : Archive :=
  List.map (fun entry => if entry.state = .corrupt then change entry else entry) archive

theorem locate?_map {change : Entry → Entry} (named : ∀ entry, (change entry).name = entry.name)
    (archive : Archive) (table : String) :
    locate? (List.map change archive) table =
      (archive.locate? table).map (Location.map change) := by
  have top : entry? (List.map change archive) (table ++ ".txt") =
      (archive.entry? (table ++ ".txt")).map change := by
    unfold entry?
    rw [List.find?_map]
    simp only [Function.comp_def, named]
  have below : (List.map change archive).findSome? (fun entry =>
        (folder? (table ++ ".txt") entry.name).map fun folder => Location.nested folder entry) =
      (List.findSome? (fun entry => (folder? (table ++ ".txt") entry.name).map fun folder =>
        Location.nested folder entry) archive).map (Location.map change) := by
    rw [List.findSome?_map, List.map_findSome?]
    simp only [Function.comp_def, named, Option.map_map]
    rfl
  unfold locate?
  dsimp only
  rw [top, below]
  cases archive.entry? (table ++ ".txt") with
  | some entry => rfl
  | none => rfl

theorem locate?_mended {change : Entry → Entry} (named : ∀ entry, (change entry).name = entry.name)
    {archive : Archive} {table : String} {location : Location}
    (found : archive.locate? table = some location) (corrupt : location.entry.state = .corrupt) :
    (archive.mended change).locate? table = some (location.map change) := by
  rw [mended, locate?_map, found]
  · cases location with
    | top entry => exact congrArg (fun e => some (Location.top e)) (if_pos corrupt)
    | nested folder entry =>
        exact congrArg (fun e => some (Location.nested folder e)) (if_pos corrupt)
  · intro entry
    split
    · exact named entry
    · rfl

end Archive

namespace Entry

/-- The entry with its checksum set right. -/
def whole (entry : Entry) : Entry := { entry with state := .intact }

/-- An intact entry that ends with the last complete record. -/
def closed (entry : Entry) : Entry :=
  { entry with
    content := Utf8.markOf entry.content ++ Csv.closed entry.body
    state := .intact }

theorem records_closed (entry : Entry) : entry.closed.records = Csv.terminated entry.body := by
  have body : entry.closed.body = Csv.closed entry.body :=
    Utf8.withoutMark_markOf_append (Csv.closed_isPrefix _)
  have intact : entry.closed.state = .intact := rfl
  rw [records, if_pos intact, body, Csv.records_closed]

theorem closed_content_isPrefix (entry : Entry) : entry.closed.content <+: entry.content := by
  have inside : Utf8.markOf entry.content ++ Csv.closed entry.body <+:
      Utf8.markOf entry.content ++ Utf8.withoutMark entry.content :=
    (List.prefix_append_right_inj _).mpr (Csv.closed_isPrefix _)
  rwa [Utf8.markOf_append_withoutMark] at inside

theorem records_corrupt {entry : Entry} (corrupt : entry.state = .corrupt) :
    entry.records = Csv.terminated entry.body := by
  have notIntact : entry.state ≠ .intact := by simp [corrupt]
  rw [records, if_neg notIntact]

theorem records_whole {entry : Entry} {header : Csv.Record} {records : List Csv.Record}
    (complete : Csv.terminated entry.body = header :: records) :
    ∃ others, entry.whole.records = header :: others := by
  obtain ⟨others, all⟩ := Csv.terminated_isPrefix_records entry.body
  have intact : entry.whole.state = .intact := rfl
  refine ⟨records ++ others, ?_⟩
  rw [Entry.records, if_pos intact]
  change Csv.records entry.body = _
  rw [← all, complete, List.cons_append]

theorem lengthRead_whole {entry : Entry} (corrupt : entry.state = .corrupt) {header : Csv.Record}
    {records : List Csv.Record} (complete : Csv.terminated entry.body = header :: records) :
    entry.whole.lengthRead = entry.lengthRead := by
  obtain ⟨others, whole⟩ := records_whole complete
  have broken : entry.records = header :: records := (records_corrupt corrupt).trans complete
  unfold lengthRead
  rw [whole, broken]
  rfl

end Entry

namespace Schema

variable {schema : Schema} {archive : Archive} {location : Archive.Location} (table : Table)
  (s : Session)

theorem lasting_openEffects (found : archive.locate? schema.name = some location)
    (unlocked : location.entry.state ≠ .locked) :
    (schema.openEffects archive table).filter Effect.lasts =
      (schema.locationEffects location).filter Effect.lasts ++
        (schema.headerEffects location.entry table).filter Effect.lasts := by
  have reading : (readingEffects location.entry).filter Effect.lasts = [] := by
    refine List.filter_eq_nil_iff.mpr fun e member => ?_
    rcases List.mem_cons.mp member with rfl | advance
    · simp [Effect.lasts]
    · obtain ⟨octets, -, rfl⟩ := List.mem_map.mp advance
      simp [Effect.lasts]
  unfold openEffects
  rw [found]
  dsimp only
  rw [if_neg unlocked, List.filter_append, List.filter_cons_of_neg (by simp [Effect.lasts]),
    List.filter_append, reading, List.nil_append]

theorem kept_load_of_no_rows (found : archive.locate? schema.name = some location)
    (unlocked : location.entry.state ≠ .locked) (nothing : archive.source? schema.name = none) :
    (schema.load archive table s).table = table ∧
      (schema.load archive table s).fault = schema.openFault archive ∧
        (schema.load archive table s).session.kept = (s.found schema location).kept.run
          ((schema.headerEffects location.entry table).filter Effect.lasts) := by
  rw [load_eq, loadTable, loadFault, loadEffects, nothing]
  refine ⟨rfl, rfl, ?_⟩
  rw [List.append_nil, Session.kept_run, lasting_openEffects table found unlocked,
    Session.run_append, Session.kept_found]

/-- What a load keeps that reads the rows of an entry. -/
theorem kept_load_of_rows (found : archive.locate? schema.name = some location)
    (unlocked : location.entry.state ≠ .locked) {header : Csv.Record} {records : List Csv.Record}
    (rows : location.entry.records = header :: records)
    (named : ¬ Entry.isBlankHeader header = true) :
    let layout := Field.layout schema header
    let n := ({ table } : Notes).rows schema layout records
    (schema.load archive table s).table = n.table ∧
      (schema.load archive table s).fault = closeFault location.entry n ∧
        (schema.load archive table s).session.kept =
          ((s.found schema location).kept.run
            ((({ table } : Notes).rowsEffects schema layout records).filter Effect.lasts)).run
              ((schema.closeEffects location.entry n).filter Effect.lasts) := by
  have source : archive.source? schema.name = some ⟨location.entry, header, records⟩ := by
    rw [Archive.source?_of_locate? found unlocked, rows]
    exact if_neg named
  have header : (schema.headerEffects location.entry table).filter Effect.lasts = [] := by
    simp [headerEffects, rows, named, Effect.lasts]
  rw [load_eq, loadTable, loadFault, loadEffects, source]
  refine ⟨rfl, rfl, ?_⟩
  rw [Session.kept_run, List.filter_append, lasting_openEffects table found unlocked, header,
    List.append_nil, List.filter_append, Session.run_append, Session.run_append,
    Session.kept_found]
  rfl

theorem openEntry_blank {entry : Entry} (unlocked : entry.state ≠ .locked) {header : Csv.Record}
    {records : List Csv.Record} (rows : entry.records = header :: records)
    (blank : Entry.isBlankHeader header = true) :
    schema.openEntry entry table s =
      { session := ((s.logs .info ("loading table " ++ schema.name)).tellReading entry).reportTable
          schema.name .emptyTable
        table } := by
  unfold openEntry readEntry
  rw [if_neg unlocked, rows]
  exact if_pos blank

/-- A load whose header names nothing does not notice that its entry is corrupt. -/
theorem load_whole (found : archive.locate? schema.name = some location)
    (corrupt : location.entry.state = .corrupt) {header : Csv.Record} {records : List Csv.Record}
    (complete : Csv.terminated location.entry.body = header :: records)
    (blank : Entry.isBlankHeader header = true) :
    schema.load (archive.mended Entry.whole) table s = schema.load archive table s := by
  have mended : (archive.mended Entry.whole).locate? schema.name =
      some (location.map Entry.whole) :=
    Archive.locate?_mended (fun e => (rfl : e.whole.name = e.name)) found corrupt
  obtain ⟨others, whole⟩ := Entry.records_whole complete
  have broken : location.entry.records = header :: records :=
    (Entry.records_corrupt corrupt).trans complete
  have told (s : Session) : s.tellReading location.entry.whole = s.tellReading location.entry := by
    unfold Session.tellReading
    rw [Entry.lengthRead_whole corrupt complete]
    rfl
  have opened (s : Session) : schema.openEntry location.entry.whole table s =
      schema.openEntry location.entry table s := by
    rw [openEntry_blank table s (by simp [Entry.whole]) whole blank,
      openEntry_blank table s (by simp [corrupt]) broken blank, told]
  unfold load
  rw [mended, found]
  cases location with
  | top entry => exact opened _
  | nested folder entry => exact opened _

theorem lasting_closeEffects_of_intact {entry : Entry} (intact : entry.state = .intact)
    (n : Notes) :
    (schema.closeEffects entry n).filter Effect.lasts =
      if n.row = 0 then [schema.reportTable .emptyTable] else [] := by
  rw [closeEffects, if_pos intact]
  split
  · rfl
  · rfl

theorem lasting_closeEffects_of_torn {entry : Entry} (torn : entry.state ≠ .intact) (n : Notes) :
    (schema.closeEffects entry n).filter Effect.lasts = [] := by
  rw [closeEffects, if_neg torn]
  rfl

/-- What a load keeps that breaks off within its rows is what an intact entry leaves that ends with
    the last complete row. -/
theorem load_closed (found : archive.locate? schema.name = some location)
    (corrupt : location.entry.state = .corrupt) {header : Csv.Record} {records : List Csv.Record}
    (complete : Csv.terminated location.entry.body = header :: records)
    (named : ¬ Entry.isBlankHeader header = true) :
    let broken := schema.load archive table s
    let ended := schema.load (archive.mended Entry.closed) table s
    broken.fault = some ⟨[.readingEntry location.entry.name, .row (records.length + 1)],
        .invalidChecksum⟩ ∧
      ended.fault = none ∧ broken.table = ended.table ∧
        ended.session.kept =
          (if records = [] then broken.session.reportTable schema.name .emptyTable
            else broken.session).kept := by
  intro broken ended
  have unlocked : location.entry.state ≠ .locked := by simp [corrupt]
  have torn : location.entry.state ≠ .intact := by simp [corrupt]
  have rows : location.entry.records = header :: records :=
    (Entry.records_corrupt corrupt).trans complete
  have mended : (archive.mended Entry.closed).locate? schema.name =
      some (location.map Entry.closed) :=
    Archive.locate?_mended (fun e => (rfl : e.closed.name = e.name)) found corrupt
  have closed : (location.map Entry.closed).entry = location.entry.closed :=
    Archive.Location.entry_map _ _
  have intact : (location.map Entry.closed).entry.state = .intact := by rw [closed]; rfl
  have sameRows : (location.map Entry.closed).entry.records = header :: records := by
    rw [closed, Entry.records_closed, complete]
  have sameFound : s.found schema (location.map Entry.closed) = s.found schema location := by
    cases location with
    | top entry => rfl
    | nested folder entry => rfl
  have counted : (({ table } : Notes).rows schema (Field.layout schema header) records).row =
      records.length := by
    rw [Notes.row_rows, Nat.zero_add]
  -- Both loads read the same rows of an entry of the same name in the same folder.
  obtain ⟨table_broken, fault_broken, kept_broken⟩ :=
    kept_load_of_rows table s found unlocked rows named
  obtain ⟨table_ended, fault_ended, kept_ended⟩ :=
    kept_load_of_rows table s mended (by simp [intact]) sameRows named
  refine ⟨?_, ?_, table_broken.trans table_ended.symm, ?_⟩
  · rw [fault_broken, closeFault, if_neg torn, counted]
  · rw [fault_ended, closeFault, if_pos intact]
  · rw [lasting_closeEffects_of_torn torn] at kept_broken
    rw [kept_ended, sameFound, lasting_closeEffects_of_intact intact, counted]
    by_cases empty : records = []
    · rw [if_pos empty, if_pos (List.length_eq_zero_iff.mpr empty)]
      change _ = broken.session.kept.reportTable schema.name .emptyTable
      rw [kept_broken]
      rfl
    · rw [if_neg empty, if_neg (fun length => empty (List.length_eq_zero_iff.mp length)),
        kept_broken]

/-- The load of a corrupt entry keeps its complete records. Without a header it fails at once and
    keeps nothing; a header without names is the end of it, as in an intact entry. Else it fails at
    the row behind the last complete one, and it keeps the table and the session that an intact
    entry leaves which ends there, but no complaint of a table without rows. -/
theorem load_corrupt (found : archive.locate? schema.name = some location)
    (corrupt : location.entry.state = .corrupt) :
    let entry := location.entry
    let broken := schema.load archive table s
    (Csv.terminated entry.body = [] →
      broken.fault = some ⟨[.readingEntry entry.name,
        if entry.content = [] then .startOfEntry else .header], .invalidChecksum⟩ ∧
      broken.table = table ∧ broken.session.kept = (s.found schema location).kept) ∧
    ∀ header records, Csv.terminated entry.body = header :: records →
      (Entry.isBlankHeader header = true →
        broken.fault = none ∧ broken.table = table ∧
        broken.session.kept =
          ((s.found schema location).reportTable schema.name .emptyTable).kept ∧
        schema.load (archive.mended Entry.whole) table s = broken) ∧
      (¬ Entry.isBlankHeader header = true →
        broken.fault =
          some ⟨[.readingEntry entry.name, .row (records.length + 1)], .invalidChecksum⟩ ∧
        entry.closed.content <+: entry.content ∧ entry.closed.records = header :: records ∧
        let ended := schema.load (archive.mended Entry.closed) table s
        ended.fault = none ∧ broken.table = ended.table ∧
        ended.session.kept =
          (if records = [] then broken.session.reportTable schema.name .emptyTable
            else broken.session).kept) := by
  intro entry broken
  have unlocked : entry.state ≠ .locked := by simp [entry, corrupt]
  have torn : entry.state ≠ .intact := by simp [entry, corrupt]
  have read : entry.records = Csv.terminated entry.body := Entry.records_corrupt corrupt
  refine ⟨?_, ?_⟩
  · intro nothing
    have noHeader : entry.records = [] := read.trans nothing
    have noRows : archive.source? schema.name = none := by
      rw [Archive.source?_of_locate? found unlocked, noHeader]
    have quiet : (schema.headerEffects entry table).filter Effect.lasts = [] := by
      rw [headerEffects, noHeader]
      dsimp only
      rw [if_neg torn]
      rfl
    obtain ⟨same, fault, kept⟩ := kept_load_of_no_rows table s found unlocked noRows
    refine ⟨?_, same, ?_⟩
    · rw [fault, openFault, found, Option.bind_some, if_neg unlocked, if_pos ⟨noHeader, torn⟩]
      simp only [List.isEmpty_iff]
      rfl
    · rw [kept, quiet, Session.run_nil]
  · intro header records complete
    have rows : entry.records = header :: records := read.trans complete
    refine ⟨?_, ?_⟩
    · intro blank
      have noRows : archive.source? schema.name = none := by
        rw [Archive.source?_of_locate? found unlocked, rows]
        exact if_pos blank
      have complaint : schema.headerEffects entry table = [schema.reportTable .emptyTable] := by
        rw [headerEffects, rows]
        dsimp only
        rw [if_pos blank]
      obtain ⟨same, fault, kept⟩ := kept_load_of_no_rows table s found unlocked noRows
      refine ⟨?_, same, ?_, load_whole table s found corrupt complete blank⟩
      · have header_read : ¬ (entry.records = [] ∧ entry.state ≠ .intact) := by simp [rows]
        rw [fault, openFault, found, Option.bind_some, if_neg unlocked, if_neg header_read]
      · rw [kept, complaint]
        rfl
    · intro named
      obtain ⟨fault, loads⟩ := load_closed table s found corrupt complete named
      exact ⟨fault, entry.closed_content_isPrefix, entry.records_closed.trans complete, loads⟩

/-- Stops in a folder, of which the second breaks off. -/
def tornStops : Entry :=
  { name := "feed/stops.txt"
    content := Utf8.byteOrderMark ++ Utf8.encode "stop_id,stop_name\r\nS1,\"First\nstop\"\nS2,Se"
    state := .corrupt }

/-- The first stop is kept, with all that is said of it, and the second one leaves nothing. -/
theorem load_corrupt_tornStops :
    let schema := ({} : Feed).schema .stops
    let broken := schema.load [tornStops] { name := "stops" } {}
    let ended := schema.load (Archive.mended Entry.closed [tornStops]) { name := "stops" } {}
    broken.fault = some ⟨[.readingEntry "feed/stops.txt", .row 2], .invalidChecksum⟩ ∧
      broken.table.keys = [.name "S1"] ∧ broken.table = ended.table ∧
        ended.session.kept = broken.session.kept := by
  intro schema broken ended
  have found : Archive.locate? [tornStops] schema.name = some (.nested "feed/" tornStops) := by
    decide +kernel
  have complete : Csv.terminated tornStops.body =
      [["stop_id", "stop_name"].map Utf8.encode, ["S1", "First\nstop"].map Utf8.encode] := by
    decide +kernel
  have named : ¬ Entry.isBlankHeader (["stop_id", "stop_name"].map Utf8.encode) = true := by
    decide +kernel
  obtain ⟨-, rows⟩ := load_corrupt { name := "stops" } {} found rfl
  obtain ⟨fault, -, -, -, same, kept⟩ := (rows _ _ complete).2 named
  exact ⟨fault, by decide +kernel, same, kept⟩

end Schema

end TransitFeed

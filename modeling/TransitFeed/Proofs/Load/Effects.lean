import TransitFeed.Load.Effects

/-! # Loads and their effects

A load leaves the table and the fault that are told apart from its session, and the session runs its
effects. The instances that the records hold are those of a pool that is asked for the texts of the
rows, one after the other.
-/

namespace TransitFeed

namespace Session

@[simp] theorem run_nil (s : Session) : s.run [] = s := rfl

@[simp] theorem run_cons (s : Session) (e : Effect) (effects : List Effect) :
    s.run (e :: effects) = (s.apply e).run effects := rfl

theorem run_append (s : Session) (a b : List Effect) : s.run (a ++ b) = (s.run a).run b :=
  List.foldl_append

theorem settings_apply (s : Session) (e : Effect) : (s.apply e).settings = s.settings := by
  cases e with
  | log | tell | intern | report => rfl
  | pass row =>
      change (s.passRow row).settings = s.settings
      unfold passRow
      split <;> rfl
  | refer table row column key target =>
      change (s.checkReference table row column key target).settings = s.settings
      unfold checkReference
      dsimp only
      split <;> rfl

theorem settings_run (s : Session) (effects : List Effect) :
    (s.run effects).settings = s.settings := by
  induction effects generalizing s with
  | nil => rfl
  | cons e rest ih => rw [run_cons, ih, settings_apply]

theorem pool_apply_of_ne (s : Session) {e : Effect} (other : ∀ text, e ≠ .intern text) :
    (s.apply e).pool = s.pool := by
  cases e with
  | intern text => exact absurd rfl (other text)
  | pass row =>
      change (s.passRow row).pool = s.pool
      unfold passRow
      split
      · rfl
      · rfl
  | refer table row column key target =>
      change (s.checkReference table row column key target).pool = s.pool
      unfold checkReference
      dsimp only
      split
      · rfl
      · rfl
  | log | tell | report => rfl

theorem pool_run_of_ne (s : Session) {effects : List Effect}
    (others : ∀ e ∈ effects, ∀ text, e ≠ .intern text) : (s.run effects).pool = s.pool := by
  induction effects generalizing s with
  | nil => rfl
  | cons e rest ih =>
      obtain ⟨here, others⟩ := List.forall_mem_cons.mp others
      rw [run_cons, ih _ others, pool_apply_of_ne s here]

end Session

namespace Notes

def scan (n : Notes) (s : Session) (held : Holdings := {}) : Scan :=
  ⟨s, n.table, n.row, n.reported, held⟩

variable (schema : Schema) (cells : Csv.Record) (layout : List Field) (n : Notes) (s : Session)

theorem afterField_table (field : Field) : (n.afterField cells field).table = n.table := by
  unfold afterField
  split
  · split <;> rfl
  · rfl

theorem afterField_row (field : Field) : (n.afterField cells field).row = n.row := by
  unfold afterField
  split
  · split <;> rfl
  · rfl

theorem foldl_afterField_table : (layout.foldl (afterField cells) n).table = n.table := by
  induction layout generalizing n with
  | nil => rfl
  | cons field rest ih => rw [List.foldl_cons, ih, afterField_table]

theorem foldl_afterField_row : (layout.foldl (afterField cells) n).row = n.row := by
  induction layout generalizing n with
  | nil => rfl
  | cons field rest ih => rw [List.foldl_cons, ih, afterField_row]

theorem step_row : (n.step schema layout cells).row = n.row + 1 := by
  have counted : (layout.foldl (afterField cells) n.next).row = n.row + 1 :=
    foldl_afterField_row cells layout n.next
  unfold step keep
  split
  · exact counted
  · exact counted

theorem row_rows (records : List Csv.Record) :
    (n.rows schema layout records).row = n.row + records.length := by
  induction records generalizing n with
  | nil => rfl
  | cons cells rest ih =>
      have later : (n.rows schema layout (cells :: rest)).row =
          (n.step schema layout cells).row + rest.length := ih _
      rw [later, step_row, List.length_cons]
      omega

theorem step_table : (n.step schema layout cells).table =
    match schema.key? (rowValues layout cells) with
    | none => n.table
    | some key => n.table.insert key ⟨n.row + 1, rowValues layout cells⟩ := by
  have counted : (layout.foldl (afterField cells) n.next).row = n.row + 1 :=
    foldl_afterField_row cells layout n.next
  have same : (layout.foldl (afterField cells) n.next).table = n.table :=
    foldl_afterField_table cells layout n.next
  unfold step keep
  cases schema.key? (rowValues layout cells) with
  | none => exact same
  | some key =>
      dsimp only
      rw [same, counted]

theorem noteText_eq (column : Column) (text : String) :
    (s.noteText schema.name n.row column text).2 = s.run (n.textEffects schema column text) := by
  have problems (found : List Cell.Problem) :
      s.reportProblems schema.name n.row column.name found =
        s.run (found.map fun problem => n.reportAt schema column.name (.cell problem)) := by
    rw [Session.run, List.foldl_map]
    rfl
  cases h : column.kind with
  | text | reference target => simp only [Session.noteText, textEffects, h]; rfl
  | whole | decimal | clock | day | link =>
      simp only [Session.noteText, textEffects, h]
      exact problems _

variable (held : Holdings)

theorem note_eq (field : Field) :
    ∃ held', (n.scan s held).note schema cells field =
      (n.afterField cells field).scan (s.run (n.fieldEffects schema cells field)) held' := by
  unfold Scan.note fieldEffects afterField
  cases h : field.presence cells with
  | absent =>
      by_cases known : n.reported.contains field.column.name = true
      · simp only [scan, known, if_true, Session.run_nil]
        exact ⟨_, rfl⟩
      · simp only [scan, known]
        exact ⟨_, rfl⟩
  | empty =>
      by_cases required : field.column.required = true
      · simp only [required, if_true]
        exact ⟨_, rfl⟩
      · simp only [required]
        exact ⟨_, rfl⟩
  | present text =>
      simp only
      rw [← noteText_eq]
      exact ⟨_, rfl⟩

theorem foldl_note_eq :
    ∃ held', layout.foldl (Scan.note schema cells) (n.scan s held) =
      (layout.foldl (afterField cells) n).scan (s.run (n.fieldsEffects schema cells layout))
        held' := by
  induction layout generalizing n s held with
  | nil => exact ⟨held, rfl⟩
  | cons field rest ih =>
      obtain ⟨noted, first⟩ := n.note_eq schema cells s held field
      rw [List.foldl_cons, first, fieldsEffects, Session.run_append, List.foldl_cons]
      exact ih _ _ noted

theorem keep_eq (values : List Value) :
    ∃ held', (n.scan s held).keep schema values =
      (n.keep schema values).scan (s.run (n.keepEffects schema values)) held' := by
  unfold Scan.keep keep keepEffects
  cases schema.key? values with
  | none => exact ⟨held, rfl⟩
  | some key =>
      by_cases taken : n.table.contains key = true
      · simp only [scan, taken, if_true]
        exact ⟨_, rfl⟩
      · simp only [scan, taken]
        exact ⟨_, rfl⟩

theorem step_eq :
    ∃ held', (n.scan s held).step schema layout cells =
      (n.step schema layout cells).scan (s.run (n.stepEffects schema layout cells)) held' := by
  obtain ⟨noted, fields⟩ :=
    n.next.foldl_note_eq schema cells layout (s.passRow n.next.row) held.next
  have begun : (n.scan s held).step schema layout cells =
      (layout.foldl (Scan.note schema cells)
        (n.next.scan (s.passRow n.next.row) held.next)).keep schema (rowValues layout cells) := rfl
  rw [begun, fields]
  obtain ⟨kept, record⟩ := keep_eq schema (layout.foldl (afterField cells) n.next)
    ((s.passRow n.next.row).run (n.next.fieldsEffects schema cells layout)) noted
    (rowValues layout cells)
  rw [record, ← Session.run_append]
  exact ⟨kept, rfl⟩

theorem foldl_step_eq (records : List Csv.Record) :
    ∃ held', records.foldl (Scan.step schema layout) (n.scan s held) =
      (n.rows schema layout records).scan (s.run (n.rowsEffects schema layout records)) held' := by
  induction records generalizing n s held with
  | nil => exact ⟨held, rfl⟩
  | cons cells rest ih =>
      obtain ⟨first, step⟩ := n.step_eq schema cells layout s held
      rw [List.foldl_cons, step, rowsEffects, Session.run_append]
      exact ih _ _ first

end Notes

/-- The text of a field in a row, if it is one that is pooled: a text or the key of a reference. -/
def Field.pooled? (cells : Csv.Record) (f : Field) : Option String :=
  match f.column.kind, f.presence cells with
  | .text, .present text | .reference _, .present text => some text
  | _, _ => none

namespace Holdings

/-- What is held behind a field of the current row, and the pool then. -/
def afterField (cells : Csv.Record) (h : Holdings × Pool) (field : Field) : Holdings × Pool :=
  match field.pooled? cells with
  | none => (h.1.add none, h.2)
  | some text => (h.1.add (some (h.2.share text).1), h.2.intern text)

/-- What is held behind one more row, and the pool then. -/
def afterRow (schema : Schema) (layout : List Field) (h : Holdings × Pool) (cells : Csv.Record) :
    Holdings × Pool :=
  let noted := layout.foldl (afterField cells) (h.1.next, h.2)
  match schema.key? (rowValues layout cells) with
  | none => noted
  | some key => (noted.1.keep key, noted.2)

end Holdings

namespace Scan

variable (schema : Schema) (cells : Csv.Record) (layout : List Field) (scan : Scan)

def holdings (scan : Scan) : Holdings × Pool := (scan.held, scan.session.pool)

theorem holdings_note (field : Field) :
    (scan.note schema cells field).holdings =
      Holdings.afterField cells scan.holdings field := by
  have problems (found : List Cell.Problem) :
      (scan.session.reportProblems schema.name scan.row field.column.name found).pool =
        scan.session.pool := by
    let reported : List Effect := found.map fun problem => .report
      ⟨schema.name, scan.row, some field.column.name, .cell problem⟩
    have others : ∀ e ∈ reported, ∀ text, e ≠ .intern text := by
      rintro e member text rfl
      obtain ⟨problem, -, same⟩ := List.mem_map.mp member
      contradiction
    have same := scan.session.pool_run_of_ne others
    rw [Session.run, List.foldl_map] at same
    exact same
  have shared (s : Session) (same : s.pool = scan.session.pool) (text : String) :
      Scan.holdings { scan.hold ((s.share text).map some id).1 with
        session := ((s.share text).map some id).2 } =
      (scan.held.add (some (scan.session.pool.share text).1), scan.session.pool.intern text) := by
    change (scan.held.add (some (s.pool.share text).1), s.pool.intern text) = _
    rw [same]
  have nothing : (scan.hold none).holdings = (scan.held.add none, scan.session.pool) := rfl
  unfold note Holdings.afterField Field.pooled?
  cases field.presence cells with
  | absent | empty =>
      dsimp only
      cases field.column.kind <;> split <;> exact nothing
  | present text =>
      cases kind : field.column.kind with
      | text =>
          simp only [Session.noteText, kind]
          exact shared _ rfl text
      | reference target =>
          simp only [Session.noteText, kind]
          exact shared _ (scan.session.pool_apply_of_ne (e := .refer _ _ _ _ target)
            fun text interned => by contradiction) text
      | whole | decimal | clock | day | link =>
          simp only [Session.noteText, kind]
          exact Prod.ext rfl (problems _)

theorem holdings_step :
    (scan.step schema layout cells).holdings =
      Holdings.afterRow schema layout scan.holdings cells := by
  let counted : Scan := { scan with row := scan.row + 1
                                    session := scan.session.passRow (scan.row + 1)
                                    held := scan.held.next }
  have begun : counted.holdings = (scan.held.next, scan.session.pool) :=
    Prod.ext rfl (scan.session.pool_apply_of_ne (e := .pass (scan.row + 1))
      fun text interned => by contradiction)
  have noted : layout.foldl (Holdings.afterField cells) counted.holdings =
      (layout.foldl (note schema cells) counted).holdings :=
    List.foldl_hom holdings fun scan field => (scan.holdings_note schema cells field).symm
  rw [begun] at noted
  unfold step Holdings.afterRow
  dsimp only [holdings]
  rw [noted]
  unfold keep
  cases schema.key? (rowValues layout cells) with
  | none => rfl
  | some key =>
      dsimp only
      split
      · rfl
      · rfl

theorem holdings_foldl_step (records : List Csv.Record) :
    (records.foldl (step schema layout) scan).holdings =
      records.foldl (Holdings.afterRow schema layout) scan.holdings :=
  (List.foldl_hom holdings fun scan cells =>
    (scan.holdings_step schema cells layout).symm).symm

end Scan

namespace Archive

theorem source?_of_locked {archive : Archive} {table : String} {location : Location}
    (found : archive.locate? table = some location)
    (locked : location.entry.state = .locked) : archive.source? table = none := by
  unfold source?
  rw [found]
  dsimp only
  split
  · rfl
  · rw [if_pos (Or.inl locked)]

theorem source?_of_locate? {archive : Archive} {table : String} {location : Location}
    (found : archive.locate? table = some location)
    (unlocked : location.entry.state ≠ .locked) :
    archive.source? table =
      match location.entry.records with
      | [] => none
      | header :: records =>
        if Entry.isBlankHeader header then none else some ⟨location.entry, header, records⟩ := by
  unfold source?
  rw [found]
  dsimp only
  cases location.entry.records with
  | nil => rfl
  | cons header records =>
      exact ite_congr (propext (or_iff_right unlocked)) (fun _ => rfl) (fun _ => rfl)

end Archive

namespace Schema

/-- What the records of all rows hold, and the pool then. -/
def heldRows (schema : Schema) (source : Archive.Source) (p : Pool) : Holdings × Pool :=
  source.records.foldl (Holdings.afterRow schema (Field.layout schema source.header)) ({}, p)

/-- The instances that a load gives to the texts of the records that it reads. -/
def loadInstances (schema : Schema) (archive : Archive) (p : Pool) : Instances :=
  match archive.source? schema.name with
  | none => ∅
  | some source => (schema.heldRows source p).1.records

variable (schema : Schema) (table : Table) (s : Session)

theorem tellReading_eq (entry : Entry) : s.tellReading entry = s.run (readingEffects entry) := by
  rw [Session.tellReading, readingEffects, Session.run_cons, Session.run, List.foldl_map]
  rfl

theorem pool_tellReading (entry : Entry) : (s.tellReading entry).pool = s.pool := by
  rw [tellReading_eq]
  refine s.pool_run_of_ne (List.forall_mem_cons.mpr ⟨fun text told => by contradiction, ?_⟩)
  intro e member text interned
  obtain ⟨octets, -, rfl⟩ := List.mem_map.mp member
  contradiction

variable (held : Holdings)

theorem complete_eq (entry : Entry) (intact : entry.state = .intact) (n : Notes) :
    (n.scan s held).complete schema =
      ⟨s.run (schema.closeEffects entry n), n.table, none, held.records⟩ := by
  unfold Scan.complete closeEffects
  rw [if_pos intact]
  by_cases blank : n.row = 0
  · simp only [Notes.scan, blank, if_true]
    rfl
  · simp only [Notes.scan, blank, if_false]
    rfl

theorem broken_eq (entry : Entry) (n : Notes) (contexts : List Fault.Context) :
    (n.scan s held).broken entry contexts = ⟨s.run [brokenEffect entry n], n.table,
      some ⟨.readingEntry entry.name :: contexts, .invalidChecksum⟩, held.records⟩ := rfl

theorem close_eq (entry : Entry) (n : Notes) :
    (if entry.state = .intact then (n.scan s held).complete schema
      else (n.scan s held).broken entry [.row (n.row + 1)]) =
      ⟨s.run (schema.closeEffects entry n), n.table, closeFault entry n, held.records⟩ := by
  unfold closeFault
  by_cases intact : entry.state = .intact
  · rw [if_pos intact, if_pos intact]
    exact complete_eq schema s held entry intact n
  · rw [if_neg intact, if_neg intact, closeEffects, if_neg intact]
    exact broken_eq s held entry n _

theorem readEntry_nil {entry : Entry} (nothing : entry.records = []) :
    schema.readEntry entry table s =
      ⟨s.run (readingEffects entry ++ schema.headerEffects entry table), table,
        if entry.state = .intact then none
        else some ⟨[.readingEntry entry.name,
          if entry.content.isEmpty then .startOfEntry else .header], .invalidChecksum⟩, ∅⟩ := by
  unfold readEntry headerEffects
  simp only [nothing, tellReading_eq, Session.run_append]
  by_cases intact : entry.state = .intact
  · simp only [intact, if_true]
    rfl
  · simp only [intact, if_false]
    by_cases blank : entry.content.isEmpty = true
    · simp only [blank, if_true]
      exact broken_eq (s.run (readingEffects entry)) {} entry { table } _
    · simp only [blank]
      exact broken_eq (s.run (readingEffects entry)) {} entry { table } _

theorem readEntry_blank {entry : Entry} {header : Csv.Record} {records : List Csv.Record}
    (rows : entry.records = header :: records) (blank : Entry.isBlankHeader header = true) :
    schema.readEntry entry table s =
      ⟨s.run (readingEffects entry ++ schema.headerEffects entry table), table, none, ∅⟩ := by
  unfold readEntry headerEffects
  simp only [rows, blank, if_true, tellReading_eq, Session.run_append]
  rfl

theorem readEntry_rows (source : Archive.Source)
    (rows : source.entry.records = source.header :: source.records)
    (named : ¬ Entry.isBlankHeader source.header = true) :
    schema.readEntry source.entry table s =
      ⟨s.run (readingEffects source.entry ++ schema.headerEffects source.entry table ++
          (({ table } : Notes).rowsEffects schema (Field.layout schema source.header)
              source.records ++
            schema.closeEffects source.entry (schema.scanned source table))),
        (schema.scanned source table).table,
        closeFault source.entry (schema.scanned source table),
        (schema.heldRows source s.pool).1.records⟩ := by
  have begun : s.run (readingEffects source.entry ++ schema.headerEffects source.entry table) =
      (s.tellReading source.entry).logs .debug "parsed header" := by
    unfold headerEffects
    rw [Session.run_append, ← tellReading_eq, rows]
    simp only [named]
    rfl
  have pool : ((s.tellReading source.entry).logs .debug "parsed header").pool = s.pool :=
    pool_tellReading s source.entry
  rw [Session.run_append, begun, Session.run_append, ← pool]
  unfold readEntry
  simp only [rows, named]
  unfold Scan.rows
  generalize (s.tellReading source.entry).logs .debug "parsed header" = s
  obtain ⟨held, scans⟩ := Notes.foldl_step_eq schema (Field.layout schema source.header)
    { table } s {} source.records
  have holds := Scan.holdings_foldl_step schema (Field.layout schema source.header)
    (({ table } : Notes).scan s) source.records
  rw [scans] at holds
  rw [heldRows, ← show (held, _) = source.records.foldl _ ({}, s.pool) from holds, ← close_eq]
  exact congrArg (fun scan : Scan => if source.entry.state = .intact then scan.complete schema
    else scan.broken source.entry [.row (scan.row + 1)]) scans

theorem openEntry_eq {archive : Archive} {location : Archive.Location}
    (found : archive.locate? schema.name = some location) :
    schema.openEntry location.entry table (s.run (schema.locationEffects location)) =
      ⟨s.run (schema.loadEffects archive table), schema.loadTable archive table,
        schema.loadFault archive table, schema.loadInstances archive s.pool⟩ := by
  have pool : ((s.run (schema.locationEffects location)).logs .info
      ("loading table " ++ schema.name)).pool = s.pool := by
    cases location with
    | top entry => rfl
    | nested folder entry => rfl
  unfold openEntry loadEffects openEffects loadTable loadFault loadInstances openFault
    Archive.source?
  simp only [found, Option.bind_some]
  by_cases locked : location.entry.state = .locked
  · cases rows : location.entry.records with
    | nil => simp only [locked, if_true, List.append_nil]
    | cons header records => simp only [locked, if_true, true_or, List.append_nil]
  · simp only [locked, if_false, false_or]
    cases rows : location.entry.records with
    | nil =>
        rw [readEntry_nil schema table _ rows]
        by_cases intact : location.entry.state = .intact
        · simp [intact, Session.run_append]
          rfl
        · simp [intact, Session.run_append]
          rfl
    | cons header records =>
        by_cases blank : Entry.isBlankHeader header = true
        · rw [readEntry_blank schema table _ rows blank]
          simp [blank, Session.run_append]
          rfl
        · have scans := readEntry_rows schema table
            ((s.run (schema.locationEffects location)).logs .info
              ("loading table " ++ schema.name))
            ⟨location.entry, header, records⟩ rows blank
          simp only [] at scans
          rw [scans, pool]
          simp [blank, Session.run_append]
          rfl

/-- A load is its table, its fault and its instances, and the session runs its effects. -/
theorem load_eq (archive : Archive) :
    schema.load archive table s =
      ⟨s.run (schema.loadEffects archive table), schema.loadTable archive table,
        schema.loadFault archive table, schema.loadInstances archive s.pool⟩ := by
  unfold load
  cases found : archive.locate? schema.name with
  | none =>
      unfold loadEffects loadTable loadFault loadInstances openEffects openFault Archive.source?
      by_cases required : schema.required = true
      · simp [found, required]
        rfl
      · simp [found, required]
        rfl
  | some location =>
      cases location with
      | top entry => exact openEntry_eq schema table s found
      | nested folder entry => exact openEntry_eq schema table s found

end Schema

end TransitFeed

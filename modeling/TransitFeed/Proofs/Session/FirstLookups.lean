import Mathlib.Data.List.Dedup
import TransitFeed.Proofs.Session.Requests

/-! # First lookups

A session remembers which keys were looked up in which columns. Whatever tables are loaded in it and
whatever their columns refer to, the first lookup of a key in a column decides whether it is
reported to be dangling, and no later one is reported.
-/

namespace TransitFeed

namespace Diagnostic

/-- Whether a diagnostic says that a key in a column is dangling. -/
def Blames (d : Diagnostic) (p : Sighting) : Prop :=
  d.column = some p.column ∧ d.kind = .referentialIntegrity p.key

instance (d : Diagnostic) (p : Sighting) : Decidable (d.Blames p) :=
  inferInstanceAs (Decidable (_ ∧ _))

theorem blames_lookup (l : Lookup) (p : Sighting) : l.diagnostic.Blames p ↔ l.sighting = p := by
  obtain ⟨column, key⟩ := p
  simp [Blames, Lookup.diagnostic, Lookup.sighting]

end Diagnostic

namespace Effect

theorem not_blames_of_plain {d : Diagnostic} (plain : (Effect.report d).Plain) (p : Sighting) :
    ¬ d.Blames p := fun blames => plain p.key blames.2

theorem lookup?_of_aside {table : String} {e : Effect} (aside : e.Aside table) :
    e.lookup? = none := by
  cases e with
  | refer of row column key target => exact absurd aside.2 (by simp [reference?])
  | log | tell | pass | intern | report => rfl

theorem lookups_requests (effects : List Effect) :
    (effects.filter isRequest).filterMap lookup? = effects.filterMap lookup? := by
  refine filterMap_filter_isRequest (fun e quiet => ?_) effects
  cases e with
  | refer => contradiction
  | log | tell | pass | intern | report => rfl

end Effect

namespace Session

theorem sightings_apply (s : Session) (e : Effect) (p : Sighting) :
    p ∈ (s.apply e).sightings ↔ (∃ l, e.lookup? = some l ∧ l.sighting = p) ∨ p ∈ s.sightings := by
  cases e with
  | refer table row column key target =>
      change p ∈ (s.checkReference table row column key target).sightings ↔ _
      rw [sightings_checkReference, mem_sight]
      simp [Effect.lookup?, Lookup.sighting, eq_comm]
  | log | tell | pass | intern | report =>
      rw [sightings_apply_of_none s rfl]
      simp [Effect.lookup?]

/-- The first lookup of a key in a column, if any. -/
def first? (looked : List Lookup) (p : Sighting) : Option Lookup :=
  looked.find? fun l => l.sighting = p

theorem filter_news_of_none (s : Session) {e : Effect} (plain : e.Plain) (looked : e.lookup? = none)
    (p : Sighting) : (s.news e).filter (fun d => d.Blames p) = [] := by
  rw [List.filter_eq_nil_iff]
  intro d member
  simp only [news, looked, List.append_nil, Option.mem_toList] at member
  cases e with
  | report found =>
      obtain rfl : found = d := Option.some.inj member
      simpa using Effect.not_blames_of_plain plain p
  | log | tell | pass | intern | refer => contradiction

theorem filter_news_of_lookup (s : Session) {e : Effect} {l : Lookup} (looked : e.lookup? = some l)
    (p : Sighting) :
    (s.news e).filter (fun d => d.Blames p) =
      if l.sighting = p ∧ p ∉ s.sightings ∧ l.isDangling then [l.diagnostic] else [] := by
  have reported : e.report? = none := by
    cases e with
    | refer => rfl
    | log | tell | pass | intern | report => contradiction
  have news : s.news e =
      if l.sighting ∉ s.sightings ∧ l.isDangling then [l.diagnostic] else [] := by
    simp only [news, reported, looked, Option.toList_none, List.nil_append]
  have blames := Diagnostic.blames_lookup l p
  rw [news]
  by_cases here : l.sighting = p
  · subst here
    simp only [true_and]
    split
    · exact List.filter_cons_of_pos (decide_eq_true (blames.mpr rfl))
    · rfl
  · have other : ¬ decide (l.diagnostic.Blames p) = true := by simpa using mt blames.mp here
    simp only [here, false_and, if_false]
    split
    · exact List.filter_cons_of_neg other
    · rfl

/-- Of all lookups of a key in a column only the first one is reported, and only if it was not
    looked up before the effects. -/
theorem filter_reports (s : Session) {effects : List Effect} (plain : ∀ e ∈ effects, e.Plain)
    (p : Sighting) :
    (s.reports effects).filter (fun d => d.Blames p) =
      if p ∈ s.sightings then []
      else ((first? (effects.filterMap Effect.lookup?) p).filter Lookup.isDangling).toList.map
        Lookup.diagnostic := by
  -- For every session, since a lookup makes the later ones of its key silent.
  induction effects generalizing s with
  | nil => simp [reports, first?]
  | cons e rest ih =>
      have later := ih (s.apply e) fun e member => plain e (List.mem_cons_of_mem _ member)
      have seen := sightings_apply s e p
      rw [reports, List.filter_append, later]
      cases looked : e.lookup? with
      | none =>
          have same : p ∈ (s.apply e).sightings ↔ p ∈ s.sightings := by simp [seen, looked]
          rw [filter_news_of_none s (plain e List.mem_cons_self) looked, List.nil_append,
            List.filterMap_cons_none looked]
          simp only [same]
      | some l =>
          rw [filter_news_of_lookup s looked, List.filterMap_cons_some looked]
          by_cases here : l.sighting = p
          · have met : p ∈ (s.apply e).sightings := seen.mpr (Or.inl ⟨l, looked, here⟩)
            have first : first? (l :: rest.filterMap Effect.lookup?) p = some l :=
              List.find?_cons_of_pos (by simpa using here)
            rw [if_pos met, List.append_nil, first]
            by_cases old : p ∈ s.sightings
            · simp [old]
            · cases dangling : l.isDangling with
              | true =>
                  have kept : Option.filter Lookup.isDangling (some l) = some l :=
                    Option.filter_some_pos dangling
                  simp [here, old, kept]
              | false => simp [old, dangling]
          · have first : first? (l :: rest.filterMap Effect.lookup?) p =
                first? (rest.filterMap Effect.lookup?) p :=
              List.find?_cons_of_neg (by simpa using here)
            have same : p ∈ (s.apply e).sightings ↔ p ∈ s.sightings := by
              simp [seen, looked, here]
            rw [if_neg fun both => here both.1, List.nil_append, first]
            simp only [same]

theorem mem_sightings_of_lookups (s : Session) (effects : List Effect) (p : Sighting) :
    p ∈ (s.run effects).sightings ↔
      p ∈ s.sightings ∨ ∃ l ∈ effects.filterMap Effect.lookup?, l.sighting = p := by
  induction effects generalizing s with
  | nil => simp
  | cons e rest ih =>
      rw [run_cons, ih, sightings_apply]
      cases looked : e.lookup? with
      | none => simp [List.filterMap_cons_none looked]
      | some l =>
          simp only [List.filterMap_cons_some looked, Option.some.injEq, exists_eq_left',
            List.exists_mem_cons_iff]
          rw [or_assoc, or_left_comm]

theorem size_sightings_run (settings : Settings) (progress : Option (Array Progress.Event))
    (effects : List Effect) :
    (Session.run { settings, progress } effects).sightings.size =
      ((effects.filterMap Effect.lookup?).map Lookup.sighting).dedup.length := by
  have distinct : (Session.run { settings, progress } effects).sightings.toList.Nodup :=
    Std.TreeSet.distinct_toList.imp fun {a b} differs (same : a = b) =>
      differs (same ▸ Std.ReflCmp.compare_self)
  rw [← Std.TreeSet.length_toList]
  apply List.Perm.length_eq
  rw [List.perm_ext_iff_of_nodup distinct (List.nodup_dedup _)]
  intro p
  rw [Std.TreeSet.mem_toList, mem_sightings_of_lookups, List.mem_dedup, List.mem_map]
  simp

end Session

/-- The lookup of a field in a row, if it is a reference that is not empty. -/
def Field.lookup? (table : String) (row : Nat) (cells : Csv.Record) (f : Field) : Option Lookup :=
  match f.column.kind, f.presence cells with
  | .reference target, .present key => some ⟨table, row, f.column.name, key, target⟩
  | _, _ => none

namespace Schema

/-- What a row looks up in the order of its columns. -/
def rowLookups (schema : Schema) (layout : List Field) (row : Nat) (cells : Csv.Record) :
    List Lookup :=
  layout.filterMap (Field.lookup? schema.name row cells)

/-- What rows look up one after the other. The first of them has the number `row`. -/
def rowsLookups (schema : Schema) (layout : List Field) (row : Nat) :
    List Csv.Record → List Lookup
  | [] => []
  | cells :: rest => schema.rowLookups layout row cells ++ schema.rowsLookups layout (row + 1) rest

end Schema

theorem Field.lookups_requests (table : String) (row : Nat) (cells : Csv.Record) (f : Field) :
    (f.requests table row cells).filterMap Effect.lookup? = (f.lookup? table row cells).toList := by
  unfold requests lookup?
  cases f.column.kind with
  | reference target => cases f.presence cells <;> rfl
  | text => cases f.presence cells <;> rfl
  | whole | decimal | clock | day | link => rfl

namespace Schema

variable (schema : Schema) (layout : List Field)

theorem lookups_rowRequests (row : Nat) (cells : Csv.Record) :
    (schema.rowRequests layout row cells).filterMap Effect.lookup? =
      schema.rowLookups layout row cells := by
  unfold rowRequests rowLookups
  rw [List.filterMap_flatMap, List.filterMap_eq_flatMap_toList]
  simp only [Field.lookups_requests]

theorem lookups_rowsRequests (row : Nat) (records : List Csv.Record) :
    (schema.rowsRequests layout row records).filterMap Effect.lookup? =
      schema.rowsLookups layout row records := by
  induction records generalizing row with
  | nil => rfl
  | cons cells rest ih =>
      rw [rowsRequests, List.filterMap_append, lookups_rowRequests, ih, rowsLookups]

end Schema

namespace Notes

variable (schema : Schema) (cells : Csv.Record) (layout : List Field) (n : Notes)

theorem lookups_fieldEffects (field : Field) :
    (n.fieldEffects schema cells field).filterMap Effect.lookup? =
      (field.lookup? schema.name n.row cells).toList := by
  rw [← Effect.lookups_requests, requests_fieldEffects, Field.lookups_requests]

/-- What the session is told up to the middle of a row. -/
def partEffects (columns : Nat) (records : List Csv.Record) : List Effect :=
  n.rowsEffects schema layout records ++ .pass (n.rows schema layout records).next.row ::
    (n.rows schema layout records).next.fieldsEffects schema cells (layout.take columns)

variable (columns : Nat) (records : List Csv.Record)

theorem foldl_note_rows (s : Session) :
    let scan := records.foldl (Scan.step schema layout) (n.scan s)
    ((layout.take columns).foldl (Scan.note schema cells)
        { scan with row := scan.row + 1, session := scan.session.passRow (scan.row + 1) }).session =
      s.run (n.partEffects schema cells layout columns records) := by
  obtain ⟨held, scanned⟩ := n.foldl_step_eq schema layout s {} records
  obtain ⟨held', noted⟩ := foldl_note_eq schema cells (layout.take columns)
    (n.rows schema layout records).next
    ((s.run (n.rowsEffects schema layout records)).passRow (n.rows schema layout records).next.row)
    held
  rw [scanned, partEffects, Session.run_append, Session.run_cons]
  exact congrArg Scan.session noted

theorem owned_partEffects :
    ∀ e ∈ n.partEffects schema cells layout columns records, e.Owned schema.name := by
  intro e member
  rcases List.mem_append.mp member with scanned | member
  · exact n.owned_rowsEffects schema layout records e scanned
  · rcases List.mem_cons.mp member with rfl | noted
    · trivial
    · exact owned_fieldsEffects schema cells _ _ e noted

theorem requests_partEffects :
    (n.partEffects schema cells layout columns records).filter Effect.isRequest =
      schema.rowsRequests layout (n.row + 1) records ++
        schema.rowRequests (layout.take columns) (n.row + records.length + 1) cells := by
  have row : (n.rows schema layout records).next.row = n.row + records.length + 1 :=
    congrArg (· + 1) (n.row_rows schema layout records)
  rw [partEffects, List.filter_append, requests_rowsEffects,
    List.filter_cons_of_neg (by simp [Effect.isRequest]), requests_fieldsEffects, row]

end Notes

/-- A load of a table, with what it is given. -/
structure LoadTask where
  schema : Schema
  archive : Archive
  table : Table

namespace LoadTask

def run (s : Session) (t : LoadTask) : Session := (t.schema.load t.archive t.table s).session

/-- The session when so many rows of a load are complete and so many columns of the next row have
    been read. After the last row it is the session that the load leaves. -/
def moment (t : LoadTask) (s : Session) (rows columns : Nat) : Session :=
  match t.archive.source? t.schema.name with
  | none => run s t
  | some source =>
    match source.records.drop rows with
    | [] => run s t
    | cells :: _ =>
      let begun : Scan :=
        { session := s.run (t.schema.openEffects t.archive t.table), table := t.table }
      let scan := begun.rows t.schema source.header (source.records.take rows)
      let row := scan.row + 1
      let counted := { scan with row, session := scan.session.passRow row }
      let layout := (Field.layout t.schema source.header).take columns
      (layout.foldl (Scan.note t.schema cells) counted).session

/-- What a load has looked up at such a moment, in the order of rows and columns. -/
def lookups (t : LoadTask) (rows columns : Nat) : List Lookup :=
  match t.archive.source? t.schema.name with
  | none => []
  | some source =>
    let layout := Field.layout t.schema source.header
    t.schema.rowsLookups layout 1 (source.records.take rows) ++
      match source.records.drop rows with
      | [] => []
      | cells :: _ => t.schema.rowLookups (layout.take columns) (rows + 1) cells

/-- What a load looks up. -/
def allLookups (t : LoadTask) : List Lookup :=
  match t.archive.source? t.schema.name with
  | none => []
  | some source =>
    t.schema.rowsLookups (Field.layout t.schema source.header) 1 source.records

def effects (t : LoadTask) : List Effect := t.schema.loadEffects t.archive t.table

variable (t : LoadTask) (s : Session)

theorem run_eq : run s t = s.run t.effects := by
  rw [run, Schema.load_eq]
  rfl

/-- What the session is asked for up to such a moment. -/
def requests (t : LoadTask) (rows columns : Nat) : List Effect :=
  match t.archive.source? t.schema.name with
  | none => []
  | some source =>
    let layout := Field.layout t.schema source.header
    t.schema.rowsRequests layout 1 (source.records.take rows) ++
      match source.records.drop rows with
      | [] => []
      | cells :: _ => t.schema.rowRequests (layout.take columns) (rows + 1) cells

theorem plain_effects : ∀ e ∈ t.effects, e.Plain := fun e member =>
  (t.schema.owned_loadEffects t.archive t.table e member).plain

theorem requests_effects :
    t.effects.filter Effect.isRequest = t.schema.loadRequests t.archive :=
  t.schema.requests_loadEffects t.archive t.table

theorem lookups_effects : t.effects.filterMap Effect.lookup? = t.allLookups := by
  rw [← Effect.lookups_requests, requests_effects]
  unfold Schema.loadRequests allLookups
  cases t.archive.source? t.schema.name with
  | none => rfl
  | some source => exact t.schema.lookups_rowsRequests _ _ _

theorem lookups_requests (rows columns : Nat) :
    (t.requests rows columns).filterMap Effect.lookup? = t.lookups rows columns := by
  unfold requests lookups
  cases t.archive.source? t.schema.name with
  | none => rfl
  | some source =>
      dsimp only
      rw [List.filterMap_append, Schema.lookups_rowsRequests]
      cases source.records.drop rows with
      | nil => rfl
      | cons cells _ => exact congrArg (_ ++ ·) (Schema.lookups_rowRequests _ _ _ _)

/-- At every moment of a load the session has run the effects of what was read so far. -/
theorem exists_effects (rows columns : Nat) :
    ∃ effects, t.moment s rows columns = s.run effects ∧ (∀ e ∈ effects, e.Plain) ∧
      effects.filter Effect.isRequest = t.requests rows columns := by
  have asked := t.requests_effects
  unfold moment requests
  unfold Schema.loadRequests at asked
  cases found : t.archive.source? t.schema.name with
  | none =>
      rw [found] at asked
      exact ⟨t.effects, t.run_eq s, t.plain_effects, asked⟩
  | some source =>
      rw [found] at asked
      dsimp only at asked ⊢
      cases rest : source.records.drop rows with
      | nil =>
          have all : source.records.take rows = source.records :=
            List.take_of_length_le (List.drop_eq_nil_iff.mp rest)
          rw [all, List.append_nil]
          exact ⟨t.effects, t.run_eq s, t.plain_effects, asked⟩
      | cons cells _ =>
          have opened := t.schema.aside_openEffects t.archive t.table
          have count : (source.records.take rows).length = rows := by
            have more : source.records.drop rows ≠ [] := by simp [rest]
            rw [List.length_take, Nat.min_eq_left]
            exact Nat.le_of_not_le fun short => more (List.drop_of_length_le short)
          refine ⟨t.schema.openEffects t.archive t.table ++
            ({ table := t.table } : Notes).partEffects t.schema cells
              (Field.layout t.schema source.header) columns (source.records.take rows), ?_, ?_, ?_⟩
          · rw [Session.run_append]
            exact Notes.foldl_note_rows t.schema cells _ { table := t.table } columns _ _
          · intro e member
            rcases List.mem_append.mp member with early | later
            · exact (opened e early).1.plain
            · exact (Notes.owned_partEffects t.schema cells _ _ columns _ e later).plain
          · rw [List.filter_append,
              Effect.filter_isRequest_of_general (t.schema.general_openEffects _ _),
              List.nil_append, Notes.requests_partEffects, count]
            simp only [Nat.zero_add]

theorem moment_eq (rows columns : Nat) :
    ∃ effects, t.moment s rows columns = s.run effects ∧ (∀ e ∈ effects, e.Plain) ∧
      effects.filterMap Effect.lookup? = t.lookups rows columns := by
  obtain ⟨effects, moment, plain, asked⟩ := t.exists_effects s rows columns
  refine ⟨effects, moment, plain, ?_⟩
  rw [← Effect.lookups_requests, asked, lookups_requests]

theorem foldl_run_eq (tasks : List LoadTask) :
    tasks.foldl run s = s.run (tasks.flatMap effects) := by
  induction tasks generalizing s with
  | nil => rfl
  | cons t rest ih => rw [List.foldl_cons, ih, run_eq, List.flatMap_cons, Session.run_append]

/-- At every moment of a session: for each key of a column there is one report if the first lookup
    of the key in the column found no record, and none otherwise. The session knows the keys that
    were looked up, and counts each of them once. -/
theorem reports_at_moment (settings : Settings) (progress : Option (Array Progress.Event))
    (earlier : List LoadTask) (current : LoadTask) (rows columns : Nat) :
    let session := current.moment (earlier.foldl run { settings, progress }) rows columns
    let looked := earlier.flatMap allLookups ++ current.lookups rows columns
    (∀ p, session.diagnostics.toList.filter (fun d => d.Blames p) =
        ((Session.first? looked p).filter Lookup.isDangling).toList.map Lookup.diagnostic) ∧
      (∀ p, p ∈ session.sightings ↔ ∃ l ∈ looked, l.sighting = p) ∧
        session.sightings.size = (looked.map Lookup.sighting).dedup.length := by
  intro session looked
  obtain ⟨effects, moment, plain, found⟩ :=
    current.moment_eq (earlier.foldl run { settings, progress }) rows columns
  have ran : session = Session.run { settings, progress }
      (earlier.flatMap LoadTask.effects ++ effects) := by
    rw [Session.run_append, ← foldl_run_eq]
    exact moment
  have allPlain : ∀ e ∈ earlier.flatMap LoadTask.effects ++ effects, e.Plain := by
    intro e member
    rcases List.mem_append.mp member with before | now
    · obtain ⟨t, -, inside⟩ := List.mem_flatMap.mp before
      exact (t.schema.owned_loadEffects t.archive t.table e inside).plain
    · exact plain e now
  have same : looked =
      (earlier.flatMap LoadTask.effects ++ effects).filterMap Effect.lookup? := by
    rw [List.filterMap_append, found, List.filterMap_flatMap]
    simp only [lookups_effects, looked]
  rw [ran, same]
  refine ⟨?_, ?_, Session.size_sightings_run settings progress _⟩
  · intro p
    rw [Session.diagnostics_run, List.filter_append, Session.filter_reports _ allPlain]
    simp
  · intro p
    rw [Session.mem_sightings_of_lookups]
    simp

end LoadTask

end TransitFeed

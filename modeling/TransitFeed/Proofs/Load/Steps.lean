import TransitFeed.Proofs.Load.Effects

/-! # Loads step by step

Tables that are loaded at the same time take turns with their session. A step is the start of a
load, one row, or the end. What a load keeps and what it tells does not depend on the session, so
it may wait between two steps while the session is told other things.
-/

namespace TransitFeed

/-- How far the load of a table has come. -/
inductive LoadState where
  | waiting (table : Table)
  /-- The header has been read; these rows are left. -/
  | reading (entry : Entry) (layout : List Field) (rows : List Csv.Record) (notes : Notes)
  | ended (table : Table) (fault : Option Fault)

namespace LoadState

/-- One step of a load in a session that other loads use as well. The load of a table without rows
    is a single step. -/
def step (schema : Schema) (archive : Except Fault Archive) (session : Session) :
    LoadState → LoadState × Session
  | .waiting table =>
    match archive with
    | .error fault => (.ended table (some fault), session)
    | .ok archive =>
      match archive.source? schema.name with
      | none =>
        let loaded := schema.load archive table session
        (.ended loaded.table loaded.fault, loaded.session)
      | some source =>
        (.reading source.entry (Field.layout schema source.header) source.records { table },
          session.run (schema.openEffects archive table))
  | .reading entry layout (cells :: rows) notes =>
    let scan := (notes.scan session).step schema layout cells
    (.reading entry layout rows ⟨scan.table, scan.row, scan.reported⟩, scan.session)
  | .reading entry _ [] notes =>
    let scan := notes.scan session
    let loaded :=
      if entry.state = .intact then scan.complete schema
      else scan.broken entry [.row (scan.row + 1)]
    (.ended loaded.table loaded.fault, loaded.session)
  | .ended table fault => (.ended table fault, session)

def isEnded : LoadState → Bool
  | .ended .. => true
  | _ => false

def table : LoadState → Table
  | .waiting table => table
  | .reading _ _ _ notes => notes.table
  | .ended table _ => table

def fault? : LoadState → Option Fault
  | .ended _ fault => fault
  | _ => none

/-- What the session is still to be told. -/
def pending (schema : Schema) (archive : Except Fault Archive) : LoadState → List Effect
  | .waiting table =>
    match archive with
    | .error _ => []
    | .ok archive => schema.loadEffects archive table
  | .reading entry layout rows notes =>
    notes.rowsEffects schema layout rows ++ schema.closeEffects entry (notes.rows schema layout rows)
  | .ended .. => []

/-- The table and the fault that the load will end with. -/
def outcome (schema : Schema) (archive : Except Fault Archive) : LoadState → Table × Option Fault
  | .waiting table =>
    match archive with
    | .error fault => (table, some fault)
    | .ok archive => (schema.loadTable archive table, schema.loadFault archive table)
  | .reading entry layout rows notes =>
    ((notes.rows schema layout rows).table,
      Schema.closeFault entry (notes.rows schema layout rows))
  | .ended table fault => (table, fault)

variable (schema : Schema) (archive : Except Fault Archive) (session : Session)

/-- A step tells the session the first part of what it is still to be told, and the load will end
    as before. -/
theorem step_told (state : LoadState) :
    ∃ told, (state.step schema archive session).2 = session.run told ∧
      state.pending schema archive =
        told ++ (state.step schema archive session).1.pending schema archive ∧
      (state.step schema archive session).1.outcome schema archive =
        state.outcome schema archive := by
  cases state with
  | waiting table =>
      cases archive with
      | error fault => exact ⟨[], rfl, rfl, rfl⟩
      | ok archive =>
          unfold step
          cases rows : archive.source? schema.name with
          | none =>
              refine ⟨schema.loadEffects archive table, ?_, ?_, ?_⟩
              · simp only [rows, Schema.load_eq]
              · simp only [rows, pending, List.append_nil]
              · simp only [rows, Schema.load_eq, outcome]
          | some source =>
              refine ⟨schema.openEffects archive table, ?_, ?_, ?_⟩
              · simp only [rows]
              · simp only [rows, pending, Schema.loadEffects, Schema.scanned]
              · simp only [rows, outcome, Schema.loadTable, Schema.loadFault, Schema.scanned]
  | reading entry layout rows notes =>
      cases rows with
      | nil =>
          refine ⟨schema.closeEffects entry notes, ?_, ?_, ?_⟩
          · exact congrArg Loaded.session (Schema.close_eq schema session {} entry notes)
          · exact (List.append_nil _).symm
          · exact congrArg (fun l : Loaded => (l.table, l.fault))
              (Schema.close_eq schema session {} entry notes)
      | cons cells rows =>
          obtain ⟨held, stepped⟩ := Notes.step_eq schema cells layout notes session {}
          refine ⟨notes.stepEffects schema layout cells, ?_, ?_, ?_⟩
          · exact congrArg Scan.session stepped
          · simp only [step, stepped, pending, Notes.rowsEffects, List.append_assoc]
            rfl
          · simp only [step, stepped, outcome]
            rfl
  | ended table fault => exact ⟨[], rfl, rfl, rfl⟩

def left (schema : Schema) (archive : Except Fault Archive) : LoadState → Nat
  | .waiting _ =>
    match archive with
    | .error _ => 1
    | .ok archive => (archive.source? schema.name).elim 1 fun source => source.records.length + 2
  | .reading _ _ rows _ => rows.length + 1
  | .ended .. => 0

theorem left_step (state : LoadState) :
    (state.step schema archive session).1.left schema archive = state.left schema archive - 1 := by
  cases state with
  | waiting table =>
      cases archive with
      | error fault => rfl
      | ok archive =>
          unfold step left
          cases rows : archive.source? schema.name with
          | none => simp only [rows, Option.elim_none, Nat.sub_self]
          | some source => simp only [rows, Option.elim_some, Nat.add_one_sub_one]
  | reading entry layout rows notes =>
      cases rows with
      | nil => rfl
      | cons cells rows => rfl
  | ended table fault => rfl

theorem isEnded_iff_left (state : LoadState) :
    state.isEnded = true ↔ state.left schema archive = 0 := by
  cases state with
  | waiting table =>
      cases archive with
      | error fault => simp [isEnded, left]
      | ok archive => cases rows : archive.source? schema.name <;> simp [isEnded, left, rows]
  | reading | ended => simp [isEnded, left]

theorem pending_of_ended {state : LoadState} (ended : state.isEnded = true) :
    state.pending schema archive = [] := by
  cases state with
  | waiting | reading => contradiction
  | ended => rfl

theorem outcome_of_ended {state : LoadState} (ended : state.isEnded = true) :
    state.outcome schema archive = (state.table, state.fault?) := by
  cases state with
  | waiting | reading => contradiction
  | ended => rfl

end LoadState

end TransitFeed

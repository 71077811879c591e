import TransitFeed.Proofs.Load.Intake
import TransitFeed.Proofs.Session.Requests

/-! # What a listener is told of a load

A listener is told of the entry that is opened and then of each read, and of nothing else. What a
load makes of a table does not depend on whether anyone listens.
-/

namespace TransitFeed

/-- What a listener is told of an effect. -/
def Effect.events : Effect → List Progress.Event
  | .tell event => [event]
  | .log .. | .pass _ | .intern _ | .report _ | .refer .. => []

namespace Session

/-- The session with a listener that has been told of events. -/
def heard (s : Session) (events : Array Progress.Event) : Session :=
  { s with progress := some events }

/-- The session without a listener. -/
def unheard (s : Session) : Session := { s with progress := none }

theorem progress_apply (s : Session) (e : Effect) :
    (s.apply e).progress = s.progress.map (· ++ e.events.toArray) := by
  have same : s.progress = s.progress.map (· ++ ([] : List Progress.Event).toArray) := by
    simp
  cases e with
  | tell event => simp [apply, tell, Effect.events]
  | log | intern | report => exact same
  | pass row =>
      rw [apply_pass]
      exact same
  | refer table row column key target =>
      simp only [apply, checkReference]
      split
      · exact same
      · exact same

theorem progress_run (s : Session) (effects : List Effect) :
    (s.run effects).progress =
      s.progress.map (· ++ (effects.flatMap Effect.events).toArray) := by
  induction effects generalizing s with
  | nil => simp
  | cons e rest ih =>
      rw [run_cons, ih, progress_apply, Option.map_map]
      refine congrArg (Option.map · s.progress) (funext fun events => ?_)
      simp

theorem unheard_apply (s : Session) (e : Effect) : (s.apply e).unheard = s.unheard.apply e := by
  cases e with
  | log | tell | intern | report => rfl
  | pass row =>
      simp only [apply, passRow]
      split
      · next logged => exact (if_pos logged).symm
      · next quiet => exact (if_neg quiet).symm
  | refer table row column key target =>
      simp only [apply, checkReference]
      split
      · next missing => exact (if_pos missing).symm
      · next found => exact (if_neg found).symm

theorem unheard_run (s : Session) (effects : List Effect) :
    (s.run effects).unheard = s.unheard.run effects := by
  induction effects generalizing s with
  | nil => rfl
  | cons e rest ih => rw [run_cons, ih, unheard_apply, run_cons]

end Session

/-- However a content is delivered, its records are read through the buffers and no octet is counted
    twice. All octets are counted, unless the header has no names. -/
theorem Entry.counted_once (entry : Entry) (d : Delivery entry.content) :
    let scan := Intake.scan entry.state d.pieces
    scan.1 = entry.recordsRead ∧
      (∀ octets ∈ scan.2.counted, 0 < octets ∧ octets ≤ Progress.blockSize) ∧
        scan.2.counted.sum ≤ entry.content.length ∧
          (entry.hasBlankHeader = true ∨ scan.2.counted.sum = entry.content.length) := by
  obtain ⟨records, follows, used⟩ := entry.scan_pieces d
  refine ⟨records, fun octets member => ?_, ?_, ?_⟩
  · have counted : octets ∈ d.pieces.map List.length := by
      rw [← follows.lengths]
      exact List.mem_append_left _ member
    obtain ⟨piece, inside, rfl⟩ := List.mem_map.mp counted
    exact ⟨List.length_pos_iff.mpr (d.nonempty piece inside), d.bounded piece inside⟩
  · have le := follows.sum_counted_le
    rwa [d.joined] at le
  · cases named : entry.hasBlankHeader with
    | true => exact Or.inl rfl
    | false =>
        have unused : entry.lengthUsed? = none := by
          rw [lengthUsed?, named]
          rfl
        rw [unused] at used
        refine Or.inr ?_
        rw [used, ← List.length_flatten, d.joined]

namespace Schema

variable (schema : Schema) (archive : Archive) (table : Table)

theorem events_readingEffects (entry : Entry) :
    (readingEffects entry).flatMap Effect.events =
      .begin ("Loading table " ++ entry.name) entry.size ::
        (Progress.blocks entry.lengthRead).map .advance := by
  rw [readingEffects, List.flatMap_cons, List.flatMap_map]
  refine congrArg (_ :: ·) ?_
  exact List.map_eq_flatMap.symm

theorem events_openEffects :
    (schema.openEffects archive table).flatMap Effect.events =
      match archive.locate? schema.name with
      | none => []
      | some location =>
        if location.entry.state = .locked then []
        else (readingEffects location.entry).flatMap Effect.events := by
  have header (entry : Entry) : (schema.headerEffects entry table).flatMap Effect.events = [] := by
    unfold headerEffects
    split
    · split <;> rfl
    · split <;> rfl
  have located (location : Archive.Location) :
      (schema.locationEffects location).flatMap Effect.events = [] := by
    cases location <;> rfl
  unfold openEffects
  cases archive.locate? schema.name with
  | none =>
      dsimp only
      split <;> rfl
  | some location =>
      dsimp only
      rw [List.flatMap_append, located, List.nil_append]
      split
      · rfl
      · rw [List.flatMap_cons, List.flatMap_append, header, List.append_nil]
        rfl

theorem events_closeEffects (entry : Entry) (n : Notes) :
    (schema.closeEffects entry n).flatMap Effect.events = [] := by
  unfold closeEffects
  split
  · split <;> rfl
  · rfl

theorem events_loadEffects :
    (schema.loadEffects archive table).flatMap Effect.events =
      match archive.locate? schema.name with
      | none => []
      | some location =>
        if location.entry.state = .locked then []
        else (readingEffects location.entry).flatMap Effect.events := by
  have quiet : ∀ e : Effect, e.isOfRow = true → e.events = [] := by
    intro e ofRow
    cases e with
    | report | intern | refer => rfl
    | log | tell | pass => contradiction
  rw [loadEffects, List.flatMap_append, events_openEffects]
  refine (congrArg (_ ++ ·) ?_).trans (List.append_nil _)
  cases archive.source? schema.name with
  | none => rfl
  | some source =>
      dsimp only
      rw [List.flatMap_append, events_closeEffects, Notes.flatMap_rowsEffects _ _ _ quiet,
        List.append_nil]
      exact List.flatMap_eq_nil_iff.mpr fun row _ => rfl

/-- Every octet is counted once. A load that opens an entry tells a listener first of the entry, by
    its own name and with its size, and then of each read; one that opens none tells it nothing. No
    more octets are counted than the entry has, and all of them if its header is not blank, also
    when the entry proves corrupt in the end. The reads are those that fill the buffers when the
    content is delivered in blocks, and the same holds however it is delivered. Without a listener
    the load makes the same of the table and the session. -/
theorem octets_counted_once (s : Session) (events : Array Progress.Event) :
    let heard := schema.load archive table (s.heard events)
    let alone := schema.load archive table s.unheard
    (heard.table = alone.table ∧ heard.fault = alone.fault ∧
      heard.session.unheard = alone.session) ∧
    match archive.locate? schema.name with
    | none => heard.session.progress = some events
    | some location =>
      let entry := location.entry
      if entry.state = .locked then heard.session.progress = some events
      else
        ∃ reads : List Nat,
          heard.session.progress = some (events ++
            (.begin ("Loading table " ++ entry.name) entry.size ::
              reads.map .advance).toArray) ∧
          reads.sum ≤ entry.content.length ∧
          (entry.hasBlankHeader = true ∨ reads.sum = entry.content.length) ∧
          reads = (Intake.scan entry.state (Delivery.inBlocks entry.content).pieces).2.counted ∧
          ∀ d : Delivery entry.content,
            let scan := Intake.scan entry.state d.pieces
            scan.1 = entry.recordsRead ∧
            (∀ octets ∈ scan.2.counted, 0 < octets ∧ octets ≤ Progress.blockSize) ∧
            scan.2.counted.sum ≤ entry.content.length ∧
            (entry.hasBlankHeader = true ∨ scan.2.counted.sum = entry.content.length) := by
  intro heard alone
  have made : heard = ⟨(s.heard events).run (schema.loadEffects archive table),
      schema.loadTable archive table, schema.loadFault archive table,
      schema.loadInstances archive (s.heard events).pool⟩ :=
    schema.load_eq table (s.heard events) archive
  have made_alone : alone = ⟨s.unheard.run (schema.loadEffects archive table),
      schema.loadTable archive table, schema.loadFault archive table,
      schema.loadInstances archive s.unheard.pool⟩ :=
    schema.load_eq table s.unheard archive
  have told : heard.session.progress =
      some (events ++ ((schema.loadEffects archive table).flatMap Effect.events).toArray) := by
    rw [made, Session.progress_run]
    rfl
  rw [events_loadEffects] at told
  refine ⟨⟨by rw [made, made_alone], by rw [made, made_alone], ?_⟩, ?_⟩
  · rw [made, made_alone]
    exact (s.heard events).unheard_run _
  · cases found : archive.locate? schema.name with
    | none => simpa [found] using told
    | some location =>
        let entry := location.entry
        rw [found] at told
        dsimp only at told ⊢
        by_cases locked : entry.state = .locked
        · rw [if_pos locked] at told ⊢
          simpa using told
        · rw [if_neg locked, events_readingEffects, ← entry.counted_inBlocks] at told
          rw [if_neg locked]
          obtain ⟨-, -, at_most, all⟩ := entry.counted_once (.inBlocks entry.content)
          exact ⟨_, told, at_most, all, rfl, entry.counted_once⟩

end Schema

end TransitFeed

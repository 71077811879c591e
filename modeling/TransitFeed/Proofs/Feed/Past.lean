import TransitFeed.Proofs.Feed.Effects
import TransitFeed.Proofs.Load.Places

/-! # Loads and the past of their session

What a load makes of a table, or of a feed, does not depend on what the session was told before. All
sessions report the same in the same order, except for the references that they have met.
-/

namespace TransitFeed

namespace LoadedFeed

/-- Whether the feed that a part of a load makes, its fault, and what it tells the session all depend
    on the feed and the fault before it alone. -/
def Steady (part : LoadedFeed → LoadedFeed) : Prop :=
  ∀ f fault, ∃ feed effects met, (∀ e ∈ effects, e.Plain) ∧
    ∀ s, part ⟨f, s, fault⟩ = ⟨feed, s.run effects, met⟩

theorem steady_id : Steady id := fun f fault =>
  ⟨f, [], fault, List.forall_mem_nil _, fun _ => rfl⟩

theorem Steady.comp {first second : LoadedFeed → LoadedFeed} (early : Steady first)
    (late : Steady second) : Steady (second ∘ first) := by
  intro f fault
  obtain ⟨feed, effects, met, plain, begun⟩ := early f fault
  obtain ⟨feed', effects', met', plain', ended⟩ := late feed met
  refine ⟨feed', effects ++ effects', met', List.forall_mem_append.mpr ⟨plain, plain'⟩, ?_⟩
  intro s
  rw [Function.comp_apply, begun, ended, Session.run_append]

theorem Steady.foldl {α : Type} {part : LoadedFeed → α → LoadedFeed}
    (steady : ∀ x, Steady (part · x)) (parts : List α) : Steady (parts.foldl part ·) := by
  induction parts with
  | nil => exact steady_id
  | cons x rest ih => exact (steady x).comp ih

variable (archive : Except Fault Archive)

theorem steady_table (which : FeedTable) : Steady (table archive · which) := by
  intro f fault
  cases archive with
  | error broken => exact ⟨f, [], fault.or (some broken), List.forall_mem_nil _, fun _ => rfl⟩
  | ok archive =>
      let schema := f.schema which
      refine ⟨f.fill archive which, schema.loadEffects archive (f.get which),
        fault.or (schema.loadFault archive (f.get which)), ?_, ?_⟩
      · exact fun e member => (schema.owned_loadEffects archive (f.get which) e member).plain
      · exact fun s => table_ok archive ⟨f, s, fault⟩ which

theorem steady_stage (tables : List FeedTable) : Steady (stage archive · tables) := by
  intro f fault
  cases fault with
  | some fault => exact steady_id f (some fault)
  | none => exact Steady.foldl (steady_table archive) tables f none

theorem sightings_complete (l : LoadedFeed) :
    l.complete.session.sightings = l.session.sightings := by
  unfold complete
  split <;> rfl

theorem diagnostics_complete (l : LoadedFeed) :
    l.complete.session.diagnostics = l.session.diagnostics := by
  unfold complete
  split <;> rfl

end LoadedFeed

namespace Feed

theorem exists_load (f : Feed) (archive : Except Fault Archive) :
    ∃ feed effects fault, (∀ e ∈ effects, e.Plain) ∧ ∀ s,
      (f.load archive s).feed = feed ∧ (f.load archive s).fault = fault ∧
        (f.load archive s).session.diagnostics = (s.run effects).diagnostics ∧
          (f.load archive s).session.sightings = (s.run effects).sightings := by
  obtain ⟨feed, effects, fault, plain, loaded⟩ :=
    LoadedFeed.Steady.foldl (LoadedFeed.steady_stage archive) FeedTable.stages f none
  refine ⟨feed, effects, fault, plain, fun s => ?_⟩
  have ended : FeedTable.stages.foldl (LoadedFeed.stage archive) { feed := f, session := s } =
      ⟨feed, s.run effects, fault⟩ := loaded s
  unfold load
  rw [LoadedFeed.feed_complete, LoadedFeed.fault_complete, LoadedFeed.diagnostics_complete,
    LoadedFeed.sightings_complete, ended]
  exact ⟨rfl, rfl, rfl, rfl⟩

/-- A load that is made again in the session of the first one makes the same feed, and reports the
    same apart from dangling references. -/
theorem load_again (f : Feed) (archive : Except Fault Archive) (s : Session) :
    let first := f.load archive s
    let again := f.load archive first.session
    again.feed = first.feed ∧ again.fault = first.fault ∧
      ∃ new, first.session.diagnostics.toList = s.diagnostics.toList ++ new ∧
        again.session.diagnostics.toList =
          first.session.diagnostics.toList ++ new.filter (·.dangling?.isNone) := by
  intro first again
  obtain ⟨feed, effects, fault, plain, loaded⟩ := f.exists_load archive
  obtain ⟨made, met, told, seen⟩ := loaded s
  obtain ⟨made', met', told', -⟩ := loaded first.session
  refine ⟨made'.trans made.symm, met'.trans met.symm, s.reports effects, ?_, ?_⟩
  · rw [told, Session.diagnostics_run]
  · have later : ∀ p, p ∈ (s.run effects).sightings → p ∈ first.session.sightings := by
      intro p inside
      rwa [seen]
    rw [told', Session.diagnostics_run, Session.reports_again plain later]

/-- The past of a session has no part in what a load makes of a table. All sessions report the same
    in the same order of rows and fields, but each leaves out the dangling references that it met
    before. So a load that is made again reports the same without any dangling references, and so
    does a load of a feed. -/
theorem load_past :
    (∀ (schema : Schema) (archive : Archive) (table : Table),
      ∃ placed : LoadReports, placed.Fits schema (schema.rowsRead archive).length ∧
        ∀ a b : Session,
          let inA := schema.load archive table a
          let inB := schema.load archive table b
          let again := schema.load archive table inA.session
          let newA := placed.inOrder.filter a.isNews
          let newB := placed.inOrder.filter b.isNews
          inA.table = inB.table ∧ inA.fault = inB.fault ∧
            inA.session.diagnostics.toList = a.diagnostics.toList ++ newA ∧
              inB.session.diagnostics.toList = b.diagnostics.toList ++ newB ∧
                again.table = inA.table ∧ again.fault = inA.fault ∧
                  again.session.diagnostics.toList =
                    inA.session.diagnostics.toList ++ newA.filter (·.dangling?.isNone)) ∧
    ∀ (f : Feed) (archive : Except Fault Archive) (s : Session),
      let first := f.load archive s
      let again := f.load archive first.session
      again.feed = first.feed ∧ again.fault = first.fault ∧
        ∃ new, first.session.diagnostics.toList = s.diagnostics.toList ++ new ∧
          again.session.diagnostics.toList =
            first.session.diagnostics.toList ++ new.filter (·.dangling?.isNone) := by
  refine ⟨fun schema archive table => ?_, load_again⟩
  let effects := schema.loadEffects archive table
  have plain : ∀ e ∈ effects, e.Plain := fun e member =>
    (schema.owned_loadEffects archive table e member).plain
  obtain ⟨placed, inOrder, fits⟩ := schema.exists_reports archive table {}
  have news (s : Session) : s.reports effects = placed.inOrder.filter s.isNews := by
    rw [← inOrder]
    exact Session.reports_eq_filter (fun p inside => absurd inside Std.TreeSet.not_mem_emptyc) plain
  have made (s : Session) : schema.load archive table s =
      ⟨s.run effects, schema.loadTable archive table, schema.loadFault archive table,
        schema.loadInstances archive s.pool⟩ :=
    schema.load_eq table s archive
  have told (s : Session) : (schema.load archive table s).session.diagnostics.toList =
      s.diagnostics.toList ++ placed.inOrder.filter s.isNews := by
    rw [← news, made, Session.diagnostics_run]
  refine ⟨placed, fits, fun a b => ⟨?_, ?_, told a, told b, ?_, ?_, ?_⟩⟩
  · rw [made, made]
  · rw [made, made]
  · rw [made, made]
  · rw [made, made]
  · rw [← news, made a, made, Session.diagnostics_run, Session.reports_again plain fun _ => id]

end Feed

end TransitFeed

import TransitFeed.Proofs.Feed.Effects
import TransitFeed.Proofs.Load.References

/-! # Dangling references of a feed

A session only remembers which keys it has met in which columns. That is enough because a column of
references has the same target wherever it occurs, and because the target is complete before the
first row that refers to it is read.
-/

namespace TransitFeed

namespace FeedTable

/-- The columns of references of a table, each with the table that it refers to. -/
def references : FeedTable → List (String × FeedTable)
  | .routes => [("agency_id", .agency)]
  | .trips => [("route_id", .routes)]
  | .stopTimes => [("trip_id", .trips), ("stop_id", .stops)]
  | .frequencies => [("trip_id", .trips)]
  | .agency | .stops | .calendar | .calendarDates | .shapes | .feedInfo => []

def targets (which : FeedTable) : List FeedTable := which.references.map (·.2)

theorem mem_targets {which target : FeedTable} {column : String}
    (refers : (column, target) ∈ which.references) : target ∈ which.targets :=
  List.mem_map.mpr ⟨_, refers, rfl⟩

/-- The target of a column of references, which does not depend on the table of the column. -/
def targetOf (column : String) : FeedTable :=
  if column = "agency_id" then .agency
  else if column = "route_id" then .routes
  else if column = "trip_id" then .trips
  else .stops

theorem targetOf_of_mem {which target : FeedTable} {column : String}
    (refers : (column, target) ∈ which.references) : target = targetOf column := by
  cases which with
  | routes | trips | frequencies =>
      obtain ⟨rfl, rfl⟩ := Prod.mk.inj (List.mem_singleton.mp refers)
      rfl
  | stopTimes =>
      rcases List.mem_cons.mp refers with first | second
      · obtain ⟨rfl, rfl⟩ := Prod.mk.inj first
        rfl
      · obtain ⟨rfl, rfl⟩ := Prod.mk.inj (List.mem_singleton.mp second)
        rfl
  | agency | stops | calendar | calendarDates | shapes | feedInfo => contradiction

/-- A column of references has the same target wherever it occurs. -/
theorem target_unique {which other target target' : FeedTable} {column : String}
    (refers : (column, target) ∈ which.references)
    (refers' : (column, target') ∈ other.references) : target = target' :=
  (targetOf_of_mem refers).trans (targetOf_of_mem refers').symm

theorem not_mem_targets_self (which : FeedTable) : which ∉ which.targets := by
  cases which <;> decide

theorem ordered_loadOrder : loadOrder.Pairwise fun which later => later ∉ which.targets := by
  decide

end FeedTable

namespace Feed

variable (f : Feed) (archive : Archive) (p : Sighting) (missing : Bool)

theorem references_schema (which : FeedTable) :
    (f.schema which).references = which.references.map fun r => (r.1, f.get r.2) := by
  cases which <;> rfl

theorem meets_loadEffects (which : FeedTable) (table : Table) :
    Effect.Meets ((f.schema which).loadEffects archive table) p missing ↔
      ∃ target, (p.column, target) ∈ which.references ∧
        archive.HasText which.name p.column p.key ∧
          (!(f.get target).contains (.name p.key)) = missing := by
  rw [Schema.meets_loadEffects, schema_name, references_schema]
  constructor
  · rintro ⟨table, refers, present, held⟩
    obtain ⟨⟨column, target⟩, listed, same⟩ := List.mem_map.mp refers
    obtain ⟨rfl, rfl⟩ := Prod.mk.inj same
    exact ⟨target, listed, present, held⟩
  · rintro ⟨target, refers, present, held⟩
    exact ⟨f.get target, List.mem_map.mpr ⟨_, refers, rfl⟩, present, held⟩

/-- The references that are met while tables are loaded. If no table refers to itself or to a later
    one, each is checked in the table that is there at the end. -/
theorem meets_fillEffects {tables : List FeedTable}
    (ordered : tables.Pairwise fun which later => later ∉ which.targets) :
    Effect.Meets (f.fillEffects archive tables) p missing ↔
      ∃ which ∈ tables, ∃ target, (p.column, target) ∈ which.references ∧
        archive.HasText which.name p.column p.key ∧
          (!((tables.foldl (fill archive) f).get target).contains (.name p.key)) = missing := by
  induction tables generalizing f with
  | nil => simp [fillEffects]
  | cons which rest ih =>
      obtain ⟨later, restOrdered⟩ := List.pairwise_cons.mp ordered
      -- The targets of the first table are neither it nor later ones, so they are complete.
      have frozen {target : FeedTable} (refers : (p.column, target) ∈ which.references) :
          ((which :: rest).foldl (fill archive) f).get target = f.get target := by
        apply get_foldl_fill
        intro member
        rcases List.mem_cons.mp member with rfl | member
        · exact FeedTable.not_mem_targets_self _ (FeedTable.mem_targets refers)
        · exact later _ member (FeedTable.mem_targets refers)
      rw [fillEffects, Effect.meets_append, ih _ restOrdered, meets_loadEffects]
      simp only [List.mem_cons, or_and_right, exists_or, exists_eq_left]
      refine or_congr_left (exists_congr fun target => and_congr_right fun refers => ?_)
      rw [frozen refers]

theorem plain_fillEffects (tables : List FeedTable) :
    ∀ e ∈ f.fillEffects archive tables, e.Plain := by
  induction tables generalizing f with
  | nil =>
      intro e member
      contradiction
  | cons which rest ih =>
      intro e member
      rcases List.mem_append.mp member with here | later
      · exact (Schema.owned_loadEffects _ archive _ e here).plain
      · exact ih _ e later

theorem agree_of_meets {effects : List Effect}
    (meets : ∀ p missing, Effect.Meets effects p missing →
      ∃ which target, (p.column, target) ∈ FeedTable.references which ∧
        (!(f.get target).contains (.name p.key)) = missing) : Effect.Agree effects := by
  intro p missing missing' met met'
  obtain ⟨which, target, refers, held⟩ := meets p missing met
  obtain ⟨other, target', refers', held'⟩ := meets p missing' met'
  obtain rfl : target = target' := FeedTable.target_unique refers refers'
  exact held.symm.trans held'

/-- A load without a fault in a new session reports the dangling references, each of them once:
    the texts of some row in a column of references under which the target has no record at the
    end. -/
theorem dangling_load (settings : Settings) (progress : Option (Array Progress.Event))
    (clean : (f.load (.ok archive) { settings, progress }).fault = none) :
    (f.load (.ok archive) { settings, progress }).session.dangling.Nodup ∧
      ∀ column key, ⟨column, key⟩ ∈ (f.load (.ok archive) { settings, progress }).session.dangling ↔
        ∃ which target, (column, target) ∈ FeedTable.references which ∧
          archive.HasText which.name column key ∧
            ((f.load (.ok archive) { settings, progress }).feed.get target).contains (.name key) =
              false := by
  obtain ⟨opened, same, filled, -, line, ran⟩ := load_of_clean clean
  obtain rfl : archive = opened := Except.ok.inj same
  rw [filled, ran, Session.run_append]
  have meets := fun p missing => f.meets_fillEffects archive p missing FeedTable.ordered_loadOrder
  have agree : Effect.Agree (f.fillEffects archive FeedTable.loadOrder) := by
    apply agree_of_meets (FeedTable.loadOrder.foldl (fill archive) f)
    intro p missing met
    obtain ⟨which, -, target, refers, -, held⟩ := (meets p missing).mp met
    exact ⟨which, target, refers, held⟩
  obtain ⟨new, reported, distinct, members⟩ :=
    Session.dangling_run { settings, progress } (f.plain_fillEffects archive FeedTable.loadOrder) agree
  have all : ((Session.run { settings, progress }
      (f.fillEffects archive FeedTable.loadOrder)).run [.log .info line]).dangling = new := reported
  rw [all]
  refine ⟨distinct, fun column key => ?_⟩
  rw [members, meets]
  constructor
  · rintro ⟨-, which, -, target, refers, present, held⟩
    exact ⟨which, target, refers, present, by simpa using held⟩
  · rintro ⟨which, target, refers, present, held⟩
    refine ⟨by simp, which, FeedTable.mem_loadOrder which, target, refers, present, ?_⟩
    simpa using held

/-- Two times and a frequency of a trip that there is not. The frequency has no key. -/
def tripless : Archive :=
  [{ name := "stop_times.txt", content := Utf8.encode "trip_id,stop_sequence\nT1,1\nT1,2\n" },
    { name := "frequencies.txt", content := Utf8.encode "trip_id\nT1\n" }]

/-- The trip is reported to be missing, and it is reported once. -/
theorem dangling_load_tripless :
    (({} : Feed).load (.ok tripless) {}).fault = none ∧
      (({} : Feed).load (.ok tripless) {}).session.dangling.Nodup ∧
        ⟨"trip_id", "T1"⟩ ∈ (({} : Feed).load (.ok tripless) {}).session.dangling := by
  have clean : (({} : Feed).load (.ok tripless) {}).fault = none := by decide +kernel
  have unknown : ((({} : Feed).load (.ok tripless) {}).feed.get .trips).contains (.name "T1") =
      false := by
    decide +kernel
  have present : tripless.HasText "frequencies" "trip_id" "T1" := by decide +kernel
  obtain ⟨distinct, members⟩ := dangling_load {} tripless {} none clean
  exact ⟨clean, distinct, (members _ _).mpr
    ⟨.frequencies, .trips, List.mem_cons_self, present, unknown⟩⟩

end Feed

end TransitFeed

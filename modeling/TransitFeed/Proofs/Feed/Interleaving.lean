import TransitFeed.Proofs.Feed.References
import TransitFeed.Proofs.Feed.Traces
import TransitFeed.Proofs.Load.Steps
import TransitFeed.Proofs.Session.Agree

/-! # Stages in any order of steps

The tables of a stage may be loaded at the same time. Whatever the order of their steps, the stage
ends as it does when the tables are loaded one after the other.
-/

namespace TransitFeed

/-- The tables of a stage while they are loaded in one session. -/
structure StageRun where
  state : FeedTable → LoadState
  session : Session

namespace StageRun

def start (f : Feed) (session : Session) : StageRun := ⟨fun which => .waiting (f.get which), session⟩

/-- One step of one table. Its references go to the tables that the feed had before the stage. -/
def step (f : Feed) (archive : Except Fault Archive) (r : StageRun) (which : FeedTable) :
    StageRun :=
  let stepped := (r.state which).step (f.schema which) archive r.session
  ⟨fun other => if other = which then stepped.1 else r.state other, stepped.2⟩

def run (f : Feed) (archive : Except Fault Archive) (r : StageRun) (schedule : List FeedTable) :
    StageRun :=
  schedule.foldl (step f archive) r

def HasEnded (r : StageRun) (tables : List FeedTable) : Prop :=
  ∀ which ∈ tables, (r.state which).isEnded = true

/-- What the stage leaves: the tables as they are, and the fault of the first table that has one. -/
def result (f : Feed) (tables : List FeedTable) (r : StageRun) : LoadedFeed where
  feed := tables.foldl (fun feed which => feed.set which (r.state which).table) f
  session := r.session
  fault := tables.findSome? fun which => (r.state which).fault?

end StageRun

namespace FeedTable

theorem independent_stages : ∀ tables ∈ stages,
    tables.Nodup ∧ ∀ which ∈ tables, ∀ other ∈ tables, other ∉ which.targets := by
  decide

end FeedTable

namespace Feed

variable (f : Feed) (archive : Except Fault Archive)

theorem set_get_self (which : FeedTable) : f.set which (f.get which) = f := by
  cases which <;> rfl

theorem schema_set_of_not_mem {which other : FeedTable} (table : Table)
    (free : other ∉ which.targets) : (f.set other table).schema which = f.schema which := by
  cases which <;> cases other <;> first | rfl | exact absurd (by decide) free

/-- How many steps the load of a table takes. -/
def turns (which : FeedTable) : Nat :=
  (LoadState.waiting (f.get which)).left (f.schema which) archive

/-- What the load of a table tells its session. -/
def told (which : FeedTable) : List Effect :=
  (LoadState.waiting (f.get which)).pending (f.schema which) archive

def outcome (which : FeedTable) : Table × Option Fault :=
  (LoadState.waiting (f.get which)).outcome (f.schema which) archive

theorem owned_told (which : FeedTable) : ∀ e ∈ f.told archive which, e.Owned which.name := by
  intro e member
  cases archive with
  | error fault => contradiction
  | ok archive =>
      rw [← f.schema_name which]
      exact Schema.owned_loadEffects _ archive _ e member

theorem meets_told {which : FeedTable} {p : Sighting} {missing : Bool}
    (met : Effect.Meets (f.told archive which) p missing) :
    ∃ target, (p.column, target) ∈ which.references ∧
      (!(f.get target).contains (.name p.key)) = missing := by
  cases archive with
  | error fault => exact absurd met Effect.meets_nil
  | ok archive =>
      obtain ⟨target, refers, -, held⟩ := (f.meets_loadEffects archive p missing which _).mp met
      exact ⟨target, refers, held⟩

end Feed

namespace LoadedFeed

variable (archive : Except Fault Archive)

theorem table_eq (l : LoadedFeed) (which : FeedTable) :
    l.table archive which =
      { feed := l.feed.set which (l.feed.outcome archive which).1
        session := l.session.run (l.feed.told archive which)
        fault := l.fault.or (l.feed.outcome archive which).2 } := by
  cases archive with
  | error fault =>
      change _ = LoadedFeed.mk (l.feed.set which (l.feed.get which)) _ _
      rw [Feed.set_get_self]
      rfl
  | ok archive => exact table_ok archive l which

/-- Tables that do not refer to each other are loaded one after the other. -/
theorem foldl_table_eq (f : Feed) {tables : List FeedTable} (distinct : tables.Nodup)
    (free : ∀ which ∈ tables, ∀ other ∈ tables, other ∉ which.targets) (l : LoadedFeed)
    (same : ∀ which ∈ tables, l.feed.get which = f.get which ∧
      l.feed.schema which = f.schema which) :
    tables.foldl (table archive) l =
      { feed := tables.foldl (fun feed which => feed.set which (f.outcome archive which).1) l.feed
        session := l.session.run (Trace.sequential (f.told archive) tables).effects
        fault := l.fault.or (tables.findSome? fun which => (f.outcome archive which).2) } := by
  induction tables generalizing l with
  | nil => simp [Trace.sequential, Trace.effects]
  | cons which rest ih =>
      obtain ⟨absent, distinct⟩ := List.nodup_cons.mp distinct
      obtain ⟨held, known⟩ := same which List.mem_cons_self
      have told : l.feed.told archive which = f.told archive which := by
        unfold Feed.told
        rw [held, known]
      have outcome : l.feed.outcome archive which = f.outcome archive which := by
        unfold Feed.outcome
        rw [held, known]
      rw [List.foldl_cons, table_eq, told, outcome]
      -- None of the other tables refers to the one that was loaded, so they see the feed `f`.
      have next := ih distinct
        (fun which listed other listed' =>
          free which (List.mem_cons_of_mem _ listed) other (List.mem_cons_of_mem _ listed'))
        { feed := l.feed.set which (f.outcome archive which).1
          session := l.session.run (f.told archive which)
          fault := l.fault.or (f.outcome archive which).2 }
        (fun other listed => by
          obtain ⟨held, known⟩ := same other (List.mem_cons_of_mem _ listed)
          have ne : which ≠ other := by
            rintro rfl
            exact absent listed
          rw [Feed.get_set_of_ne _ _ ne, Feed.schema_set_of_not_mem _ _
            (free other (List.mem_cons_of_mem _ listed) which List.mem_cons_self)]
          exact ⟨held, known⟩)
      rw [next]
      rw [Trace.effects_sequential_cons, Session.run_append, List.foldl_cons,
        List.findSome?_cons, Option.or_assoc]
      congr 1
      cases (f.outcome archive which).2 with
      | none => rw [Option.none_or]
      | some fault => rw [Option.some_or]

end LoadedFeed

namespace StageRun

variable (f : Feed) (archive : Except Fault Archive) (r : StageRun) (session : Session)

def pending (which : FeedTable) : List Effect :=
  (r.state which).pending (f.schema which) archive

def outcome (which : FeedTable) : Table × Option Fault :=
  (r.state which).outcome (f.schema which) archive

theorem left_run (schedule : List FeedTable) (which : FeedTable) :
    ((r.run f archive schedule).state which).left (f.schema which) archive =
      (r.state which).left (f.schema which) archive - schedule.count which := by
  induction schedule generalizing r with
  | nil => rfl
  | cons first rest ih =>
      have later : ((r.run f archive (first :: rest)).state which).left (f.schema which) archive =
          ((r.step f archive first).state which).left (f.schema which) archive - rest.count which :=
        ih _
      rw [later]
      by_cases same : which = first
      · subst same
        have stepped : (r.step f archive which).state which =
            ((r.state which).step (f.schema which) archive r.session).1 := if_pos rfl
        rw [stepped, LoadState.left_step, List.count_cons_self]
        omega
      · have waits : (r.step f archive first).state which = r.state which := if_neg same
        rw [waits, List.count_cons_of_ne (Ne.symm same)]

/-- The tables have ended when the schedule has given each of them its turns. -/
theorem hasEnded_run_iff (tables schedule : List FeedTable) :
    ((start f session).run f archive schedule).HasEnded tables ↔
      ∀ which ∈ tables, f.turns archive which ≤ schedule.count which := by
  refine forall_congr' fun which => imp_congr_right fun _ => ?_
  rw [LoadState.isEnded_iff_left (f.schema which) archive, left_run, Nat.sub_eq_zero_iff_le]
  rfl

theorem step_trace (which : FeedTable) :
    ∃ told, (r.step f archive which).session = r.session.run told ∧
      ∀ other, Trace.tag other (r.pending f archive other) =
          Trace.own other (Trace.tag which told) ++
            Trace.tag other ((r.step f archive which).pending f archive other) ∧
        (r.step f archive which).outcome f archive other = r.outcome f archive other := by
  obtain ⟨told, ran, pending, outcome⟩ :=
    (r.state which).step_told (f.schema which) archive r.session
  refine ⟨told, ran, fun other => ?_⟩
  by_cases same : other = which
  · subst same
    have stepped : (r.step f archive other).state other =
        ((r.state other).step (f.schema other) archive r.session).1 := if_pos rfl
    unfold StageRun.pending StageRun.outcome
    rw [stepped, Trace.own_tag_self, pending]
    exact ⟨List.map_append, outcome⟩
  · have waits : (r.step f archive which).state other = r.state other := if_neg same
    unfold StageRun.pending StageRun.outcome
    rw [waits, Trace.own_tag_of_ne _ _ (Ne.symm same)]
    exact ⟨rfl, rfl⟩

/-- A schedule gives a trace in which each table tells the first part of what it is to tell. -/
theorem run_trace (schedule : List FeedTable) :
    ∃ trace : Trace, (r.run f archive schedule).session = r.session.run trace.effects ∧
      (∀ x ∈ trace, x.1 ∈ schedule) ∧
      ∀ which, Trace.tag which (r.pending f archive which) =
          Trace.own which trace ++
            Trace.tag which ((r.run f archive schedule).pending f archive which) ∧
        (r.run f archive schedule).outcome f archive which = r.outcome f archive which := by
  induction schedule generalizing r with
  | nil => exact ⟨[], rfl, by simp, fun which => ⟨rfl, rfl⟩⟩
  | cons first rest ih =>
      obtain ⟨told, ran, one⟩ := r.step_trace f archive first
      obtain ⟨trace, later, scheduled, all⟩ := ih (r.step f archive first)
      -- What the first step tells is cut off from what its table is still to tell.
      refine ⟨Trace.tag first told ++ trace, ?_, ?_, fun which => ⟨?_, ?_⟩⟩
      · rw [Trace.effects_append, Trace.effects_tag, Session.run_append, ← ran]
        exact later
      · intro x member
        rcases List.mem_append.mp member with here | member
        · obtain ⟨e, -, rfl⟩ := List.mem_map.mp here
          exact List.mem_cons_self
        · exact List.mem_cons_of_mem _ (scheduled x member)
      · rw [(one which).1, (all which).1, Trace.own_append, List.append_assoc]
        rfl
      · exact (all which).2.trans (one which).2

/-- When all tables have ended, each has told what it tells when it is loaded alone, and ends as it
    does alone. -/
theorem run_start {tables schedule : List FeedTable} (own : ∀ which ∈ schedule, which ∈ tables)
    (ended : ((start f session).run f archive schedule).HasEnded tables) :
    ∃ trace : Trace,
      ((start f session).run f archive schedule).session = session.run trace.effects ∧
        (∀ which ∈ tables, Trace.own which trace = Trace.tag which (f.told archive which)) ∧
        (∀ which, which ∉ tables → Trace.own which trace = []) ∧
        ∀ which ∈ tables, f.outcome archive which =
          ((((start f session).run f archive schedule).state which).table,
            (((start f session).run f archive schedule).state which).fault?) := by
  obtain ⟨trace, ran, scheduled, all⟩ := (start f session).run_trace f archive schedule
  refine ⟨trace, ran, ?_, ?_, ?_⟩
  · intro which listed
    have rest : ((start f session).run f archive schedule).pending f archive which = [] :=
      LoadState.pending_of_ended _ _ (ended which listed)
    have told := (all which).1
    rw [rest] at told
    exact ((List.append_nil _).symm.trans told.symm)
  · intro which absent
    apply Trace.own_eq_nil
    rintro x member rfl
    exact absent (own _ (scheduled x member))
  · intro which listed
    exact (all which).2.symm.trans (LoadState.outcome_of_ended _ _ (ended which listed))

/-- A table that takes all turns is loaded as it is without other tables. -/
theorem result_alone {which : FeedTable} {schedule : List FeedTable}
    (own : ∀ other ∈ schedule, other ∈ [which])
    (ended : ((start f session).run f archive schedule).HasEnded [which]) :
    ((start f session).run f archive schedule).result f [which] =
      LoadedFeed.table archive { feed := f, session } which := by
  obtain ⟨trace, ran, told, silent, outcome⟩ := run_start f archive session own ended
  have whole : trace = Trace.tag which (f.told archive which) := by
    rw [← told which List.mem_cons_self]
    refine (List.filter_eq_self.mpr fun x member => ?_).symm
    by_contra other
    have absent : x.1 ∉ [which] := by simpa using other
    have found : x ∈ Trace.own x.1 trace := List.mem_filter.mpr ⟨member, decide_eq_true rfl⟩
    rw [silent x.1 absent] at found
    contradiction
  have ends := outcome which List.mem_cons_self
  rw [LoadedFeed.table_eq, ends]
  unfold result
  rw [ran, whole, Trace.effects_tag]
  simp only [List.foldl_cons, List.foldl_nil, List.findSome?_cons, List.findSome?_nil,
    Option.none_or]
  cases (((start f session).run f archive schedule).state which).fault? with
  | none => rfl
  | some fault => rfl

theorem agree_of_own {session session' : Session} (alike : session.Agree session') {a b : Trace}
    (same : ∀ which, Trace.own which a = Trace.own which b)
    (told : ∀ x ∈ b, x.2 ∈ f.told archive x.1) :
    (session.run a.effects).Agree (session'.run b.effects) := by
  have perm := Trace.perm_of_own same
  have told' : ∀ x ∈ a, x.2 ∈ f.told archive x.1 :=
    fun x member => told x (perm.mem_iff.mp member)
  have owned {trace : Trace} (told : ∀ x ∈ trace, x.2 ∈ f.told archive x.1) :
      ∀ x ∈ trace, x.2.Owned x.1.name :=
    fun x member => f.owned_told archive x.1 x.2 (told x member)
  apply alike.run (perm.map _)
  · intro e member
    obtain ⟨x, listed, rfl⟩ := List.mem_map.mp member
    exact (owned told' x listed).plain
  · apply f.agree_of_meets
    rintro p missing ⟨e, member, reference⟩
    obtain ⟨x, listed, rfl⟩ := List.mem_map.mp member
    obtain ⟨target, refers, held⟩ := f.meets_told archive ⟨x.2, told' x listed, reference⟩
    exact ⟨x.1, target, refers, held⟩
  · exact Trace.reports_eq_of_own (owned told') (owned told) same

/-- Whatever the order of the steps of its tables, a stage leaves the feed and the fault that it
    leaves when the tables are loaded one after the other, and the sessions agree. -/
theorem result_eq_stage {tables schedule : List FeedTable} (stage : tables ∈ FeedTable.stages)
    (own : ∀ which ∈ schedule, which ∈ tables)
    (ended : ((start f session).run f archive schedule).HasEnded tables) :
    (((start f session).run f archive schedule).result f tables).feed =
        (LoadedFeed.stage archive { feed := f, session } tables).feed ∧
      (((start f session).run f archive schedule).result f tables).fault =
        (LoadedFeed.stage archive { feed := f, session } tables).fault ∧
      Session.Agree (((start f session).run f archive schedule).result f tables).session
        (LoadedFeed.stage archive { feed := f, session } tables).session := by
  obtain ⟨distinct, free⟩ := FeedTable.independent_stages tables stage
  obtain ⟨trace, ran, told, silent, outcome⟩ := run_start f archive session own ended
  have sequential : LoadedFeed.stage archive { feed := f, session } tables = _ :=
    LoadedFeed.foldl_table_eq archive f distinct free { feed := f, session }
      (fun _ _ => ⟨rfl, rfl⟩)
  rw [sequential]
  refine ⟨?_, ?_, ?_⟩
  · apply List.foldl_ext
    intro feed which listed
    rw [outcome which listed]
  · change tables.findSome? _ = Option.or none _
    rw [Option.none_or, ← List.head?_filterMap, ← List.head?_filterMap]
    congr 1
    apply List.filterMap_congr
    intro which listed
    rw [outcome which listed]
  · change Session.Agree ((start f session).run f archive schedule).session _
    rw [ran]
    apply agree_of_own f archive (.refl session)
    · intro which
      by_cases listed : which ∈ tables
      · rw [told which listed, Trace.own_sequential _ distinct listed]
      · rw [silent which listed, Trace.own_sequential_of_not_mem _ _ listed]
    · intro x member
      obtain ⟨which, -, member⟩ := List.mem_flatMap.mp member
      obtain ⟨e, inside, rfl⟩ := List.mem_map.mp member
      exact inside

/-- The stop times and the frequency take turns, and the frequency is the first to read a row. -/
def frequencyFirst : List FeedTable :=
  [.stopTimes, .frequencies, .frequencies, .stopTimes, .frequencies, .stopTimes, .stopTimes]

/-- The missing trip is put down to the frequency, and all else is as in the load of one table
    after the other. -/
theorem result_eq_stage_frequencyFirst :
    let interleaved := ((start {} {}).run {} (.ok Feed.tripless) frequencyFirst).result {}
      [.stopTimes, .frequencies]
    let sequential := LoadedFeed.stage (.ok Feed.tripless) { feed := {}, session := {} }
      [.stopTimes, .frequencies]
    interleaved.fault = sequential.fault ∧ interleaved.session.Agree sequential.session ∧
      (interleaved.session.diagnostics.toList.find? (·.dangling?.isSome)).map (·.table) =
        some "frequencies" ∧
      (sequential.session.diagnostics.toList.find? (·.dangling?.isSome)).map (·.table) =
        some "stop_times" := by
  have ended : ((start {} {}).run {} (.ok Feed.tripless) frequencyFirst).HasEnded
      [.stopTimes, .frequencies] := by
    rw [hasEnded_run_iff]
    decide +kernel
  have stage : [.stopTimes, .frequencies] ∈ FeedTable.stages := by decide
  have own : ∀ which ∈ frequencyFirst, which ∈ [.stopTimes, .frequencies] := by decide
  obtain ⟨-, faults, sessions⟩ := result_eq_stage {} (.ok Feed.tripless) {} stage own ended
  exact ⟨faults, sessions, by decide +kernel, by decide +kernel⟩

end StageRun

end TransitFeed

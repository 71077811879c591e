import TransitFeed.Feed.Turns
import TransitFeed.Proofs.Feed.Interleaving
import TransitFeed.Proofs.Session.Reports

/-! # Tables that take turns

Whatever turns its tables take, a load at the same time leaves the feed and the fault of the load of
one table after the other, and the sessions agree. It is a load in some order of the effects, but for
the reports of dangling references: these are owed for a while. When all tables have come to their
ends nothing is owed any more.
-/

namespace TransitFeed

/-- The dangling reference that an effect reports itself. -/
def Effect.owed? : Effect → Option Sighting
  | .report d => d.dangling?
  | _ => none

theorem Effect.Plain.owed? {e : Effect} (plain : e.Plain) : e.owed? = none := by
  cases e with
  | report d => exact plain.dangling?
  | log | tell | pass | intern | refer => rfl

namespace Session

theorem news_congr {s u : Session} (same : s.sightings = u.sightings) (e : Effect) :
    s.news e = u.news e := by
  unfold news
  rw [same]

/-- What is told at once and what is owed make up the effect. -/
theorem run_access (s : Session) (e : Effect) : (s.access e).1.run (s.access e).2 = s.apply e := by
  cases e with
  | log | tell | pass | intern | report => rfl
  | refer table row column key target =>
      unfold access apply checkReference
      dsimp only
      split <;> rfl

theorem access_owed (s : Session) (e : Effect) :
    (s.access e).2 = [] ∨ ∃ d p, (s.access e).2 = [.report d] ∧ d.dangling? = some p := by
  cases e with
  | log | tell | pass | intern | report => exact Or.inl rfl
  | refer table row column key target =>
      unfold access
      dsimp only
      split
      · exact Or.inr ⟨_, ⟨column, key⟩, rfl, rfl⟩
      · exact Or.inl rfl

theorem filter_access (s : Session) (e : Effect) :
    ((s.access e).2.filter fun later => later.owed?.isNone) = [] := by
  rcases s.access_owed e with quiet | ⟨d, p, later, found⟩
  · rw [quiet, List.filter_nil]
  · have owed : (Effect.report d).owed? = some p := found
    rw [later, List.filter_cons_of_neg (by simp [owed]), List.filter_nil]

/-- Whether a session is like another one but for dangling references that it is still to be told. -/
structure Owes (s u : Session) (owed : List Sighting) : Prop where
  settings : s.settings = u.settings
  pool : s.pool = u.pool
  sightings : s.sightings = u.sightings
  others : s.others = u.others
  dangling : u.dangling.Perm (s.dangling ++ owed)

namespace Owes

variable {s u : Session} {owed : List Sighting}

theorem refl (s : Session) : s.Owes s [] :=
  ⟨rfl, rfl, rfl, rfl, by rw [List.append_nil]⟩

theorem perm (owes : s.Owes u owed) {owed' : List Sighting} (same : owed.Perm owed') :
    s.Owes u owed' :=
  { owes with dangling := owes.dangling.trans (same.append_left _) }

theorem agree (owes : s.Owes u []) : s.Agree u := by
  refine .of_parts (fun text => by rw [owes.pool]) (fun p => by rw [owes.sightings])
    (fun table => by rw [owes.others]) ?_
  have same := owes.dangling
  rw [List.append_nil] at same
  exact same.symm

theorem apply (owes : s.Owes u owed) (e : Effect) : (s.apply e).Owes (u.apply e) owed where
  settings := by rw [settings_apply, settings_apply, owes.settings]
  pool := by
    by_cases interned : ∃ text, e = .intern text
    · obtain ⟨text, rfl⟩ := interned
      change s.pool.intern text = u.pool.intern text
      rw [owes.pool]
    · have other : ∀ text, e ≠ .intern text := fun text same => interned ⟨text, same⟩
      rw [pool_apply_of_ne s other, pool_apply_of_ne u other, owes.pool]
  sightings := by
    cases e with
    | pass row => rw [apply_pass, apply_pass, owes.sightings]
    | refer table row column key target =>
        change (s.checkReference table row column key target).sightings =
          (u.checkReference table row column key target).sightings
        rw [sightings_checkReference, sightings_checkReference, sight, sight, owes.sightings]
    | log | tell | intern | report => exact owes.sightings
  others := by
    have same := owes.others
    unfold Session.others at same ⊢
    rw [diagnostics_apply, diagnostics_apply, List.filter_append, List.filter_append, same,
      news_congr owes.sightings]
  dangling := by
    have same := owes.dangling
    unfold Session.dangling at same ⊢
    rw [diagnostics_apply, diagnostics_apply, List.filterMap_append, List.filterMap_append,
      news_congr owes.sightings]
    refine (same.append_right _).trans ?_
    rw [List.append_assoc, List.append_assoc]
    exact List.perm_append_comm.append_left _

/-- A report that is told is no longer owed, and one that is not told yet is owed. -/
theorem report_iff {d : Diagnostic} {p : Sighting} (found : d.dangling? = some p) :
    (s.report d).Owes u owed ↔ s.Owes u (p :: owed) := by
  have others : (s.report d).others = s.others := by
    simp [Session.others, report, found]
  have dangling : (s.report d).dangling ++ owed = s.dangling ++ p :: owed := by
    simp [Session.dangling, report, found]
  constructor
  · intro owes
    exact ⟨owes.settings, owes.pool, owes.sightings, others.symm.trans owes.others,
      dangling ▸ owes.dangling⟩
  · intro owes
    exact ⟨owes.settings, owes.pool, owes.sightings, others.trans owes.others,
      dangling ▸ owes.dangling⟩

theorem access (owes : s.Owes u owed) (e : Effect) :
    (s.access e).1.Owes (u.apply e) ((s.access e).2.filterMap Effect.owed? ++ owed) := by
  have all := owes.apply e
  rw [← run_access s e] at all
  rcases s.access_owed e with quiet | ⟨d, p, later, found⟩
  · rw [quiet] at all ⊢
    exact all
  · have owed : (Effect.report d).owed? = some p := found
    rw [later] at all ⊢
    rw [List.filterMap_cons_some owed]
    exact (report_iff found).mp all

end Owes

end Session

namespace Turns

variable (t : Turns)

theorem step_of_nil {which : FeedTable} (left : t.left which = []) : t.step which = t := by
  unfold step
  rw [left]

theorem session_step {which : FeedTable} {e : Effect} {rest : List Effect}
    (left : t.left which = e :: rest) : (t.step which).session = (t.session.access e).1 := by
  unfold step
  rw [left]

theorem left_step_self {which : FeedTable} {e : Effect} {rest : List Effect}
    (left : t.left which = e :: rest) :
    (t.step which).left which = (t.session.access e).2 ++ rest := by
  unfold step
  rw [left]
  exact if_pos rfl

theorem left_step_of_ne {which other : FeedTable} (ne : other ≠ which) :
    (t.step which).left other = t.left other := by
  unfold step
  split
  · rfl
  · exact if_neg ne

theorem finish_step (which : FeedTable) : (t.step which).finish which = t.finish which := by
  have others : (fun other => if other = which then [] else (t.step which).left other) =
      fun other => if other = which then [] else t.left other := by
    funext other
    by_cases same : other = which
    · rw [if_pos same, if_pos same]
    · rw [if_neg same, if_neg same, t.left_step_of_ne same]
  have session : (t.step which).session.run ((t.step which).left which) =
      t.session.run (t.left which) := by
    cases left : t.left which with
    | nil => rw [step_of_nil t left, left]
    | cons e rest =>
        rw [t.session_step left, t.left_step_self left, Session.run_append, Session.run_access,
          Session.run_cons]
  unfold finish
  rw [others, session]

theorem exists_finish (which : FeedTable) :
    ∃ turns : List FeedTable, t.finish which = turns.foldl step t := by
  induction left : t.left which generalizing t with
  | nil =>
      refine ⟨[], ?_⟩
      unfold finish
      rw [left]
      congr 1
      funext other
      by_cases same : other = which
      · rw [if_pos same, same, left]
      · rw [if_neg same]
  | cons e rest ih =>
      rcases t.session.access_owed e with quiet | ⟨d, p, later, -⟩
      · have next : (t.step which).left which = rest := by
          rw [t.left_step_self left, quiet, List.nil_append]
        obtain ⟨turns, ends⟩ := ih (t.step which) next
        exact ⟨which :: turns, (t.finish_step which).symm.trans ends⟩
      · -- the report that is owed takes another turn
        have owed : (t.step which).left which = .report d :: rest := by
          rw [t.left_step_self left, later, List.singleton_append]
        have next : ((t.step which).step which).left which = rest := left_step_self _ owed
        obtain ⟨turns, ends⟩ := ih ((t.step which).step which) next
        refine ⟨which :: which :: turns, ?_⟩
        rw [← t.finish_step, ← (t.step which).finish_step]
        exact ends

theorem exists_foldl_finish (tables : List FeedTable) :
    ∃ turns : List FeedTable, tables.foldl finish t = turns.foldl step t := by
  induction tables generalizing t with
  | nil => exact ⟨[], rfl⟩
  | cons which rest ih =>
      obtain ⟨turns, first⟩ := t.exists_finish which
      obtain ⟨later, all⟩ := ih (t.finish which)
      refine ⟨turns ++ later, ?_⟩
      rw [List.foldl_cons, all, first, List.foldl_append]

theorem left_step_of_nil {which : FeedTable} (left : t.left which = []) (other : FeedTable) :
    (t.step other).left which = [] := by
  by_cases same : which = other
  · rw [← same, t.step_of_nil left, left]
  · rw [t.left_step_of_ne same, left]

theorem left_foldl_step_of_nil {which : FeedTable} (left : t.left which = [])
    (schedule : List FeedTable) : (schedule.foldl step t).left which = [] := by
  induction schedule generalizing t with
  | nil => exact left
  | cons first rest ih => exact ih _ (t.left_step_of_nil left first)

theorem left_foldl_finish (tables : List FeedTable) (which : FeedTable) :
    (tables.foldl finish t).left which = if which ∈ tables then [] else t.left which := by
  induction tables generalizing t with
  | nil => rfl
  | cons first rest ih =>
      rw [List.foldl_cons, ih]
      by_cases later : which ∈ rest
      · simp [later]
      · by_cases same : which = first
        · simp [same, finish]
        · simp [later, same, finish]

theorem session_foldl_finish {tables : List FeedTable} (distinct : tables.Nodup) :
    (tables.foldl finish t).session =
      t.session.run (Trace.sequential t.left tables).effects := by
  induction tables generalizing t with
  | nil => rfl
  | cons first rest ih =>
      obtain ⟨absent, distinct⟩ := List.nodup_cons.mp distinct
      have others : Trace.sequential (t.finish first).left rest = Trace.sequential t.left rest := by
        refine List.flatMap_congr fun which listed => ?_
        have ne : which ≠ first := by
          rintro rfl
          exact absent listed
        rw [show (t.finish first).left which = t.left which from if_neg ne]
      rw [List.foldl_cons, ih _ distinct, others, Trace.effects_sequential_cons,
        Session.run_append]
      rfl

theorem left_run {tables : List FeedTable} (outside : ∀ which, which ∉ tables → t.left which = [])
    (schedule : List FeedTable) (which : FeedTable) : (t.run tables schedule).left which = [] := by
  unfold run
  rw [left_foldl_finish]
  split
  · rfl
  · next absent => exact t.left_foldl_step_of_nil (outside which absent) schedule

/-- The dangling references that some table is still to report. -/
def owed : List Sighting :=
  FeedTable.loadOrder.flatMap fun which => (t.left which).filterMap Effect.owed?

/-- A turn pays what is next, if it is owed, and adds what is told later. -/
theorem owed_step {which : FeedTable} {e : Effect} {rest : List Effect}
    (left : t.left which = e :: rest) :
    ((t.step which).owed ++ e.owed?.toList).Perm
      ((t.session.access e).2.filterMap Effect.owed? ++ t.owed) := by
  obtain ⟨before, behind, split⟩ := List.append_of_mem which.mem_loadOrder
  have distinct : (before ++ which :: behind).Nodup := split ▸ FeedTable.nodup_loadOrder
  obtain ⟨-, distinct, apart⟩ := List.nodup_append.mp distinct
  -- the other tables owe what they owed before
  have waits {others : List FeedTable} (absent : which ∉ others) :
      (others.flatMap fun other => ((t.step which).left other).filterMap Effect.owed?) =
        others.flatMap fun other => (t.left other).filterMap Effect.owed? := by
    apply List.flatMap_congr
    intro other member
    have ne : other ≠ which := by
      rintro rfl
      exact absent member
    rw [t.left_step_of_ne ne]
  have first : (e :: rest).filterMap Effect.owed? =
      e.owed?.toList ++ rest.filterMap Effect.owed? := by
    cases owed : e.owed? with
    | none => rw [List.filterMap_cons_none owed, Option.toList_none, List.nil_append]
    | some p => rw [List.filterMap_cons_some owed, Option.toList_some, List.singleton_append]
  unfold owed
  rw [split, List.flatMap_append, List.flatMap_append, List.flatMap_cons, List.flatMap_cons,
    waits fun member => apart _ member _ List.mem_cons_self rfl,
    waits (List.nodup_cons.mp distinct).1, t.left_step_self left, left, first, List.filterMap_append,
    List.perm_iff_count]
  intro p
  simp only [List.count_append]
  omega

/-- Whether the turns so far are a trace of what the tables are to tell, but for what they owe. -/
structure Follows (told : FeedTable → List Effect) (session : Session) (trace : Trace) : Prop where
  own : ∀ which, Trace.tag which (told which) =
    Trace.own which trace ++ Trace.tag which ((t.left which).filter fun e => e.owed?.isNone)
  owes : t.session.Owes (session.run trace.effects) t.owed

namespace Follows

variable {t : Turns} {told : FeedTable → List Effect} {session : Session} {trace : Trace}

theorem step_report (follows : t.Follows told session trace) {which : FeedTable} {d : Diagnostic}
    {rest : List Effect} (left : t.left which = .report d :: rest) {p : Sighting}
    (found : d.dangling? = some p) : (t.step which).Follows told session trace where
  own other := by
    rw [follows.own]
    by_cases same : other = which
    · have owed : (Effect.report d).owed? = some p := found
      have next : (t.step which).left which = rest := t.left_step_self left
      rw [same, left, next, List.filter_cons_of_neg (by simp [owed])]
    · rw [t.left_step_of_ne same]
  owes := by
    have paid : ((t.step which).owed ++ [p]).Perm t.owed := by
      have perm := t.owed_step left
      rwa [show (Effect.report d).owed? = some p from found] at perm
    rw [t.session_step left]
    refine (Session.Owes.report_iff found).mpr (follows.owes.perm ?_)
    exact paid.symm.trans List.perm_append_comm

theorem step_of_none (follows : t.Follows told session trace) {which : FeedTable} {e : Effect}
    {rest : List Effect} (left : t.left which = e :: rest) (plain : e.owed? = none) :
    (t.step which).Follows told session (trace ++ Trace.tag which [e]) where
  own other := by
    rw [follows.own, Trace.own_append, List.append_assoc]
    congr 1
    by_cases same : other = which
    · subst same
      rw [left, t.left_step_self left, List.filter_append, Session.filter_access, List.nil_append,
        List.filter_cons_of_pos (by simp [plain]), Trace.own_tag_self]
      rfl
    · rw [t.left_step_of_ne same, Trace.own_tag_of_ne _ _ (Ne.symm same), List.nil_append]
  owes := by
    have later := t.owed_step left
    rw [plain, Option.toList_none, List.append_nil] at later
    rw [t.session_step left, Trace.effects_append, Trace.effects_tag, Session.run_append]
    exact (follows.owes.access e).perm later.symm

theorem step (follows : t.Follows told session trace) (which : FeedTable) :
    ∃ trace, (t.step which).Follows told session trace := by
  cases left : t.left which with
  | nil => exact ⟨trace, by rwa [step_of_nil t left]⟩
  | cons e rest =>
      cases owed : e.owed? with
      | none => exact ⟨_, follows.step_of_none left owed⟩
      | some p =>
          cases e with
          | report d => exact ⟨trace, follows.step_report left owed⟩
          | log | tell | pass | intern | refer => contradiction

theorem foldl (follows : t.Follows told session trace) (schedule : List FeedTable) :
    ∃ trace, (schedule.foldl Turns.step t).Follows told session trace := by
  induction schedule generalizing t trace with
  | nil => exact ⟨trace, follows⟩
  | cons first rest ih =>
      obtain ⟨trace, next⟩ := follows.step first
      exact ih next

end Follows

/-- When all tables have come to their ends, the session agrees with one that has heard each table
    tell all of its effects in their order. -/
theorem run_agrees {tables : List FeedTable} (outside : ∀ which, which ∉ tables → t.left which = [])
    (plain : ∀ which, ∀ e ∈ t.left which, e.Plain) (schedule : List FeedTable) :
    ∃ trace : Trace, (∀ which, Trace.own which trace = Trace.tag which (t.left which)) ∧
      (t.run tables schedule).session.Agree (t.session.run trace.effects) ∧
      (t.run tables schedule).session.settings = t.session.settings := by
  have nothing : t.owed = [] := by
    refine List.flatMap_eq_nil_iff.mpr fun which _ => List.filterMap_eq_nil_iff.mpr ?_
    exact fun e member => (plain which e member).owed?
  have begun : t.Follows t.left t.session [] :=
    { own := fun which => by
        rw [List.filter_eq_self.mpr fun e member => by rw [(plain which e member).owed?]; rfl]
        rfl
      owes := by
        rw [nothing]
        exact .refl _ }
  obtain ⟨turns, last⟩ := (schedule.foldl step t).exists_foldl_finish tables
  obtain ⟨_, early⟩ := begun.foldl schedule
  obtain ⟨trace, follows⟩ := early.foldl turns
  rw [← last] at follows
  change (t.run tables schedule).Follows _ _ _ at follows
  have ended := t.left_run outside schedule
  have paid : (t.run tables schedule).owed = [] := by
    refine List.flatMap_eq_nil_iff.mpr fun which _ => ?_
    rw [ended, List.filterMap_nil]
  have owes := follows.owes
  rw [paid] at owes
  refine ⟨trace, fun which => ?_, owes.agree, ?_⟩
  · have own := follows.own which
    rw [ended, List.filter_nil] at own
    exact ((List.append_nil _).symm.trans own.symm)
  · rw [owes.settings, Session.settings_run]

end Turns

namespace LoadedFeed

/-- Whether two loads leave the same but for the order in which their tables were heard. -/
structure Alike (a b : LoadedFeed) : Prop where
  feed : a.feed = b.feed
  fault : a.fault = b.fault
  session : a.session.Agree b.session
  settings : a.session.settings = b.session.settings

variable {l m : LoadedFeed}

theorem Alike.refl (l : LoadedFeed) : l.Alike l := ⟨rfl, rfl, .refl _, rfl⟩

theorem Alike.symm (alike : l.Alike m) : m.Alike l :=
  ⟨alike.feed.symm, alike.fault.symm, alike.session.symm, alike.settings.symm⟩

theorem Alike.trans {k : LoadedFeed} (first : l.Alike m) (second : m.Alike k) : l.Alike k :=
  ⟨first.feed.trans second.feed, first.fault.trans second.fault,
    first.session.trans second.session, first.settings.trans second.settings⟩

theorem Alike.stage_error (alike : l.Alike m) (fault : Fault) (tables : List FeedTable) :
    (l.stage (.error fault) tables).Alike (m.stage (.error fault) tables) := by
  have each (tables : List FeedTable) {l m : LoadedFeed} (alike : l.Alike m) :
      (tables.foldl (table (.error fault)) l).Alike (tables.foldl (table (.error fault)) m) := by
    induction tables generalizing l m with
    | nil => exact alike
    | cons which rest ih =>
        refine ih ⟨alike.feed, ?_, alike.session, alike.settings⟩
        unfold table
        rw [alike.fault]
  unfold stage
  rw [alike.fault]
  split
  · exact alike
  · exact each tables alike

theorem stageInTurns_error (fault : Fault) (schedule : List FeedTable) :
    stageInTurns (.error fault) schedule = stage (.error fault) := rfl

theorem left_turns (archive : Archive) {tables : List FeedTable} {which : FeedTable}
    (listed : which ∈ tables) :
    (l.turns archive tables).left which = l.feed.told (.ok archive) which :=
  if_pos listed

theorem left_turns_of_not_mem (archive : Archive) {tables : List FeedTable} {which : FeedTable}
    (absent : which ∉ tables) : (l.turns archive tables).left which = [] :=
  if_neg absent

theorem plain_turns (archive : Archive) (tables : List FeedTable) (which : FeedTable) :
    ∀ e ∈ (l.turns archive tables).left which, e.Plain := by
  by_cases listed : which ∈ tables
  · rw [left_turns archive listed]
    exact fun e member => (l.feed.owned_told (.ok archive) which e member).plain
  · rw [left_turns_of_not_mem archive listed]
    exact List.forall_mem_nil _

theorem stageInTurns_of_fault {fault : Fault} (met : l.fault = some fault)
    (archive : Except Fault Archive) (schedule tables : List FeedTable) :
    l.stageInTurns archive schedule tables = l ∧ l.stage archive tables = l := by
  unfold stageInTurns stage
  rw [met]
  exact ⟨rfl, rfl⟩

theorem stageInTurns_ok (clean : l.fault = none) (archive : Archive)
    (schedule tables : List FeedTable) :
    l.stageInTurns (.ok archive) schedule tables =
      { feed := tables.foldl
          (fun feed which => feed.set which (l.feed.outcome (.ok archive) which).1) l.feed
        session := ((l.turns archive tables).run tables schedule).session
        fault := tables.findSome? fun which => (l.feed.outcome (.ok archive) which).2 } := by
  unfold stageInTurns
  rw [clean]
  rfl

theorem stage_ok (clean : l.fault = none) (archive : Archive) {tables : List FeedTable}
    (known : tables ∈ FeedTable.stages) :
    l.stage (.ok archive) tables =
      { feed := tables.foldl
          (fun feed which => feed.set which (l.feed.outcome (.ok archive) which).1) l.feed
        session := l.session.run (Trace.sequential (l.feed.told (.ok archive)) tables).effects
        fault := tables.findSome? fun which => (l.feed.outcome (.ok archive) which).2 } := by
  obtain ⟨distinct, free⟩ := FeedTable.independent_stages tables known
  unfold stage
  rw [clean, foldl_table_eq (.ok archive) l.feed distinct free l fun _ _ => ⟨rfl, rfl⟩, clean,
    Option.none_or]
  rfl

theorem Alike.stage (alike : l.Alike m) {tables : List FeedTable}
    (known : tables ∈ FeedTable.stages) (archive : Except Fault Archive)
    (schedule : List FeedTable) :
    (l.stageInTurns archive schedule tables).Alike (m.stage archive tables) := by
  cases archive with
  | error fault =>
      rw [stageInTurns_error]
      exact alike.stage_error fault tables
  | ok archive =>
      cases met : l.fault with
      | some fault =>
          rw [(stageInTurns_of_fault met _ schedule tables).1,
            (stageInTurns_of_fault (alike.fault ▸ met) _ schedule tables).2]
          exact alike
      | none =>
          obtain ⟨distinct, -⟩ := FeedTable.independent_stages tables known
          obtain ⟨trace, own, agree, settings⟩ := (l.turns archive tables).run_agrees
            (fun _ => left_turns_of_not_mem archive) (l.plain_turns archive tables) schedule
          rw [stageInTurns_ok met, stage_ok (alike.fault ▸ met) archive known, ← alike.feed]
          refine ⟨rfl, rfl, ?_, settings.trans ?_⟩
          · refine agree.trans (StageRun.agree_of_own l.feed (.ok archive) alike.session ?_ ?_)
            · intro which
              rw [own]
              by_cases listed : which ∈ tables
              · rw [left_turns archive listed, Trace.own_sequential _ distinct listed]
              · rw [left_turns_of_not_mem archive listed,
                  Trace.own_sequential_of_not_mem _ _ listed]
                rfl
            · intro x member
              obtain ⟨which, -, member⟩ := List.mem_flatMap.mp member
              obtain ⟨e, inside, rfl⟩ := List.mem_map.mp member
              exact inside
          · exact alike.settings.trans (Session.settings_run _ _).symm

theorem Alike.foldl_stage (alike : l.Alike m) (archive : Except Fault Archive)
    (schedule : List FeedTable) {stages : List (List FeedTable)}
    (known : stages ⊆ FeedTable.stages) :
    (stages.foldl (stageInTurns archive schedule) l).Alike
      (stages.foldl (LoadedFeed.stage archive) m) := by
  induction stages generalizing l m with
  | nil => exact alike
  | cons tables rest ih =>
      obtain ⟨first, known⟩ := List.cons_subset.mp known
      exact ih (alike.stage first archive schedule) known

/-- The line about a load makes no difference. -/
theorem alike_complete (l : LoadedFeed) : l.complete.Alike l := by
  unfold complete
  split
  · exact .refl l
  · exact ⟨rfl, rfl, ⟨fun _ => rfl, fun _ => Iff.rfl, .rfl, fun _ => rfl, .rfl⟩, rfl⟩

theorem stageInTurns_nil (l : LoadedFeed) (archive : Except Fault Archive) {tables : List FeedTable}
    (known : tables ∈ FeedTable.stages) :
    l.stageInTurns archive [] tables = l.stage archive tables := by
  cases archive with
  | error fault => rw [stageInTurns_error]
  | ok archive =>
      cases met : l.fault with
      | some fault =>
          obtain ⟨left, right⟩ := stageInTurns_of_fault met (.ok archive) [] tables
          rw [left, right]
      | none =>
          obtain ⟨distinct, -⟩ := FeedTable.independent_stages tables known
          have told : Trace.sequential (l.turns archive tables).left tables =
              Trace.sequential (l.feed.told (.ok archive)) tables :=
            List.flatMap_congr fun which listed => by rw [left_turns archive listed]
          have ended : ((l.turns archive tables).run tables []).session =
              l.session.run (Trace.sequential (l.turns archive tables).left tables).effects :=
            (l.turns archive tables).session_foldl_finish distinct
          rw [stageInTurns_ok met, stage_ok met archive known, ended, told]

end LoadedFeed

namespace Feed

variable (f : Feed) (archive : Except Fault Archive) (session : Session)

/-- Whatever turns its tables take, a feed is loaded as it is when one table is loaded after the
    other, and the sessions agree. -/
theorem alike_loadInTurns (schedule : List FeedTable) :
    (f.loadInTurns archive session schedule).Alike (f.load archive session) := by
  unfold loadInTurns
  split
  · have stages := (LoadedFeed.Alike.refl { feed := f, session }).foldl_stage archive schedule
      (List.Subset.refl FeedTable.stages)
    exact (LoadedFeed.alike_complete _).trans (stages.trans (LoadedFeed.alike_complete _).symm)
  · exact .refl _

theorem loadInTurns_nil : f.loadInTurns archive session [] = f.load archive session := by
  unfold loadInTurns
  split
  · refine congrArg LoadedFeed.complete (List.foldl_ext _ _ _ fun l tables known => ?_)
    exact l.stageInTurns_nil archive known
  · rfl

theorem loadInTurns_error (fault : Fault) (schedule : List FeedTable) :
    f.loadInTurns (.error fault) session schedule = f.load (.error fault) session := by
  unfold loadInTurns
  rw [LoadedFeed.stageInTurns_error]
  split <;> rfl

theorem loadInTurns_of_sequential (sequential : session.settings.parallel = false)
    (schedule : List FeedTable) :
    f.loadInTurns archive session schedule = f.load archive session := by
  unfold loadInTurns
  rw [sequential]
  rfl

end Feed

end TransitFeed

import TransitFeed.Feed.Load
import TransitFeed.Proofs.Load.Effects

/-! # What the load of a feed does

The tables of a feed are filled one after the other. A load that ends without a fault has filled
all of them in the order of the stages, and the session has run the effects of all of them.
-/

namespace TransitFeed

namespace Feed

def fill (archive : Archive) (f : Feed) (which : FeedTable) : Feed :=
  f.set which ((f.schema which).loadTable archive (f.get which))

/-- What the session is told while tables are loaded. -/
def fillEffects (archive : Archive) (f : Feed) : List FeedTable → List Effect
  | [] => []
  | which :: rest =>
    (f.schema which).loadEffects archive (f.get which) ++ (f.fill archive which).fillEffects archive rest

def fillFault (archive : Archive) (f : Feed) : List FeedTable → Option Fault
  | [] => none
  | which :: rest =>
    ((f.schema which).loadFault archive (f.get which)).or ((f.fill archive which).fillFault archive rest)

theorem get_fill_self (archive : Archive) (f : Feed) (which : FeedTable) :
    (f.fill archive which).get which = (f.schema which).loadTable archive (f.get which) :=
  get_set_self _ _ _

theorem get_fill_of_ne (archive : Archive) (f : Feed) {which other : FeedTable}
    (h : which ≠ other) : (f.fill archive which).get other = f.get other :=
  get_set_of_ne f _ h

theorem get_foldl_fill (archive : Archive) (f : Feed) {tables : List FeedTable} {other : FeedTable}
    (h : other ∉ tables) : (tables.foldl (fill archive) f).get other = f.get other := by
  induction tables generalizing f with
  | nil => rfl
  | cons which rest ih =>
      rw [List.mem_cons, not_or] at h
      rw [List.foldl_cons, ih _ h.2, get_fill_of_ne archive f (Ne.symm h.1)]

end Feed

namespace LoadedFeed

variable (archive : Archive) (l : LoadedFeed)

theorem table_ok (which : FeedTable) :
    l.table (.ok archive) which =
      { feed := l.feed.fill archive which
        session := l.session.run ((l.feed.schema which).loadEffects archive (l.feed.get which))
        fault := l.fault.or ((l.feed.schema which).loadFault archive (l.feed.get which)) } := by
  simp only [table, Schema.load_eq]
  rfl

theorem foldl_table_ok (tables : List FeedTable) :
    tables.foldl (table (.ok archive)) l =
      { feed := tables.foldl (Feed.fill archive) l.feed
        session := l.session.run (l.feed.fillEffects archive tables)
        fault := l.fault.or (l.feed.fillFault archive tables) } := by
  induction tables generalizing l with
  | nil => simp [Feed.fillEffects, Feed.fillFault]
  | cons which rest ih =>
      rw [List.foldl_cons, ih, table_ok]
      simp only [Feed.fillEffects, Feed.fillFault, Session.run_append, Option.or_assoc,
        List.foldl_cons]

theorem fault_foldl_table {archive : Except Fault Archive} {l : LoadedFeed} {fault : Fault}
    (met : l.fault = some fault) (tables : List FeedTable) :
    (tables.foldl (table archive) l).fault = some fault := by
  induction tables generalizing l with
  | nil => exact met
  | cons which rest ih =>
      refine ih ?_
      cases archive with
      | error _ => simp [table, met]
      | ok archive => simp [table, met]

theorem foldl_stage_of_fault {archive : Except Fault Archive} {l : LoadedFeed} {fault : Fault}
    (met : l.fault = some fault) (stages : List (List FeedTable)) :
    stages.foldl (stage archive) l = l := by
  induction stages with
  | nil => rfl
  | cons tables rest ih =>
      have same : l.stage archive tables = l := by simp [stage, met]
      rw [List.foldl_cons, same, ih]

/-- Stages that meet no fault load their tables one after the other. -/
theorem foldl_stage_of_clean {archive : Except Fault Archive} {l : LoadedFeed}
    {stages : List (List FeedTable)}
    (clean : (stages.foldl (stage archive) l).fault = none) :
    stages.foldl (stage archive) l = stages.flatten.foldl (table archive) l := by
  induction stages generalizing l with
  | nil => rfl
  | cons tables rest ih =>
      cases met : l.fault with
      | some fault =>
          rw [foldl_stage_of_fault met, met] at clean
          contradiction
      | none =>
          have begun : l.stage archive tables = tables.foldl (table archive) l := by
            simp [stage, met]
          rw [List.foldl_cons, begun] at clean ⊢
          rw [List.flatten_cons, List.foldl_append, ih clean]

theorem foldl_stage_of_clean_tables {archive : Except Fault Archive} {l : LoadedFeed}
    {stages : List (List FeedTable)}
    (clean : (stages.flatten.foldl (table archive) l).fault = none) :
    stages.foldl (stage archive) l = stages.flatten.foldl (table archive) l := by
  induction stages generalizing l with
  | nil => rfl
  | cons tables rest ih =>
      rw [List.flatten_cons, List.foldl_append] at clean ⊢
      cases met : l.fault with
      | some fault =>
          rw [fault_foldl_table (fault_foldl_table met tables) rest.flatten] at clean
          contradiction
      | none =>
          have begun : l.stage archive tables = tables.foldl (table archive) l := by
            simp [stage, met]
          rw [List.foldl_cons, begun, ih clean]

@[simp] theorem feed_complete (l : LoadedFeed) : l.complete.feed = l.feed := by
  unfold complete
  split <;> rfl

@[simp] theorem fault_complete (l : LoadedFeed) : l.complete.fault = l.fault := by
  unfold complete
  split <;> rfl

theorem session_complete {l : LoadedFeed} (clean : l.fault = none) :
    ∃ line, l.complete.session = l.session.apply (.log .info line) := by
  unfold complete
  rw [clean]
  exact ⟨_, rfl⟩

end LoadedFeed

theorem FeedTable.name_injective {a b : FeedTable} (h : a.name = b.name) : a = b := by
  cases a <;> cases b <;> first | rfl | exact absurd h (by decide)

def FeedTable.loadOrder : List FeedTable := FeedTable.stages.flatten

theorem FeedTable.mem_loadOrder (which : FeedTable) : which ∈ loadOrder := by
  cases which <;> decide

theorem FeedTable.nodup_loadOrder : loadOrder.Nodup := by decide

namespace Feed

variable {f : Feed} {archive : Except Fault Archive} {session : Session}

/-- What a load without a fault leaves. -/
theorem load_of_clean (clean : (f.load archive session).fault = none) :
    ∃ opened, archive = .ok opened ∧
      (f.load archive session).feed = FeedTable.loadOrder.foldl (fill opened) f ∧
      f.fillFault opened FeedTable.loadOrder = none ∧
      ∃ line, (f.load archive session).session =
        session.run (f.fillEffects opened FeedTable.loadOrder ++ [.log .info line]) := by
  rw [Feed.load, LoadedFeed.fault_complete] at clean
  have loaded := LoadedFeed.foldl_stage_of_clean clean
  change _ = FeedTable.loadOrder.foldl _ _ at loaded
  cases archive with
  | error fault =>
      rw [loaded] at clean
      have met : (FeedTable.loadOrder.foldl (LoadedFeed.table (.error fault))
          { feed := f, session }).fault = some fault :=
        LoadedFeed.fault_foldl_table (l := LoadedFeed.table (.error fault)
          { feed := f, session } .agency) rfl (FeedTable.loadOrder.tail)
      rw [met] at clean
      contradiction
  | ok opened =>
      rw [LoadedFeed.foldl_table_ok] at loaded
      refine ⟨opened, rfl, ?_, ?_, ?_⟩
      · rw [Feed.load, LoadedFeed.feed_complete, loaded]
      · rw [loaded] at clean
        simpa using clean
      · obtain ⟨line, ended⟩ := LoadedFeed.session_complete clean
        refine ⟨line, ?_⟩
        rw [Feed.load, ended, loaded, Session.run_append]
        rfl

end Feed

end TransitFeed

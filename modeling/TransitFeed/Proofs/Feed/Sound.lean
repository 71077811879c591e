import TransitFeed.Proofs.Feed.Effects
import TransitFeed.Proofs.Table.Order
import TransitFeed.Proofs.Table.Values

/-! # Feeds that loads build

Whatever loads put into a feed, every record is under its own key and has a value for each column
that the column can keep. It does not matter which archives were read, where their faults were and
what the tables were that the references went to.
-/

namespace TransitFeed

namespace Table

/-- Whether every record is under its own key and has values that its columns can keep. -/
def Sound (which : FeedTable) (t : Table) : Prop :=
  ∀ key record, t.get? key = some record →
    which.form.key? record.values = some key ∧ which.form.Keeps record.values

theorem sound_empty (which : FeedTable) (name : String) : Sound which ⟨name, ∅⟩ := by
  intro key record found
  rw [get?_empty] at found
  contradiction

variable {which : FeedTable} {t : Table}

theorem Sound.insert (sound : t.Sound which) {key : Key} {record : Record}
    (own : which.form.key? record.values = some key) (kept : which.form.Keeps record.values) :
    (t.insert key record).Sound which := by
  intro other held found
  rw [get?_insert] at found
  split at found
  · next same =>
      cases found
      exact ⟨same ▸ own, kept⟩
  · exact sound other held found

end Table

section

variable {which : FeedTable}

theorem Notes.sound_step (targets : Feed) (header cells : Csv.Record) {n : Notes}
    (sound : n.table.Sound which) :
    (n.step (targets.schema which) (Field.layout (targets.schema which) header) cells).table.Sound
      which := by
  rw [step_table, FeedTable.rowValues_schema, FeedTable.key?_schema]
  split
  · exact sound
  · next key own => exact sound.insert own (Schema.keeps_rowValues _ header cells)

theorem Notes.sound_rows (targets : Feed) (header : Csv.Record) (records : List Csv.Record)
    {n : Notes} (sound : n.table.Sound which) :
    (n.rows (targets.schema which) (Field.layout (targets.schema which) header)
      records).table.Sound which := by
  induction records generalizing n with
  | nil => exact sound
  | cons cells rest ih => exact ih (sound_step targets header cells sound)

theorem Schema.sound_loadTable (targets : Feed) (archive : Archive) {t : Table}
    (sound : t.Sound which) : ((targets.schema which).loadTable archive t).Sound which := by
  unfold loadTable
  split
  · exact sound
  · exact Notes.sound_rows targets _ _ sound

end

namespace Feed

def Sound (f : Feed) : Prop := ∀ which, (f.get which).Sound which

theorem sound_empty : Sound {} := by
  intro which
  cases which <;> exact Table.sound_empty _ _

end Feed

/-- Whether what holds of tables holds of them after any load. -/
def KeptByLoads (Holds : FeedTable → Table → Prop) : Prop :=
  ∀ (which : FeedTable) (targets : Feed) (archive : Archive) (session : Session) {t : Table},
    Holds which t → Holds which ((targets.schema which).load archive t session).table

theorem Table.sound_keptByLoads : KeptByLoads fun which t => t.Sound which := by
  intro which targets archive session t sound
  rw [Schema.load_eq]
  exact Schema.sound_loadTable targets archive sound

theorem Feed.forall_set {Holds : FeedTable → Table → Prop} {f : Feed}
    (all : ∀ which, Holds which (f.get which)) {which : FeedTable} {t : Table}
    (changed : Holds which t) : ∀ other, Holds other ((f.set which t).get other) := by
  intro other
  by_cases same : which = other
  · subst same
    rwa [get_set_self]
  · rw [get_set_of_ne f t same]
    exact all other

namespace KeptByLoads

variable {Holds : FeedTable → Table → Prop} (kept : KeptByLoads Holds)
  {archive : Except Fault Archive} {l : LoadedFeed}

include kept

theorem table (all : ∀ which, Holds which (l.feed.get which)) (which : FeedTable) :
    ∀ other, Holds other ((l.table archive which).feed.get other) := by
  cases archive with
  | error fault => exact all
  | ok archive => exact Feed.forall_set all (kept which l.feed archive l.session (all which))

theorem stage (all : ∀ which, Holds which (l.feed.get which)) (tables : List FeedTable) :
    ∀ other, Holds other ((l.stage archive tables).feed.get other) := by
  have each (tables : List FeedTable) {l : LoadedFeed}
      (all : ∀ which, Holds which (l.feed.get which)) :
      ∀ other, Holds other ((tables.foldl (LoadedFeed.table archive) l).feed.get other) := by
    induction tables generalizing l with
    | nil => exact all
    | cons which rest ih => exact ih (kept.table all which)
  unfold LoadedFeed.stage
  split
  · exact all
  · exact each tables all

theorem load {f : Feed} (all : ∀ which, Holds which (f.get which))
    (archive : Except Fault Archive) (session : Session) :
    ∀ which, Holds which ((f.load archive session).feed.get which) := by
  have stages (tables : List (List FeedTable)) {l : LoadedFeed}
      (all : ∀ which, Holds which (l.feed.get which)) :
      ∀ other, Holds other ((tables.foldl (LoadedFeed.stage archive) l).feed.get other) := by
    induction tables generalizing l with
    | nil => exact all
    | cons tables rest ih => exact ih (kept.stage all tables)
  rw [Feed.load, LoadedFeed.feed_complete]
  exact stages FeedTable.stages all

end KeptByLoads

namespace Feed

theorem Sound.load {f : Feed} (sound : f.Sound) (archive : Except Fault Archive)
    (session : Session) : (f.load archive session).feed.Sound :=
  Table.sound_keptByLoads.load sound archive session

/-- The feeds that loads make of the empty feed. A table may also be loaded alone, into what it has
    or into nothing, and with references to the tables of any feed. -/
inductive Reachable : Feed → Prop where
  | empty : Reachable {}
  | load {f : Feed} (archive : Except Fault Archive) (session : Session) (before : Reachable f) :
      Reachable (f.load archive session).feed
  | loadTable {f : Feed} (which : FeedTable) (targets : Feed) (archive : Archive)
      (session : Session) (before : Reachable f) :
      Reachable (f.set which
        ((targets.schema which).load archive (f.get which) session).table)
  | replaceTable {f : Feed} (which : FeedTable) (targets : Feed) (archive : Archive)
      (session : Session) (before : Reachable f) :
      Reachable (f.set which
        ((targets.schema which).load archive ⟨which.name, ∅⟩ session).table)

/-- What holds of empty tables and is kept by loads holds of every table of such a feed. -/
theorem Reachable.forall_get {Holds : FeedTable → Table → Prop} (kept : KeptByLoads Holds)
    (empty : ∀ which, Holds which ⟨which.name, ∅⟩) {f : Feed} (reachable : Reachable f) :
    ∀ which, Holds which (f.get which) := by
  induction reachable with
  | empty =>
      intro which
      cases which <;> exact empty _
  | load archive session _ all => exact kept.load all archive session
  | loadTable which targets archive session _ all =>
      exact forall_set all (kept which targets archive session (all which))
  | replaceTable which targets archive session _ all =>
      exact forall_set all (kept which targets archive session (empty which))

theorem Reachable.sound {f : Feed} (reachable : Reachable f) : f.Sound :=
  reachable.forall_get Table.sound_keptByLoads fun which => Table.sound_empty which which.name

end Feed

end TransitFeed

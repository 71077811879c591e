import TransitFeed.Proofs.Feed.ReadBack

/-! # Writing a feed and loading it again

Every feed that loads make of the empty feed is written without a fault, and what was written is
loaded without a fault. Each table has the same keys again, and under each key a record with the
same values. Decimals are rounded to seven places, and the two columns with a default read a missing
number as it.
-/

namespace TransitFeed

namespace FeedTable

/-- Whether an empty cell of a column of numbers stands for zero. -/
def isZeroByDefault (which : FeedTable) (column : String) : Bool :=
  match which with
  | .stops => column = "location_type"
  | .frequencies => column = "exact_times"
  | _ => false

/-- How a value of a column and the value that is read back are related. -/
def ReadsBack (which : FeedTable) (column : String) : Value → Value → Prop
  | .decimal before, .decimal after => before.Near after
  | .whole before, .whole after =>
    after = if before = Cell.Whole.missing ∧ which.isZeroByDefault column then 0 else before
  | before, after => before = after

/-- Whether two records have a value for each column, and the second the one that is read back. -/
def SameRecord (which : FeedTable) (before after : List Value) : Prop :=
  before.length = which.form.columnNames.length ∧ after.length = which.form.columnNames.length ∧
    ∀ (i : Nat) (column : String) (v w : Value), which.form.columnNames[i]? = some column →
      before[i]? = some v → after[i]? = some w → which.ReadsBack column v w

theorem fallback_eq (which : FeedTable) : ∀ column ∈ which.form.columns,
    column.kind.fallback =
      if which.isZeroByDefault column.name then 0 else Cell.Whole.missing := by
  cases which <;> decide

theorem readsBack_reread {which : FeedTable} {column : Column}
    (inside : column ∈ which.form.columns) {v : Value} (kept : column.kind.Keeps v) :
    which.ReadsBack column.name v (column.kind.reread v) := by
  cases v with
  | text | clock | day | link => rfl
  | whole n =>
      simp only [ReadsBack, ColumnKind.reread, which.fallback_eq column inside]
      by_cases missing : n = Cell.Whole.missing
      · subst missing
        simp
      · simp [missing]
  | decimal d =>
      cases kind : column.kind with
      | decimal range =>
          rw [kind] at kept
          exact Double.near_reread kept
      | text | whole | clock | day | link | reference =>
          rw [kind] at kept
          exact kept.elim

theorem sameRecord_reread {which : FeedTable} {values : List Value}
    (kept : which.form.Keeps values) : which.SameRecord values (which.form.reread values) := by
  have count : which.form.columns.length = values.length := kept.length_eq
  refine ⟨?_, ?_, ?_⟩
  · rw [Schema.columnNames, List.length_map, count]
  · rw [Schema.columnNames, List.length_map, Schema.reread, List.length_zipWith, count,
      Nat.min_self]
  · intro i name v w named before after
    obtain ⟨inNames, rfl⟩ := List.getElem?_eq_some_iff.mp named
    obtain ⟨inValues, rfl⟩ := List.getElem?_eq_some_iff.mp before
    obtain ⟨inBack, rfl⟩ := List.getElem?_eq_some_iff.mp after
    have inColumns : i < which.form.columns.length := count ▸ inValues
    simp only [Schema.columnNames, List.getElem_map, Schema.reread, List.getElem_zipWith]
    exact readsBack_reread (List.getElem_mem inColumns) (kept.get inColumns inValues)

end FeedTable

namespace Feed

variable {f : Feed} (sound : f.Sound) (writing reading : Session)

include sound in
/-- The records of the copy are those that were written, numbered in the order of their rows. -/
theorem get?_copy (which : FeedTable) (key : Key) (back : Record) :
    ((f.copy writing reading).feed.get which).get? key = some back ↔
      ∃ i record, (f.get which).byRow[i]? = some (key, record) ∧
        back = ⟨i + 1, which.form.reread record.values⟩ := by
  rw [← Table.mem_byRow, byRow_copy sound, List.mem_mapIdx]
  constructor
  · rintro ⟨i, within, same⟩
    obtain ⟨rfl, rfl⟩ := Prod.mk.inj same
    have inRows : i < (f.get which).byRow.length := by
      simpa [Table.rereadEntries] using within
    refine ⟨i, (f.get which).byRow[i].2, ?_, ?_⟩
    · simp [Table.rereadEntries]
    · simp [Table.rereadEntries]
  · rintro ⟨i, record, at_i, rfl⟩
    obtain ⟨within, same⟩ := List.getElem?_eq_some_iff.mp at_i
    have inEntries : i < ((f.get which).rereadEntries which).length := by
      simpa [Table.rereadEntries] using within
    exact ⟨i, inEntries, by simp [Table.rereadEntries, same]⟩

/-- What loads have made is written and loaded again without a fault, and every table gives back its
    keys and its records. A record gets the number of its place in the written table. -/
theorem Reachable.copy_records (reachable : f.Reachable) (writing reading : Session) :
    (f.write [] writing).fault = none ∧
      (f.copy writing reading).fault = none ∧
        ∀ which,
          ((f.copy writing reading).feed.get which).keys = (f.get which).keys ∧
            ∀ key record, (f.get which).get? key = some record →
              ∃ i back, (f.get which).byRow[i]? = some (key, record) ∧
                ((f.copy writing reading).feed.get which).get? key = some back ∧
                  back.row = i + 1 ∧ which.SameRecord record.values back.values := by
  have sound := reachable.sound
  refine ⟨(write_of_sound sound writing).1, fault_copy sound writing reading, ?_⟩
  intro which
  have back {key : Key} {record : Record} (found : (f.get which).get? key = some record) :
      ∃ i, (f.get which).byRow[i]? = some (key, record) ∧
        ((f.copy writing reading).feed.get which).get? key =
          some ⟨i + 1, which.form.reread record.values⟩ := by
    obtain ⟨i, at_i⟩ := List.mem_iff_getElem?.mp ((Table.mem_byRow _ key record).mpr found)
    exact ⟨i, at_i, (get?_copy sound writing reading which key _).mpr ⟨i, record, at_i, rfl⟩⟩
  constructor
  · apply Table.keys_eq_of_mem
    intro key
    rw [Table.mem_keys, Table.mem_keys]
    constructor
    · rintro ⟨held, found⟩
      obtain ⟨i, record, at_i, -⟩ := (get?_copy sound writing reading which key held).mp found
      exact ⟨record, (Table.mem_byRow _ key record).mp (List.mem_of_getElem? at_i)⟩
    · rintro ⟨record, found⟩
      obtain ⟨i, -, again⟩ := back found
      exact ⟨_, again⟩
  · intro key record found
    obtain ⟨i, at_i, again⟩ := back found
    exact ⟨i, _, at_i, again, rfl, FeedTable.sameRecord_reread (sound which key record found).2⟩

/-- Two stops, the first of which has a location type that is no number. -/
def malformedStops : Archive :=
  [{ name := "stops.txt", content := Utf8.encode "stop_id,location_type\nS1,x\nS2,2\n" }]

/-- Both stops are found again. -/
theorem copy_records_stops :
    ((({} : Feed).load (.ok malformedStops) {}).feed.copy {} {}).fault = none ∧
      (((({} : Feed).load (.ok malformedStops) {}).feed.copy {} {}).feed.get .stops).keys =
        [.name "S1", .name "S2"] := by
  have keys : ((({} : Feed).load (.ok malformedStops) {}).feed.get .stops).keys =
      [.name "S1", .name "S2"] := by
    decide +kernel
  have reachable : (({} : Feed).load (.ok malformedStops) {}).feed.Reachable := .load _ _ .empty
  obtain ⟨-, clean, tables⟩ := Reachable.copy_records reachable {} {}
  exact ⟨clean, (tables .stops).1.trans keys⟩

end Feed

end TransitFeed

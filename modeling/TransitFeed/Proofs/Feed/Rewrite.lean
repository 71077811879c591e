import TransitFeed.Proofs.Feed.RoundTrip

/-! # Writing what was written

A feed that was loaded from what was written of another one is written like it, but for two columns:
where `location_type` and `exact_times` were left empty, there is a zero. The second time nothing
changes any more.
-/

namespace TransitFeed

namespace FeedTable

/-- A row with a zero in each empty cell that stands for one. -/
def refilled (which : FeedTable) (cells : List String) : List String :=
  List.zipWith (fun column cell => if cell = "" ∧ which.isZeroByDefault column then "0" else cell)
    which.form.columnNames cells

/-- Whether a record has no number in a column where an empty cell stands for zero. -/
def Lacks (which : FeedTable) (values : List Value) : Prop :=
  ∃ (i : Nat) (column : String), which.form.columnNames[i]? = some column ∧
    which.isZeroByDefault column = true ∧ values[i]? = some (.whole Cell.Whole.missing)

theorem whole_of_isZeroByDefault {which : FeedTable} {column : Column}
    (inside : column ∈ which.form.columns) (fills : which.isZeroByDefault column.name = true)
    {v : Value} (kept : column.kind.Keeps v) : ∃ n, v = .whole n := by
  have zero : column.kind.fallback = 0 := by
    rw [which.fallback_eq column inside, if_pos fills]
  have nonzero : Cell.Whole.missing ≠ 0 := by decide
  cases kind : column.kind with
  | whole range fallback =>
      rw [kind] at kept
      cases v with
      | whole n => exact ⟨n, rfl⟩
      | text | clock | decimal | day | link => exact kept.elim
  | text | decimal | clock | day | link | reference =>
      rw [kind] at zero
      exact absurd zero nonzero

/-- What is read back of a value is written like the value, or as the zero that it stands for. -/
theorem cell_reread {which : FeedTable} {column : Column} (inside : column ∈ which.form.columns)
    {v : Value} (kept : column.kind.Keeps v) :
    (column.kind.reread v).cell =
      if v.cell = "" ∧ which.isZeroByDefault column.name then "0" else v.cell := by
  have zero : Cell.Whole.text 0 = "0" := by decide
  cases fills : which.isZeroByDefault column.name with
  | true =>
      obtain ⟨n, rfl⟩ := whole_of_isZeroByDefault inside fills kept
      by_cases missing : n = Cell.Whole.missing
      · subst missing
        simp only [ColumnKind.reread, if_true, which.fallback_eq column inside, fills, Value.cell,
          Cell.Whole.text_missing, and_self, zero]
      · have full := Cell.Whole.text_ne_empty missing
        simp only [ColumnKind.reread, missing, if_false, Value.cell, full, false_and]
  | false =>
      have plain : column.kind.fallback = Cell.Whole.missing := by
        rw [which.fallback_eq column inside, fills]
        rfl
      simp only [Bool.false_eq_true, and_false, if_false]
      cases v with
      | whole n =>
          by_cases missing : n = Cell.Whole.missing
          · simp only [ColumnKind.reread, plain, missing, if_true]
          · simp only [ColumnKind.reread, missing, if_false]
      | decimal d => exact Cell.Fractional.text_reread d
      | text | clock | day | link => rfl

theorem cells_reread {which : FeedTable} {values : List Value} (kept : which.form.Keeps values) :
    (which.form.reread values).map Value.cell = which.refilled (values.map Value.cell) := by
  have count : which.form.columns.length = values.length := kept.length_eq
  refine List.ext_getElem ?_ ?_
  · simp [Schema.reread, refilled, Schema.columnNames]
  · intro i within _
    have inColumns : i < which.form.columns.length := by
      simp only [Schema.reread, List.length_map, List.length_zipWith] at within
      omega
    have inValues : i < values.length := count ▸ inColumns
    simp only [Schema.reread, refilled, Schema.columnNames, List.getElem_map,
      List.getElem_zipWith]
    exact cell_reread (List.getElem_mem inColumns) (kept.get inColumns inValues)

theorem refilled_eq_self {which : FeedTable} {values : List Value}
    (kept : which.form.Keeps values) :
    which.refilled (values.map Value.cell) = values.map Value.cell ↔ ¬ which.Lacks values := by
  have count : which.form.columns.length = values.length := kept.length_eq
  constructor
  · rintro same ⟨i, column, named, fills, lacking⟩
    have cells := congrArg (fun cells => cells[i]?) same
    simp only [refilled, List.getElem?_zipWith, named, List.getElem?_map, lacking, Option.map_some,
      Value.cell, Cell.Whole.text_missing, fills, and_self, if_true, Option.some.injEq] at cells
    exact absurd cells (by decide)
  · intro complete
    refine List.ext_getElem ?_ ?_
    · simp [refilled, Schema.columnNames, count]
    · intro i _ within
      have inValues : i < values.length := by simpa using within
      have inColumns : i < which.form.columns.length := count ▸ inValues
      have inside : which.form.columns[i] ∈ which.form.columns := List.getElem_mem inColumns
      simp only [refilled, Schema.columnNames, List.getElem_zipWith, List.getElem_map]
      refine if_neg ?_
      rintro ⟨blank, fills⟩
      obtain ⟨n, whole⟩ := whole_of_isZeroByDefault inside fills (kept.get inColumns inValues)
      change values[i] = .whole n at whole
      rw [whole] at blank
      have missing : n = Cell.Whole.missing := by
        by_contra present
        exact Cell.Whole.text_ne_empty present blank
      refine complete ⟨i, which.form.columns[i].name, ?_, fills, ?_⟩
      · simp [Schema.columnNames, inColumns]
      · rw [List.getElem?_eq_getElem inValues, whole, missing]

theorem not_lacks_reread {which : FeedTable} {values : List Value}
    (kept : which.form.Keeps values) : ¬ which.Lacks (which.form.reread values) := by
  rintro ⟨i, name, named, fills, lacking⟩
  obtain ⟨inNames, rfl⟩ := List.getElem?_eq_some_iff.mp named
  obtain ⟨inBack, lacking⟩ := List.getElem?_eq_some_iff.mp lacking
  have count : which.form.columns.length = values.length := kept.length_eq
  have inColumns : i < which.form.columns.length := by
    simpa [Schema.columnNames] using inNames
  have inValues : i < values.length := count ▸ inColumns
  have inside : which.form.columns[i] ∈ which.form.columns := List.getElem_mem inColumns
  simp only [Schema.columnNames, List.getElem_map] at fills
  obtain ⟨n, whole⟩ := whole_of_isZeroByDefault inside fills (kept.get inColumns inValues)
  change values[i] = .whole n at whole
  simp only [Schema.reread, List.getElem_zipWith, whole, ColumnKind.reread, Value.whole.injEq,
    which.fallback_eq _ inside, fills, if_true] at lacking
  split at lacking
  · exact absurd lacking (by decide)
  · contradiction

end FeedTable

namespace Csv

theorem lines_injective {a b : List (List String)} (ha : ∀ cells ∈ a, cells ≠ [])
    (hb : ∀ cells ∈ b, cells ≠ []) (same : lines a = lines b) : a = b := by
  have first := foldl_lines ha []
  have second := foldl_lines hb []
  rw [← encode_lines, same, encode_lines, second] at first
  have records := congrArg Reader.records first
  simp only [List.append_nil, List.reverse_inj] at records
  have injective : Function.Injective (List.map Utf8.encode) :=
    List.map_injective_iff.mpr fun _ _ => Utf8.encode_injective
  exact (List.map_injective_iff.mpr injective records).symm

end Csv

/-- Whether the second entry is the first one with a zero in each empty cell that stands for one. -/
def Sheet.Refilled (before after : Sheet) : Prop :=
  ∃ (which : FeedTable) (rows : List (List String)),
    before = ⟨which.name ++ ".txt", Csv.lines (which.form.columnNames :: rows)⟩ ∧
      after = ⟨which.name ++ ".txt",
        Csv.lines (which.form.columnNames :: rows.map which.refilled)⟩

namespace Feed

variable {f : Feed} (sound : f.Sound) (writing reading : Session)

/-- Whether no record has no number in a column where an empty cell stands for zero. -/
def Complete (f : Feed) : Prop :=
  ∀ which key record, (f.get which).get? key = some record → ¬ which.Lacks record.values

theorem copy_sound : (f.copy writing reading).feed.Sound := sound_empty.load _ _

include sound in
theorem linesOf_copy (which : FeedTable) :
    (f.copy writing reading).feed.linesOf which = which.form.columnNames ::
      ((f.get which).byRow.map fun entry => entry.2.values.map Value.cell).map which.refilled := by
  have values : ((f.copy writing reading).feed.get which).byRow.map (fun entry => entry.2.values) =
      (f.get which).byRow.map fun entry => which.form.reread entry.2.values := by
    rw [byRow_copy sound]
    refine List.ext_getElem ?_ ?_
    · simp [Table.rereadEntries]
    · intro i _ _
      simp [Table.rereadEntries]
  have cells := congrArg (List.map (List.map Value.cell)) values
  rw [List.map_map, List.map_map] at cells
  unfold linesOf
  refine congrArg (which.form.columnNames :: ·) (cells.trans ?_)
  rw [List.map_map, List.map_inj_left]
  rintro ⟨key, record⟩ member
  exact FeedTable.cells_reread (sound which key record ((Table.mem_byRow _ key record).mp member)).2

include sound in
theorem isWritten_copy (settings : Settings) (which : FeedTable) :
    (f.copy writing reading).feed.isWritten settings which = f.isWritten settings which := by
  have same : ((f.copy writing reading).feed.get which).isEmpty = (f.get which).isEmpty := by
    rw [Bool.eq_iff_iff, Table.isEmpty_iff, Table.isEmpty_iff, byRow_copy sound]
    simp [Table.rereadEntries]
  rw [isWritten, isWritten, same]

include sound in
theorem complete_copy : (f.copy writing reading).feed.Complete := by
  intro which key back found
  obtain ⟨i, record, at_i, rfl⟩ := (get?_copy sound writing reading which key back).mp found
  exact FeedTable.not_lacks_reread
    (sound which key record ((Table.mem_byRow _ key record).mp (List.mem_of_getElem? at_i))).2

include sound in
theorem refilled_sheets (settings : Settings) (tables : List FeedTable) :
    List.Forall₂ Sheet.Refilled (f.sheets settings tables)
      ((f.copy writing reading).feed.sheets settings tables) := by
  unfold sheets
  rw [funext (isWritten_copy sound writing reading settings), List.forall₂_map_left_iff,
    List.forall₂_map_right_iff, List.forall₂_same]
  intro which _
  refine ⟨which, (f.get which).byRow.map fun entry => entry.2.values.map Value.cell, ?_, ?_⟩
  · rw [sheet, linesOf]
  · rw [sheet, linesOf_copy sound]

include sound in
theorem sheet_copy (which : FeedTable) :
    (f.copy writing reading).feed.sheet which = f.sheet which ↔
      ∀ key record, (f.get which).get? key = some record → ¬ which.Lacks record.values := by
  have kept {key : Key} {record : Record} (member : (key, record) ∈ (f.get which).byRow) :
      which.form.Keeps record.values :=
    (sound which key record ((Table.mem_byRow _ key record).mp member)).2
  have texts : (f.copy writing reading).feed.sheet which = f.sheet which ↔
      (f.copy writing reading).feed.linesOf which = f.linesOf which := by
    constructor
    · intro same
      exact Csv.lines_injective (linesOf_ne_nil (copy_sound writing reading which))
        (linesOf_ne_nil (sound which)) (congrArg Sheet.text same)
    · intro same
      rw [sheet, sheet, same]
  rw [texts, linesOf_copy sound, linesOf, List.cons_inj_right, List.map_map, List.map_inj_left]
  constructor
  · intro same key record found
    have member := (Table.mem_byRow _ key record).mpr found
    exact (FeedTable.refilled_eq_self (kept member)).mp (same (key, record) member)
  · rintro complete ⟨key, record⟩ member
    exact (FeedTable.refilled_eq_self (kept member)).mpr
      (complete key record ((Table.mem_byRow _ key record).mp member))

theorem isWritten_of_get? {which : FeedTable} {key : Key} {record : Record}
    (found : (f.get which).get? key = some record) (settings : Settings) :
    f.isWritten settings which = true := by
  have full : (f.get which).isEmpty = false := by
    rw [Bool.eq_false_iff, Ne, Table.isEmpty_iff]
    intro nothing
    have member := (Table.mem_byRow _ key record).mpr found
    rw [nothing] at member
    contradiction
  rw [isWritten, full]
  rfl

include sound in
/-- The entries of a feed stay the same if and only if the feed lacks no number. -/
theorem sheets_copy (settings : Settings) :
    (f.copy writing reading).feed.sheets settings FeedTable.all =
      f.sheets settings FeedTable.all ↔ f.Complete := by
  unfold sheets
  rw [funext (isWritten_copy sound writing reading settings), List.map_inj_left]
  constructor
  · intro same which key record found
    have inside : which ∈ FeedTable.all.filter (f.isWritten settings) :=
      List.mem_filter.mpr ⟨which.mem_all, isWritten_of_get? found settings⟩
    exact (sheet_copy sound writing reading which).mp (same which inside) key record found
  · intro complete which _
    exact (sheet_copy sound writing reading which).mpr (complete which)

/-- A feed that loads have made is written, its copy and the copy of the copy. All have the same
    entries in the same order. In the second archive every empty cell of a column where it stands
    for zero is a zero; it is the first archive if and only if no record lacks such a number, and
    the third one is the second. -/
theorem Reachable.rewrite (reachable : f.Reachable) (r1 r2 w1 w2 w3 : Session)
    (second : w2.settings = w1.settings) (third : w3.settings = w1.settings) :
    (f.write [] w1).fault = none ∧ (f.copy w1 r1).fault = none ∧
      ((f.copy w1 r1).feed.write [] w2).fault = none ∧
        ((f.copy w1 r1).feed.copy w2 r2).fault = none ∧
          List.Forall₂ Sheet.Refilled (f.write [] w1).package
            ((f.copy w1 r1).feed.write [] w2).package ∧
          (((f.copy w1 r1).feed.write [] w2).package = (f.write [] w1).package ↔ f.Complete) ∧
          (((f.copy w1 r1).feed.copy w2 r2).feed.write [] w3).package =
            ((f.copy w1 r1).feed.write [] w2).package := by
  have sound := reachable.sound
  have copied : (f.copy w1 r1).feed.Sound := copy_sound w1 r1
  have twice : ((f.copy w1 r1).feed.copy w2 r2).feed.Sound := copy_sound w2 r2
  rw [(write_of_sound sound w1).2, (write_of_sound copied w2).2, (write_of_sound twice w3).2,
    second, third]
  refine ⟨(write_of_sound sound w1).1, fault_copy sound w1 r1, (write_of_sound copied w2).1,
    fault_copy copied w2 r2, refilled_sheets sound w1 r1 _ _, sheets_copy sound w1 r1 _, ?_⟩
  exact (sheets_copy copied w2 r2 _).mpr (complete_copy sound w1 r1)

include sound in
theorem package_copy_ne {which : FeedTable} {key : Key} {record : Record}
    (found : (f.get which).get? key = some record) (lacks : which.Lacks record.values)
    (writing reading : Session) :
    ((f.copy writing reading).feed.write [] writing).package ≠ (f.write [] writing).package := by
  rw [(write_of_sound sound writing).2, (write_of_sound (copy_sound writing reading) writing).2]
  intro same
  exact (sheets_copy sound writing reading _).mp same which key record found lacks

/-- A location type that is no number is written as an empty cell, which is read as zero. -/
theorem rewrite_malformed :
    (({} : Feed).load (.ok malformedStops) {}).fault = none ∧
      ((({} : Feed).load (.ok malformedStops) {}).feed.copy {} {}).fault = none ∧
        (((({} : Feed).load (.ok malformedStops) {}).feed.copy {} {}).feed.write [] {}).package ≠
          ((({} : Feed).load (.ok malformedStops) {}).feed.write [] {}).package := by
  have clean : (({} : Feed).load (.ok malformedStops) {}).fault = none := by
    decide +kernel
  have lacking : (((({} : Feed).load (.ok malformedStops) {}).feed.get .stops).get?
      (.name "S1")).map (fun record => record.values[8]?) =
        some (some (.whole Cell.Whole.missing)) := by
    decide +kernel
  have sound : (({} : Feed).load (.ok malformedStops) {}).feed.Sound := sound_empty.load _ _
  obtain ⟨record, found, lacking⟩ := Option.map_eq_some_iff.mp lacking
  exact ⟨clean, fault_copy sound {} {},
    package_copy_ne sound found ⟨8, "location_type", by decide, by decide, lacking⟩ {} {}⟩

/-- After the zero was written it stays. -/
theorem rewrite_stops :
    (({} : Feed).load (.ok malformedStops) {}).feed.stops.keys = [.name "S1", .name "S2"] ∧
      ((((({} : Feed).load (.ok malformedStops) {}).feed.copy {} {}).feed.copy {} {}).feed.write
          [] {}).package =
        (((({} : Feed).load (.ok malformedStops) {}).feed.copy {} {}).feed.write [] {}).package := by
  have keys : (({} : Feed).load (.ok malformedStops) {}).feed.stops.keys =
      [.name "S1", .name "S2"] := by
    decide +kernel
  have reachable : (({} : Feed).load (.ok malformedStops) {}).feed.Reachable := .load _ _ .empty
  have rewritten := Reachable.rewrite reachable {} {} {} {} {} rfl rfl
  exact ⟨keys, rewritten.2.2.2.2.2.2⟩

end Feed

end TransitFeed

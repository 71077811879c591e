import TransitFeed.Proofs.Cell.Ranges
import TransitFeed.Proofs.Feed.Origins
import TransitFeed.Proofs.Load.Layout

/-! # Whole numbers and positions

A whole number that is read from a cell is kept and written again, and a row with such a number for
its position has a key. One number is an exception: the least 32-bit integer stands for a missing
number, so a cell of it can be read and is written as an empty cell, and it is no position.
-/

namespace TransitFeed

namespace Cell.Whole

variable {range : WholeRange} {cell : String} {n : Int32}

/-- The cells of the integer that stands for a missing number. -/
def IsLeast (cell : String) : Prop := Digits.Spells cell.toList missing.toInt

instance : DecidablePred IsLeast :=
  fun cell => decidable_of_iff (parse? cell.toList = some missing) parse?_eq_some_iff

theorem reading_of_spells (spelled : Digits.Spells cell.toList n.toInt) :
    read range cell = ⟨n, range.problems n⟩ := by
  rw [read, parse?_eq_some_iff.mpr spelled]

theorem number_not_mem_problems : Problem.number ∉ range.problems n :=
  fun member => WholeRange.isRange_of_mem member

theorem exists_spells (parsed : Problem.number ∉ (read range cell).problems) :
    ∃ n : Int32, Digits.Spells cell.toList n.toInt := by
  cases found : parse? cell.toList with
  | some n => exact ⟨n, parse?_eq_some_iff.mp found⟩
  | none =>
      rw [read, found] at parsed
      exact absurd List.mem_cons_self parsed

theorem ne_missing_of_spells (other : ¬ IsLeast cell)
    (spelled : Digits.Spells cell.toList n.toInt) : n ≠ missing := by
  rintro rfl
  exact other spelled

end Cell.Whole

namespace Presence

/-- The text of a cell that has one. -/
def text? : Presence → Option String
  | .present text => some text
  | .absent | .empty => none

/-- The integer of a cell that has one and does not stand for a missing one. -/
def whole? (presence : Presence) : Option Int32 :=
  (presence.text?.bind fun text => Cell.Whole.parse? text.toList).filter (· ≠ Cell.Whole.missing)

end Presence

namespace ColumnKind

theorem text?_read {kind : ColumnKind} (texts : kind.plain = .text) (presence : Presence) :
    (kind.read presence).value.text?.join = presence.text? := by
  rw [← read_plain, texts]
  cases presence with
  | absent | empty | present => rfl

theorem part?_read (range : Cell.WholeRange) (presence : Presence) :
    ((whole range Cell.Whole.missing).read presence).value.part? = presence.whole? := by
  cases presence with
  | absent | empty => rfl
  | present text =>
      simp only [read, Cell.Whole.read, Value.part?, Presence.whole?, Presence.text?,
        Option.bind_some]
      cases found : Cell.Whole.parse? text.toList with
      | none => rfl
      | some n =>
          by_cases missing : n = Cell.Whole.missing
          · simp [missing, Option.filter]
          · simp [missing, Option.filter]

end ColumnKind

namespace Schema

variable {s : Schema} {column : Column}

/-- Among columns with names of their own, a name picks out one of them. -/
theorem filterMap_named {α : Type} {columns : List Column}
    (distinct : (columns.map Column.name).Nodup) (listed : column ∈ columns)
    (f : Column → Option α) :
    (columns.filterMap fun c => if c.name = column.name then f c else none) =
      (f column).toList := by
  induction columns with
  | nil => contradiction
  | cons first rest ih =>
      obtain ⟨fresh, others⟩ := List.nodup_cons.mp distinct
      rcases List.mem_cons.mp listed with rfl | later
      · have nothing : (rest.filterMap fun c => if c.name = column.name then f c else none) =
            [] := by
          refine List.filterMap_eq_nil_iff.mpr fun c member => if_neg fun named => ?_
          exact fresh (List.mem_map.mpr ⟨c, member, named⟩)
        rw [List.filterMap_cons, nothing, if_pos rfl]
        cases f column with
        | none => rfl
        | some a => rfl
      · have differ : first.name ≠ column.name := fun same =>
          fresh (List.mem_map.mpr ⟨column, later, same.symm⟩)
        rw [List.filterMap_cons, if_neg differ]
        exact ih others later

theorem find?_rowValues {α : Type} (distinct : s.columnNames.Nodup) (listed : column ∈ s.columns)
    (header cells : Csv.Record) (look : Value → Option α) :
    s.find? (rowValues (Field.layout s header) cells) column.name look =
      look (column.kind.read (.named header cells column.name)).value := by
  have pairs : s.columns.zip (rowValues (Field.layout s header) cells) =
      s.columns.map fun c => (c, (c.kind.read (.named header cells c.name)).value) := by
    rw [rowValues, Field.layout, List.map_map]
    conv_lhs => enter [1]; rw [← List.map_id s.columns]
    exact List.zip_map'
  rw [find?, pairs, List.filterMap_map]
  change (s.columns.filterMap fun c => if c.name = column.name then
    look (c.kind.read (.named header cells c.name)).value else none).getLast? = _
  rw [filterMap_named distinct listed]
  cases look (column.kind.read (.named header cells column.name)).value with
  | none => rfl
  | some a => rfl

/-- A table whose records are known by an identifier and a whole number. -/
structure IsSequence (s : Schema) (id part : Column) : Prop where
  identity : s.identity = .numbered id.name part.name
  distinct : s.columnNames.Nodup
  id_mem : id ∈ s.columns
  id_text : id.kind.plain = .text
  part_mem : part ∈ s.columns
  part_whole : ∃ range, part.kind = .whole range Cell.Whole.missing

/-- The key of a row of such a table is made of the text and the integer in its columns. -/
theorem IsSequence.key?_rowValues {id part : Column} (counted : s.IsSequence id part)
    (header cells : Csv.Record) :
    s.key? (rowValues (Field.layout s header) cells) =
      (Presence.named header cells id.name).text?.bind fun text =>
        (Presence.named header cells part.name).whole?.map (.numbered text) := by
  obtain ⟨range, whole⟩ := counted.part_whole
  unfold key? textOf
  rw [counted.identity]
  dsimp only
  rw [find?_rowValues counted.distinct counted.id_mem, ColumnKind.text?_read counted.id_text,
    find?_rowValues counted.distinct counted.part_mem, whole, ColumnKind.part?_read]
  cases (Presence.named header cells id.name).text? with
  | none => rfl
  | some text =>
      cases (Presence.named header cells part.name).whole? with
      | none => rfl
      | some n => rfl

end Schema

/-- A row with a key leaves its record under the key. -/
theorem Scan.get?_step {schema : Schema} {layout : List Field} {cells : Csv.Record} {key : Key}
    (own : schema.key? (rowValues layout cells) = some key) (scan : Scan) :
    (scan.step schema layout cells).table.get? key =
      some ⟨scan.row + 1, rowValues layout cells⟩ := by
  obtain ⟨held, stepped⟩ := Notes.step_eq schema cells layout
    ⟨scan.table, scan.row, scan.reported⟩ scan.session scan.held
  have table : (scan.step schema layout cells).table =
      scan.table.insert key ⟨scan.row + 1, rowValues layout cells⟩ := by
    rw [show scan.step schema layout cells = _ from stepped]
    exact (Notes.step_table schema cells layout _).trans (by rw [own])
  rw [table, Table.get?_insert, if_pos rfl]

namespace FeedTable

/-- The columns with the identifiers and the positions of visits and points. -/
def sequence? : FeedTable → Option (String × String)
  | .stopTimes => some ("trip_id", "stop_sequence")
  | .shapes => some ("shape_id", "shape_pt_sequence")
  | _ => none

theorem isSequence_schema (f : Feed) {which : FeedTable} {id part : String}
    (counted : which.sequence? = some (id, part)) :
    ∃ idColumn partColumn : Column, idColumn.name = id ∧ partColumn.name = part ∧
      (f.schema which).IsSequence idColumn partColumn := by
  cases which with
  | stopTimes =>
      obtain ⟨rfl, rfl⟩ := Prod.mk.inj (Option.some.inj counted)
      refine ⟨.reference "trip_id" true f.trips, .whole "stop_sequence" true 0 Int32.maxValue,
        rfl, rfl, rfl, nodup_columnNames .stopTimes, ?_, rfl, ?_, ⟨_, rfl⟩⟩
      · simp [Feed.schema, Schema.stopTimes]
      · simp [Feed.schema, Schema.stopTimes]
  | shapes =>
      obtain ⟨rfl, rfl⟩ := Prod.mk.inj (Option.some.inj counted)
      refine ⟨.text "shape_id" true, .whole "shape_pt_sequence" true 0 Int32.maxValue,
        rfl, rfl, rfl, nodup_columnNames .shapes, ?_, rfl, ?_, ⟨_, rfl⟩⟩
      · simp [Feed.schema, Schema.shapes]
      · simp [Feed.schema, Schema.shapes]
  | agency | stops | routes | trips | calendar | calendarDates | frequencies | feedInfo =>
      contradiction

theorem key?_sequence (f : Feed) {which : FeedTable} {id part : String}
    (counted : which.sequence? = some (id, part)) (header cells : Csv.Record) :
    (f.schema which).key? (rowValues (Field.layout (f.schema which) header) cells) =
      (Presence.named header cells id).text?.bind fun text =>
        (Presence.named header cells part).whole?.map (.numbered text) := by
  obtain ⟨idColumn, partColumn, rfl, rfl, sequence⟩ := isSequence_schema f counted
  exact sequence.key?_rowValues header cells

end FeedTable

open Cell.Whole in
/-- A whole number in a cell is kept, and the problems are those of the number; it is written as a
    cell that is not empty and read again with the same problems. A visit or a point that has such
    a number for its position, and an identifier, has a key and is kept under it. The exception is
    the number that stands for a missing one: no cell of it is told from a missing number by its
    value, and it is no position. -/
theorem Feed.parsed_whole_kept (f : Feed) :
    (∀ (range : Cell.WholeRange) (cell : String),
      Cell.Problem.number ∉ (read range cell).problems → ¬ IsLeast cell →
        (read range cell).value ≠ missing ∧ text (read range cell).value ≠ "" ∧
          read range (text (read range cell).value) = read range cell) ∧
      (∀ (which : FeedTable) (j : Nat) (column : Column) (range : Cell.WholeRange)
        (fallback : Int32), (f.schema which).columns[j]? = some column →
          column.kind = .whole range fallback → ∀ (header cells : Csv.Record) (digits : String),
            Presence.named header cells column.name = .present digits →
              Cell.Problem.number ∉ (read range digits).problems → ¬ IsLeast digits →
                ∃ n : Int32, Digits.Spells digits.toList n.toInt ∧
                  column.kind.read (.present digits) = ⟨.whole n, range.problems n⟩ ∧
                    (rowValues (Field.layout (f.schema which) header) cells)[j]? =
                      some (.whole n) ∧ (Value.whole n).cell ≠ "") ∧
        (∀ (which : FeedTable) (id part : String), which.sequence? = some (id, part) →
          ∀ (range : Cell.WholeRange) (header cells : Csv.Record) (name digits : String),
            Presence.named header cells id = .present name →
              Presence.named header cells part = .present digits →
                Cell.Problem.number ∉ (read range digits).problems →
                  let layout := Field.layout (f.schema which) header
                  (¬ IsLeast digits → ∃ n : Int32, Digits.Spells digits.toList n.toInt ∧
                    (f.schema which).key? (rowValues layout cells) = some (.numbered name n) ∧
                      ∀ scan : Scan, (scan.step (f.schema which) layout cells).table.get?
                        (.numbered name n) = some ⟨scan.row + 1, rowValues layout cells⟩) ∧
                    (IsLeast digits →
                      (f.schema which).key? (rowValues layout cells) = none)) ∧
          ∀ (range : Cell.WholeRange) (cell : String), IsLeast cell →
            Cell.Problem.number ∉ (read range cell).problems ∧
              (read range cell).value = missing := by
  refine ⟨?again, ?kept, ?position, ?exception⟩
  case again =>
    intro range cell parsed other
    obtain ⟨n, spelled⟩ := exists_spells parsed
    have present := ne_missing_of_spells other spelled
    rw [reading_of_spells spelled]
    exact ⟨present, text_ne_empty present, reading_text range present⟩
  case kept =>
    intro which j column range fallback at_j whole header cells digits found parsed other
    obtain ⟨n, spelled⟩ := exists_spells parsed
    have reading : column.kind.read (.present digits) = ⟨.whole n, range.problems n⟩ := by
      rw [whole, ColumnKind.read, reading_of_spells spelled]
    refine ⟨n, spelled, reading, ?_, text_ne_empty (ne_missing_of_spells other spelled)⟩
    have value := rowValues_getElem? header cells at_j
    change _ = some (column.kind.read (.named header cells column.name)).value at value
    rw [value, found, reading]
  case position =>
    intro which id part counted range header cells name digits ofId ofPart parsed layout
    obtain ⟨n, spelled⟩ := exists_spells parsed
    have key := FeedTable.key?_sequence f counted header cells
    rw [ofId, ofPart] at key
    simp only [Presence.text?, Presence.whole?, Option.bind_some,
      parse?_eq_some_iff.mpr spelled] at key
    constructor
    · intro other
      have present := ne_missing_of_spells other spelled
      have own : (f.schema which).key? (rowValues layout cells) = some (.numbered name n) := by
        rw [key, Option.filter_some_pos (by simpa using present)]
        rfl
      exact ⟨n, spelled, own, Scan.get?_step own⟩
    · intro least
      obtain rfl : n = missing := Int32.toInt_inj.mp (spelled.unique least)
      rw [key]
      rfl
  case exception =>
    intro range cell least
    rw [reading_of_spells least]
    exact ⟨number_not_mem_problems, rfl⟩

/-- The header and the only row of a table of points. -/
def Feed.pointHeader : Csv.Record := ["shape_pt_sequence", "shape_id"].map Utf8.encode

open Cell.Whole in
/-- The number next to the exception is no position that a feed should have, and it is kept. -/
theorem Feed.parsed_whole_kept_outOfRange :
    let schema := ({} : Feed).schema .shapes
    let layout := Field.layout schema pointHeader
    let cells := ["-2147483647", "A"].map Utf8.encode
    let scan : Scan := { session := {}, table := { name := "shapes" } }
    text (read ⟨0, Int32.maxValue⟩ "-2147483647").value ≠ "" ∧
      (∃ n : Int32, n.toInt = -2147483647 ∧
        (rowValues layout cells)[3]? = some (.whole n) ∧
          (scan.step schema layout cells).table.get? (.numbered "A" n) =
            some ⟨1, rowValues layout cells⟩) ∧
        schema.key? (rowValues layout (["-02147483648", "A"].map Utf8.encode)) = none := by
  intro schema layout cells scan
  have parsed : Cell.Problem.number ∉ (read ⟨0, Int32.maxValue⟩ "-2147483647").problems := by
    decide +kernel
  have other : ¬ IsLeast "-2147483647" := by decide
  have name : Presence.named pointHeader cells "shape_id" = .present "A" := by decide +kernel
  have digits : Presence.named pointHeader cells "shape_pt_sequence" =
      .present "-2147483647" := by
    decide +kernel
  obtain ⟨again, kept, position, exception⟩ := parsed_whole_kept {}
  refine ⟨(again _ _ parsed other).2.1, ?_, ?_⟩
  · obtain ⟨n, spelled, -, value, -⟩ := kept .shapes 3 _ _ _ rfl rfl _ _ _ digits parsed other
    obtain ⟨k, spelled', -, found⟩ :=
      (position .shapes _ _ rfl _ _ _ _ _ name digits parsed).1 other
    obtain rfl : n = k := Int32.toInt_inj.mp (spelled.unique spelled')
    have exact : Digits.Spells "-2147483647".toList (-2147483647) :=
      Digits.signed?_eq_some_iff.mp (by decide)
    exact ⟨n, spelled.unique exact, value, found scan⟩
  · have least : IsLeast "-02147483648" := by decide
    exact (position .shapes _ _ rfl _ _ _ "A" "-02147483648" (by decide +kernel)
      (by decide +kernel) (exception ⟨0, Int32.maxValue⟩ _ least).1).2 least

/-- One point, whose position is the number that stands for a missing one. -/
def Feed.leastPoint : Archive :=
  [{ name := "shapes.txt"
     content := Utf8.encode
      "shape_id,shape_pt_lat,shape_pt_lon,shape_pt_sequence\nA,0,0,-2147483648\n" }]

/-- The number is within the bounds of all integers, so nothing is wrong with it, but it is written
    as an empty cell. As a position it is out of range, and the point is dropped, not kept. -/
theorem Feed.parsed_whole_lost :
    let reading := Cell.Whole.read .all "-2147483648"
    let loaded := (({} : Feed).schema .shapes).load leastPoint { name := "shapes" } {}
    reading = ⟨Cell.Whole.missing, []⟩ ∧ Cell.Whole.text reading.value = "" ∧
      loaded.fault = none ∧ loaded.table.size = 0 ∧
        loaded.session.diagnostics.toList.map (fun d => (d.row, d.column, d.kind.name)) =
          [(1, some "shape_pt_sequence", "RangeError"),
            (0, some "shape_dist_traveled", "MissingColumnError"),
            (1, some "shape_id,shape_pt_sequence", "MissingKeyError")] := by
  decide +kernel

end TransitFeed

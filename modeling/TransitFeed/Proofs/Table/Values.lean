import Mathlib.Data.List.Forall2
import TransitFeed.Feed.Schemas
import TransitFeed.Load.Row
import TransitFeed.Proofs.Cell.RoundTrip
import TransitFeed.Proofs.Text.Utf8

/-! # Values that are kept

What a column keeps was read from a cell that was not empty, or stands for an empty one. Written
and read again, it is the same value, but for the rounding of decimals and for missing numbers of
a column where an empty cell stands for something else.
-/

namespace TransitFeed

namespace Presence

/-- What a row has where a text was written. -/
def ofText (text : String) : Presence := if text = "" then .empty else .present text

theorem ofCell_encode {cells : List String} {i : Nat} {text : String} (h : cells[i]? = some text) :
    ofCell (cells.map Utf8.encode) (some i) = ofText text := by
  have octets : (cells.map Utf8.encode)[i]? = some (Utf8.encode text) := by
    rw [List.getElem?_map, h]
    rfl
  by_cases blank : text = ""
  · subst blank
    simp only [ofCell, octets]
    rfl
  · obtain ⟨first, rest, nonempty⟩ := List.exists_cons_of_ne_nil (mt Utf8.encode_eq_nil.mp blank)
    have back : Utf8.decode (first :: rest) = text := by rw [← nonempty, Utf8.decode_encode]
    simp only [ofCell, octets, nonempty, back, ofText, blank, if_false]

theorem ne_empty_of_ofCell {cells : Csv.Record} {position : Option Nat} {text : String}
    (h : ofCell cells position = .present text) : text ≠ "" := by
  unfold ofCell at h
  split at h
  · contradiction
  · split at h
    · contradiction
    · contradiction
    · next octets full found =>
        cases h
        intro blank
        rw [Utf8.decode_eq_empty] at blank
        subst blank
        exact full rfl

end Presence

namespace ColumnKind

/-- What an empty cell of a column of numbers stands for. -/
def fallback : ColumnKind → Int32
  | .whole _ fallback => fallback
  | _ => Cell.Whole.missing

/-- What a column can keep. -/
def Keeps : ColumnKind → Value → Prop
  | .text, .text t | .reference _, .text t => t ≠ some ""
  | .whole .., .whole _ | .clock, .clock _ => True
  | .decimal _, .decimal d => ∀ negative, d ≠ .infinite negative
  | .day, .day kept => ∀ d, kept = some d → Cell.DayCell.FourDigits d
  | .link, .link kept => ∀ l, kept = some l → l.text ≠ ""
  | _, _ => False

/-- The value that is read from what is written of a value. -/
def reread (kind : ColumnKind) : Value → Value
  | .whole n => .whole (if n = Cell.Whole.missing then kind.fallback else n)
  | .decimal d => .decimal d.reread
  | other => other

theorem keeps_read (kind : ColumnKind) {presence : Presence}
    (full : ∀ text, presence = .present text → text ≠ "") :
    kind.Keeps (kind.read presence).value := by
  cases presence with
  | absent | empty => cases kind <;> simp [read, Keeps]
  | present text =>
      have nonempty := full text rfl
      cases kind with
      | text | reference target => simpa [read, Keeps] using nonempty
      | whole range fallback => trivial
      | clock => trivial
      | decimal range => exact Cell.Fractional.read_ne_infinite range text
      | day =>
          intro d same
          exact Cell.DayCell.fourDigits_of_read same
      | link =>
          intro link same
          rw [Cell.LinkCell.text_of_read same]
          exact nonempty

/-- What is written of a value that is kept is read as the value that it is reread as. -/
theorem read_cell {kind : ColumnKind} {v : Value} (kept : kind.Keeps v) :
    (kind.read (.ofText v.cell)).value = kind.reread v := by
  cases kind with
  | text | reference target =>
      cases v with
      | text t =>
          cases t with
          | none => rfl
          | some t =>
              have full : t ≠ "" := fun blank => kept (congrArg some blank)
              simp [Value.cell, Presence.ofText, full, read, reread]
      | whole | clock | decimal | day | link => exact kept.elim
  | whole range fallback =>
      cases v with
      | whole n =>
          by_cases missing : n = Cell.Whole.missing
          · subst missing
            rfl
          · have full := Cell.Whole.text_ne_empty missing
            simp [Value.cell, Presence.ofText, full, read, reread, missing,
              Cell.Whole.read_text range missing]
      | text | clock | decimal | day | link => exact kept.elim
  | decimal range =>
      cases v with
      | decimal d =>
          cases d with
          | nan => rfl
          | infinite negative => exact absurd rfl (kept negative)
          | finite negative units r =>
              have full := Cell.Fractional.text_ne_empty negative units r
              simp only [Value.cell, Presence.ofText, full, if_false, read, reread,
                Cell.Fractional.read, Cell.Fractional.parse?_text]
      | text | whole | clock | day | link => exact kept.elim
  | clock =>
      cases v with
      | clock n =>
          by_cases missing : n = Cell.Whole.missing
          · subst missing
            rfl
          · have full := Cell.Clock.text_ne_empty missing
            simp only [Value.cell, Presence.ofText, full, if_false, read, reread,
              Cell.Clock.read_text missing]
      | text | whole | decimal | day | link => exact kept.elim
  | day =>
      cases v with
      | day d =>
          cases d with
          | none => rfl
          | some d =>
              have full := Cell.DayCell.text_ne_empty d
              simp only [Value.cell, Presence.ofText, full, if_false, read, reread,
                Cell.DayCell.read_text (kept d rfl)]
      | text | whole | clock | decimal | link => exact kept.elim
  | link =>
      cases v with
      | link l =>
          cases l with
          | none => rfl
          | some l =>
              have full : Cell.LinkCell.text (some l) ≠ "" := kept l rfl
              simp only [Value.cell, Presence.ofText, full, if_false, read, reread,
                Cell.LinkCell.read_text l]
      | text | whole | clock | decimal | day => exact kept.elim

theorem text?_reread (kind : ColumnKind) (v : Value) : (kind.reread v).text? = v.text? := by
  cases v with
  | text | whole | clock | decimal | day | link => rfl

theorem day?_reread (kind : ColumnKind) (v : Value) : (kind.reread v).day? = v.day? := by
  cases v with
  | text | whole | clock | decimal | day | link => rfl

theorem part?_reread {kind : ColumnKind} (plain : kind.fallback = Cell.Whole.missing) (v : Value) :
    (kind.reread v).part? = v.part? := by
  cases v with
  | whole n =>
      by_cases missing : n = Cell.Whole.missing
      · simp only [reread, plain, missing, if_true]
      · simp only [reread, missing, if_false]
  | text | clock | decimal | day | link => rfl

end ColumnKind

namespace Schema

variable {s : Schema} {values : List Value}

def Keeps (s : Schema) (values : List Value) : Prop :=
  List.Forall₂ (fun column v => column.kind.Keeps v) s.columns values

def reread (s : Schema) (values : List Value) : List Value :=
  List.zipWith (fun column v => column.kind.reread v) s.columns values

theorem keeps_rowValues (s : Schema) (header cells : Csv.Record) :
    s.Keeps (rowValues (Field.layout s header) cells) := by
  unfold Keeps rowValues Field.layout
  rw [List.map_map, List.forall₂_map_right_iff, List.forall₂_same]
  intro column _
  exact column.kind.keeps_read fun text => Presence.ne_empty_of_ofCell

theorem idxOf?_getElem {names : List String} (distinct : names.Nodup) {i : Nat}
    (h : i < names.length) : names.idxOf? names[i] = some i := by
  rw [List.idxOf?_eq_some_iff]
  refine ⟨h, rfl, ?_⟩
  intro j before same
  exact List.pairwise_iff_getElem.mp distinct j i (by omega) h before same

theorem presence_cells (distinct : s.columnNames.Nodup) {i : Nat} (inColumns : i < s.columns.length)
    (inValues : i < values.length) :
    Presence.ofCell ((values.map Value.cell).map Utf8.encode)
        ((Field.headerNames (s.columnNames.map Utf8.encode)).idxOf? s.columns[i].name) =
      .ofText values[i].cell := by
  have names : Field.headerNames (s.columnNames.map Utf8.encode) = s.columnNames := by
    simp [Field.headerNames, Function.comp_def]
  have inNames : i < s.columnNames.length := by simpa [columnNames] using inColumns
  have place : s.columnNames.idxOf? s.columns[i].name = some i := by
    have found := idxOf?_getElem distinct inNames
    simpa [columnNames] using found
  have cell : (values.map Value.cell)[i]? = some values[i].cell := by
    rw [List.getElem?_map, List.getElem?_eq_getElem inValues]
    rfl
  rw [names, place, Presence.ofCell_encode cell]

theorem rowValues_cells (distinct : s.columnNames.Nodup) (kept : s.Keeps values) :
    rowValues (Field.layout s (s.columnNames.map Utf8.encode))
      ((values.map Value.cell).map Utf8.encode) = s.reread values := by
  have count : s.columns.length = values.length := kept.length_eq
  refine List.ext_getElem ?_ ?_
  · simp [rowValues, Field.layout, reread, count]
  · intro i within _
    have inColumns : i < s.columns.length := by
      simpa [rowValues, Field.layout] using within
    have inValues : i < values.length := count ▸ inColumns
    have keeps : s.columns[i].kind.Keeps values[i] := kept.get inColumns inValues
    simp only [rowValues, Field.layout, List.getElem_map, reread, List.getElem_zipWith,
      Field.read, Field.presence, presence_cells distinct inColumns inValues,
      ColumnKind.read_cell keeps]

theorem find?_reread {α : Type} {look : Value → Option α} {name : String}
    (same : ∀ column ∈ s.columns, column.name = name →
      ∀ v, look (column.kind.reread v) = look v) (values : List Value) :
    s.find? (s.reread values) name look = s.find? values name look := by
  unfold find? reread
  congr 1
  -- The columns and the values are walked through together.
  generalize s.columns = columns at same
  induction columns generalizing values with
  | nil => rfl
  | cons column rest ih =>
      cases values with
      | nil => rfl
      | cons v values =>
          have later := ih values fun c member => same c (List.mem_cons_of_mem _ member)
          have here : (if column.name = name then look (column.kind.reread v) else none) =
              if column.name = name then look v else none := by
            split
            · next named => exact same column List.mem_cons_self named v
            · rfl
          rw [List.zipWith_cons_cons, List.zip_cons_cons, List.zip_cons_cons,
            List.filterMap_cons, List.filterMap_cons, later]
          simp only [here]

theorem textOf_reread (s : Schema) (values : List Value) (name : String) :
    s.textOf (s.reread values) name = s.textOf values name := by
  unfold textOf
  rw [find?_reread fun column _ _ v => column.kind.text?_reread v]

/-- Whether an empty cell stands for no number, where a number is part of the key. -/
def PlainKey (s : Schema) : Prop :=
  ∀ id part orMissing, s.identity = .numbered id part orMissing →
    ∀ column ∈ s.columns, column.name = part → column.kind.fallback = Cell.Whole.missing

theorem key?_reread (plain : s.PlainKey) (values : List Value) :
    s.key? (s.reread values) = s.key? values := by
  unfold key?
  cases shape : s.identity with
  | named id | namedOrEmpty id => simp only [textOf_reread]
  | numbered id part orMissing =>
      have number : s.find? (s.reread values) part Value.part? = s.find? values part Value.part? :=
        find?_reread (fun column member named v =>
          ColumnKind.part?_reread (plain id part orMissing shape column member named) v) values
      simp only [textOf_reread, number]
  | dated id day =>
      have date : s.find? (s.reread values) day Value.day? = s.find? values day Value.day? :=
        find?_reread (fun column _ _ v => column.kind.day?_reread v) values
      simp only [textOf_reread, date]

end Schema

/-- The kind of column that reads the same values and checks no references. -/
def ColumnKind.plain : ColumnKind → ColumnKind
  | .reference _ => .text
  | other => other

theorem ColumnKind.read_plain (kind : ColumnKind) (presence : Presence) :
    kind.plain.read presence = kind.read presence := by
  cases kind with
  | reference target =>
      cases presence with
      | absent | empty | present => rfl
  | text | whole | decimal | clock | day | link => rfl

def Column.plain (c : Column) : Column := { c with kind := c.kind.plain }

namespace Schema

variable {s t : Schema}

theorem columnNames_of_plain (same : s.columns.map Column.plain = t.columns.map Column.plain) :
    s.columnNames = t.columnNames := by
  have names := congrArg (List.map Column.name) same
  rw [List.map_map, List.map_map] at names
  exact names

theorem find?_eq_columnNames {α : Type} (s : Schema) (values : List Value) (name : String)
    (look : Value → Option α) :
    s.find? values name look = ((s.columnNames.zip values).filterMap fun (column, value) =>
      if column = name then look value else none).getLast? := by
  rw [columnNames, List.zip_map_left, List.filterMap_map]
  rfl

theorem key?_of_plain (same : s.columns.map Column.plain = t.columns.map Column.plain)
    (identity : s.identity = t.identity) (values : List Value) :
    s.key? values = t.key? values := by
  simp only [key?, textOf, find?_eq_columnNames, identity, columnNames_of_plain same]

theorem rowValues_of_plain (same : s.columns.map Column.plain = t.columns.map Column.plain)
    (header cells : Csv.Record) :
    rowValues (Field.layout s header) cells = rowValues (Field.layout t header) cells := by
  have plain (s : Schema) : rowValues (Field.layout s header) cells =
      (s.columns.map Column.plain).map fun column => (column.kind.read
        (.ofCell cells ((Field.headerNames header).idxOf? column.name))).value := by
    simp only [rowValues, Field.layout, List.map_map, Function.comp_def, Column.plain,
      ColumnKind.read_plain, Field.read, Field.presence]
  rw [plain s, plain t, same]

end Schema

namespace FeedTable

/-- The schema of a table without the tables that it refers to. -/
def form (which : FeedTable) : Schema := ({} : Feed).schema which

variable (f : Feed) (which : FeedTable)

theorem plain_schema :
    (f.schema which).columns.map Column.plain = which.form.columns.map Column.plain := by
  cases which <;> rfl

theorem columnNames_schema : (f.schema which).columnNames = which.form.columnNames :=
  Schema.columnNames_of_plain (plain_schema f which)

theorem key?_schema (values : List Value) :
    (f.schema which).key? values = which.form.key? values := by
  have identity : (f.schema which).identity = which.form.identity := by
    cases which <;> rfl
  exact Schema.key?_of_plain (plain_schema f which) identity values

theorem rowValues_schema (header cells : Csv.Record) :
    rowValues (Field.layout (f.schema which) header) cells =
      rowValues (Field.layout which.form header) cells :=
  Schema.rowValues_of_plain (plain_schema f which) header cells

theorem nodup_columnNames : which.form.columnNames.Nodup := by
  cases which <;> decide

theorem plainKey_form : which.form.PlainKey := by
  intro id part orMissing shape
  cases which with
  | stopTimes | shapes | frequencies =>
      cases shape
      decide
  | agency | stops | routes | trips | calendar | calendarDates | feedInfo => cases shape

end FeedTable

end TransitFeed

import Mathlib.Data.List.Forall2
import Mathlib.Data.List.GetD
import TransitFeed.Proofs.Load.Corrupt
import TransitFeed.Proofs.Table.Values

/-! # Layouts of columns

A row is read through the names of its header. Columns may stand in another order, others that are
not read may stand behind them, and rows may end before empty cells. A load keeps the same of all
these layouts, and a byte order mark in front of an entry changes nothing either.
-/

namespace TransitFeed

namespace Csv.Record

/-- The cells of a record in another order. A record that is too short has empty ones. -/
def arrange (order : List Nat) (cells : Record) : Record := order.map fun i => cells.getD i []

/-- Whether a record goes on with empty cells, and with any cells beyond a width. -/
def IsFilled (width : Nat) (cells filled : Record) : Prop :=
  ∃ n more, filled = cells ++ (List.replicate n [] ++ more) ∧
    (more = [] ∨ width ≤ cells.length + n)

end Csv.Record

open Csv.Record in
/-- Another layout of a header and the rows behind it. -/
inductive Relaid (columns : List String) (header : Csv.Record) (rows : List Csv.Record) :
    Csv.Record → List Csv.Record → Prop where
  /-- The columns are in another order. -/
  | arranged (order : List Nat) (once : order.Perm (List.range header.length))
      (distinct : (Field.headerNames header).Nodup) :
      Relaid columns header rows (arrange order header) (rows.map (arrange order))
  /-- Behind full rows there are columns that are not read, or whose name is taken. -/
  | widened (extra : Csv.Record) (wider : List Csv.Record)
      (full : ∀ cells ∈ rows, cells.length = header.length)
      (unread : ∀ before name after, Field.headerNames extra = before ++ name :: after →
        name ∉ columns ∨ name ∈ Field.headerNames header ++ before)
      (longer : List.Forall₂ (· <+: ·) rows wider) :
      Relaid columns header rows (header ++ extra) wider
  /-- Rows have empty cells in place of missing ones, or cells that the header does not name. -/
  | filled (longer : List Csv.Record)
      (ends : List.Forall₂ (IsFilled header.length) rows longer) :
      Relaid columns header rows header longer

/-- An entry with other content that is laid out otherwise. -/
inductive Entry.Relaid (columns : List String) (entry : Entry) : Entry → Prop where
  | same : Relaid columns entry entry
  | records {content : Octets} {header header' : Csv.Record} {rows rows' : List Csv.Record}
      (before : entry.records = header :: rows) (named : ¬ isBlankHeader header = true)
      (relaid : TransitFeed.Relaid columns header rows header' rows')
      (after : { entry with content }.records = header' :: rows') :
      Relaid columns entry { entry with content }
  /-- An intact entry has a byte order mark in front. -/
  | marked (intact : entry.state = .intact)
      (unmarked : ¬ Utf8.byteOrderMark <+: entry.content) :
      Relaid columns entry { entry with content := Utf8.byteOrderMark ++ entry.content }

namespace Presence

/-- What a row has for the column of a name. -/
def named (header cells : Csv.Record) (name : String) : Presence :=
  .ofCell cells ((Field.headerNames header).idxOf? name)

theorem ofCell_getD {cells cells' : Csv.Record} {i j : Nat}
    (same : cells.getD i [] = cells'.getD j []) :
    ofCell cells (some i) = ofCell cells' (some j) := by
  have read (cells : Csv.Record) (i : Nat) : ofCell cells (some i) =
      if cells.getD i [] = [] then .empty else .present (Utf8.decode (cells.getD i [])) := by
    simp only [ofCell, List.getD_eq_getElem?_getD]
    cases cells[i]? with
    | none => rfl
    | some cell =>
        cases cell with
        | nil => rfl
        | cons octet rest => rfl
  rw [read, read, same]

end Presence

namespace Csv.Record

variable {header cells : Record} {order : List Nat}

theorem arrange_range : arrange (List.range header.length) header = header := by
  unfold arrange
  refine List.ext_getElem (by simp) fun i _ inside => ?_
  simp [List.getElem?_eq_getElem inside]

theorem perm_arrange (once : order.Perm (List.range header.length)) :
    (arrange order header).Perm header := by
  have moved : (arrange order header).Perm (arrange (List.range header.length) header) :=
    once.map _
  rwa [arrange_range] at moved

theorem named_arrange (once : order.Perm (List.range header.length))
    (distinct : (Field.headerNames header).Nodup) (name : String) :
    Presence.named header cells name =
      Presence.named (arrange order header) (arrange order cells) name := by
  have names : (Field.headerNames (arrange order header)).Perm (Field.headerNames header) :=
    (perm_arrange once).map _
  unfold Presence.named
  by_cases known : name ∈ Field.headerNames header
  · obtain ⟨i, inside, rfl⟩ := List.mem_iff_getElem.mp known
    have bound : i < header.length := by
      rwa [Field.headerNames, List.length_map] at inside
    obtain ⟨j, moved, at_j⟩ := List.mem_iff_getElem.mp
      (once.mem_iff.mpr (List.mem_range.mpr bound))
    have inside' : j < (Field.headerNames (arrange order header)).length := by
      rwa [Field.headerNames, List.length_map, arrange, List.length_map]
    have same : (Field.headerNames (arrange order header))[j] = (Field.headerNames header)[i] := by
      simp [Field.headerNames, arrange, at_j, List.getElem?_eq_getElem bound]
    rw [Schema.idxOf?_getElem distinct inside, ← same,
      Schema.idxOf?_getElem (names.nodup_iff.mpr distinct) inside']
    refine Presence.ofCell_getD ?_
    simp [arrange, List.getElem?_eq_getElem moved, at_j]
  · rw [List.idxOf?_eq_none_iff.mpr known,
      List.idxOf?_eq_none_iff.mpr fun moved => known (names.mem_iff.mp moved)]
    rfl

theorem named_append {extra wider : Record} (full : cells.length = header.length)
    (longer : cells <+: wider) {name : String}
    (unread : name ∉ Field.headerNames header → name ∉ Field.headerNames extra) :
    Presence.named header cells name = Presence.named (header ++ extra) wider name := by
  obtain ⟨rest, rfl⟩ := longer
  have names : Field.headerNames (header ++ extra) =
      Field.headerNames header ++ Field.headerNames extra := List.map_append
  unfold Presence.named
  rw [names]
  by_cases known : name ∈ Field.headerNames header
  · obtain ⟨i, first⟩ := Option.isSome_iff_exists.mp (List.isSome_idxOf?.mpr known)
    obtain ⟨inside, here, earlier⟩ := List.idxOf?_eq_some_iff.mp first
    have stays : (Field.headerNames header ++ Field.headerNames extra).idxOf? name = some i := by
      refine List.idxOf?_eq_some_iff.mpr ⟨?_, ?_, fun j before => ?_⟩
      · rw [List.length_append]
        exact Nat.lt_add_right _ inside
      · rw [List.getElem_append_left inside, here]
      · rw [List.getElem_append_left (before.trans inside)]
        exact earlier j before
    have bound : i < cells.length := by
      rwa [Field.headerNames, List.length_map, ← full] at inside
    rw [first, stays]
    refine Presence.ofCell_getD ?_
    rw [List.getD_append _ _ _ _ bound]
  · have lost : name ∉ Field.headerNames header ++ Field.headerNames extra := by
      rw [List.mem_append, not_or]
      exact ⟨known, unread known⟩
    rw [List.idxOf?_eq_none_iff.mpr known, List.idxOf?_eq_none_iff.mpr lost]
    rfl

theorem named_filled {filled : Record} (ends : IsFilled header.length cells filled)
    (name : String) : Presence.named header cells name = Presence.named header filled name := by
  obtain ⟨n, more, rfl, last⟩ := ends
  unfold Presence.named
  cases place : (Field.headerNames header).idxOf? name with
  | none => rfl
  | some i =>
      obtain ⟨inside, -⟩ := List.idxOf?_eq_some_iff.mp place
      rw [Field.headerNames, List.length_map] at inside
      refine Presence.ofCell_getD ?_
      by_cases bound : i < cells.length
      · rw [List.getD_append _ _ _ _ bound]
      · rw [List.getD_eq_default _ _ (Nat.le_of_not_lt bound),
          List.getD_append_right _ _ _ _ (Nat.le_of_not_lt bound)]
        by_cases blank : i - cells.length < n
        · rw [List.getD_append _ _ _ _ (by simpa using blank), List.getD_replicate _ blank]
        · rcases last with rfl | beyond
          · rw [List.append_nil, List.getD_eq_default _ _ (by simpa using blank)]
          · omega

end Csv.Record

namespace Relaid

variable {columns : List String} {header header' : Csv.Record} {rows rows' : List Csv.Record}

/-- Other layouts have the same cells for all columns that are read. -/
theorem named (relaid : Relaid columns header rows header' rows') :
    List.Forall₂ (fun cells cells' => ∀ name ∈ columns,
      Presence.named header cells name = Presence.named header' cells' name) rows rows' := by
  cases relaid with
  | arranged order once distinct =>
      rw [List.forall₂_map_right_iff, List.forall₂_same]
      intro cells _ name _
      exact Csv.Record.named_arrange once distinct name
  | widened extra wider full unread longer =>
      have free : ∀ name ∈ columns, name ∉ Field.headerNames header →
          name ∉ Field.headerNames extra := by
        intro name read unknown inside
        obtain ⟨before, after, split, first⟩ := List.eq_append_cons_of_mem inside
        rcases unread before name after split with other | taken
        · exact other read
        · exact (List.mem_append.mp taken).elim unknown first
      rw [List.forall₂_iff_get] at longer ⊢
      refine ⟨longer.1, fun i inside inside' name read => ?_⟩
      exact Csv.Record.named_append (full _ (List.get_mem _ _)) (longer.2 i inside inside')
        (free name read)
  | filled longer ends =>
      exact ends.imp fun cells longer ends name _ => Csv.Record.named_filled ends name

theorem refl (columns : List String) (header : Csv.Record) (rows : List Csv.Record) :
    Relaid columns header rows header rows := by
  refine .filled rows (List.forall₂_same.mpr fun cells _ => ?_)
  exact ⟨0, [], (List.append_nil cells).symm, Or.inl rfl⟩

end Relaid

/-- Whether two fields are of one column and have the same cell in two rows. -/
def Field.Alike (cells cells' : Csv.Record) (field field' : Field) : Prop :=
  field.column = field'.column ∧ field.presence cells = field'.presence cells'

namespace Notes

variable {schema : Schema} {cells cells' : Csv.Record} {layout layout' : List Field}

variable {rows rows' : List Csv.Record} (alike : List.Forall₂ (fun cells cells' =>
  List.Forall₂ (Field.Alike cells cells') layout layout') rows rows')
include alike

end Notes

namespace Holdings

variable {schema : Schema} {cells cells' : Csv.Record} {layout layout' : List Field}

end Holdings

namespace Relaid

variable {schema : Schema} {header header' : Csv.Record} {rows rows' : List Csv.Record}

theorem alike (relaid : Relaid schema.columnNames header rows header' rows') :
    List.Forall₂ (fun cells cells' => List.Forall₂ (Field.Alike cells cells')
      (Field.layout schema header) (Field.layout schema header')) rows rows' := by
  refine relaid.named.imp fun cells cells' same => ?_
  unfold Field.layout
  rw [List.forall₂_map_left_iff, List.forall₂_map_right_iff, List.forall₂_same]
  exact fun column listed => ⟨rfl, same column.name (List.mem_map_of_mem listed)⟩

end Relaid

namespace Entry

theorem Relaid.name {columns : List String} {entry entry' : Entry}
    (relaid : entry.Relaid columns entry') : entry'.name = entry.name := by
  cases relaid with
  | same | records | marked => rfl

end Entry

namespace Archive

variable {R : Entry → Entry → Prop} (named : ∀ entry entry', R entry entry' →
  entry'.name = entry.name) {archive archive' : Archive} (changed : List.Forall₂ R archive archive')
include named changed

end Archive

/-- What a load leaves, without the log and a listener. -/
def Loaded.kept (loaded : Loaded) : Loaded := { loaded with session := loaded.session.kept }

namespace Schema

variable {schema : Schema} {archive archive' : Archive} {location location' : Archive.Location}

variable (table : Table) (s : Session) (found : archive.locate? schema.name = some location)
  (found' : archive'.locate? schema.name = some location')
  (folder : s.found schema location' = s.found schema location)
  (name : location'.entry.name = location.entry.name)
  (state : location'.entry.state = location.entry.state)
include found found' folder name state

omit found found' folder name state

end Schema

end TransitFeed

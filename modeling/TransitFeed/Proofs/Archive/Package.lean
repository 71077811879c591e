import Mathlib.Data.List.Basic
import TransitFeed.Archive.Package
import TransitFeed.Load.Basic
import TransitFeed.Proofs.Csv.RoundTrip
import TransitFeed.Proofs.Csv.Terminated

/-! # Reading back an entry

A table whose records have a cell for each column is written without a fault, and its entry holds a
line for the header and one for each record. Unless the header starts with a byte order mark, which
reading skips, the entry is read as exactly these lines, whatever the texts of their cells are.
-/

namespace TransitFeed

namespace Utf8

theorem decode_byteOrderMark (rest : Octets) :
    (decode (byteOrderMark ++ rest)).toList = '\uFEFF' :: decodeFrom none rest := by
  rw [decode, String.toList_ofList]
  rfl

/-- Only a text that starts with the character of a byte order mark has one in front. -/
theorem withoutMark_encode {text : String} (unmarked : text.toList.head? ≠ some '\uFEFF') :
    withoutMark (encode text) = encode text := by
  rcases mark_cases (encode text) with ⟨rest, marked, -, -⟩ | ⟨-, same, -⟩
  · have back := decode_byteOrderMark rest
    rw [← marked, decode_encode] at back
    exact absurd (by rw [back]; rfl) unmarked
  · exact same

end Utf8

namespace Csv

def lines : List (List String) → String
  | [] => ""
  | cells :: rest => line cells ++ lines rest

theorem encode_lines (rows : List (List String)) :
    Utf8.encode (lines rows) = rows.flatMap fun cells => Utf8.encode (line cells) := by
  induction rows with
  | nil => rfl
  | cons cells rest ih => rw [lines, Utf8.encode_append, ih, List.flatMap_cons]

theorem head?_cellText {cell : List Char} {c : Char} (starts : (cellText cell).head? = some c) :
    cell.head? = some c ∨ isSpecial c = true := by
  unfold cellText openCell at starts
  split at starts
  · obtain rfl := Option.some.inj starts
    exact Or.inr rfl
  · exact Or.inl starts

theorem head?_row {cell : List Char} {rest : List (List Char)} {c : Char}
    (starts : (row (cell :: rest)).head? = some c) : cell.head? = some c ∨ isSpecial c = true := by
  cases rest with
  | nil => exact head?_cellText starts
  | cons next rest =>
      change (cellText cell ++ [','] ++ row (next :: rest)).head? = some c at starts
      rw [List.append_assoc, List.head?_append] at starts
      cases first : (cellText cell).head? with
      | some d =>
          rw [first] at starts
          obtain rfl := Option.some.inj starts
          exact head?_cellText first
      | none =>
          rw [first] at starts
          obtain rfl := Option.some.inj starts
          exact Or.inr rfl

theorem head?_line {cell : String} {more : List String} {c : Char}
    (starts : (line (cell :: more)).toList.head? = some c) :
    cell.toList.head? = some c ∨ isSpecial c = true := by
  simp only [line, List.map_cons, String.toList_ofList] at starts
  split at starts
  · obtain rfl := Option.some.inj starts
    exact Or.inr rfl
  · next full =>
      rw [List.head?_append_of_ne_nil _ (by simpa using full)] at starts
      exact head?_row starts

variable {name : String} {more : List String} {rows : List (List String)}

theorem withoutMark_lines (unmarked : name.toList.head? ≠ some '\uFEFF') :
    Utf8.withoutMark (Utf8.encode (lines ((name :: more) :: rows))) =
      Utf8.encode (lines ((name :: more) :: rows)) := by
  refine Utf8.withoutMark_encode fun marked => ?_
  have nonempty : (line (name :: more)).toList ≠ [] := by
    simp [line]
  rw [lines, String.toList_append, List.head?_append_of_ne_nil _ nonempty] at marked
  rcases head?_line marked with first | special
  · exact unmarked first
  · exact absurd special (by decide)

theorem records_lines (unmarked : name.toList.head? ≠ some '\uFEFF')
    (nonempty : ∀ cells ∈ rows, cells ≠ []) :
    records (Utf8.encode (lines ((name :: more) :: rows))) =
      ((name :: more) :: rows).map (List.map Utf8.encode) := by
  have every : ∀ cells ∈ (name :: more) :: rows, cells ≠ [] :=
    List.forall_mem_cons.mpr ⟨List.cons_ne_nil _ _, nonempty⟩
  have read := foldl_lines every []
  rw [← encode_lines] at read
  rw [records, scan, withoutMark_lines unmarked]
  change (Reader.finish ((Utf8.encode (lines ((name :: more) :: rows))).foldl Reader.step
    ⟨.recordStart, [], [], []⟩)).records.reverse = _
  rw [read]
  simp [Reader.finish]

end Csv

theorem Entry.records_of_lines {entry : Entry} {name : String} {more : List String}
    {rows : List (List String)} (intact : entry.state = .intact)
    (content : entry.content = Utf8.encode (Csv.lines ((name :: more) :: rows)))
    (unmarked : name.toList.head? ≠ some '\uFEFF') (nonempty : ∀ cells ∈ rows, cells ≠ []) :
    entry.records = ((name :: more) :: rows).map (List.map Utf8.encode) := by
  rw [Entry.records, if_pos intact, Entry.body, content, Csv.withoutMark_lines unmarked,
    Csv.records_lines unmarked nonempty]

namespace Session

theorem settings_passRow (s : Session) (row : Nat) :
    (s.passRow row).settings = s.settings := by
  unfold passRow
  split <;> rfl

end Session

namespace Writing

theorem rows_cons {width : Nat} {values : List Value} (fits : values.length = width) (w : Writing)
    (rest : List (List Value)) :
    w.rows width (values :: rest) =
      rows width ⟨w.session.passRow (w.row + 1), w.text ++ Csv.line (values.map Value.cell),
        w.row + 1, none⟩ rest := by
  rw [rows, if_pos (by rwa [List.length_map])]

/-- Records of the right width are written as lines, whatever was written before. -/
theorem rows_of_width {width : Nat} {records : List (List Value)}
    (wide : ∀ values ∈ records, values.length = width) {w : Writing} (clean : w.fault = none) :
    (w.rows width records).fault = none ∧
      (w.rows width records).row = w.row + records.length ∧
        (w.rows width records).text = w.text ++ Csv.lines (records.map (List.map Value.cell)) ∧
          (w.rows width records).session.settings = w.session.settings := by
  induction records generalizing w with
  | nil => exact ⟨clean, rfl, by simp [rows, Csv.lines], rfl⟩
  | cons values rest ih =>
      rw [rows_cons (wide values List.mem_cons_self)]
      obtain ⟨fault, row, text, settings⟩ := ih
        (fun other member => wide other (List.mem_cons_of_mem _ member))
        (w := ⟨w.session.passRow (w.row + 1), w.text ++ Csv.line (values.map Value.cell),
          w.row + 1, none⟩) rfl
      refine ⟨fault, ?_, ?_, settings.trans (Session.settings_passRow _ _)⟩
      · rw [row, List.length_cons, Nat.add_right_comm, Nat.add_assoc]
      · rw [text, List.map_cons, Csv.lines, String.append_assoc]

end Writing

namespace Package

variable {package : Package} {table : String}

/-- A table whose records have the right width is written as one new entry of lines. -/
theorem write_of_width (new : package.hasName (table ++ ".txt") = false) {columns : List String}
    {records : List (List Value)} (wide : ∀ values ∈ records, values.length = columns.length)
    (session : Session) :
    (package.write table columns records session).fault = none ∧
      (package.write table columns records session).rows = records.length ∧
        (package.write table columns records session).package =
            package ++ [⟨table ++ ".txt",
              Csv.lines (columns :: records.map (List.map Value.cell))⟩] ∧
          (package.write table columns records session).session.settings = session.settings := by
  obtain ⟨fault, row, text, settings⟩ := Writing.rows_of_width wide
    (w := ⟨session.logs .info ("writing table " ++ table), Csv.line columns, 0, none⟩) rfl
  unfold write
  simp only [new, Bool.false_eq_true, if_false, fault, Option.isNone_none, if_true]
  refine ⟨trivial, ?_, ?_, settings⟩
  · rw [row, Nat.zero_add]
  · rw [text, Csv.lines]

/-- Cells of any text survive: the entry of a table is read as its header and its rows. -/
theorem records_write (new : package.hasName (table ++ ".txt") = false) {name : String}
    (unmarked : name.toList.head? ≠ some '\uFEFF') (more : List String) {rows : List (List String)}
    (wide : ∀ row ∈ rows, row.length = (name :: more).length) (session : Session) :
    let written := package.write table (name :: more)
      (rows.map (List.map fun cell => Value.text (some cell))) session
    written.fault = none ∧ written.rows = rows.length ∧
      ∃ entry, written.package.archive = package.archive ++ [entry] ∧
        entry.name = table ++ ".txt" ∧ entry.state = .intact ∧
          entry.records = ((name :: more) :: rows).map (List.map Utf8.encode) ∧
            entry.records.map (List.map Utf8.decode) = (name :: more) :: rows := by
  have texts : (rows.map (List.map fun cell => Value.text (some cell))).map
      (List.map Value.cell) = rows := by
    simp [List.map_map, Function.comp_def, Value.cell]
  have fits : ∀ values ∈ rows.map (List.map fun cell => Value.text (some cell)),
      values.length = (name :: more).length := by
    intro values member
    obtain ⟨row, inside, rfl⟩ := List.mem_map.mp member
    rw [List.length_map]
    exact wide row inside
  have nonempty : ∀ row ∈ rows, row ≠ [] := by
    rintro row member rfl
    exact absurd (wide [] member) (by simp)
  obtain ⟨fault, count, sheets, -⟩ := write_of_width new fits session
  rw [texts] at sheets
  rw [List.length_map] at count
  let entry : Entry :=
    { name := table ++ ".txt", content := Utf8.encode (Csv.lines ((name :: more) :: rows)) }
  have read : entry.records = ((name :: more) :: rows).map (List.map Utf8.encode) :=
    Entry.records_of_lines rfl rfl unmarked nonempty
  have archived : (package.write table (name :: more)
      (rows.map (List.map fun cell => Value.text (some cell))) session).package.archive =
        package.archive ++ [entry] := by
    rw [sheets, archive, List.map_append]
    rfl
  refine ⟨fault, count, entry, archived, rfl, rfl, read, ?_⟩
  rw [read, List.map_map]
  simp [Function.comp_def, Utf8.decode_encode]

/-- Cells that are empty, a line break, a quotation with a comma, and white space around a mark. -/
def oneColumn : List (List String) := [[""], ["\r\n"], ["say \"a, b\""], [" \uFEFF "]]

theorem records_write_oneColumn :
    (∀ row ∈ oneColumn, row.length = ["note"].length) ∧
      ∃ entry, (Package.write [] "notes" ["note"]
          (oneColumn.map (List.map fun cell => Value.text (some cell))) {}).package.archive =
            [entry] ∧
        entry.records.map (List.map Utf8.decode) = ["note"] :: oneColumn := by
  have wide : ∀ row ∈ oneColumn, row.length = ["note"].length := by decide
  have new : Package.hasName [] ("notes" ++ ".txt") = false := rfl
  have unmarked : "note".toList.head? ≠ some '\uFEFF' := by decide
  obtain ⟨-, -, entry, only, -, -, -, texts⟩ := records_write new unmarked [] wide {}
  exact ⟨wide, entry, only, texts⟩

end Package

end TransitFeed

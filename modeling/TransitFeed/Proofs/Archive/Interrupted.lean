import TransitFeed.Proofs.Archive.Package

/-! # Entries that break off

A table is written until the first record that has not a cell for each column. The cells of this
record are in the entry without the end of a line, and the last one may lack its closing quotation
mark. What stands before them ends with a line feed outside quotation marks, so it is read as the
header and the good records, whatever follows; the broken record adds at most one record behind
them.
-/

namespace TransitFeed

namespace Csv

open Utf8

/-- What is read of a record that was not ended. Without a comma or a character nothing is. -/
def torn (cells : List String) : List (List String) :=
  if cells = [] ∨ cells = [""] then [] else [cells]

theorem length_torn (cells : List String) : (torn cells).length ≤ 1 := by
  unfold torn
  split
  · exact Nat.zero_le 1
  · exact Nat.le_refl 1

theorem encode_openLine_singleton (cell : String) :
    encode (openLine [cell]) = octetsOf (openCell cell.toList) := by
  simp [openLine, encode]

theorem encode_openLine_cons (cell next : String) (rest : List String) :
    encode (openLine (cell :: next :: rest)) =
      octetsOf (cellText cell.toList) ++ 44 :: encode (openLine (next :: rest)) := by
  simp only [openLine, List.map_cons, List.dropLast_cons_cons, List.flatMap_cons,
    List.getLast?_cons_cons, encode, String.toList_ofList, octetsOf, List.flatMap_append,
    List.append_assoc]
  rfl

namespace Reader

variable {place : Place}

/-- Where the reader is after a cell that has not been ended. -/
theorem foldl_openCell (opens : Opens place) (chars : List Char) (cells : List Octets)
    (records : List Record) :
    ∃ after, (octetsOf (openCell chars)).foldl step ⟨place, [], cells, records⟩ =
        ⟨after, (octetsOf chars).reverse, cells, records⟩ ∧
      (after = .recordStart ↔ place = .recordStart ∧ chars = []) := by
  cases special : chars.any isSpecial with
  | true =>
      refine ⟨.quoted, foldl_openQuoted opens special, by simp, ?_⟩
      rintro ⟨-, rfl⟩
      contradiction
  | false =>
      have text : openCell chars = chars := by simp [openCell, special]
      rw [text]
      by_cases empty : chars = []
      · subst empty
        exact ⟨place, rfl, by simp⟩
      · exact ⟨.bare, foldl_bareCell opens empty special, by simp [empty]⟩

/-- The cells of a line that is not ended are complete but for the last one. No record is added to
    the complete ones. -/
theorem foldl_openLine (cell : String) (rest : List String) (opens : Opens place)
    (cells : List Octets) (records : List Record) :
    let r := (encode (openLine (cell :: rest))).foldl step ⟨place, [], cells, records⟩
    r.records = records ∧
      (r.cell.reverse :: r.cells).reverse = cells.reverse ++ (cell :: rest).map encode ∧
        (r.place = .recordStart ↔ place = .recordStart ∧ cell = "" ∧ rest = []) := by
  -- On the cells that follow. After a comma the reader is never before a record.
  induction rest generalizing cell place cells with
  | nil =>
      obtain ⟨after, read, start⟩ := foldl_openCell opens cell.toList cells records
      rw [encode_openLine_singleton, read]
      refine ⟨rfl, by simp [encode], ?_⟩
      rw [start, String.toList_eq_nil_iff]
      simp
  | cons next rest ih =>
      obtain ⟨after, read, unquoted, -⟩ := foldl_cellText opens cell.toList cells records
      rw [encode_openLine_cons, List.foldl_append, read, List.foldl_cons, step_comma unquoted]
      obtain ⟨same, all, start⟩ :=
        ih next (Or.inr rfl) ((octetsOf cell.toList).reverse.reverse :: cells)
      refine ⟨same, all.trans (by simp [encode]), ?_⟩
      rw [start]
      simp

theorem records_openLine (cells : List String) (records : List Record) :
    ((encode (openLine cells)).foldl step ⟨.recordStart, [], [], records⟩).finish.records =
      ((torn cells).map (List.map encode)).reverse ++ records := by
  cases cells with
  | nil => rfl
  | cons cell rest =>
      obtain ⟨same, all, start⟩ := foldl_openLine cell rest (Or.inl rfl) [] records
      unfold finish
      by_cases blank : cell = "" ∧ rest = []
      · obtain ⟨rfl, rfl⟩ := blank
        rfl
      · have full : torn (cell :: rest) = [cell :: rest] := by
          refine if_neg ?_
          rintro (none | single)
          · contradiction
          · exact blank (List.cons.inj single)
        rw [if_neg fun at_start => blank (start.mp at_start).2, endRecord]
        dsimp only
        rw [all, same, full]
        rfl

end Reader

/-- The records of a content in which a byte order mark in front is text like any other. -/
def markedRecords (content : Octets) : List Record :=
  (content.foldl Reader.step Reader.initial).finish.records.reverse

variable {rows : List (List String)}

/-- Behind lines that are ended, what follows is read as if nothing had been there. -/
theorem finish_lines (nonempty : ∀ row ∈ rows, row ≠ []) (cells : List String)
    (records : List Record) :
    ((encode (lines rows ++ openLine cells)).foldl Reader.step
        ⟨.recordStart, [], [], records⟩).finish.records.reverse =
      records.reverse ++ (rows ++ torn cells).map (List.map encode) := by
  rw [encode_append, encode_lines, List.foldl_append, foldl_lines nonempty,
    Reader.records_openLine]
  simp

variable {chars : List Char} {more : List (List Char)}

theorem row_of_marked (marked : (row (chars :: more)).head? = some '\uFEFF') :
    ∃ rest, row (chars :: more) = '\uFEFF' :: row (rest :: more) := by
  cases special : chars.any isSpecial with
  | true =>
      cases more with
      | nil | cons => simp [row, Text.join, cellText, openCell, special] at marked
  | false =>
      have bare : cellText chars = chars := by simp [cellText, special]
      cases chars with
      | nil =>
          cases more with
          | nil | cons => simp [row, Text.join, bare] at marked
      | cons c rest =>
          have bare' : cellText rest = rest := by
            rw [List.any_cons, Bool.or_eq_false_iff] at special
            simp [cellText, special.2]
          obtain rfl : c = '\uFEFF' := by
            cases more with
            | nil | cons => simpa [row, Text.join, bare] using marked
          refine ⟨rest, ?_⟩
          cases more with
          | nil | cons => simp [row, Text.join, bare, bare']

theorem withoutMark_row (chars : List Char) (more : List (List Char)) :
    ∃ first, ∀ rest : List Char,
      withoutMark (octetsOf (row (chars :: more) ++ '\n' :: rest)) =
        octetsOf (row (first :: more) ++ '\n' :: rest) := by
  by_cases marked : (row (chars :: more)).head? = some '\uFEFF'
  · obtain ⟨first, text⟩ := row_of_marked marked
    exact ⟨first, fun rest => by rw [text]; rfl⟩
  · refine ⟨chars, fun rest => ?_⟩
    have unmarked : (row (chars :: more) ++ '\n' :: rest).head? ≠ some '\uFEFF' := by
      rw [List.head?_append]
      cases starts : (row (chars :: more)).head? with
      | none => simp
      | some c => simpa [starts] using marked
    have same : withoutMark (encode (String.ofList (row (chars :: more) ++ '\n' :: rest))) =
        encode (String.ofList (row (chars :: more) ++ '\n' :: rest)) :=
      withoutMark_encode (by simpa using unmarked)
    simpa [encode] using same

/-- Behind a line of any cells the reader is before a record. -/
theorem foldl_anyRow (chars : List Char) (more : List (List Char)) :
    ∃ header, ∀ rest : List Char,
      (octetsOf (row (chars :: more) ++ '\n' :: rest)).foldl Reader.step Reader.initial =
        (octetsOf rest).foldl Reader.step ⟨.recordStart, [], [], header⟩ := by
  have text (rest : List Char) : octetsOf (row (chars :: more) ++ '\n' :: rest) =
      (octetsOf (row (chars :: more)) ++ [10]) ++ octetsOf rest := by
    simp only [octetsOf, List.flatMap_append, List.flatMap_cons, List.append_assoc]
    rfl
  by_cases blank : more = [] ∧ chars = []
  · obtain ⟨rfl, rfl⟩ := blank
    exact ⟨[], fun rest => rfl⟩
  · refine ⟨[(chars :: more).map octetsOf], fun rest => ?_⟩
    rw [text, List.foldl_append, Reader.initial, foldl_row chars more (Or.inl rfl)
      (fun _ alone empty => blank ⟨alone, empty⟩), List.append_nil, List.reverse_reverse]

theorem foldl_markedLine (name : String) (more : List String) :
    ∃ header, ∀ rest : String,
      (withoutMark (withoutMark (encode (line (name :: more) ++ rest)))).foldl Reader.step
          Reader.initial =
        (encode rest).foldl Reader.step ⟨.recordStart, [], [], header⟩ := by
  by_cases blank : row ((name :: more).map String.toList) = []
  · refine ⟨[[[]]], fun rest => ?_⟩
    have text : encode (line (name :: more) ++ rest) = 34 :: 34 :: 10 :: encode rest := by
      rw [encode_append, line, blank]
      rfl
    rw [text]
    rfl
  · obtain ⟨first, once⟩ := withoutMark_row name.toList (more.map String.toList)
    obtain ⟨second, twice⟩ := withoutMark_row first (more.map String.toList)
    obtain ⟨header, read⟩ := foldl_anyRow second (more.map String.toList)
    refine ⟨header, fun rest => ?_⟩
    have text : encode (line (name :: more) ++ rest) =
        octetsOf (row (name.toList :: more.map String.toList) ++ '\n' :: rest.toList) := by
      rw [List.map_cons] at blank
      simp [line, encode, blank]
    rw [text, once, twice, read]
    rfl

end Csv

/-- The octets of an entry are those of a header and rows. A load skips a mark in front; this can
    change what it reads as the header, if the first name starts with one, and never the rows. -/
structure Entry.Holds (entry : Entry) (columns : List String) (rows : List (List String)) :
    Prop where
  intact : entry.state = .intact
  marked : Csv.markedRecords entry.content = (columns :: rows).map (List.map Utf8.encode)
  records : entry.records =
    Entry.records { entry with content := Utf8.encode (Csv.line columns) } ++
      rows.map (List.map Utf8.encode)
  unmarked : (columns.head?.bind (·.toList.head?)) ≠ some '\uFEFF' →
    entry.records = (columns :: rows).map (List.map Utf8.encode)

/-- A header and lines are read, and at most one record of a line that is not ended. -/
theorem Entry.holds_of_lines {entry : Entry} {columns : List String}
    {rows : List (List String)} (some_column : columns ≠ []) (nonempty : ∀ row ∈ rows, row ≠ [])
    (cells : List String) (intact : entry.state = .intact)
    (content : entry.content =
      Utf8.encode (Csv.line columns ++ (Csv.lines rows ++ Csv.openLine cells))) :
    entry.Holds columns (rows ++ Csv.torn cells) := by
  obtain ⟨name, more, rfl⟩ := List.exists_cons_of_ne_nil some_column
  obtain ⟨header, read⟩ := Csv.foldl_markedLine name more
  have all : entry.records = header.reverse ++
      (rows ++ Csv.torn cells).map (List.map Utf8.encode) := by
    rw [Entry.records, if_pos intact, Csv.records, Csv.scan, Entry.body, content, read,
      Csv.finish_lines nonempty]
  have first : Entry.records { entry with content := Utf8.encode (Csv.line (name :: more)) } =
      header.reverse := by
    have alone := read ""
    rw [String.append_empty] at alone
    rw [Entry.records, if_pos intact, Csv.records, Csv.scan, Entry.body, alone]
    rfl
  refine ⟨intact, ?_, by rw [first, all], fun unmarked => ?_⟩
  · rw [Csv.markedRecords, content, Utf8.encode_append, List.foldl_append, Csv.Reader.initial,
      Csv.foldl_line some_column, Csv.finish_lines nonempty]
    rfl
  · have line : Utf8.encode (Csv.line (name :: more)) =
        Utf8.encode (Csv.lines ((name :: more) :: [])) := by
      rw [Csv.lines, Csv.lines, String.append_empty]
    have alone :
        Entry.records { entry with content := Utf8.encode (Csv.line (name :: more)) } = _ :=
      Entry.records_of_lines intact line unmarked (by simp)
    rw [all, ← first, alone]
    rfl

namespace Writing

variable {width : Nat} {before : List (List Value)} {values : List Value}

theorem rows_append (wide : ∀ values ∈ before, values.length = width) (w : Writing)
    (rest : List (List Value)) :
    w.rows width (before ++ rest) = (w.rows width before).rows width rest := by
  induction before generalizing w with
  | nil => rfl
  | cons values before ih =>
      have fits : values.length = width := wide values List.mem_cons_self
      rw [List.cons_append, rows_cons fits, rows_cons fits,
        ih fun other member => wide other (List.mem_cons_of_mem _ member)]

theorem rows_cut (other : values.length ≠ width) (w : Writing) (after : List (List Value)) :
    w.rows width (values :: after) =
      { session := w.session.passRow (w.row + 1), row := w.row + 1
        text := w.text ++ Csv.openLine (values.map Value.cell)
        fault := some (.of (.unequalRecord values.length width)) } := by
  have differ : (values.map Value.cell).length ≠ width := by rwa [List.length_map]
  rw [rows, if_neg differ, List.length_map]

end Writing

namespace Package

variable {package : Package} {table : String} {columns : List String}

/-- A write has added an entry of the table that is read as a header and rows. -/
def Gains (package : Package) (table : String) (columns : List String) (written : Written)
    (rows : List (List String)) : Prop :=
  ∃ entry, written.package.archive = package.archive ++ [entry] ∧ entry.name = table ++ ".txt" ∧
    entry.Holds columns rows

theorem gains_of_lines (some_column : columns ≠ []) {written : Written}
    {rows : List (List String)} (nonempty : ∀ row ∈ rows, row ≠ []) {cells : List String}
    (sheets : written.package = package ++ [⟨table ++ ".txt",
      Csv.line columns ++ (Csv.lines rows ++ Csv.openLine cells)⟩]) :
    package.Gains table columns written (rows ++ Csv.torn cells) := by
  refine ⟨{ name := table ++ ".txt", content := _ }, ?_, rfl,
    Entry.holds_of_lines some_column nonempty cells rfl rfl⟩
  rw [sheets, archive, List.map_append]
  rfl

theorem nonempty_of_wide (some_column : columns ≠ []) {records : List (List Value)}
    (wide : ∀ values ∈ records, values.length = columns.length) :
    ∀ row ∈ records.map (List.map Value.cell), row ≠ [] := by
  intro row member empty
  obtain ⟨values, inside, rfl⟩ := List.mem_map.mp member
  have length := wide values inside
  rw [List.map_eq_nil_iff.mp empty] at length
  exact some_column (List.length_eq_zero_iff.mp length.symm)

variable {before : List (List Value)} {values : List Value}

theorem write_of_other (new : package.hasName (table ++ ".txt") = false)
    (wide : ∀ good ∈ before, good.length = columns.length)
    (other : values.length ≠ columns.length) (after : List (List Value)) (session : Session) :
    let written := package.write table columns (before ++ values :: after) session
    written.fault = some (.of (.unequalRecord values.length columns.length)) ∧
      written.rows = before.length + 1 ∧
        written = package.write table columns (before ++ [values]) session ∧
          written.package = package ++ [⟨table ++ ".txt", Csv.line columns ++
            (Csv.lines (before.map (List.map Value.cell)) ++
              Csv.openLine (values.map Value.cell))⟩] := by
  obtain ⟨-, row, text, -⟩ := Writing.rows_of_width wide
    (w := ⟨session.logs .info ("writing table " ++ table), Csv.line columns, 0, none⟩) rfl
  simp only [write, new, Bool.false_eq_true, if_false, Writing.rows_append wide,
    Writing.rows_cut other, row, text, Option.isNone_some]
  refine ⟨trivial, by rw [Nat.zero_add], trivial, ?_⟩
  rw [String.append_assoc]

/-- A table is written until the first record that has not a cell for each column, and nothing is
    written of what follows. The entry is read as the header and the records before, and then at
    most one record with the cells of the broken one. Without such a record all of them are read.
    A name that is taken is refused. -/
theorem write_until_other (some_column : columns ≠ []) (package : Package) (table : String)
    (session : Session) :
    (package.hasName (table ++ ".txt") = false →
      (∀ (before : List (List Value)) (values : List Value) (after : List (List Value)),
        (∀ good ∈ before, good.length = columns.length) → values.length ≠ columns.length →
          let written := package.write table columns (before ++ values :: after) session
          let tail := Csv.torn (values.map Value.cell)
          written.fault = some (.of (.unequalRecord values.length columns.length)) ∧
            written.rows = before.length + 1 ∧
              written = package.write table columns (before ++ [values]) session ∧
                package.Gains table columns written
                  (before.map (List.map Value.cell) ++ tail) ∧ tail.length ≤ 1) ∧
        ∀ records : List (List Value), (∀ values ∈ records, values.length = columns.length) →
          let written := package.write table columns records session
          written.fault = none ∧ written.rows = records.length ∧
            package.Gains table columns written (records.map (List.map Value.cell))) ∧
      (package.hasName (table ++ ".txt") = true → ∀ records : List (List Value),
        let written := package.write table columns records session
        written.fault = some ⟨[.startingEntry table], .duplicateEntry (table ++ ".txt")⟩ ∧
          written.rows = 0 ∧ written.package = package) := by
  constructor
  · intro new
    refine ⟨fun before values after wide other => ?_, fun records wide => ?_⟩
    · obtain ⟨fault, count, same, sheets⟩ := write_of_other new wide other after session
      exact ⟨fault, count, same, gains_of_lines some_column (nonempty_of_wide some_column wide)
        sheets, Csv.length_torn _⟩
    · obtain ⟨fault, count, sheets, -⟩ := write_of_width new wide session
      have ended (rows : List (List String)) :
          Csv.lines rows ++ Csv.openLine [] = Csv.lines rows := String.append_empty
      rw [Csv.lines, ← ended] at sheets
      have gains := gains_of_lines some_column (nonempty_of_wide some_column wide) sheets
      rw [show Csv.torn [] = [] from rfl, List.append_nil] at gains
      exact ⟨fault, count, gains⟩
  · intro taken records
    rw [write, if_pos taken]
    exact ⟨rfl, rfl, rfl⟩

/-- A row of two cells, one with a quotation mark alone, and a row that is not reached. -/
def unevenRows : List (List Value) :=
  [["x", "1\n2"], ["no \"end"], ["y", "z"]].map (List.map fun text => .text (some text))

/-- The quotation mark of the broken row is not closed. The name of the table is taken then. -/
theorem write_until_other_openQuote :
    let written := Package.write [] "sheet" ["a", "b"] unevenRows {}
    written.fault = some (.of (.unequalRecord 1 2)) ∧ written.rows = 2 ∧
      (∃ entry, written.package.archive = [entry] ∧ entry.content.getLast? = some 100 ∧
        entry.records.map (List.map Utf8.decode) = [["a", "b"], ["x", "1\n2"], ["no \"end"]]) ∧
        (written.package.write "sheet" ["a", "b"] [[]] {}).package = written.package ∧
          (Package.write [] "sheet" ["a", "b"] (unevenRows.take 1) {}).fault = none := by
  intro written
  have some_column : ["a", "b"] ≠ [] := by decide
  have wide : ∀ good ∈ unevenRows.take 1, good.length = ["a", "b"].length := by decide
  have taken : written.package.hasName ("sheet" ++ ".txt") = true := by decide +kernel
  obtain ⟨cut, all⟩ := (write_until_other some_column [] "sheet" {}).1 rfl
  obtain ⟨fault, count, -, ⟨entry, only, -, holds⟩, -⟩ :=
    cut (unevenRows.take 1) [.text (some "no \"end")] (unevenRows.drop 2) wide (by decide)
  have records := holds.unmarked (by decide)
  refine ⟨fault, count, ⟨entry, only, ?_, ?_⟩, ?_, (all _ wide).1⟩
  · have content : written.package.archive.map (·.content.getLast?) = [some 100] := by
      decide +kernel
    rw [show written.package.archive = [entry] from only] at content
    exact List.cons.inj content |>.1
  · rw [records]
    decide +kernel
  · exact ((write_until_other some_column written.package "sheet" {}).2 taken _).2.2

end Package

end TransitFeed

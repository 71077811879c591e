import TransitFeed.Csv.Reader
import TransitFeed.Csv.Writer
import TransitFeed.Proofs.Text.Utf8

/-! # Reading back comma-separated values

The reader undoes the writer. Every octet of a cell that is written bare is plain, and between
quotation marks every octet but a quotation mark belongs to the cell, so a line that was written
gives one record with the cells that it was written from.
-/

namespace TransitFeed.Csv

open Utf8

/-- The octets of characters. -/
abbrev octetsOf (chars : List Char) : Octets := chars.flatMap String.utf8EncodeChar

theorem sign_of_ascii {c : Char} (h : c.toNat < 0x80) :
    Sign.of (UInt8.ofNat c.toNat) =
      if c = ',' then .comma
      else if c = '\n' ∨ c = '\r' then .lineBreak
      else if c = '"' then .quote
      else .plain := by
  have bound : c.toNat < 256 := by omega
  have same (d : Char) : c = d ↔ c.toNat = d.toNat := Char.toNat_inj.symm
  simp only [Sign.of, octet_eq bound, same]
  rfl

theorem sign_of_high {octet : UInt8} (h : 0x80 ≤ octet.toNat) : Sign.of octet = .plain := by
  have differs {n : UInt8} (low : n.toNat < 0x80) : octet ≠ n := by
    rintro rfl
    omega
  simp only [Sign.of, differs (show (44 : UInt8).toNat < 0x80 by decide),
    differs (show (10 : UInt8).toNat < 0x80 by decide),
    differs (show (13 : UInt8).toNat < 0x80 by decide),
    differs (show (34 : UInt8).toNat < 0x80 by decide), or_self, if_false]

theorem sign_of_mem {c : Char} (h : isSpecial c = false) :
    ∀ octet ∈ String.utf8EncodeChar c, Sign.of octet = .plain := by
  intro octet member
  simp only [isSpecial, Bool.or_eq_false_iff, decide_eq_false_iff_not] at h
  obtain ⟨⟨⟨comma, quote⟩, feed⟩, carriage⟩ := h
  by_cases ascii : c.toNat < 0x80
  · rw [utf8EncodeChar_ascii ascii, List.mem_singleton] at member
    subst member
    simp only [sign_of_ascii ascii, comma, quote, feed, carriage, or_self, if_false]
  · exact sign_of_high (octet_of_wide (by omega) octet member)

theorem sign_ne_quote {c : Char} (h : c ≠ '"') :
    ∀ octet ∈ String.utf8EncodeChar c, Sign.of octet ≠ .quote := by
  intro octet member
  by_cases ascii : c.toNat < 0x80
  · rw [utf8EncodeChar_ascii ascii, List.mem_singleton] at member
    subst member
    rw [sign_of_ascii ascii]
    split
    · simp
    · split
      · simp
      · simp
  · simp [sign_of_high (octet_of_wide (Nat.le_of_not_lt ascii) octet member)]

namespace Reader

variable {cell : Octets} {cells : List Octets} {records : List Record} {place : Place}

theorem foldl_plain {octets : Octets} (plain : ∀ octet ∈ octets, Sign.of octet = .plain) :
    octets.foldl step ⟨.bare, cell, cells, records⟩ =
      ⟨.bare, octets.reverse ++ cell, cells, records⟩ := by
  induction octets generalizing cell with
  | nil => rfl
  | cons octet rest ih =>
      have first : step ⟨.bare, cell, cells, records⟩ octet =
          ⟨.bare, octet :: cell, cells, records⟩ := by
        simp only [step, plain octet List.mem_cons_self, keep]
      rw [List.foldl_cons, first, ih (fun o member => plain o (List.mem_cons_of_mem _ member))]
      simp

theorem foldl_quoted {octets : Octets} (unquoted : ∀ octet ∈ octets, Sign.of octet ≠ .quote) :
    octets.foldl step ⟨.quoted, cell, cells, records⟩ =
      ⟨.quoted, octets.reverse ++ cell, cells, records⟩ := by
  induction octets generalizing cell with
  | nil => rfl
  | cons octet rest ih =>
      have first : step ⟨.quoted, cell, cells, records⟩ octet =
          ⟨.quoted, octet :: cell, cells, records⟩ := by
        have sign := unquoted octet List.mem_cons_self
        cases h : Sign.of octet with
        | quote => exact absurd h sign
        | comma | lineBreak | plain => simp only [step, h, keep]
      rw [List.foldl_cons, first, ih (fun o member => unquoted o (List.mem_cons_of_mem _ member))]
      simp

theorem foldl_doubled (chars : List Char) :
    (octetsOf (doubled chars)).foldl step ⟨.quoted, cell, cells, records⟩ =
      ⟨.quoted, (octetsOf chars).reverse ++ cell, cells, records⟩ := by
  induction chars generalizing cell with
  | nil => rfl
  | cons c rest ih =>
      simp only [doubled, octetsOf, List.flatMap_cons, List.flatMap_append, List.foldl_append]
      by_cases quote : c = '"'
      · subst quote
        refine (@ih (34 :: cell)).trans ?_
        simp [octetsOf]
        rfl
      · simp only [quote, if_false, List.flatMap_cons, List.flatMap_nil, List.append_nil]
        rw [foldl_quoted (sign_ne_quote quote)]
        exact ih.trans (by simp [octetsOf])

/-- Where a cell may begin. -/
def Opens (place : Place) : Prop := place = .recordStart ∨ place = .cellStart

theorem foldl_bareCell (opens : Opens place) {chars : List Char} (nonempty : chars ≠ [])
    (bare : chars.any isSpecial = false) :
    (octetsOf chars).foldl step ⟨place, [], cells, records⟩ =
      ⟨.bare, (octetsOf chars).reverse, cells, records⟩ := by
  have plain : ∀ octet ∈ octetsOf chars, Sign.of octet = .plain := by
    intro octet member
    obtain ⟨c, inside, member⟩ := List.mem_flatMap.mp member
    exact sign_of_mem (by simpa using List.any_eq_false.mp bare c inside) octet member
  cases h : octetsOf chars with
  | nil =>
      have empty : encode (String.ofList chars) = [] := by simpa [encode] using h
      exact absurd (by simpa using congrArg String.toList (encode_eq_nil.mp empty)) nonempty
  | cons octet rest =>
      rw [h] at plain
      have first : step ⟨place, [], cells, records⟩ octet = ⟨.bare, [octet], cells, records⟩ := by
        rcases opens with rfl | rfl <;> simp only [step, plain octet List.mem_cons_self, keep]
      rw [List.foldl_cons, first,
        foldl_plain (fun o member => plain o (List.mem_cons_of_mem _ member))]
      simp

theorem foldl_openQuoted (opens : Opens place) {chars : List Char}
    (special : chars.any isSpecial = true) :
    (octetsOf (openCell chars)).foldl step ⟨place, [], cells, records⟩ =
      ⟨.quoted, (octetsOf chars).reverse, cells, records⟩ := by
  have opened : step ⟨place, [], cells, records⟩ 34 = ⟨.quoted, [], cells, records⟩ := by
    rcases opens with rfl | rfl <;> rfl
  have text : octetsOf (openCell chars) = 34 :: octetsOf (doubled chars) := by
    simp only [openCell, special, if_true, octetsOf, List.flatMap_cons]
    rfl
  rw [text, List.foldl_cons, opened, foldl_doubled, List.append_nil]

theorem foldl_quotedCell (opens : Opens place) {chars : List Char}
    (special : chars.any isSpecial = true) :
    (octetsOf (cellText chars)).foldl step ⟨place, [], cells, records⟩ =
      ⟨.quoteSeen, (octetsOf chars).reverse, cells, records⟩ := by
  have text : octetsOf (cellText chars) = octetsOf (openCell chars) ++ [34] := by
    simp only [cellText, special, if_true, octetsOf, List.flatMap_append]
    rfl
  rw [text, List.foldl_append, foldl_openQuoted opens special]
  rfl

/-- Where the reader is after a cell, before what ends it. -/
theorem foldl_cellText (opens : Opens place) (chars : List Char) (cells : List Octets)
    (records : List Record) :
    ∃ after, (octetsOf (cellText chars)).foldl step ⟨place, [], cells, records⟩ =
        ⟨after, (octetsOf chars).reverse, cells, records⟩ ∧
      after ≠ .quoted ∧ (after = .recordStart → place = .recordStart ∧ chars = []) := by
  cases special : chars.any isSpecial with
  | true => exact ⟨.quoteSeen, foldl_quotedCell opens special, by simp, by simp⟩
  | false =>
      have text : cellText chars = chars := by simp [cellText, special]
      rw [text]
      by_cases empty : chars = []
      · subst empty
        refine ⟨place, rfl, ?_, fun start => ⟨start, rfl⟩⟩
        rcases opens with rfl | rfl <;> simp
      · exact ⟨.bare, foldl_bareCell opens empty special, by simp, by simp⟩

theorem step_comma (unquoted : place ≠ .quoted) :
    step ⟨place, cell, cells, records⟩ 44 = ⟨.cellStart, [], cell.reverse :: cells, records⟩ := by
  cases place with
  | quoted => exact absurd rfl unquoted
  | recordStart | cellStart | bare | quoteSeen => rfl

theorem step_lineFeed (unquoted : place ≠ .quoted) (begun : place ≠ .recordStart) :
    step ⟨place, cell, cells, records⟩ 10 =
      ⟨.recordStart, [], [], (cell.reverse :: cells).reverse :: records⟩ := by
  cases place with
  | quoted => exact absurd rfl unquoted
  | recordStart => exact absurd rfl begun
  | cellStart | bare | quoteSeen => rfl

end Reader

open Reader in
theorem foldl_row (chars : List Char) (rest : List (List Char)) {place : Place}
    (opens : Opens place) (begun : place = .recordStart → rest = [] → chars ≠ [])
    (cells : List Octets) (records : List Record) :
    (octetsOf (row (chars :: rest)) ++ [10]).foldl step ⟨place, [], cells, records⟩ =
      ⟨.recordStart, [], [],
        (((chars :: rest).map octetsOf).reverse ++ cells).reverse :: records⟩ := by
  -- On the cells that follow. Only the first one may begin a record, and a blank one must not.
  induction rest generalizing chars place cells with
  | nil =>
      obtain ⟨after, read, unquoted, start⟩ :=
        foldl_cellText opens chars cells records
      have inside : after ≠ .recordStart := fun same =>
        begun (start same).1 rfl (start same).2
      rw [show row [chars] = cellText chars from rfl, List.foldl_append, read, List.foldl_cons,
        step_lineFeed unquoted inside]
      simp
  | cons next rest ih =>
      obtain ⟨after, read, unquoted, _⟩ :=
        foldl_cellText opens chars cells records
      have text : octetsOf (row (chars :: next :: rest)) ++ [10] =
          octetsOf (cellText chars) ++ 44 :: (octetsOf (row (next :: rest)) ++ [10]) := by
        simp only [row, List.map_cons, Text.join, octetsOf, List.flatMap_append,
          List.append_assoc]
        rfl
      rw [text, List.foldl_append, read, List.foldl_cons, step_comma unquoted,
        ih next (Or.inr rfl) (by simp)]
      simp

theorem cellText_ne_nil {chars : List Char} (nonempty : chars ≠ []) : cellText chars ≠ [] := by
  unfold cellText openCell
  split
  · simp
  · exact nonempty

theorem row_ne_nil {chars : List Char} {rest : List (List Char)}
    (begun : rest = [] → chars ≠ []) : row (chars :: rest) ≠ [] := by
  cases rest with
  | nil => exact cellText_ne_nil (begun rfl)
  | cons next rest => simp [row, Text.join]

theorem foldl_line {cells : List String} (nonempty : cells ≠ []) (records : List Record) :
    (encode (line cells)).foldl Reader.step ⟨.recordStart, [], [], records⟩ =
      ⟨.recordStart, [], [], cells.map encode :: records⟩ := by
  cases cells with
  | nil => exact absurd rfl nonempty
  | cons cell rest =>
      by_cases blank : rest = [] ∧ cell = ""
      · obtain ⟨rfl, rfl⟩ := blank
        rfl
      · have begun : rest.map String.toList = [] → cell.toList ≠ [] := by
          intro none_left empty
          exact blank ⟨List.map_eq_nil_iff.mp none_left, String.toList_eq_nil_iff.mp empty⟩
        have text : encode (line (cell :: rest)) =
            octetsOf (row (cell.toList :: rest.map String.toList)) ++ [10] := by
          simp only [line, List.map_cons, List.isEmpty_iff, row_ne_nil begun, if_false, encode,
            String.toList_ofList, octetsOf, List.flatMap_append]
          rfl
        rw [text, foldl_row _ _ (Or.inl rfl) (fun _ => begun)]
        simp [encode, Function.comp_def]

/-- Written lines are read as the records that they were written from. -/
theorem foldl_lines {rows : List (List String)} (nonempty : ∀ cells ∈ rows, cells ≠ [])
    (records : List Record) :
    (rows.flatMap fun cells => encode (line cells)).foldl Reader.step
        ⟨.recordStart, [], [], records⟩ =
      ⟨.recordStart, [], [], (rows.map (List.map encode)).reverse ++ records⟩ := by
  induction rows generalizing records with
  | nil => rfl
  | cons cells rest ih =>
      rw [List.flatMap_cons, List.foldl_append, foldl_line (nonempty cells List.mem_cons_self),
        ih (fun row member => nonempty row (List.mem_cons_of_mem _ member))]
      simp

end TransitFeed.Csv

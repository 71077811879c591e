import TransitFeed.Feed.Write
import TransitFeed.Proofs.Archive.Package
import TransitFeed.Proofs.Feed.Sound

/-! # What is written of a feed

A feed of sound tables is written without a fault. The archive has one entry for each table that is
not left out, in the order of the tables, with a header and a line for each record.
-/

namespace TransitFeed

namespace Feed

/-- The lines of a table: its header and its records in the order of their rows. -/
def linesOf (f : Feed) (which : FeedTable) : List (List String) :=
  which.form.columnNames :: ((f.get which).byRow.map fun entry => entry.2.values.map Value.cell)

def sheet (f : Feed) (which : FeedTable) : Sheet :=
  ⟨which.name ++ ".txt", Csv.lines (f.linesOf which)⟩

def isWritten (f : Feed) (settings : Settings) (which : FeedTable) : Bool :=
  !((f.get which).isEmpty && settings.skipEmptyTables)

def sheets (f : Feed) (settings : Settings) (tables : List FeedTable) : Package :=
  (tables.filter (f.isWritten settings)).map f.sheet

theorem writeTable_of_sound {f : Feed} {which : FeedTable} (sound : (f.get which).Sound which)
    {package : Package} (new : package.hasName (which.name ++ ".txt") = false) (s : Session) :
    (f.writeTable which package s).fault = none ∧
      (f.writeTable which package s).package = package ++ [f.sheet which] ∧
        (f.writeTable which package s).session.settings = s.settings := by
  have wide : ∀ values ∈ (f.get which).byRow.map (fun entry => entry.2.values),
      values.length = which.form.columnNames.length := by
    intro values member
    obtain ⟨⟨key, record⟩, inside, rfl⟩ := List.mem_map.mp member
    have kept := (sound key record ((Table.mem_byRow _ key record).mp inside)).2
    rw [← kept.length_eq, Schema.columnNames, List.length_map]
  unfold writeTable
  rw [FeedTable.columnNames_schema]
  obtain ⟨fault, -, written, settings⟩ := Package.write_of_width new wide s
  refine ⟨fault, ?_, settings⟩
  simp only [written, sheet, linesOf, List.map_map]
  rfl

end Feed

namespace FeedTable

theorem fileName_injective {a b : FeedTable} (h : a.name ++ ".txt" = b.name ++ ".txt") : a = b :=
  name_injective ((String.append_left_inj ".txt").mp h)

theorem mem_all (which : FeedTable) : which ∈ all := by
  cases which <;> decide

theorem nodup_all : all.Nodup := by decide

end FeedTable

namespace Feed

variable {f : Feed}

theorem hasName_sheets {settings : Settings} {tables : List FeedTable} {which : FeedTable}
    (other : which ∉ tables) :
    Package.hasName (f.sheets settings tables) (which.name ++ ".txt") = false := by
  rw [Package.hasName, List.any_eq_false]
  intro sheet member
  obtain ⟨table, inside, rfl⟩ := List.mem_map.mp member
  rw [decide_eq_true_iff]
  intro same
  obtain rfl := FeedTable.fileName_injective same
  exact other (List.mem_filter.mp inside).1

theorem foldl_table_of_sound (sound : f.Sound) {settings : Settings}
    (before tables : List FeedTable) (distinct : (before ++ tables).Nodup) {w : WrittenFeed}
    (clean : w.fault = none)
    (unchanged : w.session.settings = settings) (already : w.package = f.sheets settings before) :
    (tables.foldl (WrittenFeed.table f) w).fault = none ∧
      (tables.foldl (WrittenFeed.table f) w).package = f.sheets settings (before ++ tables) := by
  -- The tables before are kept apart, since no entry of the package may have the next name.
  induction tables generalizing before w with
  | nil => exact ⟨clean, by rw [List.append_nil]; exact already⟩
  | cons which rest ih =>
      have moved : before ++ which :: rest = (before ++ [which]) ++ rest := by simp
      have new : which ∉ before := by
        intro member
        exact (List.nodup_append.mp distinct).2.2 which member which List.mem_cons_self rfl
      rw [List.foldl_cons, moved]
      rw [moved] at distinct
      by_cases left : ((f.get which).isEmpty && settings.skipEmptyTables) = true
      · have skipped : w.table f which =
            { w with session := w.session.logs .debug ("skipping empty table " ++ which.name) } := by
          simp [WrittenFeed.table, clean, unchanged, left]
        rw [skipped]
        refine ih (before ++ [which]) distinct clean unchanged ?_
        simp [already, sheets, List.filter_append, isWritten, left]
      · have hasName : Package.hasName w.package (which.name ++ ".txt") = false := by
          rw [already]
          exact hasName_sheets new
        obtain ⟨fault, package, kept⟩ := writeTable_of_sound (sound which) hasName w.session
        have written : w.table f which =
            { session := (f.writeTable which w.package w.session).session
              package := w.package ++ [f.sheet which]
              rows := w.rows.insert which.name (f.writeTable which w.package w.session).rows
              fault := none } := by
          simp [WrittenFeed.table, clean, unchanged, left, fault, package]
        rw [written]
        refine ih (before ++ [which]) distinct rfl (kept.trans unchanged) ?_
        simp [already, sheets, List.filter_append, isWritten, left]

/-- A sound feed is written without a fault, each table as its entry. -/
theorem write_of_sound (sound : f.Sound) (session : Session) :
    (f.write [] session).fault = none ∧
      (f.write [] session).package = f.sheets session.settings FeedTable.all :=
  foldl_table_of_sound sound [] FeedTable.all FeedTable.nodup_all rfl rfl rfl

end Feed

end TransitFeed

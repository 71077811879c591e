import Mathlib.Data.List.Basic
import TransitFeed.Feed.Schemas
import TransitFeed.Proofs.Load.Rows
import TransitFeed.Proofs.Table.Order

/-! # Rows and their keys

A row without a key is dropped, and a row whose key is taken replaces the record that has it; both
are reported, each in its row. All other rows make their tables grow by one record. In the end a key
of rows belongs to the last of them, and any other key to the record that it had before.
-/

namespace TransitFeed

namespace Diagnostic

/-- Whether a record replaces an earlier one. -/
def Kind.isDuplicateKey : Kind → Bool
  | .duplicateKey _ => true
  | _ => false

theorem tier_of_keyless (d : Diagnostic) (keyless : decide (d.kind = .missingKey) = true) :
    d.kind.tier = .rowIntegrity := by
  rw [of_decide_eq_true keyless]
  rfl

theorem tier_of_isDuplicateKey {d : Diagnostic} (repeating : d.kind.isDuplicateKey = true) :
    d.kind.tier = .rowIntegrity := by
  unfold Kind.isDuplicateKey at repeating
  split at repeating
  · next kind => rw [kind]; rfl
  · contradiction

end Diagnostic

namespace Table

theorem contains_insert (t : Table) (key other : Key) (record : Record) :
    (t.insert key record).contains other = true ↔ key = other ∨ t.contains other = true := by
  rw [contains_iff, contains_iff]
  simp only [get?_insert]
  by_cases same : key = other
  · simp [same]
  · simp [same]

theorem size_insert (t : Table) (key : Key) (record : Record) :
    (t.insert key record).size = if t.contains key = true then t.size else t.size + 1 :=
  Std.TreeMap.size_insert

end Table

namespace Schema

/-- The keys that the columns of a schema make of values. -/
inductive Makes (s : Schema) (values : List Value) : Key → Prop where
  | named {id text : String} (identity : s.identity = .named id)
      (found : s.textOf values id = some text) : Makes s values (.name text)
  | namedOrEmpty {id : String} (identity : s.identity = .namedOrEmpty id) :
      Makes s values (.name ((s.textOf values id).getD ""))
  | numbered {id part text : String} {orMissing : Bool} {number : Int32}
      (identity : s.identity = .numbered id part orMissing)
      (found : s.textOf values id = some text)
      (placed : s.find? values part Value.part? = some number) :
      Makes s values (.numbered text number)
  | unnumbered {id part text : String} (identity : s.identity = .numbered id part true)
      (found : s.textOf values id = some text)
      (unplaced : s.find? values part Value.part? = none) :
      Makes s values (.numbered text Cell.Whole.missing)
  | dated {id day text : String} {date : Day} (identity : s.identity = .dated id day)
      (found : s.textOf values id = some text)
      (placed : s.find? values day Value.day? = some date) : Makes s values (.dated text date)

theorem Makes.of_key? {s : Schema} {values : List Value} {key : Key}
    (own : s.key? values = some key) : s.Makes values key := by
  unfold key? at own
  split at own
  · next id identity =>
      obtain ⟨text, found, rfl⟩ := Option.map_eq_some_iff.mp own
      exact .named identity found
  · next id identity =>
      obtain rfl := Option.some.inj own
      exact .namedOrEmpty identity
  · next id part orMissing identity =>
      split at own
      · next text number found placed =>
          obtain rfl := Option.some.inj own
          exact .numbered identity found placed
      · next text found unplaced =>
          cases orMissing with
          | true =>
              obtain rfl := Option.some.inj own
              exact .unnumbered identity found unplaced
          | false => contradiction
      · contradiction
  · next id day identity =>
      split at own
      · next text date found placed =>
          obtain rfl := Option.some.inj own
          exact .dated identity found placed
      · contradiction

/-- The values of the rows that a load reads. -/
def rowsRead (schema : Schema) (archive : Archive) : List (List Value) :=
  match archive.source? schema.name with
  | none => []
  | some source => source.records.map (rowValues (Field.layout schema source.header))

/-- Whether a key is taken behind some rows: by a record that the table had, or by one of them. -/
def IsTaken (schema : Schema) (table : Table) (earlier : List (List Value)) (key : Key) : Prop :=
  table.contains key = true ∨ some key ∈ earlier.map schema.key?

instance (schema : Schema) (table : Table) (earlier : List (List Value)) (key : Key) :
    Decidable (schema.IsTaken table earlier key) :=
  inferInstanceAs (Decidable (_ ∨ _))

/-- The complaints of rows that have no key. -/
def keylessRows (schema : Schema) (rows : List (List Value)) : List Diagnostic :=
  rows.zipIdx.filterMap fun (values, i) =>
    if schema.key? values = none then
      some ⟨schema.name, i + 1, some schema.keyLabel, .missingKey⟩
    else none

/-- The complaints of rows whose key was taken before they came. -/
def repeatingRows (schema : Schema) (table : Table) (rows : List (List Value)) : List Diagnostic :=
  rows.zipIdx.filterMap fun (values, i) =>
    (schema.key? values).bind fun key =>
      if schema.IsTaken table (rows.take i) key then
        some ⟨schema.name, i + 1, some schema.keyLabel, .duplicateKey key.text⟩
      else none

end Schema

namespace Notes

variable (schema : Schema) (cells : Csv.Record) (layout : List Field) (n : Notes)

theorem told_keyless :
    (Effect.told (n.stepEffects schema layout cells)).filter (·.kind = .missingKey) =
      if schema.key? (rowValues layout cells) = none then
        [⟨schema.name, n.row + 1, some schema.keyLabel, .missingKey⟩] else [] := by
  rw [filter_told_stepEffects cells Diagnostic.tier_of_keyless]
  unfold keepEffects
  cases schema.key? (rowValues layout cells) with
  | none => rfl
  | some key =>
      by_cases taken : n.next.table.contains key = true
      · simp only [taken, if_true]
        rfl
      · simp only [taken]
        rfl

theorem told_repeating :
    (Effect.told (n.stepEffects schema layout cells)).filter (·.kind.isDuplicateKey) =
      ((schema.key? (rowValues layout cells)).bind fun key =>
        if n.table.contains key = true then
          some ⟨schema.name, n.row + 1, some schema.keyLabel, .duplicateKey key.text⟩
        else none).toList := by
  rw [filter_told_stepEffects cells fun _ => Diagnostic.tier_of_isDuplicateKey]
  unfold keepEffects
  cases schema.key? (rowValues layout cells) with
  | none => rfl
  | some key =>
      have same : n.next.table.contains key = n.table.contains key := rfl
      by_cases taken : n.table.contains key = true
      · simp only [same, taken, if_true, Option.bind_some]
        rfl
      · simp only [same, taken, Option.bind_some]
        rfl

theorem contains_rows (records : List Csv.Record) (key : Key) :
    (n.rows schema layout records).table.contains key = true ↔
      schema.IsTaken n.table (records.map (rowValues layout)) key := by
  unfold Schema.IsTaken
  induction records generalizing n with
  | nil => simp [rows]
  | cons cells rest ih =>
      have later : (n.rows schema layout (cells :: rest)).table =
          ((n.step schema layout cells).rows schema layout rest).table := rfl
      rw [later, ih, step_table, List.map_cons, List.map_cons, List.mem_cons]
      cases schema.key? (rowValues layout cells) with
      | none => simp
      | some found =>
          dsimp only
          rw [Table.contains_insert, Option.some.injEq, or_assoc, or_left_comm,
            eq_comm (a := found)]

/-- Every row is reported for its key or makes the table grow. -/
theorem accounted_rows (records : List Csv.Record) :
    let told := Effect.told (n.rowsEffects schema layout records)
    let after := (n.rows schema layout records).table
    n.table.size ≤ after.size ∧
      records.length + n.table.size = (told.filter (·.kind = .missingKey)).length +
        (told.filter (·.kind.isDuplicateKey)).length + after.size := by
  induction records generalizing n with
  | nil => simp [rowsEffects, rows]
  | cons cells rest ih =>
      have later : (n.rows schema layout (cells :: rest)).table =
          ((n.step schema layout cells).rows schema layout rest).table := rfl
      obtain ⟨grown, counted⟩ := ih (n.step schema layout cells)
      rw [step_table] at grown counted
      simp only [rowsEffects, Effect.told_append, List.filter_append, List.length_append,
        told_keyless, told_repeating, later, List.length_cons]
      cases found : schema.key? (rowValues layout cells) with
      | none =>
          simp only [found] at grown counted
          simp only [if_true, Option.bind_none, Option.toList_none, List.length_cons,
            List.length_nil]
          omega
      | some key =>
          simp only [found, Table.size_insert] at grown counted
          by_cases taken : n.table.contains key = true
          · rw [if_pos taken] at grown counted
            simp only [taken, if_true, reduceCtorEq, if_false, Option.bind_some,
              Option.toList_some, List.length_cons, List.length_nil]
            omega
          · rw [if_neg taken] at grown counted
            simp only [taken, reduceCtorEq, if_false, Option.bind_some, Bool.false_eq_true,
              Option.toList_none, List.length_nil]
            omega

variable {n} in
/-- A key that no row has keeps its record. -/
theorem get?_rows_of_other {records : List Csv.Record} {key : Key}
    (other : ∀ cells ∈ records, schema.key? (rowValues layout cells) ≠ some key) :
    (n.rows schema layout records).table.get? key = n.table.get? key := by
  induction records generalizing n with
  | nil => rfl
  | cons cells rest ih =>
      have here := other cells List.mem_cons_self
      have later : (n.rows schema layout (cells :: rest)).table =
          ((n.step schema layout cells).rows schema layout rest).table := rfl
      rw [later, ih fun cells member => other cells (List.mem_cons_of_mem _ member), step_table]
      cases found : schema.key? (rowValues layout cells) with
      | none => rfl
      | some own =>
          rw [found] at here
          have differs : own ≠ key := fun same => here (congrArg some same)
          dsimp only
          rw [Table.get?_insert, if_neg differs]

variable {n} in
/-- A key of rows belongs to the last of them. -/
theorem get?_rows_of_last {records : List Csv.Record} {key : Key} {i : Nat} {cells : Csv.Record}
    (at_i : records[i]? = some cells) (found : schema.key? (rowValues layout cells) = some key)
    (last : ∀ j later, i < j → records[j]? = some later →
      schema.key? (rowValues layout later) ≠ some key) :
    (n.rows schema layout records).table.get? key =
      some ⟨n.row + i + 1, rowValues layout cells⟩ := by
  induction records generalizing n i with
  | nil => contradiction
  | cons first rest ih =>
      have after : (n.rows schema layout (first :: rest)).table =
          ((n.step schema layout first).rows schema layout rest).table := rfl
      rw [after]
      cases i with
      | zero =>
          obtain rfl : first = cells := Option.some.inj at_i
          have others : ∀ later ∈ rest, schema.key? (rowValues layout later) ≠ some key := by
            intro later member
            obtain ⟨j, at_j⟩ := List.mem_iff_getElem?.mp member
            exact last (j + 1) later j.succ_pos at_j
          rw [get?_rows_of_other schema layout others, step_table, found]
          dsimp only
          rw [Table.get?_insert, if_pos rfl]
      | succ i =>
          have ended := ih (n := n.step schema layout first) at_i
            fun j later behind at_j => last (j + 1) later (Nat.succ_lt_succ behind) at_j
          rw [ended, step_row, show n.row + 1 + i + 1 = n.row + (i + 1) + 1 by omega]

variable (table : Table) (records : List Csv.Record)

theorem told_keylessRows :
    (Effect.told (({ table } : Notes).rowsEffects schema layout records)).filter
        (·.kind = .missingKey) =
      schema.keylessRows (records.map (rowValues layout)) := by
  unfold Schema.keylessRows
  rw [filter_told_rowsEffects, List.zipIdx_map, List.filterMap_map,
    List.filterMap_eq_flatMap_toList]
  refine List.flatMap_congr fun row inside => ?_
  rw [told_keyless, row_rows_take schema layout _ inside, Nat.zero_add]
  dsimp only [Function.comp_apply, Prod.map_fst, Prod.map_snd, id_eq]
  split
  · rfl
  · rfl

theorem told_repeatingRows :
    (Effect.told (({ table } : Notes).rowsEffects schema layout records)).filter
        (·.kind.isDuplicateKey) =
      schema.repeatingRows table (records.map (rowValues layout)) := by
  unfold Schema.repeatingRows
  rw [filter_told_rowsEffects, List.zipIdx_map, List.filterMap_map,
    List.filterMap_eq_flatMap_toList]
  refine List.flatMap_congr fun row inside => ?_
  rw [told_repeating, row_rows_take schema layout _ inside, Nat.zero_add]
  simp only [contains_rows, Function.comp_apply, Prod.map_fst, Prod.map_snd, id_eq,
    List.map_take]

end Notes

namespace Schema

/-- Every row that a load reads is accounted for: it has no key, or a key that is taken, or it makes
    the table grow. The first two are reported, each in its row. The last row with a key wins, and
    keys of no row keep their records. -/
theorem load_keys (schema : Schema) (archive : Archive) (table : Table) (s : Session) :
    let rows := schema.rowsRead archive
    let loaded := schema.load archive table s
    ∃ new, loaded.session.diagnostics.toList = s.diagnostics.toList ++ new ∧
      new.filter (·.kind = .missingKey) = schema.keylessRows rows ∧
        new.filter (·.kind.isDuplicateKey) = schema.repeatingRows table rows ∧
          table.size ≤ loaded.table.size ∧
            rows.length = (new.filter (·.kind = .missingKey)).length +
              (new.filter (·.kind.isDuplicateKey)).length +
                (loaded.table.size - table.size) ∧
              ∀ key,
                (∀ i values, rows[i]? = some values → schema.key? values = some key →
                  (∀ j later, i < j → rows[j]? = some later → schema.key? later ≠ some key) →
                    loaded.table.get? key = some ⟨i + 1, values⟩) ∧
                ((∀ values ∈ rows, schema.key? values ≠ some key) →
                  loaded.table.get? key = table.get? key) := by
  intro rows loaded
  have keyless : ∀ l : Lookup, decide (l.diagnostic.kind = .missingKey) = false := fun _ => rfl
  have repeating : ∀ l : Lookup, l.diagnostic.kind.isDuplicateKey = false := fun _ => rfl
  refine ⟨_, diagnostics_load schema archive table s, ?_⟩
  rw [filter_reports_load schema archive table s keyless
      (fun d holds => by simp [Diagnostic.tier_of_keyless d holds]),
    filter_reports_load schema archive table s repeating
      (fun d holds => by simp [Diagnostic.tier_of_isDuplicateKey holds])]
  have after : loaded.table = schema.loadTable archive table := by
    rw [show loaded = _ from load_eq schema table s archive]
  rw [after]
  unfold rows rowsRead rowsTold loadTable
  cases archive.source? schema.name with
  | none => simp [keylessRows, repeatingRows]
  | some source =>
      dsimp only
      rw [Notes.told_keylessRows, Notes.told_repeatingRows]
      obtain ⟨grown, counted⟩ := Notes.accounted_rows schema (Field.layout schema source.header)
        { table } source.records
      rw [Notes.told_keylessRows, Notes.told_repeatingRows] at counted
      refine ⟨rfl, rfl, grown, ?_, ?_⟩
      · rw [List.length_map]
        unfold scanned
        dsimp only at grown counted
        omega
      · intro key
        constructor
        · intro i values at_i found last
          rw [List.getElem?_map, Option.map_eq_some_iff] at at_i
          obtain ⟨cells, at_i, rfl⟩ := at_i
          have ended := Notes.get?_rows_of_last schema (Field.layout schema source.header)
            (n := { table }) at_i found fun j later behind at_j =>
              last j _ behind (by rw [List.getElem?_map, at_j]; rfl)
          rwa [Nat.zero_add] at ended
        · intro other
          exact Notes.get?_rows_of_other schema _ fun cells member =>
            other _ (List.mem_map_of_mem member)

/-- A stop, a row without one, and the stop again. -/
def repeatedStop : Archive :=
  [{ name := "stops.txt", content := Utf8.encode "stop_id,stop_name\nS1,First\n,Second\nS1,Third" }]

/-- The second row is dropped, and the third one replaces the first. -/
theorem load_keys_repeatedStop :
    let loaded := (({} : Feed).schema .stops).load repeatedStop { name := "stops" } {}
    loaded.session.diagnostics.toList.filter (·.kind = .missingKey) =
        [⟨"stops", 2, some "stop_id", .missingKey⟩] ∧
      loaded.session.diagnostics.toList.filter (·.kind.isDuplicateKey) =
        [⟨"stops", 3, some "stop_id", .duplicateKey "S1"⟩] := by
  intro loaded
  obtain ⟨new, told, keyless, repeating, -⟩ :=
    load_keys (({} : Feed).schema .stops) repeatedStop { name := "stops" } {}
  have all : loaded.session.diagnostics.toList = new := told
  rw [all, keyless, repeating]
  constructor
  · decide +kernel
  · decide +kernel

end Schema

end TransitFeed

import Mathlib.Data.List.Nodup
import TransitFeed.Feed.Write
import TransitFeed.Proofs.Feed.Sound
import TransitFeed.Proofs.Load.Keys

/-! # Loaded tables

Whatever loads have put into a table, faults and all, its records stand under keys of their own and
have values that can be written and read again. After a single load the rows of the records are
distinct, so there is one way to sort them, and what is written does not depend on the order in
which a table gives its records.
-/

namespace TransitFeed

namespace Value

/-- A text is not empty, a decimal is finite or none at all, a day has a year of four digits, and a
    link is what its own text is read as. -/
def Proper : Value → Prop
  | .text t => t ≠ some ""
  | .whole _ | .clock _ => True
  | .decimal d => d.isNaN = true ∨ d.isFinite = true
  | .day kept => ∀ d, kept = some d → 0 ≤ d.year ∧ d.year ≤ 9999
  | .link kept => ∀ l, kept = some l → Cell.LinkCell.read l.text = ⟨some l, []⟩

end Value

theorem ColumnKind.Keeps.proper {kind : ColumnKind} {v : Value} (kept : kind.Keeps v) :
    v.Proper := by
  cases v with
  | whole | clock => trivial
  | text t =>
      cases kind with
      | text | reference => exact kept
      | whole | decimal | clock | day | link => exact kept.elim
  | decimal d =>
      cases kind with
      | decimal range =>
          cases d with
          | nan => exact Or.inl rfl
          | finite => exact Or.inr rfl
          | infinite negative => exact absurd rfl (kept negative)
      | text | whole | clock | day | link | reference => exact kept.elim
  | day d =>
      cases kind with
      | day => exact kept
      | text | whole | decimal | clock | link | reference => exact kept.elim
  | link l =>
      intro link _
      exact Cell.LinkCell.reading_text link

theorem Value.part?_ne_missing {v : Value} {part : Int32} (found : v.part? = some part) :
    part ≠ Cell.Whole.missing := by
  cases v with
  | text | decimal | day | link => contradiction
  | whole n | clock n =>
      dsimp only [part?] at found
      split at found
      · contradiction
      · next present => exact Option.some.inj found ▸ present

namespace Schema

variable {s : Schema} {values : List Value}

theorem Keeps.proper (kept : s.Keeps values) : ∀ v ∈ values, v.Proper := by
  unfold Keeps at kept
  generalize s.columns = columns at kept
  induction kept with
  | nil => exact List.forall_mem_nil _
  | cons here _ rest => exact List.forall_mem_cons.mpr ⟨here.proper, rest⟩

theorem exists_of_find? {α : Type} {name : String} {look : Value → Option α} {a : α}
    (found : s.find? values name look = some a) : ∃ v ∈ values, look v = some a := by
  obtain ⟨⟨column, v⟩, member, looked⟩ := List.mem_filterMap.mp (List.mem_of_getLast? found)
  refine ⟨v, (List.of_mem_zip member).2, ?_⟩
  dsimp only at looked
  split at looked
  · exact looked
  · contradiction

theorem part_ne_missing {name : String} {part : Int32}
    (found : s.find? values name Value.part? = some part) : part ≠ Cell.Whole.missing := by
  obtain ⟨v, -, looked⟩ := exists_of_find? found
  exact Value.part?_ne_missing looked

theorem Keeps.textOf_ne_empty (kept : s.Keeps values) {name text : String}
    (found : s.textOf values name = some text) : text ≠ "" := by
  obtain ⟨v, member, looked⟩ := exists_of_find? (Option.join_eq_some_iff.mp found)
  have proper := kept.proper v member
  cases v with
  | whole | clock | decimal | day | link => contradiction
  | text t =>
      obtain rfl : t = some text := Option.some.inj looked
      rintro rfl
      exact proper rfl

/-- A key without an identifier belongs to a record without one, where that is allowed. -/
theorem Keeps.id_eq_empty_iff (kept : s.Keeps values) {key : Key}
    (own : s.key? values = some key) :
    key.id = "" ↔ (∃ id, s.identity = .namedOrEmpty id) ∧ s.id? values = none := by
  cases Makes.of_key? own with
  | named identity found => simp [id?, identity, found, kept.textOf_ne_empty found, Key.id]
  | @namedOrEmpty name identity =>
      cases found : s.textOf values name with
      | none => simp [id?, identity, found, Key.id]
      | some text => simp [id?, identity, found, kept.textOf_ne_empty found, Key.id]
  | numbered identity found | unnumbered identity found | dated identity found =>
      simp [identity, kept.textOf_ne_empty found, Key.id]

theorem part_of_key (always : ∀ id part, s.identity ≠ .numbered id part true) {id : String}
    {part : Int32} (own : s.key? values = some (.numbered id part)) :
    part ≠ Cell.Whole.missing := by
  cases Makes.of_key? own with
  | numbered _ _ placed => exact part_ne_missing placed
  | unnumbered identity => exact absurd identity (always _ _)

end Schema

theorem FeedTable.namedOrEmpty_iff (which : FeedTable) :
    (∃ id, which.form.identity = .namedOrEmpty id) ↔ which = .agency := by
  cases which with
  | agency => exact iff_of_true ⟨_, rfl⟩ rfl
  | stops | routes | trips | stopTimes | calendar | calendarDates | shapes | frequencies
  | feedInfo => exact iff_of_false (fun ⟨_, same⟩ => nomatch same) (fun same => nomatch same)

theorem FeedTable.not_orMissing (which : FeedTable) (id part : String) :
    which.form.identity ≠ .numbered id part true := by
  cases which <;> exact fun same => nomatch same

/-- The tables that loads make of an empty one. References may go to the tables of any feeds. -/
inductive Table.Reachable (which : FeedTable) : Table → Prop where
  | empty : Reachable which ⟨which.name, ∅⟩
  | load {t : Table} (targets : Feed) (archive : Archive) (session : Session)
      (before : Reachable which t) :
      Reachable which ((targets.schema which).load archive t session).table

theorem Table.Reachable.sound {which : FeedTable} {t : Table} (reachable : t.Reachable which) :
    t.Sound which := by
  induction reachable with
  | empty => exact sound_empty which which.name
  | load targets archive session _ sound =>
      exact sound_keptByLoads which targets archive session sound

theorem Feed.Reachable.get_reachable {f : Feed} (reachable : f.Reachable) :
    ∀ which, (f.get which).Reachable which :=
  reachable.forall_get (fun _ targets archive session _ => .load targets archive session)
    fun _ => .empty

namespace Table

/-- Whether a list has every record of a table once, in some order. -/
def Lists (t : Table) (listing : List (Key × Record)) : Prop := listing.Perm t.records.toList

/-- Records sorted by their rows. Records of one row stay in their order. -/
def sortedByRow (listing : List (Key × Record)) : List (Key × Record) :=
  listing.mergeSort fun a b => decide (a.2.row ≤ b.2.row)

variable {t : Table}

theorem lists_byRow (t : Table) : t.Lists t.byRow := by
  have distinct : t.records.toList.Nodup := by
    refine Std.TreeMap.distinct_keys_toList.imp ?_
    rintro a b differs rfl
    exact differs Std.ReflCmp.compare_self
  refine (List.perm_ext_iff_of_nodup (nodup_of_pairwise t.pairwise_byRow) distinct).mpr ?_
  rintro ⟨key, record⟩
  rw [mem_byRow]
  exact Std.TreeMap.mem_toList_iff_getElem?_eq_some.symm

theorem pairwise_sortedByRow (listing : List (Key × Record)) :
    (sortedByRow listing).Pairwise fun a b => a.2.row ≤ b.2.row := by
  let before (a b : Key × Record) : Bool := decide (a.2.row ≤ b.2.row)
  have trans : ∀ a b c, before a b = true → before b c = true → before a c = true := by
    intro a b c first second
    rw [decide_eq_true_iff] at first second ⊢
    exact first.trans second
  have total : ∀ a b, (before a b || before b a) = true := by
    intro a b
    simpa [before] using Nat.le_total a.2.row b.2.row
  have sorted := List.pairwise_mergeSort trans total listing
  exact sorted.imp of_decide_eq_true

theorem sortedByRow_eq (increasing : t.byRow.Pairwise fun a b => a.2.row < b.2.row)
    {listing : List (Key × Record)} (lists : t.Lists listing) :
    sortedByRow listing = t.byRow := by
  have same : (sortedByRow listing).Perm t.byRow :=
    (List.mergeSort_perm listing _).trans (lists.trans t.lists_byRow.symm)
  refine List.Perm.eq_of_pairwise ?_ (pairwise_sortedByRow listing)
    (increasing.imp fun less => Nat.le_of_lt less) same
  intro a b inside inside' before after
  have distinct : (t.byRow.map fun entry => entry.2.row).Nodup := by
    rw [List.Nodup, List.pairwise_map]
    exact increasing.imp Nat.ne_of_lt
  exact List.inj_on_of_nodup_map distinct (same.mem_iff.mp inside) inside'
    (Nat.le_antisymm before after)

theorem increasing_byRow (distinct : ∀ key other record held, t.get? key = some record →
      t.get? other = some held → record.row = held.row → key = other) :
    t.byRow.Pairwise fun a b => a.2.row < b.2.row := by
  refine t.pairwise_byRow.imp_of_mem ?_
  rintro ⟨key, record⟩ ⟨other, held⟩ member member' before
  rw [mem_byRow] at member member'
  refine Nat.lt_of_le_of_ne (Nat.le_of_not_lt fun less => ?_) fun same => ?_
  · exact before.asymm (Before.of_row less)
  · obtain rfl := distinct key other record held member member' same
    obtain rfl := Option.some.inj (member.symm.trans member')
    exact Before.irrefl _ before

end Table

/-- What is written of a table that gives its records in some order. -/
def Feed.writeListing (f : Feed) (which : FeedTable) (listing : List (Key × Record))
    (package : Package) (session : Session) : Written :=
  package.write which.name (f.schema which).columnNames
    ((Table.sortedByRow listing).map fun (_, record) => record.values) session

namespace FeedTable

variable (which : FeedTable) (targets : Feed) (archive : Archive)

theorem length_rowsRead {schema : Schema} {source : Archive.Source}
    (opened : archive.source? schema.name = some source) :
    (schema.rowsRead archive).length = source.records.length := by
  unfold Schema.rowsRead
  rw [opened]
  exact List.length_map _

variable {archive} in
theorem row_loadTable {key : Key} {record : Record}
    (found : ((targets.schema which).loadTable archive ⟨which.name, ∅⟩).get? key = some record) :
    1 ≤ record.row ∧ record.row ≤ ((targets.schema which).rowsRead archive).length := by
  obtain ⟨source, i, cells, opened, at_i, rfl⟩ := Schema.origin_loadTable found
  rw [length_rowsRead archive opened]
  exact ⟨Nat.le_add_left 1 i, (List.getElem?_eq_some_iff.mp at_i).1⟩

variable {archive} in
theorem key_unique {key other : Key} {record held : Record}
    (found : ((targets.schema which).loadTable archive ⟨which.name, ∅⟩).get? key = some record)
    (found' : ((targets.schema which).loadTable archive ⟨which.name, ∅⟩).get? other = some held)
    (same : record.row = held.row) : key = other := by
  have sound := Schema.sound_loadTable targets archive (Table.sound_empty which which.name)
  have own := (sound key record found).1
  have own' := (sound other held found').1
  obtain ⟨source, i, cells, opened, at_i, rfl⟩ := Schema.origin_loadTable found
  obtain ⟨source', j, cells', opened', at_j, rfl⟩ := Schema.origin_loadTable found'
  obtain rfl : source = source' := Option.some.inj (opened.symm.trans opened')
  obtain rfl : i = j := Nat.succ.inj same
  obtain rfl : cells = cells' := Option.some.inj (at_i.symm.trans at_j)
  exact Option.some.inj (own.symm.trans own')

/-- Every record that loads have put into a table is under the key that its values make. Only an
    agency without an identifier has a key with an empty one, no key has a missing number for its
    position, and all values are proper. After one load the records have distinct numbers of rows
    that were read, and sorted by them they are in one order. So what is written does not depend on
    the order in which the table gives its records. -/
theorem loaded_records :
    (∀ f : Feed, f.Reachable → (f.get which).Reachable which) ∧
    (∀ t : Table, t.Reachable which → ∀ key record, t.get? key = some record →
      which.form.key? record.values = some key ∧
      (key.id = "" ↔ which = .agency ∧ which.form.id? record.values = none) ∧
      (∀ id part, key = .numbered id part → part ≠ Cell.Whole.missing) ∧
      which.form.Keeps record.values ∧ ∀ v ∈ record.values, v.Proper) ∧
    ∀ (targets : Feed) (archive : Archive) (session : Session),
      let schema := targets.schema which
      let t := (schema.load archive ⟨which.name, ∅⟩ session).table
      (∀ key record, t.get? key = some record →
        1 ≤ record.row ∧ record.row ≤ (schema.rowsRead archive).length) ∧
      (∀ key other record held, t.get? key = some record → t.get? other = some held →
        record.row = held.row → key = other) ∧
      t.Lists t.byRow ∧ t.byRow.Pairwise (fun a b => a.2.row < b.2.row) ∧
      ∀ listing, t.Lists listing → Table.sortedByRow listing = t.byRow ∧
        ∀ f : Feed, f.get which = t → ∀ package s,
          f.writeListing which listing package s = f.writeTable which package s := by
  refine ⟨fun f reachable => reachable.get_reachable which, ?_, ?_⟩
  · intro t reachable key record found
    obtain ⟨own, kept⟩ := reachable.sound key record found
    refine ⟨own, ?_, ?_, kept, kept.proper⟩
    · rw [kept.id_eq_empty_iff own, namedOrEmpty_iff]
    · rintro id part rfl
      exact Schema.part_of_key which.not_orMissing own
  · intro targets archive session schema t
    have loaded : t = schema.loadTable archive ⟨which.name, ∅⟩ := by
      rw [show t = (schema.load archive _ session).table from rfl, Schema.load_eq]
    have unique : ∀ key other record held, t.get? key = some record →
        t.get? other = some held → record.row = held.row → key = other := by
      intro key other record held found found'
      rw [loaded] at found found'
      exact key_unique which targets found found'
    have increasing := Table.increasing_byRow unique
    refine ⟨?_, unique, t.lists_byRow, increasing, ?_⟩
    · intro key record found
      rw [loaded] at found
      exact row_loadTable which targets found
    · intro listing lists
      have sorted := Table.sortedByRow_eq increasing lists
      refine ⟨sorted, fun f same package s => ?_⟩
      rw [Feed.writeListing, Feed.writeTable, sorted, same]

/-- Two agencies. The second one has no identifier. -/
def namelessAgency : Archive :=
  [{ name := "agency.txt", content := Utf8.encode "agency_id,agency_name\nA1,Trams\n,Buses" }]

/-- The agency without an identifier has the empty key and comes last, in whatever order the
    records are given. -/
theorem loaded_records_namelessAgency :
    let t := ((({} : Feed).schema .agency).load namelessAgency ⟨FeedTable.agency.name, ∅⟩ {}).table
    t.Reachable .agency ∧ (∃ record, t.get? (.name "") = some record ∧
        FeedTable.agency.form.id? record.values = none ∧ record.row ≤ 2) ∧
      ∀ listing, t.Lists listing →
        (Table.sortedByRow listing).map Prod.fst = [.name "A1", .name ""] := by
  intro t
  obtain ⟨-, invariants, once⟩ := loaded_records .agency
  obtain ⟨rows, -, -, -, sorted⟩ := once {} namelessAgency {}
  have reachable : t.Reachable .agency := .load {} namelessAgency {} .empty
  have kept : (t.get? (.name "")).isSome = true := by decide +kernel
  obtain ⟨record, found⟩ := Option.isSome_iff_exists.mp kept
  have read : ((({} : Feed).schema .agency).rowsRead namelessAgency).length = 2 := by
    decide +kernel
  refine ⟨reachable, ⟨record, found, ?_, ?_⟩, ?_⟩
  · obtain ⟨-, id, -⟩ := invariants t reachable _ _ found
    exact (id.mp rfl).2
  · exact read ▸ (rows _ _ found).2
  · intro listing lists
    rw [(sorted listing lists).1]
    decide +kernel

end FeedTable

end TransitFeed

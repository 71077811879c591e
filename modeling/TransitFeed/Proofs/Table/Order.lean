import Std.Data.TreeMap.Lemmas
import TransitFeed.Table.Basic

/-! # The order of a table

The records in the order of their rows are the records of the table, each once. The order is the
only one in which the places of the records grow.
-/

namespace TransitFeed

namespace Table

@[simp] theorem get?_empty (name : String) (key : Key) : (⟨name, ∅⟩ : Table).get? key = none :=
  Std.TreeMap.getElem?_emptyc

theorem get?_insert (t : Table) (key other : Key) (record : Record) :
    (t.insert key record).get? other = if key = other then some record else t.get? other := by
  have inserted := Std.TreeMap.getElem?_insert (t := t.records) (k := key) (a := other)
    (v := record)
  simpa [get?, insert, Std.LawfulEqCmp.compare_eq_iff_eq] using inserted

theorem contains_iff (t : Table) (key : Key) :
    t.contains key = true ↔ ∃ record, t.get? key = some record := by
  rw [← Option.isSome_iff_exists]
  exact (iff_of_eq (congrArg (· = true) Std.TreeMap.isSome_getElem?_eq_contains)).symm

theorem mem_keys (t : Table) (key : Key) :
    key ∈ t.keys ↔ ∃ record, t.get? key = some record := by
  rw [← contains_iff]
  exact Std.TreeMap.mem_keys

theorem keys_eq_of_mem {a b : Table} (same : ∀ key, key ∈ a.keys ↔ key ∈ b.keys) :
    a.keys = b.keys := by
  have ordered (t : Table) : t.keys.Pairwise fun k l => compare k l = .lt :=
    Std.TreeMap.ordered_keys
  refine List.Perm.eq_of_pairwise ?_ (ordered a) (ordered b)
    ((List.perm_ext_iff_of_nodup Std.TreeMap.nodup_keys Std.TreeMap.nodup_keys).mpr same)
  intro k l _ _ less greater
  have swapped : compare l k = (compare k l).swap := Std.OrientedCmp.eq_swap
  rw [swapped, less] at greater
  contradiction

abbrev placeOf (entry : Key × Record) : RowPlace := ⟨entry.2.row, entry.1⟩

theorem placeOf_injective_of_key {entries : List (Key × Record)}
    (distinct : entries.Pairwise fun a b => a.1 ≠ b.1) :
    entries.Pairwise fun a b => placeOf a ≠ placeOf b :=
  distinct.imp fun differs same => differs (congrArg RowPlace.key same)

theorem getElem?_foldl_insert {entries : List (Key × Record)}
    (distinct : entries.Pairwise fun a b => placeOf a ≠ placeOf b)
    (start : Std.TreeMap RowPlace Record) (place : RowPlace) (record : Record) :
    (entries.foldl (fun places entry => places.insert (placeOf entry) entry.2) start)[place]? =
        some record ↔
      (∃ entry ∈ entries, placeOf entry = place ∧ entry.2 = record) ∨
        (∀ entry ∈ entries, placeOf entry ≠ place) ∧ start[place]? = some record := by
  -- For every tree to start from; a later entry never takes the place of an earlier one.
  induction entries generalizing start with
  | nil => simp
  | cons first rest ih =>
      obtain ⟨apart, distinct⟩ := List.pairwise_cons.mp distinct
      rw [List.foldl_cons, ih distinct, Std.TreeMap.getElem?_insert]
      by_cases here : placeOf first = place
      · subst here
        have elsewhere : ∀ entry ∈ rest, placeOf entry ≠ placeOf first :=
          fun entry member => (apart entry member).symm
        constructor
        · rintro (⟨entry, member, same, _⟩ | ⟨_, found⟩)
          · exact absurd same (elsewhere entry member)
          · exact Or.inl ⟨first, List.mem_cons_self, rfl, by simpa using found⟩
        · rintro (⟨entry, member, same, held⟩ | ⟨none_here, _⟩)
          · rcases List.mem_cons.mp member with rfl | member
            · exact Or.inr ⟨elsewhere, by simpa using held⟩
            · exact absurd same (elsewhere entry member)
          · exact absurd rfl (none_here first List.mem_cons_self)
      · have missed : ¬ compare (placeOf first) place = .eq := fun same =>
          here (Std.LawfulEqCmp.eq_of_compare same)
        simp [missed, here]

theorem places_eq_foldl (t : Table) :
    t.places = t.records.toList.foldl
      (fun places entry => places.insert (placeOf entry) entry.2) ∅ :=
  Std.TreeMap.foldl_eq_foldl_toList

theorem mem_places_toList (t : Table) (place : RowPlace) (record : Record) :
    (place, record) ∈ t.places.toList ↔
      t.get? place.key = some record ∧ record.row = place.row := by
  have distinct : t.records.toList.Pairwise fun a b => a.1 ≠ b.1 :=
    Std.TreeMap.distinct_keys_toList.imp fun {a b} differs (same : a.1 = b.1) =>
      differs (same ▸ Std.ReflCmp.compare_self)
  rw [Std.TreeMap.mem_toList_iff_getElem?_eq_some, places_eq_foldl,
    getElem?_foldl_insert (placeOf_injective_of_key distinct)]
  simp only [Std.TreeMap.getElem?_emptyc, reduceCtorEq, and_false, or_false]
  constructor
  · rintro ⟨⟨key, held⟩, member, rfl, rfl⟩
    exact ⟨Std.TreeMap.mem_toList_iff_getElem?_eq_some.mp member, rfl⟩
  · rintro ⟨found, row⟩
    refine ⟨(place.key, record), Std.TreeMap.mem_toList_iff_getElem?_eq_some.mpr found, ?_, rfl⟩
    simp only [placeOf, row]

/-- The order of the places of two entries. -/
def Before (a b : Key × Record) : Prop := compare (placeOf a) (placeOf b) = .lt

theorem Before.asymm {a b : Key × Record} (h : Before a b) : ¬ Before b a := by
  intro back
  have swapped : compare (placeOf b) (placeOf a) = (compare (placeOf a) (placeOf b)).swap :=
    Std.OrientedCmp.eq_swap
  rw [Before, swapped, h] at back
  contradiction

theorem Before.irrefl (a : Key × Record) : ¬ Before a a := fun h => h.asymm h

theorem Before.of_row {a b : Key × Record} (h : a.2.row < b.2.row) : Before a b := by
  have rows : compare a.2.row b.2.row = .lt := Nat.compare_eq_lt.mpr h
  show compareLex (compareOn RowPlace.row) _ (placeOf a) (placeOf b) = .lt
  simp only [compareLex, compareOn, rows, Ordering.then]

theorem mem_byRow (t : Table) (key : Key) (record : Record) :
    (key, record) ∈ t.byRow ↔ t.get? key = some record := by
  simp only [byRow, List.mem_map, Prod.mk.injEq]
  constructor
  · rintro ⟨⟨place, held⟩, member, rfl, rfl⟩
    exact ((mem_places_toList t place held).mp member).1
  · intro found
    exact ⟨(⟨record.row, key⟩, record),
      (mem_places_toList t _ _).mpr ⟨found, rfl⟩, rfl, rfl⟩

theorem pairwise_byRow (t : Table) : t.byRow.Pairwise Before := by
  rw [byRow, List.pairwise_map]
  refine List.Pairwise.imp_of_mem ?_ Std.TreeMap.ordered_keys_toList
  rintro ⟨place, record⟩ ⟨other, held⟩ member member' less
  obtain ⟨-, row⟩ := (mem_places_toList t place record).mp member
  obtain ⟨-, row'⟩ := (mem_places_toList t other held).mp member'
  simpa only [Before, placeOf, row, row'] using less

theorem nodup_of_pairwise {entries : List (Key × Record)} (h : entries.Pairwise Before) :
    entries.Nodup := by
  refine h.imp ?_
  rintro a b less rfl
  exact Before.irrefl a less

/-- Entries whose places grow are those of the table, if they are the records of the table. -/
theorem byRow_eq_of_pairwise (t : Table) {entries : List (Key × Record)}
    (ordered : entries.Pairwise Before)
    (members : ∀ key record, (key, record) ∈ entries ↔ t.get? key = some record) :
    t.byRow = entries := by
  refine List.Perm.eq_of_pairwise (fun _ _ _ _ less greater => absurd greater less.asymm)
    (pairwise_byRow t) ordered ((List.perm_ext_iff_of_nodup (nodup_of_pairwise (pairwise_byRow t))
      (nodup_of_pairwise ordered)).mpr ?_)
  rintro ⟨key, record⟩
  rw [mem_byRow, members]

theorem nodup_byRow_keys (t : Table) : (t.byRow.map Prod.fst).Nodup := by
  rw [List.Nodup, List.pairwise_map]
  refine List.Pairwise.imp_of_mem ?_ (nodup_of_pairwise (pairwise_byRow t))
  rintro ⟨key, record⟩ ⟨other, held⟩ member member' differs same
  obtain rfl : key = other := same
  rw [mem_byRow] at member member'
  exact differs (by rw [Option.some.inj (member.symm.trans member')])

theorem isEmpty_iff (t : Table) : t.isEmpty = true ↔ t.byRow = [] := by
  rw [isEmpty, Std.TreeMap.isEmpty_iff_forall_not_mem, List.eq_nil_iff_forall_not_mem]
  constructor
  · rintro absent ⟨key, record⟩ member
    have found := (contains_iff t key).mpr ⟨record, (mem_byRow t key record).mp member⟩
    exact absent key found
  · intro absent key present
    obtain ⟨record, found⟩ := (contains_iff t key).mp present
    exact absent (key, record) ((mem_byRow t key record).mpr found)

end Table

end TransitFeed

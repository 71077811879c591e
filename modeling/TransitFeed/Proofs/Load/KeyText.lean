import TransitFeed.Proofs.Cell.Day
import TransitFeed.Proofs.Load.Keys

/-! # What the text of a key tells

The number or the day of a key has no colon, so the text of the key is cut at its last colon, and
whatever the identifier is, the key can be read off its text. All keys of a table have one shape.
A key that a load reports as taken is therefore told by its text: exactly one record of the table
has it.
-/

namespace TransitFeed

namespace Digits

theorem ofInt_injective {n k : Int} (same : ofInt n = ofInt k) : n = k :=
  (spells_ofInt n).unique (same ▸ spells_ofInt k)

theorem no_colon_ofInt (n : Int) : ∀ c ∈ ofInt n, decide (c = ':') = false :=
  (spells_ofInt n).no_colon

end Digits

theorem Day.no_colon (d : Day) : ∀ c ∈ d.text, decide (c = ':') = false := by
  intro c member
  have digits {n : Nat} (inside : c ∈ Digits.padded 2 n) : decide (c = ':') = false :=
    (Digits.spells_paddedInt 2 n).no_colon c inside
  rcases List.mem_append.mp member with front | day
  · rcases List.mem_append.mp front with year | month
    · exact (spells_yearText d.year).no_colon c year
    · exact digits month
  · exact digits day

namespace Key

variable {id other : String}

/-- The identifier may have colons of its own, but none of them is the last one. -/
theorem splitLast?_joined (id : String) {part : List Char}
    (free : ∀ c ∈ part, decide (c = ':') = false) :
    Text.splitLast? (· = ':') (id ++ ":" ++ String.ofList part).toList =
      some (id.toList, part) := by
  have whole : (id ++ ":" ++ String.ofList part).toList = id.toList ++ ':' :: part := by
    simp [String.toList_append]
  rw [whole]
  exact Text.splitLast?_append free (decide_eq_true rfl)

theorem joined_inj {part rest : List Char} (free : ∀ c ∈ part, decide (c = ':') = false)
    (free' : ∀ c ∈ rest, decide (c = ':') = false)
    (same : id ++ ":" ++ String.ofList part = other ++ ":" ++ String.ofList rest) :
    id = other ∧ part = rest := by
  have cut := splitLast?_joined id free
  rw [same, splitLast?_joined other free'] at cut
  obtain ⟨ids, parts⟩ := Prod.mk.inj (Option.some.inj cut)
  exact ⟨(String.toList_inj.mp ids).symm, parts.symm⟩

theorem text_numbered_inj {part number : Int32} :
    (numbered id part).text = (numbered other number).text ↔ id = other ∧ part = number := by
  constructor
  · intro same
    obtain ⟨ids, digits⟩ := joined_inj (Digits.no_colon_ofInt _) (Digits.no_colon_ofInt _) same
    exact ⟨ids, Int32.toInt_inj.mp (Digits.ofInt_injective digits)⟩
  · rintro ⟨rfl, rfl⟩
    rfl

theorem text_dated_inj {day date : Day} :
    (dated id day).text = (dated other date).text ↔ id = other ∧ day = date := by
  constructor
  · intro same
    obtain ⟨ids, days⟩ := joined_inj day.no_colon date.no_colon same
    exact ⟨ids, Day.text_injective days⟩
  · rintro ⟨rfl, rfl⟩
    rfl

/-- Keys of different shapes can have one text: a name may look like a name with a number. -/
theorem eq_of_text {a b : Key} (alike : a.shape = b.shape) (same : a.text = b.text) : a = b := by
  cases a with
  | name id =>
      cases b with
      | name other => exact congrArg name same
      | numbered | dated => simp [shape] at alike
  | numbered id part =>
      cases b with
      | numbered other number =>
          obtain ⟨rfl, rfl⟩ := text_numbered_inj.mp same
          rfl
      | name | dated => simp [shape] at alike
  | dated id day =>
      cases b with
      | dated other date =>
          obtain ⟨rfl, rfl⟩ := text_dated_inj.mp same
          rfl
      | name | numbered => simp [shape] at alike

end Key

/-- The shape of the keys that are made of columns. -/
def Identity.keyShape : Identity → Nat
  | .named _ | .namedOrEmpty _ => 0
  | .numbered .. => 1
  | .dated .. => 2

theorem Schema.shape_of_key? {schema : Schema} {values : List Value} {key : Key}
    (own : schema.key? values = some key) : key.shape = schema.identity.keyShape := by
  cases Makes.of_key? own with
  | named identity | namedOrEmpty identity | numbered identity | unnumbered identity
  | dated identity =>
      rw [identity]
      rfl

namespace Table

/-- Whether all keys of a table have the shape of those that a schema makes. -/
def Fits (t : Table) (schema : Schema) : Prop :=
  ∀ key, t.contains key = true → key.shape = schema.identity.keyShape

/-- Whether a text is that of one key only, and a record is under this key. -/
def PicksOut (t : Table) (text : String) (key : Key) : Prop :=
  ∃ record, ∀ entry, entry ∈ t.byRow ∧ entry.1.text = text ↔ entry = (key, record)

variable {t : Table} {schema : Schema} {text : String} {key : Key}

theorem fits_empty (name : String) (schema : Schema) : Fits ⟨name, ∅⟩ schema := by
  intro key present
  obtain ⟨record, found⟩ := (contains_iff _ key).mp present
  rw [get?_empty] at found
  contradiction

theorem PicksOut.contains (picked : t.PicksOut text key) :
    t.contains key = true ∧ key.text = text := by
  obtain ⟨record, only⟩ := picked
  obtain ⟨member, same⟩ := (only (key, record)).mpr rfl
  exact ⟨(contains_iff t key).mpr ⟨record, (mem_byRow t key record).mp member⟩, same⟩

theorem Fits.picksOut (fits : t.Fits schema) (present : t.contains key = true) :
    t.PicksOut key.text key := by
  obtain ⟨record, found⟩ := (contains_iff t key).mp present
  refine ⟨record, ?_⟩
  rintro ⟨other, held⟩
  constructor
  · rintro ⟨member, same⟩
    have found' := (mem_byRow t other held).mp member
    have shapes : other.shape = key.shape :=
      (fits other ((contains_iff t other).mpr ⟨held, found'⟩)).trans (fits key present).symm
    obtain rfl : other = key := Key.eq_of_text shapes same
    rw [Option.some.inj (found'.symm.trans found)]
  · intro same
    obtain ⟨rfl, rfl⟩ := Prod.mk.inj same
    exact ⟨(mem_byRow t other held).mpr found, rfl⟩

theorem Fits.picksOut_iff (fits : t.Fits schema) :
    t.PicksOut text key ↔ t.contains key = true ∧ key.text = text := by
  constructor
  · exact PicksOut.contains
  · rintro ⟨present, rfl⟩
    exact fits.picksOut present

end Table

namespace Schema

variable (schema : Schema) (archive : Archive) (table : Table) (s : Session)

theorem contains_load (key : Key) : (schema.load archive table s).table.contains key = true ↔
    schema.IsTaken table (schema.rowsRead archive) key := by
  rw [load_eq]
  change (schema.loadTable archive table).contains key = true ↔ _
  unfold loadTable rowsRead
  cases archive.source? schema.name with
  | none => simp [IsTaken]
  | some source => exact Notes.contains_rows schema _ { table } source.records key

variable {table} in
theorem fits_load (fits : table.Fits schema) : (schema.load archive table s).table.Fits schema := by
  intro key present
  rcases (contains_load schema archive table s key).mp present with before | read
  · exact fits key before
  · obtain ⟨values, -, own⟩ := List.mem_map.mp read
    exact shape_of_key? own

theorem filter_repeating_load :
    (s.reports (schema.loadEffects archive table)).filter (·.kind.isDuplicateKey) =
      schema.repeatingRows table (schema.rowsRead archive) := by
  rw [filter_reports_load schema archive table s (fun _ => rfl)
    (fun d holds => by simp [Diagnostic.tier_of_isDuplicateKey holds])]
  unfold rowsTold rowsRead
  cases archive.source? schema.name with
  | none => rfl
  | some source => exact Notes.told_repeatingRows schema _ table source.records

variable {schema table} in
theorem exists_of_mem_repeatingRows {rows : List (List Value)} {d : Diagnostic}
    (member : d ∈ schema.repeatingRows table rows) :
    ∃ i values key, rows[i]? = some values ∧ schema.key? values = some key ∧
      d = ⟨schema.name, i + 1, some schema.keyLabel, .duplicateKey key.text⟩ := by
  obtain ⟨⟨values, i⟩, inside, told⟩ := List.mem_filterMap.mp member
  obtain ⟨key, own, told⟩ := Option.bind_eq_some_iff.mp told
  split at told
  · exact ⟨i, values, key, List.mem_zipIdx_iff_getElem?.mp inside, own, (Option.some.inj told).symm⟩
  · contradiction

end Schema

/-- Keys with a number have one text only if they are the same, and so have keys with a day. When a
    load reports that the key of a row is taken, the text that it reports is therefore that of one
    record of the table, which has the key of the row. It remains so in later loads, because the
    keys of the table keep their shape and no key is lost. -/
theorem Key.text_identifies :
    (∀ id other part number, (numbered id part).text = (numbered other number).text ↔
      id = other ∧ part = number) ∧
      (∀ id other day date, (dated id day).text = (dated other date).text ↔
        id = other ∧ day = date) ∧
        ∀ (schema : Schema) (archive : Archive) (table : Table) (s : Session),
          table.Fits schema →
            let loaded := schema.load archive table s
            loaded.table.Fits schema ∧
              (∀ text key, table.PicksOut text key → loaded.table.PicksOut text key) ∧
                ∃ new, loaded.session.diagnostics.toList = s.diagnostics.toList ++ new ∧
                  ∀ d ∈ new, ∀ text, d.kind = .duplicateKey text →
                    ∃ i values key, d.row = i + 1 ∧
                      (schema.rowsRead archive)[i]? = some values ∧
                        schema.key? values = some key ∧ loaded.table.PicksOut text key := by
  refine ⟨fun _ _ _ _ => text_numbered_inj, fun _ _ _ _ => text_dated_inj, ?_⟩
  intro schema archive table s fits loaded
  have fits' : loaded.table.Fits schema := schema.fits_load archive s fits
  have present := schema.contains_load archive table s
  refine ⟨fits', ?_, _, schema.diagnostics_load archive table s, ?_⟩
  · intro text key picked
    obtain ⟨before, same⟩ := picked.contains
    exact fits'.picksOut_iff.mpr ⟨(present key).mpr (Or.inl before), same⟩
  · intro d member text kind
    have repeating : d.kind.isDuplicateKey = true := by
      rw [kind]
      rfl
    have told : d ∈ schema.repeatingRows table (schema.rowsRead archive) := by
      rw [← schema.filter_repeating_load archive table s]
      exact List.mem_filter.mpr ⟨member, repeating⟩
    obtain ⟨i, values, key, at_i, own, rfl⟩ := Schema.exists_of_mem_repeatingRows told
    have read : some key ∈ (schema.rowsRead archive).map schema.key? :=
      List.mem_map.mpr ⟨values, List.mem_of_getElem? at_i, own⟩
    exact ⟨i, values, key, rfl, at_i, own,
      fits'.picksOut_iff.mpr ⟨(present key).mpr (Or.inr read), Diagnostic.Kind.duplicateKey.inj kind⟩⟩

/-- A point, and two points at one position of a line whose identifier looks like the key of the
    first. -/
def Archive.repeatedPoint : Archive :=
  [{ name := "shapes.txt"
     content := Utf8.encode "shape_id,shape_pt_sequence\nA,1\nA:1,2\nA:1,2" }]

/-- The text with two colons picks out the later point, also when the archive is loaded again. -/
theorem Key.text_identifies_colons :
    let schema := ({} : Feed).schema .shapes
    let loaded := schema.load .repeatedPoint { name := "shapes" } {}
    let again := schema.load .repeatedPoint loaded.table loaded.session
    Table.Fits { name := "shapes" } schema ∧
      ⟨"shapes", 3, some "shape_id,shape_pt_sequence", .duplicateKey "A:1:2"⟩ ∈
          loaded.session.diagnostics.toList ∧
        loaded.table.PicksOut "A:1:2" (.numbered "A:1" 2) ∧
          again.table.PicksOut "A:1:2" (.numbered "A:1" 2) := by
  intro schema loaded again
  have empty : Table.Fits { name := "shapes" } schema := Table.fits_empty _ _
  have reported : ⟨"shapes", 3, some "shape_id,shape_pt_sequence", .duplicateKey "A:1:2"⟩ ∈
      loaded.session.diagnostics.toList := by decide +kernel
  obtain ⟨-, -, identifies⟩ := text_identifies
  obtain ⟨fits, -, new, all, picks⟩ := identifies schema .repeatedPoint { name := "shapes" } {} empty
  have told : loaded.session.diagnostics.toList = new := all
  obtain ⟨-, -, key, -, -, -, picked⟩ := picks _ (told ▸ reported) _ rfl
  obtain ⟨present, text⟩ := picked.contains
  obtain rfl : key = .numbered "A:1" 2 := eq_of_text (fits key present) text
  obtain ⟨-, stays, -⟩ := identifies schema .repeatedPoint loaded.table loaded.session fits
  exact ⟨empty, reported, picked, stays _ _ picked⟩

end TransitFeed

import TransitFeed.Proofs.Load.Keys
import TransitFeed.Proofs.Session.Agree
import TransitFeed.Proofs.Session.FirstLookups
import TransitFeed.Proofs.Session.Pool
import TransitFeed.Proofs.Table.Values

/-! # The texts of a session

The pool of a session holds the texts that were read in columns of texts and references, and no
other ones. A record holds the instances that its texts were given when its row was read, and these
are the instances that the texts are to the end of the session.
-/

namespace TransitFeed

namespace Pool

variable {p : Pool}

/-- Whether a value that is a text holds the instance that the text is, and another value none. -/
def Holds (p : Pool) (v : Value) (held : Option Nat) : Prop :=
  match v.text?.join with
  | none => held = none
  | some text => ∃ i, held = some i ∧ p.get? text = some i

theorem Holds.foldl_intern {v : Value} {held : Option Nat} (holds : p.Holds v held)
    (texts : List String) : (texts.foldl Pool.intern p).Holds v held := by
  unfold Holds at holds ⊢
  cases known : v.text?.join with
  | none =>
      rw [known] at holds
      exact holds
  | some text =>
      rw [known] at holds
      obtain ⟨i, same, found⟩ := holds
      exact ⟨i, same, get?_foldl_intern found texts⟩

theorem Holds.exists_of_text {values : List Value} {held : List (Option Nat)}
    (holds : List.Forall₂ p.Holds values held) {i : Nat} {text : String}
    (valued : values[i]? = some (.text (some text))) :
    ∃ a, held[i]? = some (some a) ∧ p.get? text = some a := by
  obtain ⟨inside, at_i⟩ := List.getElem?_eq_some_iff.mp valued
  have inside' : i < held.length := holds.length_eq ▸ inside
  have here := holds.get inside inside'
  rw [List.get_eq_getElem, at_i] at here
  obtain ⟨a, same, found⟩ := here
  exact ⟨a, (List.getElem?_eq_getElem inside').trans (congrArg some same), found⟩

end Pool

/-- The texts of a row that are pooled, in the order of its columns. -/
def rowTexts (layout : List Field) (cells : Csv.Record) : List String :=
  layout.filterMap (Field.pooled? cells)

namespace Effect

def interned? : Effect → Option String
  | .intern text => some text
  | _ => none

theorem texts_requests (effects : List Effect) :
    (effects.filter isRequest).filterMap interned? = effects.filterMap interned? := by
  refine filterMap_filter_isRequest (fun e quiet => ?_) effects
  cases e with
  | intern => contradiction
  | log | tell | pass | report | refer => rfl

end Effect

theorem Field.texts_requests (table : String) (row : Nat) (cells : Csv.Record) (f : Field) :
    (f.requests table row cells).filterMap Effect.interned? = (f.pooled? cells).toList := by
  unfold requests pooled?
  cases f.column.kind with
  | text | reference => cases f.presence cells <;> rfl
  | whole | decimal | clock | day | link => rfl

theorem Field.pooled?_ne_empty {cells : Csv.Record} {f : Field} {text : String}
    (pooled : f.pooled? cells = some text) : text ≠ "" := by
  unfold pooled? at pooled
  split at pooled
  · next present =>
    rw [← Option.some.inj pooled]
    exact Presence.ne_empty_of_ofCell present
  · next present =>
    rw [← Option.some.inj pooled]
    exact Presence.ne_empty_of_ofCell present
  · contradiction

theorem Field.text?_read (cells : Csv.Record) (f : Field) :
    (f.read cells).value.text?.join = f.pooled? cells := by
  unfold Field.read ColumnKind.read pooled?
  cases f.column.kind with
  | text | reference target => cases f.presence cells <;> rfl
  | whole | decimal | clock | day | link => cases f.presence cells <;> rfl

namespace Schema

variable (schema : Schema) (layout : List Field)

theorem texts_rowRequests (row : Nat) (cells : Csv.Record) :
    (schema.rowRequests layout row cells).filterMap Effect.interned? = rowTexts layout cells := by
  unfold rowRequests rowTexts
  rw [List.filterMap_flatMap, List.filterMap_eq_flatMap_toList]
  simp only [Field.texts_requests]

theorem texts_rowsRequests (row : Nat) (records : List Csv.Record) :
    (schema.rowsRequests layout row records).filterMap Effect.interned? =
      records.flatMap (rowTexts layout) := by
  induction records generalizing row with
  | nil => rfl
  | cons cells rest ih =>
      rw [rowsRequests, List.filterMap_append, texts_rowRequests, ih, List.flatMap_cons]

end Schema

theorem Session.pool_run (s : Session) (effects : List Effect) :
    (s.run effects).pool = (effects.filterMap Effect.interned?).foldl Pool.intern s.pool := by
  induction effects generalizing s with
  | nil => rfl
  | cons e rest ih =>
      rw [run_cons, ih]
      by_cases interned : ∃ text, e = .intern text
      · obtain ⟨text, rfl⟩ := interned
        rfl
      · have other : ∀ text, e ≠ .intern text := fun text same => interned ⟨text, same⟩
        have none : e.interned? = none := by
          cases e with
          | intern text => exact absurd rfl (other text)
          | log | tell | pass | report | refer => rfl
        rw [pool_apply_of_ne s other, List.filterMap_cons_none none]

namespace Holdings

theorem foldl_afterField (cells : Csv.Record) (layout : List Field) (h : Holdings × Pool) :
    let after := layout.foldl (afterField cells) h
    after.2 = (rowTexts layout cells).foldl Pool.intern h.2 ∧ after.1.records = h.1.records ∧
      ∃ new, after.1.row = h.1.row ++ new ∧
        List.Forall₂ after.2.Holds (rowValues layout cells) new := by
  induction layout generalizing h with
  | nil => exact ⟨rfl, rfl, [], (List.append_nil _).symm, .nil⟩
  | cons field rest ih =>
      have text := field.text?_read cells
      cases pooled : field.pooled? cells with
      | none =>
          have first : afterField cells h field = (h.1.add none, h.2) := by
            unfold afterField
            rw [pooled]
          have texts : rowTexts (field :: rest) cells = rowTexts rest cells :=
            List.filterMap_cons_none pooled
          obtain ⟨pool, records, new, row, holds⟩ := ih (h.1.add none, h.2)
          rw [List.foldl_cons, first, texts]
          refine ⟨pool, records, none :: new, row.trans (List.append_assoc ..), .cons ?_ holds⟩
          unfold Pool.Holds
          rw [text, pooled]
      | some found =>
          have first : afterField cells h field =
              (h.1.add (some (h.2.share found).1), h.2.intern found) := by
            unfold afterField
            rw [pooled]
          have texts : rowTexts (field :: rest) cells = found :: rowTexts rest cells :=
            List.filterMap_cons_some pooled
          obtain ⟨pool, records, new, row, holds⟩ :=
            ih (h.1.add (some (h.2.share found).1), h.2.intern found)
          rw [List.foldl_cons, first, texts]
          refine ⟨pool, records, some (h.2.share found).1 :: new,
            row.trans (List.append_assoc ..), .cons ?_ holds⟩
          unfold Pool.Holds
          rw [text, pooled]
          refine ⟨_, rfl, ?_⟩
          rw [pool]
          exact Pool.get?_foldl_intern (h.2.get?_intern_self found) _

/-- Whether records hold the instances that their texts are in a pool. A record of a table that
    holds none was in the table that the scan started with. -/
structure Covers (start table : Table) (records : Instances) (p : Pool) : Prop where
  held : ∀ key held, records.get? key = some held →
    ∃ record, table.get? key = some record ∧ List.Forall₂ p.Holds record.values held
  old : ∀ key record, table.get? key = some record → records.get? key = none →
    start.get? key = some record

namespace Covers

theorem start (table : Table) (p : Pool) : Covers table table ∅ p :=
  ⟨fun key held found => by simp at found, fun key record found _ => found⟩

theorem foldl_intern {start table : Table} {records : Instances} {p : Pool}
    (covers : Covers start table records p) (texts : List String) :
    Covers start table records (texts.foldl Pool.intern p) where
  held key held found := by
    obtain ⟨record, same, holds⟩ := covers.held key held found
    exact ⟨record, same, holds.imp fun _ _ here => here.foldl_intern texts⟩
  old := covers.old

theorem insert {start table : Table} {records : Instances} {p : Pool}
    (covers : Covers start table records p) (key : Key) (record : Record)
    {held : List (Option Nat)} (holds : List.Forall₂ p.Holds record.values held) :
    Covers start (table.insert key record) (records.insert key held) p := by
  have inserted (other : Key) : (records.insert key held).get? other =
      if key = other then some held else records.get? other := by
    have inserted := Std.TreeMap.getElem?_insert (t := records) (k := key) (a := other) (v := held)
    simp only [Std.LawfulEqCmp.compare_eq_iff_eq] at inserted
    exact inserted
  constructor
  · intro other held' found
    rw [inserted] at found
    rw [Table.get?_insert]
    split at found
    · next same =>
      obtain rfl := Option.some.inj found
      exact ⟨record, if_pos same, holds⟩
    · next differs =>
      rw [if_neg differs]
      exact covers.held other held' found
  · intro other record' found none
    rw [inserted] at none
    rw [Table.get?_insert] at found
    split at none
    · contradiction
    · next differs =>
      rw [if_neg differs] at found
      exact covers.old other record' found none

theorem afterRow {start : Table} {n : Notes} {h : Holdings × Pool}
    (covers : Covers start n.table h.1.records h.2) (schema : Schema) (layout : List Field)
    (cells : Csv.Record) :
    let after := Holdings.afterRow schema layout h cells
    after.2 = (rowTexts layout cells).foldl Pool.intern h.2 ∧
      Covers start (n.step schema layout cells).table after.1.records after.2 := by
  obtain ⟨pool, records, new, row, holds⟩ := foldl_afterField cells layout (h.1.next, h.2)
  dsimp only at pool records row holds
  unfold Holdings.afterRow
  rw [Notes.step_table]
  cases schema.key? (rowValues layout cells) with
  | none =>
      refine ⟨pool, ?_⟩
      dsimp only
      rw [records, pool]
      exact covers.foldl_intern _
  | some key =>
      refine ⟨pool, ?_⟩
      have before := covers.foldl_intern (rowTexts layout cells)
      rw [← pool] at before
      dsimp only [Holdings.keep]
      rw [records, row]
      exact before.insert key _ holds

theorem rows {start : Table} {n : Notes} {h : Holdings × Pool}
    (covers : Covers start n.table h.1.records h.2) (schema : Schema) (layout : List Field)
    (records : List Csv.Record) :
    let after := records.foldl (Holdings.afterRow schema layout) h
    after.2 = (records.flatMap (rowTexts layout)).foldl Pool.intern h.2 ∧
      Covers start (n.rows schema layout records).table after.1.records after.2 := by
  induction records generalizing n h with
  | nil => exact ⟨rfl, covers⟩
  | cons cells rest ih =>
      obtain ⟨first, covers⟩ := covers.afterRow schema layout cells
      obtain ⟨pool, all⟩ := ih covers
      refine ⟨?_, all⟩
      rw [List.flatMap_cons, List.foldl_append, ← first]
      exact pool

end Covers

end Holdings

namespace LoadTask

/-- The texts that a load has read for the pool when so many rows are complete and so many columns
    of the next row have been read, in the order of rows and columns. -/
def texts (t : LoadTask) (rows columns : Nat) : List String :=
  match t.archive.source? t.schema.name with
  | none => []
  | some source =>
    let layout := Field.layout t.schema source.header
    (source.records.take rows).flatMap (rowTexts layout) ++
      match source.records.drop rows with
      | [] => []
      | cells :: _ => rowTexts (layout.take columns) cells

/-- The texts that a load reads for the pool. -/
def allTexts (t : LoadTask) : List String :=
  match t.archive.source? t.schema.name with
  | none => []
  | some source => source.records.flatMap (rowTexts (Field.layout t.schema source.header))

/-- Whether a load in a session brings a record, and the instances that its values hold. -/
def Brings (s : Session) (t : LoadTask) (record : Record) (held : List (Option Nat)) : Prop :=
  let loaded := t.schema.load t.archive t.table s
  ∃ key, loaded.table.get? key = some record ∧ loaded.instances.get? key = some held

variable (t : LoadTask) (s : Session)

theorem texts_effects : t.effects.filterMap Effect.interned? = t.allTexts := by
  rw [← Effect.texts_requests, requests_effects]
  unfold Schema.loadRequests allTexts
  cases t.archive.source? t.schema.name with
  | none => rfl
  | some source => exact t.schema.texts_rowsRequests _ _ _

theorem texts_requests (rows columns : Nat) :
    (t.requests rows columns).filterMap Effect.interned? = t.texts rows columns := by
  unfold requests texts
  cases t.archive.source? t.schema.name with
  | none => rfl
  | some source =>
      dsimp only
      rw [List.filterMap_append, Schema.texts_rowsRequests]
      cases source.records.drop rows with
      | nil => rfl
      | cons cells _ => exact congrArg (_ ++ ·) (Schema.texts_rowRequests _ _ _ _)

theorem ne_empty_of_mem_texts {tasks : List LoadTask} {current : LoadTask} {rows columns : Nat}
    {text : String} (read : text ∈ tasks.flatMap allTexts ++ current.texts rows columns) :
    text ≠ "" := by
  have row {layout : List Field} {cells : Csv.Record} (inside : text ∈ rowTexts layout cells) :
      text ≠ "" := by
    obtain ⟨field, -, pooled⟩ := List.mem_filterMap.mp inside
    exact Field.pooled?_ne_empty pooled
  rcases List.mem_append.mp read with early | late
  · obtain ⟨t, -, inside⟩ := List.mem_flatMap.mp early
    unfold allTexts at inside
    split at inside
    · contradiction
    · obtain ⟨cells, -, inside⟩ := List.mem_flatMap.mp inside
      exact row inside
  · unfold texts at late
    split at late
    · contradiction
    · rcases List.mem_append.mp late with complete | begun
      · obtain ⟨cells, -, inside⟩ := List.mem_flatMap.mp complete
        exact row inside
      · split at begun
        · contradiction
        · exact row begun

theorem pool_moment (tasks : List LoadTask) (rows columns : Nat) :
    (t.moment (tasks.foldl run s) rows columns).pool =
      (tasks.flatMap allTexts ++ t.texts rows columns).foldl Pool.intern s.pool := by
  obtain ⟨effects, moment, -, asked⟩ := t.exists_effects (tasks.foldl run s) rows columns
  have read : effects.filterMap Effect.interned? = t.texts rows columns := by
    rw [← Effect.texts_requests, asked, texts_requests]
  rw [moment, foldl_run_eq, ← Session.run_append, Session.pool_run, List.filterMap_append, read,
    List.filterMap_flatMap]
  simp only [texts_effects]

/-- The records of a load hold the instances that their texts are in the pool that the load leaves.
    Those that hold none were in the table before. -/
theorem covers_load :
    let loaded := t.schema.load t.archive t.table s
    Holdings.Covers t.table loaded.table loaded.instances loaded.session.pool := by
  intro loaded
  have pool : loaded.session.pool = t.allTexts.foldl Pool.intern s.pool := by
    have ran : loaded.session = s.run t.effects := t.run_eq s
    rw [ran, Session.pool_run, texts_effects]
  rw [pool]
  unfold loaded
  rw [Schema.load_eq]
  dsimp only
  unfold Schema.loadTable Schema.loadInstances allTexts
  cases t.archive.source? t.schema.name with
  | none => exact .start t.table s.pool
  | some source =>
      have begun : Holdings.Covers t.table ({ table := t.table } : Notes).table
          (({}, s.pool) : Holdings × Pool).1.records s.pool := .start t.table s.pool
      obtain ⟨same, covers⟩ := begun.rows t.schema
        (Field.layout t.schema source.header) source.records
      rw [same] at covers
      exact covers

variable {t s} in
theorem Brings.holds {record : Record} {held : List (Option Nat)} (brings : t.Brings s record held)
    (later : List LoadTask) (current : LoadTask) (rows columns : Nat) :
    List.Forall₂ (current.moment (later.foldl run (run s t)) rows columns).pool.Holds record.values
      held := by
  obtain ⟨key, found, kept⟩ := brings
  obtain ⟨covered, same, holds⟩ := (t.covers_load s).held key held kept
  obtain rfl : record = covered := Option.some.inj (found.symm.trans same)
  rw [current.pool_moment]
  exact holds.imp fun _ _ here => here.foldl_intern _

/-- At every moment of a session the pool holds the texts that were read for it, each as one
    instance, and every request for a text, early or late, is answered with this instance. A record
    that the session brought holds the instances that it was given for its texts, so two texts of
    records are the same instance exactly if they are equal. -/
theorem pool_at_moment (settings : Settings) (progress : Option (Array Progress.Event))
    (earlier : List LoadTask) (current : LoadTask) (rows columns : Nat) :
    let session := current.moment (earlier.foldl run { settings, progress }) rows columns
    let texts := earlier.flatMap allTexts ++ current.texts rows columns
    let isBrought (record : Record) (held : List (Option Nat)) : Prop :=
      ∃ before t after, earlier = before ++ t :: after ∧
        t.Brings (before.foldl run { settings, progress }) record held
    (∃ order, session.pool.Lists order ∧ order.Nodup ∧ "" ∉ order ∧
        ∀ text, text ∈ order ↔ text ∈ texts) ∧
      (session.pool = (Pool.shareAll {} texts).2 ∧
        (Pool.shareAll {} texts).1.map some = texts.map session.pool.get? ∧
        ∀ text ∈ texts, session.pool.get? text = some (session.share text).1 ∧
          ∀ other, (session.share other).1 = (session.share text).1 ↔ other = text) ∧
      (∀ before t after, earlier = before ++ t :: after → ∀ key record,
        (t.schema.load t.archive t.table
            (before.foldl run { settings, progress })).table.get? key = some record →
          t.table.get? key = some record ∨ ∃ held, isBrought record held) ∧
      ∀ record held other held', isBrought record held → isBrought other held' →
        ∀ (i j : Nat) (text text' : String), record.values[i]? = some (.text (some text)) →
          other.values[j]? = some (.text (some text')) →
            ∃ a b, held[i]? = some (some a) ∧ held'[j]? = some (some b) ∧
              (a = b ↔ text = text') := by
  intro session texts isBrought
  have pooled : session.pool = texts.foldl Pool.intern {} :=
    current.pool_moment _ earlier rows columns
  obtain ⟨shared, answers⟩ := Pool.shareAll_eq {} texts
  rw [← pooled] at shared answers
  obtain ⟨order, lists, members⟩ := Pool.Lists.empty.foldl_intern texts
  rw [List.nil_append] at lists members
  have listed : ∀ text, text ∈ order ↔ text ∈ texts := by simpa using members
  rw [← pooled] at lists
  refine ⟨⟨order, lists, lists.nodup, ?_, listed⟩, ⟨shared.symm, answers, ?later⟩, ?kept, ?same⟩
  · exact fun inside => ne_empty_of_mem_texts ((listed "").mp inside) rfl
  case later =>
    intro text read
    have inside := (listed text).mpr read
    obtain ⟨i, known⟩ := lists.exists_get? inside
    refine ⟨?_, lists.share_eq_iff inside⟩
    rw [known]
    exact congrArg (fun answer : Nat × Pool => some answer.1) (Pool.share_of_known known).symm
  case kept =>
    intro before t after split key record found
    have covers := t.covers_load (before.foldl run { settings, progress })
    cases kept : (t.schema.load t.archive t.table
        (before.foldl run { settings, progress })).instances.get? key with
    | none => exact Or.inl (covers.old key record found kept)
    | some held => exact Or.inr ⟨held, before, t, after, split, key, found, kept⟩
  case same =>
    intro record held other held' brought brought' i j text text' valued valued'
    have holds {record : Record} {held : List (Option Nat)} (brought : isBrought record held) :
        List.Forall₂ session.pool.Holds record.values held := by
      obtain ⟨before, t, after, rfl, brings⟩ := brought
      have last := brings.holds after current rows columns
      rw [← List.foldl_cons, ← List.foldl_append] at last
      exact last
    obtain ⟨a, at_i, first⟩ := Pool.Holds.exists_of_text (holds brought) valued
    obtain ⟨b, at_j, second⟩ := Pool.Holds.exists_of_text (holds brought') valued'
    refine ⟨a, b, at_i, at_j, ?_, ?_⟩
    · rintro rfl
      exact lists.get?_inj first second
    · rintro rfl
      exact Option.some.inj (first.symm.trans second)

/-- Notes, of which two have texts that are not well-formed and read alike, and a row without a
    name. -/
def notes : LoadTask where
  schema :=
    { name := "notes", required := false, identity := .named "name", keyLabel := "name"
      columns := [⟨"name", .text, true⟩, ⟨"text", .text, false⟩, ⟨"day", .day, false⟩] }
  archive :=
    [{ name := "notes.txt"
       content := Utf8.encode "name,text,day\nA," ++ [0xFF] ++ Utf8.encode ",20240229\n,lost\nB," ++
        [0xFE] ++ Utf8.encode ",\n" }]
  table := { name := "notes" }

/-- Links to notes, of which one is named like the note that it refers to. The checksum is wrong. -/
def links : LoadTask where
  schema :=
    { name := "links", required := false, identity := .named "link", keyLabel := "link"
      columns := [⟨"link", .text, true⟩, ⟨"name", .reference { name := "notes" }, true⟩] }
  archive :=
    [{ name := "links.txt", content := Utf8.encode "link,name\nB,B\n", state := .corrupt }]
  table := { name := "links" }

/-- Texts that read alike are one instance in both notes, and the two names are two. -/
theorem pool_at_moment_notes :
    let session := links.moment ([notes, links].foldl run {}) 0 0
    let first : Record := ⟨1, [.text (some "A"), .text (some "\uFFFD"), .day (Day.of? 2024 2 29)]⟩
    let last : Record := ⟨3, [.text (some "B"), .text (some "\uFFFD"), .day none]⟩
    let link : Record := ⟨1, [.text (some "B"), .text (some "B")]⟩
    notes.Brings {} first [some 0, some 1, none] ∧ notes.Brings {} last [some 3, some 1, none] ∧
      links.Brings (notes.run {}) link [some 3, some 3] ∧
      ["A", "\uFFFD", "lost", "B", "20240229"].map session.pool.get? =
          [some 0, some 1, some 2, some 3, none] ∧
        (∃ a b, [some 0, some 1, none][1]? = some (some a) ∧
          [some 3, some 1, none][1]? = some (some b) ∧ a = b) ∧
          ∃ a b, [some 0, some 1, none][0]? = some (some a) ∧ [some 3, some 3][0]? = some (some b) ∧
            a ≠ b := by
  intro session first last link
  have noted : notes.Brings {} first [some 0, some 1, none] :=
    ⟨.name "A", by decide +kernel, by decide +kernel⟩
  have noted' : notes.Brings {} last [some 3, some 1, none] :=
    ⟨.name "B", by decide +kernel, by decide +kernel⟩
  have linked : links.Brings (notes.run {}) link [some 3, some 3] :=
    ⟨.name "B", by decide +kernel, by decide +kernel⟩
  obtain ⟨-, -, -, same⟩ := pool_at_moment {} none [notes, links] links 0 0
  obtain ⟨a, b, at_a, at_b, iff⟩ := same first _ last _ ⟨[], notes, [links], rfl, noted⟩
    ⟨[], notes, [links], rfl, noted'⟩ 1 1 "\uFFFD" "\uFFFD" rfl rfl
  obtain ⟨c, d, at_c, at_d, iff'⟩ := same first _ link _ ⟨[], notes, [links], rfl, noted⟩
    ⟨[notes], links, [], rfl, linked⟩ 0 0 "A" "B" rfl rfl
  refine ⟨noted, noted', linked, by decide +kernel, ⟨a, b, at_a, at_b, iff.mpr rfl⟩,
    c, d, at_c, at_d, fun equal => ?_⟩
  exact absurd (iff'.mp equal) (by decide)

end LoadTask

end TransitFeed

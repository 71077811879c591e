import TransitFeed.Proofs.Session.Run

/-! # The references that a load meets

A load meets a reference for each row that has a text in a column of references, also for a row
whose record is dropped or replaced later. Whatever else it reports is about its own table and no
dangling reference.
-/

namespace TransitFeed

namespace Effect

/-- Whether an effect reports things of one table only, and no dangling reference by itself. -/
def Owned (table : String) : Effect → Prop
  | .report d => d.table = table ∧ ∀ key, d.kind ≠ .referentialIntegrity key
  | .refer of .. => of = table
  | _ => True

theorem Owned.plain {table : String} {e : Effect} (owned : e.Owned table) : e.Plain := by
  cases e with
  | report d => exact owned.2
  | log | tell | pass | intern | refer => trivial

theorem Owned.table_of_report {table : String} {e : Effect} (owned : e.Owned table)
    {d : Diagnostic} (reported : e.report? = some d) : d.table = table := by
  cases e with
  | report found =>
      obtain rfl : found = d := Option.some.inj reported
      exact owned.1
  | log | tell | pass | intern | refer => contradiction

def Aside (table : String) (e : Effect) : Prop := e.Owned table ∧ e.reference? = none

theorem not_meets_of_aside {table : String} {effects : List Effect}
    (aside : ∀ e ∈ effects, e.Aside table) (p : Sighting) (missing : Bool) :
    ¬ Meets effects p missing := by
  rintro ⟨e, member, reference⟩
  rw [(aside e member).2] at reference
  contradiction

end Effect

namespace Notes

variable (schema : Schema) (cells : Csv.Record) (layout : List Field) (n : Notes)

theorem aside_reportAt (column : String) {kind : Diagnostic.Kind}
    (other : ∀ key, kind ≠ .referentialIntegrity key) :
    (n.reportAt schema column kind).Aside schema.name := ⟨⟨rfl, other⟩, rfl⟩

theorem aside_problems (column : String) (found : List Cell.Problem) :
    ∀ e ∈ found.map (fun problem => n.reportAt schema column (.cell problem)),
      e.Aside schema.name := by
  intro e member
  obtain ⟨problem, -, rfl⟩ := List.mem_map.mp member
  exact n.aside_reportAt schema column (by simp)

theorem aside_keepEffects (values : List Value) :
    ∀ e ∈ n.keepEffects schema values, e.Aside schema.name := by
  unfold keepEffects
  intro e member
  split at member
  · rw [List.mem_singleton.mp member]
    exact n.aside_reportAt schema _ (by simp)
  · split at member
    · rw [List.mem_singleton.mp member]
      exact n.aside_reportAt schema _ (by simp)
    · contradiction

theorem owned_fieldEffects (field : Field) :
    ∀ e ∈ n.fieldEffects schema cells field, e.Owned schema.name := by
  unfold fieldEffects textEffects
  intro e member
  split at member
  · split at member
    · contradiction
    · rw [List.mem_singleton.mp member]
      exact ⟨rfl, by simp⟩
  · split at member
    · rw [List.mem_singleton.mp member]
      exact (n.aside_reportAt schema _ (by simp)).1
    · contradiction
  · split at member
    · rw [List.mem_singleton.mp member]
      trivial
    · rcases List.mem_cons.mp member with rfl | member
      · rfl
      · rw [List.mem_singleton.mp member]
        trivial
    · exact (n.aside_problems schema _ _ e member).1

theorem owned_fieldsEffects :
    ∀ e ∈ n.fieldsEffects schema cells layout, e.Owned schema.name := by
  induction layout generalizing n with
  | nil =>
      intro e member
      contradiction
  | cons field rest ih =>
      intro e member
      rcases List.mem_append.mp member with here | later
      · exact n.owned_fieldEffects schema cells field e here
      · exact ih _ e later

theorem owned_stepEffects : ∀ e ∈ n.stepEffects schema layout cells, e.Owned schema.name := by
  intro e member
  rcases List.mem_cons.mp member with rfl | member
  · trivial
  · rcases List.mem_append.mp member with noted | kept
    · exact n.next.owned_fieldsEffects schema cells layout e noted
    · exact (aside_keepEffects schema _ _ e kept).1

theorem owned_rowsEffects (records : List Csv.Record) :
    ∀ e ∈ n.rowsEffects schema layout records, e.Owned schema.name := by
  induction records generalizing n with
  | nil =>
      intro e member
      contradiction
  | cons cells rest ih =>
      intro e member
      rcases List.mem_append.mp member with here | later
      · exact n.owned_stepEffects schema cells layout e here
      · exact ih _ e later

end Notes

namespace Schema

variable (schema : Schema) (archive : Archive) (table : Table)

theorem aside_reportTable {kind : Diagnostic.Kind}
    (other : ∀ key, kind ≠ .referentialIntegrity key) :
    (schema.reportTable kind).Aside schema.name := ⟨⟨rfl, other⟩, rfl⟩

theorem aside_log (level : Level) (text : String) : (Effect.log level text).Aside schema.name :=
  ⟨trivial, rfl⟩

theorem aside_headerEffects (entry : Entry) :
    ∀ e ∈ schema.headerEffects entry table, e.Aside schema.name := by
  unfold headerEffects
  intro e member
  split at member
  · rw [List.mem_singleton.mp member]
    split
    · exact schema.aside_reportTable (by simp)
    · exact schema.aside_log _ _
  · rw [List.mem_singleton.mp member]
    split
    · exact schema.aside_reportTable (by simp)
    · exact schema.aside_log _ _

theorem aside_locationEffects (location : Archive.Location) :
    ∀ e ∈ schema.locationEffects location, e.Aside schema.name := by
  cases location with
  | top entry =>
      intro e member
      contradiction
  | nested folder entry =>
      intro e member
      rcases List.mem_cons.mp member with rfl | member
      · exact schema.aside_log _ _
      · rw [List.mem_singleton.mp member]
        exact schema.aside_reportTable (by simp)

theorem aside_readingEffects (entry : Entry) :
    ∀ e ∈ readingEffects entry, e.Aside schema.name := by
  intro e member
  rcases List.mem_cons.mp member with rfl | member
  · exact ⟨trivial, rfl⟩
  · obtain ⟨octets, -, rfl⟩ := List.mem_map.mp member
    exact ⟨trivial, rfl⟩

theorem aside_openEffects : ∀ e ∈ schema.openEffects archive table, e.Aside schema.name := by
  unfold openEffects
  intro e member
  split at member
  · rw [List.mem_singleton.mp member]
    split
    · exact schema.aside_reportTable (by simp)
    · exact schema.aside_log _ _
  · rcases List.mem_append.mp member with found | member
    · exact schema.aside_locationEffects _ e found
    · split at member
      · contradiction
      · rcases List.mem_cons.mp member with rfl | member
        · exact schema.aside_log _ _
        · rcases List.mem_append.mp member with reading | header
          · exact schema.aside_readingEffects _ e reading
          · exact schema.aside_headerEffects table _ e header

theorem aside_closeEffects (entry : Entry) (n : Notes) :
    ∀ e ∈ schema.closeEffects entry n, e.Aside schema.name := by
  unfold closeEffects
  intro e member
  split at member
  · rcases List.mem_append.mp member with blank | line
    · split at blank
      · rw [List.mem_singleton.mp blank]
        exact schema.aside_reportTable (by simp)
      · contradiction
    · rw [List.mem_singleton.mp line]
      exact schema.aside_log _ _
  · rw [List.mem_singleton.mp member]
    exact schema.aside_log _ _

theorem owned_loadEffects : ∀ e ∈ schema.loadEffects archive table, e.Owned schema.name := by
  unfold loadEffects
  intro e member
  rcases List.mem_append.mp member with opened | member
  · exact (schema.aside_openEffects archive table e opened).1
  · split at member
    · contradiction
    · rcases List.mem_append.mp member with scanned | closed
      · exact Notes.owned_rowsEffects schema _ _ _ e scanned
      · exact (schema.aside_closeEffects _ _ e closed).1

end Schema

/-- Whether a row of a table in an archive has a text in a column. -/
def Archive.HasText (archive : Archive) (table column text : String) : Prop :=
  ∃ source, archive.source? table = some source ∧ ∃ cells ∈ source.records,
    Presence.ofCell cells ((Field.headerNames source.header).idxOf? column) = .present text

instance (archive : Archive) (table column text : String) :
    Decidable (archive.HasText table column text) :=
  match found : archive.source? table with
  | none => isFalse (by simp [Archive.HasText, found])
  | some source =>
    decidable_of_iff (∃ cells ∈ source.records, Presence.ofCell cells
      ((Field.headerNames source.header).idxOf? column) = .present text)
      (by simp [Archive.HasText, found])

namespace Notes

variable (schema : Schema) (cells : Csv.Record) (layout : List Field) (n : Notes)
  (p : Sighting) (missing : Bool)

def Refers (cells : Csv.Record) (field : Field) (p : Sighting) (missing : Bool) : Prop :=
  ∃ target, field.column.kind = .reference target ∧ field.column.name = p.column ∧
    field.presence cells = .present p.key ∧ (!target.contains (.name p.key)) = missing

theorem meets_fieldEffects (field : Field) :
    Effect.Meets (n.fieldEffects schema cells field) p missing ↔ Refers cells field p missing := by
  unfold fieldEffects Refers
  cases h : field.presence cells with
  | absent =>
      simp only [reduceCtorEq, false_and, and_false, exists_false, iff_false]
      split
      · exact Effect.meets_nil
      · simp [Effect.reference?]
  | empty =>
      simp only [reduceCtorEq, false_and, and_false, exists_false, iff_false]
      split
      · simp [Effect.reference?, reportAt]
      · exact Effect.meets_nil
  | present text =>
      unfold textEffects
      cases kind : field.column.kind with
      | reference target =>
          obtain ⟨column, key⟩ := p
          simp only [Effect.meets_cons, Effect.reference?, Option.some.injEq, Prod.mk.injEq,
            Sighting.mk.injEq, reduceCtorEq, Effect.meets_nil, or_false,
            ColumnKind.reference.injEq, Presence.present.injEq, exists_eq_left']
          constructor
          · rintro ⟨⟨name, rfl⟩, held⟩
            exact ⟨name, rfl, held⟩
          · rintro ⟨name, rfl, held⟩
            exact ⟨⟨name, rfl⟩, held⟩
      | text => simp [Effect.reference?]
      | whole | decimal | clock | day | link =>
          simp only [reduceCtorEq, false_and, exists_false, iff_false]
          exact Effect.not_meets_of_aside (n.aside_problems schema _ _) p missing

theorem meets_fieldsEffects :
    Effect.Meets (n.fieldsEffects schema cells layout) p missing ↔
      ∃ field ∈ layout, Refers cells field p missing := by
  induction layout generalizing n with
  | nil => simp [fieldsEffects]
  | cons field rest ih =>
      rw [fieldsEffects, Effect.meets_append, meets_fieldEffects, ih]
      simp

theorem meets_stepEffects :
    Effect.Meets (n.stepEffects schema layout cells) p missing ↔
      ∃ field ∈ layout, Refers cells field p missing := by
  have kept (n : Notes) (values : List Value) :
      ¬ Effect.Meets (n.keepEffects schema values) p missing :=
    Effect.not_meets_of_aside (n.aside_keepEffects schema values) p missing
  rw [stepEffects, Effect.meets_cons, Effect.meets_append, meets_fieldsEffects]
  simp [kept, Effect.reference?]

theorem meets_rowsEffects (records : List Csv.Record) :
    Effect.Meets (n.rowsEffects schema layout records) p missing ↔
      ∃ cells ∈ records, ∃ field ∈ layout, Refers cells field p missing := by
  induction records generalizing n with
  | nil => simp [rowsEffects]
  | cons cells rest ih =>
      rw [rowsEffects, Effect.meets_append, meets_stepEffects, ih]
      simp

end Notes

namespace Schema

variable (schema : Schema) (archive : Archive) (table : Table) (p : Sighting) (missing : Bool)

def references : List (String × Table) :=
  schema.columns.filterMap fun column =>
    match column.kind with
    | .reference target => some (column.name, target)
    | _ => none

theorem mem_references (name : String) (target : Table) :
    (name, target) ∈ schema.references ↔
      ∃ column ∈ schema.columns, column.kind = .reference target ∧ column.name = name := by
  unfold references
  rw [List.mem_filterMap]
  refine exists_congr fun column => and_congr_right fun listed => ?_
  cases column.kind with
  | reference other => simp [and_comm]
  | text | whole | decimal | clock | day | link => simp

/-- A load meets the references of all rows, and each is checked in the table that its column
    refers to. -/
theorem meets_loadEffects :
    Effect.Meets (schema.loadEffects archive table) p missing ↔
      ∃ target, (p.column, target) ∈ schema.references ∧
        archive.HasText schema.name p.column p.key ∧
          (!target.contains (.name p.key)) = missing := by
  have opened : ¬ Effect.Meets (schema.openEffects archive table) p missing :=
    Effect.not_meets_of_aside (schema.aside_openEffects archive table) p missing
  have closed (entry : Entry) (n : Notes) :
      ¬ Effect.Meets (schema.closeEffects entry n) p missing :=
    Effect.not_meets_of_aside (schema.aside_closeEffects entry n) p missing
  simp only [mem_references]
  unfold loadEffects Archive.HasText
  rw [Effect.meets_append]
  simp only [opened, false_or]
  cases archive.source? schema.name with
  | none => simp
  | some source =>
      simp only [Effect.meets_append, closed, or_false, Notes.meets_rowsEffects,
        Option.some.injEq, exists_eq_left']
      constructor
      · rintro ⟨cells, inside, field, member, target, kind, name, present, held⟩
        obtain ⟨column, listed, rfl⟩ := List.mem_map.mp member
        change column.name = p.column at name
        exact ⟨target, ⟨column, listed, kind, name⟩, ⟨cells, inside, name ▸ present⟩, held⟩
      · rintro ⟨target, ⟨column, listed, kind, name⟩, ⟨cells, inside, present⟩, held⟩
        refine ⟨cells, inside, ⟨column, _⟩, List.mem_map.mpr ⟨column, listed, rfl⟩, target, kind,
          name, ?_, held⟩
        rw [← name] at present
        exact present

end Schema

end TransitFeed

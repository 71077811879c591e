import TransitFeed.Proofs.Session.Reports

/-! # What rows ask of their session

A session is told of problems, and it is asked for two things: the instance of a text and the check
of a reference. Rows ask for both, and nothing else of a load does. What a row asks for depends on
its number and its cells, and not on the records or on what was reported before.
-/

namespace TransitFeed

namespace Effect

/-- Whether the session is asked for something. -/
def isRequest : Effect → Bool
  | .intern _ | .refer .. => true
  | .log .. | .tell _ | .pass _ | .report _ => false

/-- Whether an effect can be about a cell or a record. -/
def isOfRow : Effect → Bool
  | .report _ | .intern _ | .refer .. => true
  | .log .. | .tell _ | .pass _ => false

/-- Whether an effect can be about a table as a whole. -/
def isGeneral : Effect → Bool
  | .log .. | .tell _ | .report _ => true
  | .pass _ | .intern _ | .refer .. => false

theorem filter_isRequest_of_general {effects : List Effect}
    (general : ∀ e ∈ effects, e.isGeneral = true) : effects.filter isRequest = [] := by
  refine List.filter_eq_nil_iff.mpr fun e member asked => ?_
  have whole := general e member
  cases e with
  | log | tell | report => contradiction
  | pass | intern | refer => contradiction

theorem filter_isRequest_of_report {effects : List Effect}
    (reports : ∀ e ∈ effects, ∃ d, e = .report d) : effects.filter isRequest = [] := by
  refine filter_isRequest_of_general fun e member => ?_
  obtain ⟨d, rfl⟩ := reports e member
  rfl

theorem filterMap_filter_isRequest {α : Type} {look : Effect → Option α}
    (quiet : ∀ e, e.isRequest = false → look e = none) (effects : List Effect) :
    (effects.filter isRequest).filterMap look = effects.filterMap look := by
  have same : (fun e : Effect => if e.isRequest = true then look e else none) = look := by
    funext e
    cases asked : e.isRequest with
    | true => exact if_pos rfl
    | false => exact (quiet e asked).symm
  rw [List.filterMap_filter, same]

end Effect

/-- What the session is asked for a field of a row. -/
def Field.requests (table : String) (row : Nat) (cells : Csv.Record) (f : Field) : List Effect :=
  match f.column.kind, f.presence cells with
  | .text, .present text => [.intern text]
  | .reference target, .present key => [.refer table row f.column.name key target, .intern key]
  | _, _ => []

namespace Schema

/-- What the session is asked for a row in the order of its columns. -/
def rowRequests (schema : Schema) (layout : List Field) (row : Nat) (cells : Csv.Record) :
    List Effect :=
  layout.flatMap (Field.requests schema.name row cells)

/-- What the session is asked for rows one after the other. The first of them has the number
    `row`. -/
def rowsRequests (schema : Schema) (layout : List Field) (row : Nat) :
    List Csv.Record → List Effect
  | [] => []
  | cells :: rest =>
    schema.rowRequests layout row cells ++ schema.rowsRequests layout (row + 1) rest

end Schema

namespace Notes

variable (schema : Schema) (cells : Csv.Record) (layout : List Field) (n : Notes)

theorem reports_keepEffects (values : List Value) :
    ∀ e ∈ n.keepEffects schema values, ∃ d, e = .report d := by
  unfold keepEffects
  intro e member
  split at member
  · exact ⟨_, List.mem_singleton.mp member⟩
  · split at member
    · exact ⟨_, List.mem_singleton.mp member⟩
    · contradiction

theorem requests_fieldEffects (field : Field) :
    (n.fieldEffects schema cells field).filter Effect.isRequest =
      field.requests schema.name n.row cells := by
  have problems (found : List Cell.Problem) :
      (found.map fun problem => n.reportAt schema field.column.name (.cell problem)).filter
        Effect.isRequest = [] := by
    refine Effect.filter_isRequest_of_report fun e member => ?_
    obtain ⟨problem, -, rfl⟩ := List.mem_map.mp member
    exact ⟨_, rfl⟩
  unfold fieldEffects Field.requests
  cases field.presence cells with
  | absent =>
      cases field.column.kind <;> exact apply_ite _ _ _ _ |>.trans (ite_self _)
  | empty =>
      cases field.column.kind <;> exact apply_ite _ _ _ _ |>.trans (ite_self _)
  | present text =>
      unfold textEffects
      cases field.column.kind with
      | text | reference target => rfl
      | whole | decimal | clock | day | link => exact problems _

theorem requests_fieldsEffects :
    (n.fieldsEffects schema cells layout).filter Effect.isRequest =
      schema.rowRequests layout n.row cells := by
  induction layout generalizing n with
  | nil => rfl
  | cons field rest ih =>
      rw [fieldsEffects, List.filter_append, requests_fieldEffects, ih, afterField_row]
      rfl

theorem requests_stepEffects :
    (n.stepEffects schema layout cells).filter Effect.isRequest =
      schema.rowRequests layout (n.row + 1) cells := by
  have noted : (n.next.fieldsEffects schema cells layout).filter Effect.isRequest =
      schema.rowRequests layout (n.row + 1) cells :=
    n.next.requests_fieldsEffects schema cells layout
  rw [stepEffects, List.filter_cons_of_neg (by simp [Effect.isRequest]), List.filter_append, noted,
    Effect.filter_isRequest_of_report (reports_keepEffects schema _ _), List.append_nil]

theorem ofRow_fieldEffects (field : Field) :
    ∀ e ∈ n.fieldEffects schema cells field, e.isOfRow = true := by
  unfold fieldEffects textEffects
  split
  · split
    · exact List.forall_mem_nil _
    · exact List.forall_mem_singleton.mpr rfl
  · split
    · exact List.forall_mem_singleton.mpr rfl
    · exact List.forall_mem_nil _
  · split
    · exact List.forall_mem_singleton.mpr rfl
    · exact List.forall_mem_cons.mpr ⟨rfl, List.forall_mem_singleton.mpr rfl⟩
    · intro e member
      obtain ⟨problem, -, rfl⟩ := List.mem_map.mp member
      rfl

theorem ofRow_fieldsEffects :
    ∀ e ∈ n.fieldsEffects schema cells layout, e.isOfRow = true := by
  induction layout generalizing n with
  | nil => exact List.forall_mem_nil _
  | cons field rest ih =>
      exact List.forall_mem_append.mpr ⟨n.ofRow_fieldEffects schema cells field, ih _⟩

theorem exists_stepEffects :
    ∃ told, n.stepEffects schema layout cells = .pass (n.row + 1) :: told ∧
      ∀ e ∈ told, e.isOfRow = true := by
  refine ⟨_, rfl, List.forall_mem_append.mpr ⟨ofRow_fieldsEffects schema cells _ _, ?_⟩⟩
  intro e member
  obtain ⟨d, rfl⟩ := reports_keepEffects schema _ _ e member
  rfl

theorem flatMap_rowsEffects {α : Type} {look : Effect → List α}
    (quiet : ∀ e, e.isOfRow = true → look e = []) (records : List Csv.Record) :
    (n.rowsEffects schema layout records).flatMap look =
      (List.range' (n.row + 1) records.length).flatMap fun row => look (.pass row) := by
  induction records generalizing n with
  | nil => rfl
  | cons cells rest ih =>
      obtain ⟨told, step, ofRow⟩ := n.exists_stepEffects schema cells layout
      have nothing : told.flatMap look = [] :=
        List.flatMap_eq_nil_iff.mpr fun e member => quiet e (ofRow e member)
      rw [rowsEffects, List.flatMap_append, step, List.flatMap_cons, nothing, List.append_nil, ih,
        step_row, List.length_cons, List.range'_succ, List.flatMap_cons]

theorem requests_rowsEffects (records : List Csv.Record) :
    (n.rowsEffects schema layout records).filter Effect.isRequest =
      schema.rowsRequests layout (n.row + 1) records := by
  induction records generalizing n with
  | nil => rfl
  | cons cells rest ih =>
      rw [rowsEffects, List.filter_append, requests_stepEffects, ih, step_row]
      rfl

end Notes

namespace Schema

variable (schema : Schema) (archive : Archive) (table : Table)

theorem general_openEffects : ∀ e ∈ schema.openEffects archive table, e.isGeneral = true := by
  have reading (entry : Entry) : ∀ e ∈ readingEffects entry, e.isGeneral = true := by
    refine List.forall_mem_cons.mpr ⟨rfl, fun e member => ?_⟩
    obtain ⟨octets, -, rfl⟩ := List.mem_map.mp member
    rfl
  have header (entry : Entry) : ∀ e ∈ schema.headerEffects entry table, e.isGeneral = true := by
    unfold headerEffects
    split
    · refine List.forall_mem_singleton.mpr ?_
      split <;> rfl
    · refine List.forall_mem_singleton.mpr ?_
      split <;> rfl
  unfold openEffects
  split
  · refine List.forall_mem_singleton.mpr ?_
    split <;> rfl
  · next location _ =>
    refine List.forall_mem_append.mpr ⟨?_, ?_⟩
    · cases location with
      | top entry => exact List.forall_mem_nil _
      | nested folder entry =>
          exact List.forall_mem_cons.mpr ⟨rfl, List.forall_mem_singleton.mpr rfl⟩
    · split
      · exact List.forall_mem_nil _
      · exact List.forall_mem_cons.mpr ⟨rfl, List.forall_mem_append.mpr ⟨reading _, header _⟩⟩

theorem general_closeEffects (entry : Entry) (n : Notes) :
    ∀ e ∈ schema.closeEffects entry n, e.isGeneral = true := by
  unfold closeEffects
  split
  · refine List.forall_mem_append.mpr ⟨?_, List.forall_mem_singleton.mpr rfl⟩
    split
    · exact List.forall_mem_singleton.mpr rfl
    · exact List.forall_mem_nil _
  · exact List.forall_mem_singleton.mpr rfl

/-- What the session is asked for in a load. -/
def loadRequests : List Effect :=
  match archive.source? schema.name with
  | none => []
  | some source =>
    schema.rowsRequests (Field.layout schema source.header) 1 source.records

theorem requests_loadEffects :
    (schema.loadEffects archive table).filter Effect.isRequest =
      schema.loadRequests archive := by
  have opened := Effect.filter_isRequest_of_general (schema.general_openEffects archive table)
  unfold loadEffects loadRequests
  rw [List.filter_append, opened, List.nil_append]
  cases archive.source? schema.name with
  | none => rfl
  | some source =>
      dsimp only
      rw [List.filter_append, Notes.requests_rowsEffects,
        Effect.filter_isRequest_of_general (schema.general_closeEffects _ _), List.append_nil]

end Schema

end TransitFeed

import Mathlib.Data.List.Range
import TransitFeed.Feed.Write
import TransitFeed.Proofs.Archive.Package
import TransitFeed.Proofs.Feed.Past
import TransitFeed.Proofs.Session.Tenths

/-! # Milestones

A line is logged whenever so many rows have been passed. Apart from these lines, a session and what
is loaded and written in it do not depend on how many rows that are.
-/

namespace TransitFeed

/-- The multiples of a number up to a limit. There are none of zero. -/
def multiples (m limit : Nat) : List Nat :=
  if m = 0 then [] else (List.range (limit / m)).map fun i => (i + 1) * m

section Multiples

variable {m : Nat} (limit : Nat)

theorem multiples_zero : multiples 0 limit = [] := rfl

theorem multiples_succ (positive : 0 < m) :
    multiples m (limit + 1) = multiples m limit ++ if m ∣ limit + 1 then [limit + 1] else [] := by
  unfold multiples
  rw [if_neg (Nat.ne_of_gt positive), if_neg (Nat.ne_of_gt positive), Nat.succ_div]
  split
  · next divides =>
    have last : (limit / m + 1) * m = limit + 1 := by
      have exactly := Nat.div_mul_cancel divides
      rwa [Nat.succ_div_of_dvd divides] at exactly
    rw [List.range_succ, List.map_append, List.map_singleton, last]
  · rw [Nat.add_zero, List.append_nil]

theorem length_multiples : (multiples m limit).length = if m = 0 then 0 else limit / m := by
  unfold multiples
  split
  · rfl
  · rw [List.length_map, List.length_range]

theorem pairwise_multiples : (multiples m limit).Pairwise (· < ·) := by
  unfold multiples
  split
  · exact List.Pairwise.nil
  · next nonzero =>
    refine List.Pairwise.map _ (fun i j less => ?_) List.pairwise_lt_range
    exact Nat.mul_lt_mul_of_pos_right (Nat.succ_lt_succ less) (Nat.pos_of_ne_zero nonzero)

theorem mem_multiples {row : Nat} :
    row ∈ multiples m limit ↔ 0 < m ∧ m ∣ row ∧ 1 ≤ row ∧ row ≤ limit := by
  unfold multiples
  split
  · next zero => simp [zero]
  · next nonzero =>
    have positive := Nat.pos_of_ne_zero nonzero
    simp only [List.mem_map, List.mem_range]
    constructor
    · rintro ⟨i, inside, rfl⟩
      refine ⟨positive, Nat.dvd_mul_left m (i + 1), Nat.mul_pos (Nat.succ_pos i) positive, ?_⟩
      exact (Nat.le_div_iff_mul_le positive).mp inside
    · rintro ⟨-, ⟨k, rfl⟩, first, last⟩
      have some_times : 0 < k := Nat.pos_of_mul_pos_left first
      refine ⟨k - 1, ?_, ?_⟩
      · have := (Nat.le_div_iff_mul_le positive).mpr (Nat.mul_comm m k ▸ last)
        omega
      · rw [Nat.sub_add_cancel some_times, Nat.mul_comm]

theorem filter_isMilestone (settings : Settings) :
    (List.range' 1 limit).filter settings.isMilestone =
      multiples settings.milestoneRows limit := by
  rcases Nat.eq_zero_or_pos settings.milestoneRows with never | positive
  · rw [never, multiples_zero, List.filter_eq_nil_iff]
    intro row _
    simp [Settings.isMilestone, never]
  · induction limit with
    | zero => simp [multiples]
    | succ limit ih =>
        have passed : settings.isMilestone (limit + 1) = true ↔
            settings.milestoneRows ∣ limit + 1 := by
          simp [Settings.isMilestone, positive, Nat.dvd_iff_mod_eq_zero]
        rw [List.range'_1_concat, List.filter_append, ih, multiples_succ limit positive,
          Nat.add_comm 1 limit]
        congr 1
        by_cases divides : settings.milestoneRows ∣ limit + 1
        · rw [if_pos divides, List.filter_cons_of_pos (passed.mpr divides), List.filter_nil]
        · rw [if_neg divides, List.filter_cons_of_neg (mt passed.mp divides), List.filter_nil]

end Multiples

namespace LogLine

/-- How the line of a milestone begins. -/
def milestoneStart : String := "record number "

/-- The line that is logged at a milestone. -/
def milestone (row : Nat) : LogLine := ⟨.info, milestoneStart ++ Count.text row⟩

/-- Whether a line is that of a milestone. -/
def isMilestone (line : LogLine) : Bool :=
  line.level = .info && milestoneStart.toList.isPrefixOf line.text.toList

theorem isMilestone_milestone (row : Nat) : (milestone row).isMilestone = true := by
  simp [isMilestone, milestone]

theorem isMilestone_append {start : String} (other : ¬ start.toList <+: milestoneStart.toList)
    (short : start.toList.length ≤ milestoneStart.toList.length) (level : Level) (rest : String) :
    (⟨level, start ++ rest⟩ : LogLine).isMilestone = false := by
  refine Bool.eq_false_iff.mpr fun marked => other ?_
  have begins : milestoneStart.toList <+: start.toList ++ rest.toList := by
    simpa [isMilestone] using (Bool.and_eq_true_iff.mp marked).2
  exact List.prefix_of_prefix_length_le (List.prefix_append _ _) begins short

end LogLine

namespace Effect

/-- The lines that an effect logs. -/
def lines (settings : Settings) : Effect → List LogLine
  | .log level text => [⟨level, text⟩]
  | .pass row => if settings.isMilestone row then [.milestone row] else []
  | .tell _ | .intern _ | .report _ | .refer .. => []

/-- The lines of milestones that effects log. -/
def marks (settings : Settings) (effects : List Effect) : List LogLine :=
  effects.flatMap fun e => (e.lines settings).filter LogLine.isMilestone

variable {settings : Settings}

theorem marks_append (a b : List Effect) :
    marks settings (a ++ b) = marks settings a ++ marks settings b := List.flatMap_append

/-- Whether an effect logs no milestone. -/
def IsUnmarked (e : Effect) : Prop := ∀ settings, (e.lines settings).filter LogLine.isMilestone = []

theorem marks_of_unmarked {effects : List Effect} (unmarked : ∀ e ∈ effects, e.IsUnmarked) :
    marks settings effects = [] :=
  List.flatMap_eq_nil_iff.mpr fun e member => unmarked e member settings

theorem isUnmarked_log {level : Level} {text : String}
    (other : (⟨level, text⟩ : LogLine).isMilestone = false) : (Effect.log level text).IsUnmarked :=
  fun _ => by simp [lines, other]

theorem isUnmarked_info {start : String} (other : ¬ start.toList <+: LogLine.milestoneStart.toList)
    (short : start.toList.length ≤ LogLine.milestoneStart.toList.length) (rest : String) :
    (Effect.log .info (start ++ rest)).IsUnmarked :=
  isUnmarked_log (LogLine.isMilestone_append other short _ rest)

theorem marks_pass (rows : List Nat) :
    marks settings (rows.map pass) = (rows.filter settings.isMilestone).map .milestone := by
  induction rows with
  | nil => rfl
  | cons row rest ih =>
      have first : ((pass row).lines settings).filter LogLine.isMilestone =
          if settings.isMilestone row then [.milestone row] else [] := by
        simp only [lines]
        split
        · exact List.filter_cons_of_pos (LogLine.isMilestone_milestone row)
        · rfl
      rw [List.map_cons, marks, List.flatMap_cons, first]
      refine (congrArg _ ih).trans ?_
      cases marked : settings.isMilestone row <;> simp [marked]

end Effect

namespace Session

variable (s : Session)

theorem log_apply (e : Effect) :
    (s.apply e).log.toList = s.log.toList ++ e.lines s.settings := by
  cases e with
  | log level text => exact Array.toList_push
  | tell | intern | report => exact (List.append_nil _).symm
  | pass row =>
      simp only [apply, passRow, Effect.lines]
      split
      · exact Array.toList_push
      · exact (List.append_nil _).symm
  | refer table row column key target =>
      simp only [apply, checkReference, Effect.lines]
      split <;> exact (List.append_nil _).symm

theorem log_run (effects : List Effect) :
    (s.run effects).log.toList = s.log.toList ++ effects.flatMap (Effect.lines s.settings) := by
  induction effects generalizing s with
  | nil => exact (List.append_nil _).symm
  | cons e rest ih =>
      rw [run_cons, ih, log_apply, settings_apply, List.append_assoc, List.flatMap_cons]

/-- A session has logged what it had logged before, and milestones at some rows. -/
def HasMarked (before after : Session) (rows : List Nat) : Prop :=
  ∃ new, after.log.toList = before.log.toList ++ new ∧
    new.filter LogLine.isMilestone = rows.map .milestone

theorem hasMarked_run {effects : List Effect} {rows : List Nat}
    (marks : Effect.marks s.settings effects = rows.map .milestone) :
    s.HasMarked (s.run effects) rows :=
  ⟨_, s.log_run effects, by rw [List.filter_flatMap]; exact marks⟩

end Session

namespace Schema

variable (schema : Schema) (archive : Archive) (table : Table)

theorem isUnmarked_reportTable (kind : Diagnostic.Kind) : (schema.reportTable kind).IsUnmarked :=
  fun _ => rfl

theorem isUnmarked_brokenEffect (entry : Entry) (n : Notes) :
    (brokenEffect entry n).IsUnmarked :=
  Effect.isUnmarked_log rfl

theorem isUnmarked_openEffects : ∀ e ∈ schema.openEffects archive table, e.IsUnmarked := by
  have reading (entry : Entry) : ∀ e ∈ readingEffects entry, e.IsUnmarked := by
    refine List.forall_mem_cons.mpr ⟨fun _ => rfl, fun e member => ?_⟩
    obtain ⟨octets, -, rfl⟩ := List.mem_map.mp member
    exact fun _ => rfl
  have header (entry : Entry) : ∀ e ∈ schema.headerEffects entry table, e.IsUnmarked := by
    unfold headerEffects
    split
    · refine List.forall_mem_singleton.mpr ?_
      split
      · exact schema.isUnmarked_reportTable _
      · exact isUnmarked_brokenEffect entry _
    · refine List.forall_mem_singleton.mpr ?_
      split
      · exact schema.isUnmarked_reportTable _
      · exact Effect.isUnmarked_log rfl
  unfold openEffects
  split
  · refine List.forall_mem_singleton.mpr ?_
    split
    · exact schema.isUnmarked_reportTable _
    · rw [String.append_assoc]
      exact Effect.isUnmarked_info (by decide) (by decide) _
  · next location _ =>
    refine List.forall_mem_append.mpr ⟨?_, ?_⟩
    · cases location with
      | top entry => exact List.forall_mem_nil _
      | nested folder entry =>
          exact List.forall_mem_cons.mpr ⟨Effect.isUnmarked_log rfl,
            List.forall_mem_singleton.mpr (schema.isUnmarked_reportTable _)⟩
    · split
      · exact List.forall_mem_nil _
      · refine List.forall_mem_cons.mpr ⟨?_, List.forall_mem_append.mpr ⟨reading _, header _⟩⟩
        exact Effect.isUnmarked_info (by decide) (by decide) _

theorem isUnmarked_closeEffects (entry : Entry) (n : Notes) :
    ∀ e ∈ schema.closeEffects entry n, e.IsUnmarked := by
  unfold closeEffects
  split
  · refine List.forall_mem_append.mpr ⟨?_, List.forall_mem_singleton.mpr ?_⟩
    · split
      · exact List.forall_mem_singleton.mpr (schema.isUnmarked_reportTable _)
      · exact List.forall_mem_nil _
    · simp only [String.append_assoc]
      exact Effect.isUnmarked_info (by decide) (by decide) _
  · exact List.forall_mem_singleton.mpr (isUnmarked_brokenEffect entry n)

theorem marks_loadEffects (settings : Settings) :
    Effect.marks settings (schema.loadEffects archive table) =
      (multiples settings.milestoneRows (schema.rowsRead archive).length).map .milestone := by
  have opened : Effect.marks settings (schema.openEffects archive table) = [] :=
    Effect.marks_of_unmarked (schema.isUnmarked_openEffects archive table)
  unfold loadEffects rowsRead
  rw [Effect.marks_append, opened, List.nil_append]
  cases archive.source? schema.name with
  | none => simp [multiples, Effect.marks]
  | some source =>
      have closed : Effect.marks settings
          (schema.closeEffects source.entry (schema.scanned source table)) = [] :=
        Effect.marks_of_unmarked (schema.isUnmarked_closeEffects _ _)
      have quiet : ∀ e : Effect, e.isOfRow = true →
          (e.lines settings).filter LogLine.isMilestone = [] := by
        intro e ofRow
        cases e with
        | report | intern | refer => rfl
        | log | tell | pass => contradiction
      have rows := Notes.flatMap_rowsEffects schema (Field.layout schema source.header) { table }
        quiet source.records
      dsimp only
      rw [Effect.marks_append, closed, List.append_nil, List.length_map, ← filter_isMilestone,
        ← Effect.marks_pass, Effect.marks, Effect.marks, rows, List.flatMap_map]

end Schema

namespace Writing

/-- How many records are begun: those up to the first one that has not `width` cells. -/
def begun (width : Nat) : List (List Value) → Nat
  | [] => 0
  | values :: rest => if values.length = width then begun width rest + 1 else 1

theorem exists_rows (width : Nat) (text : String) (row : Nat) (fault : Option Fault)
    (records : List (List Value)) :
    ∃ text' fault', ∀ s, rows width ⟨s, text, row, fault⟩ records =
      ⟨s.run ((List.range' (row + 1) (begun width records)).map .pass), text',
        row + begun width records, fault'⟩ := by
  induction records generalizing text row fault with
  | nil => exact ⟨text, fault, fun _ => rfl⟩
  | cons values rest ih =>
      simp only [rows, begun, List.length_map]
      by_cases fits : values.length = width
      · obtain ⟨text', fault', written⟩ :=
          ih (text ++ Csv.line (values.map Value.cell)) (row + 1) none
        have count : row + 1 + begun width rest = row + (begun width rest + 1) := by omega
        refine ⟨text', fault', fun s => ?_⟩
        rw [if_pos fits, if_pos fits, written, List.range'_succ, List.map_cons, Session.run_cons,
          count]
        rfl
      · refine ⟨text ++ Csv.openLine (values.map Value.cell),
          some (.of (.unequalRecord values.length width)), fun s => ?_⟩
        rw [if_neg fits, if_neg fits]
        rfl

end Writing

namespace Package

/-- What the session is told of a write that begins so many records. -/
def writeEffects (table : String) (count : Nat) (fault : Option Fault) : List Effect :=
  .log .info ("writing table " ++ table) :: ((List.range' 1 count).map .pass ++
    if fault.isNone then [.log .info ("wrote " ++ Count.text count ++ " rows")] else [])

theorem marks_writeEffects (settings : Settings) (table : String) (count : Nat)
    (fault : Option Fault) :
    Effect.marks settings (writeEffects table count fault) =
      (multiples settings.milestoneRows count).map .milestone := by
  have first : ∀ e ∈ [Effect.log .info ("writing table " ++ table)], e.IsUnmarked :=
    List.forall_mem_singleton.mpr (Effect.isUnmarked_info (by decide) (by decide) _)
  have last : ∀ e ∈ if fault.isNone then
      [Effect.log .info ("wrote " ++ Count.text count ++ " rows")] else [], e.IsUnmarked := by
    split
    · rw [String.append_assoc]
      exact List.forall_mem_singleton.mpr (Effect.isUnmarked_info (by decide) (by decide) _)
    · exact List.forall_mem_nil _
  rw [writeEffects, ← List.singleton_append, Effect.marks_append, Effect.marks_append,
    Effect.marks_of_unmarked first, Effect.marks_of_unmarked last, List.nil_append, List.append_nil,
    Effect.marks_pass, filter_isMilestone]

variable (package : Package) (table : String) (columns : List String)
  (records : List (List Value))

/-- What is written does not depend on the session, which is told of the records that are begun. -/
theorem exists_write :
    ∃ sheets count fault, ∀ s, package.write table columns records s =
      ⟨s.run (writeEffects table count fault), sheets, count, fault⟩ := by
  unfold write
  by_cases taken : package.hasName (table ++ ".txt") = true
  · refine ⟨package, 0, some ⟨[.startingEntry table], .duplicateEntry (table ++ ".txt")⟩,
      fun s => ?_⟩
    rw [if_pos taken]
    rfl
  · obtain ⟨text, fault, written⟩ :=
      Writing.exists_rows columns.length (Csv.line columns) 0 none records
    rw [Nat.zero_add, Nat.zero_add] at written
    refine ⟨package ++ [⟨table ++ ".txt", text⟩], Writing.begun columns.length records, fault,
      fun s => ?_⟩
    rw [if_neg taken]
    simp only [written, writeEffects, Session.run_cons, Session.run_append]
    cases fault <;> rfl

end Package

namespace Session

/-- A session without its milestones. -/
def unmarked (s : Session) : Session :=
  { s with
    settings := { s.settings with milestoneRows := 0 }
    log := (s.log.toList.filter fun line => !line.isMilestone).toArray }

/-- The session with a milestone every so many rows. -/
def withMilestones (s : Session) (rows : Nat) : Session :=
  { s with settings := { s.settings with milestoneRows := rows } }

variable {a b : Session}

theorem unmarked_apply (s : Session) (e : Effect) :
    (s.apply e).unmarked = (s.unmarked.apply e).unmarked := by
  cases e with
  | log level text => simp [apply, logs, unmarked, List.filter_append, List.filter_filter]
  | tell | intern | report =>
      simp [apply, tell, intern, share, report, unmarked, List.filter_filter]
  | pass row =>
      have never : s.unmarked.settings.isMilestone row = false := rfl
      simp only [apply, passRow, never]
      split
      · simp [logs, unmarked, List.filter_append, List.filter_filter,
          show LogLine.isMilestone ⟨.info, "record number " ++ Count.text row⟩ = true from
            LogLine.isMilestone_milestone row]
      · simp [unmarked, List.filter_filter]
  | refer table row column key target =>
      simp only [apply, checkReference]
      split
      · next missing =>
        have same : (!s.unmarked.hasSeen column key && !target.contains (.name key)) = true :=
          missing
        rw [if_pos same]
        simp [sight, reportAt, report, unmarked, List.filter_filter]
      · next found =>
        have same : ¬ (!s.unmarked.hasSeen column key && !target.contains (.name key)) = true :=
          found
        rw [if_neg same]
        simp [sight, unmarked, List.filter_filter]

/-- Sessions that are the same apart from milestones stay so. -/
theorem unmarked_run (alike : a.unmarked = b.unmarked) (effects : List Effect) :
    (a.run effects).unmarked = (b.run effects).unmarked := by
  induction effects generalizing a b with
  | nil => exact alike
  | cons e rest ih =>
      refine ih ?_
      rw [unmarked_apply a, unmarked_apply b, alike]

end Session

/-- What a load leaves, without the milestones of its session. -/
def Loaded.unmarked (l : Loaded) : Loaded := { l with session := l.session.unmarked }

/-- What a write leaves, without the milestones of its session. -/
def Written.unmarked (w : Written) : Written := { w with session := w.session.unmarked }

def LoadedFeed.unmarked (l : LoadedFeed) : LoadedFeed := { l with session := l.session.unmarked }

def WrittenFeed.unmarked (w : WrittenFeed) : WrittenFeed :=
  { w with session := w.session.unmarked }

section Alike

variable {a b : Session}

theorem Schema.unmarked_load (schema : Schema) (archive : Archive) (table : Table)
    (alike : a.unmarked = b.unmarked) :
    (schema.load archive table a).unmarked = (schema.load archive table b).unmarked := by
  have pool : a.unmarked.pool = b.unmarked.pool := by rw [alike]
  change a.pool = b.pool at pool
  rw [load_eq, load_eq, Loaded.unmarked, Loaded.unmarked]
  dsimp only
  rw [Session.unmarked_run alike, pool]

theorem Package.unmarked_write (package : Package) (table : String) (columns : List String)
    (records : List (List Value)) (alike : a.unmarked = b.unmarked) :
    (package.write table columns records a).unmarked =
      (package.write table columns records b).unmarked := by
  obtain ⟨sheets, count, fault, written⟩ := package.exists_write table columns records
  rw [written, written, Written.unmarked, Written.unmarked]
  dsimp only
  rw [Session.unmarked_run alike]

theorem Feed.unmarked_load (f : Feed) (archive : Except Fault Archive)
    (alike : a.unmarked = b.unmarked) :
    (f.load archive a).unmarked = (f.load archive b).unmarked := by
  obtain ⟨feed, effects, fault, -, loaded⟩ :=
    LoadedFeed.Steady.foldl (LoadedFeed.steady_stage archive) FeedTable.stages f none
  have ended (s : Session) : f.load archive s = LoadedFeed.complete ⟨feed, s.run effects, fault⟩ :=
    congrArg LoadedFeed.complete (loaded s)
  have same := Session.unmarked_run alike effects
  have diagnostics : (a.run effects).diagnostics = (b.run effects).diagnostics :=
    (congrArg Session.diagnostics same :)
  rw [ended, ended]
  unfold LoadedFeed.complete LoadedFeed.unmarked
  cases fault with
  | some fault => exact congrArg (LoadedFeed.mk feed · (some fault)) same
  | none =>
      dsimp only
      rw [diagnostics]
      exact congrArg (LoadedFeed.mk feed · none) (Session.unmarked_run same [.log .info _])

theorem WrittenFeed.unmarked_table (f : Feed) {w v : WrittenFeed} (alike : w.unmarked = v.unmarked)
    (which : FeedTable) : (w.table f which).unmarked = (v.table f which).unmarked := by
  obtain ⟨s, package, rows, fault⟩ := w
  obtain ⟨s', package', rows', fault'⟩ := v
  obtain ⟨same, rfl, rfl, rfl⟩ : s.unmarked = s'.unmarked ∧ package = package' ∧ rows = rows' ∧
      fault = fault' := by
    simpa [unmarked] using alike
  have skips : s.settings.skipEmptyTables = s'.settings.skipEmptyTables :=
    (congrArg (fun s : Session => s.settings.skipEmptyTables) same :)
  unfold table
  dsimp only
  rw [skips]
  split
  · exact alike
  · split
    · exact congrArg (WrittenFeed.mk · package rows fault)
        (Session.unmarked_run same [.log .debug _])
    · have written : (f.writeTable which package s).unmarked =
          (f.writeTable which package s').unmarked :=
        package.unmarked_write _ _ _ same
      generalize f.writeTable which package s = x at written
      generalize f.writeTable which package s' = y at written
      obtain ⟨_, _, _, _⟩ := x
      obtain ⟨_, _, _, _⟩ := y
      obtain ⟨same, rfl, rfl, rfl⟩ := Written.mk.inj written
      exact congrArg (WrittenFeed.mk · _ _ _) same

theorem Feed.unmarked_write (f : Feed) (package : Package) (alike : a.unmarked = b.unmarked) :
    (f.write package a).unmarked = (f.write package b).unmarked := by
  have fold (tables : List FeedTable) {w v : WrittenFeed} (same : w.unmarked = v.unmarked) :
      (tables.foldl (WrittenFeed.table f) w).unmarked =
        (tables.foldl (WrittenFeed.table f) v).unmarked := by
    induction tables generalizing w v with
    | nil => exact same
    | cons which rest ih => exact ih (WrittenFeed.unmarked_table f same which)
  exact fold FeedTable.all (congrArg (WrittenFeed.mk · package ∅ none) alike)

end Alike

namespace Settings

/-- The remainder of a division of words, unless it is by zero. -/
def remainder? (a b : UInt64) : Option UInt64 := if b = 0 then none else some (a % b)

/-- Whether a line is logged at a row. Nothing is divided by an interval of zero. -/
def isMilestone? (every row : UInt64) : Option Bool :=
  if 0 < every then (remainder? row every).map (· = 0) else some false

/-- The milestones among the next rows behind a row, if their numbers are words. -/
def passed? (every row : UInt64) : Nat → Option (List UInt64)
  | 0 => some []
  | count + 1 =>
    (TenthLog.sum? row 1).bind fun row =>
      (isMilestone? every row).bind fun logged =>
        (passed? every row count).map fun later => if logged then row :: later else later

theorem isMilestone?_eq (every row : UInt64) :
    isMilestone? every row =
      some (({ milestoneRows := every.toNat } : Settings).isMilestone row.toNat) := by
  unfold isMilestone? remainder? isMilestone
  by_cases positive : 0 < every
  · have nonzero : every ≠ 0 := UInt64.pos_iff_ne_zero.mp positive
    have counted : 0 < every.toNat := UInt64.lt_iff_toNat_lt.mp positive
    have whole : row % every = 0 ↔ row.toNat % every.toNat = 0 := by
      rw [← UInt64.toNat_inj, UInt64.toNat_mod]
      rfl
    simp [positive, nonzero, counted, whole]
  · have zero : every = 0 := by
      by_contra nonzero
      exact positive (UInt64.pos_iff_ne_zero.mpr nonzero)
    simp [zero]

theorem passed?_eq (every row : UInt64) (count : Nat) (fits : row.toNat + count < UInt64.size) :
    ∃ words, passed? every row count = some words ∧
      words.map UInt64.toNat = (List.range' (row.toNat + 1) count).filter
        ({ milestoneRows := every.toNat } : Settings).isMilestone := by
  induction count generalizing row with
  | zero => exact ⟨[], rfl, rfl⟩
  | succ count ih =>
      have one : (1 : UInt64).toNat = 1 := rfl
      have next : TenthLog.sum? row 1 = some (row + 1) := if_pos (by rw [one]; omega)
      have number : (row + 1).toNat = row.toNat + 1 := by
        rw [UInt64.toNat_add, one]
        exact Nat.mod_eq_of_lt (show row.toNat + 1 < UInt64.size by omega)
      obtain ⟨words, later, numbers⟩ := ih (row + 1) (by omega)
      rw [number] at numbers
      rw [passed?, next, Option.bind_some, isMilestone?_eq, Option.bind_some, later,
        Option.map_some, number, List.range'_succ]
      refine ⟨_, rfl, ?_⟩
      by_cases logged :
          ({ milestoneRows := every.toNat } : Settings).isMilestone (row.toNat + 1) = true
      · rw [if_pos logged, List.filter_cons_of_pos logged, List.map_cons, number, numbers]
      · rw [if_neg logged, List.filter_cons_of_neg logged, numbers]

end Settings

/-- Milestones are lines of the log and nothing else. Sessions that differ in how many rows there
    are between milestones load and write the same, and are told the same but for these lines. A
    line is logged at each multiple of this number among the rows that are read, or among the
    records that are begun, in increasing order, and none is logged if it is zero. The numbers may
    be any 64-bit words: counting rows does not overflow, and nothing is divided by zero. -/
theorem Session.milestones_only_logged :
    (∀ (s : Session) (m n : Nat),
      let a := s.withMilestones m
      let b := s.withMilestones n
      (∀ (schema : Schema) (archive : Archive) (table : Table),
        (schema.load archive table a).unmarked = (schema.load archive table b).unmarked) ∧
      (∀ (package : Package) (table : String) (columns : List String)
          (records : List (List Value)),
        (package.write table columns records a).unmarked =
          (package.write table columns records b).unmarked) ∧
      (∀ (f : Feed) (archive : Except Fault Archive),
        (f.load archive a).unmarked = (f.load archive b).unmarked) ∧
      ∀ (f : Feed) (package : Package),
        (f.write package a).unmarked = (f.write package b).unmarked) ∧
    (∀ (s : Session),
      let m := s.settings.milestoneRows
      (∀ (schema : Schema) (archive : Archive) (table : Table),
        s.HasMarked (schema.load archive table s).session
          (multiples m (schema.rowsRead archive).length)) ∧
      ∀ (package : Package) (table : String) (columns : List String)
          (records : List (List Value)),
        let written := package.write table columns records s
        s.HasMarked written.session (multiples m written.rows)) ∧
    (∀ m n : Nat,
      (∀ row, row ∈ multiples m n ↔ 0 < m ∧ m ∣ row ∧ 1 ≤ row ∧ row ≤ n) ∧
        (multiples m n).Pairwise (· < ·) ∧
          (multiples m n).length = if m = 0 then 0 else n / m) ∧
    ∀ m n : UInt64, ∃ rows, Settings.passed? m 0 n.toNat = some rows ∧
      rows.map UInt64.toNat = multiples m.toNat n.toNat := by
  refine ⟨fun s m n => ?_, fun s => ⟨fun schema archive table => ?_, ?_⟩, fun m n => ⟨?_, ?_, ?_⟩,
    fun m n => ?_⟩
  · have alike : (s.withMilestones m).unmarked = (s.withMilestones n).unmarked := rfl
    refine ⟨fun schema archive table => ?_, fun package table columns records => ?_,
      fun f archive => ?_, fun f package => ?_⟩
    · exact schema.unmarked_load archive table alike
    · exact package.unmarked_write table columns records alike
    · exact f.unmarked_load archive alike
    · exact f.unmarked_write package alike
  · rw [Schema.load_eq]
    exact s.hasMarked_run (schema.marks_loadEffects archive table s.settings)
  · intro package table columns records
    obtain ⟨sheets, count, fault, written⟩ := package.exists_write table columns records
    simp only [written]
    exact s.hasMarked_run (Package.marks_writeEffects s.settings table count fault)
  · exact fun row => mem_multiples n
  · exact pairwise_multiples n
  · exact length_multiples n
  · have fits : (0 : UInt64).toNat + n.toNat < UInt64.size := by
      rw [UInt64.toNat_zero, Nat.zero_add]
      exact n.toNat_lt_size
    obtain ⟨rows, counted, numbers⟩ := Settings.passed?_eq m 0 n.toNat fits
    refine ⟨rows, counted, ?_⟩
    rw [numbers, UInt64.toNat_zero, Nat.zero_add, filter_isMilestone]

end TransitFeed

import TransitFeed.Proofs.CommandLine.Feeds

/-! # Feeds of one run

A run reads its settings, creates folders and finds its feeds before it comes to the first of them.
Then the feeds do not notice each other: each gets the files that it gets in a run of its own, and
the run counts those that fail.
-/

namespace TransitFeed.CommandLine

namespace Trial

section

variable {ε γ : Type} {part : Trial → γ}

theorem keeps_gather {α : Type} {find : α → ExceptT ε (StateM Trial) (List String)}
    (each : ∀ a, Keeps part (find a)) (items : List α) : Keeps part (Glob.gather find items) := by
  induction items with
  | nil => exact .pure _
  | cons item rest ih => exact (each item).andThen fun _ => ih.andThen fun _ => .pure _

theorem keeps_isFolder (path : String) :
    Keeps part (Glob.isFolder path : ExceptT ε (StateM Trial) Bool) :=
  (Keeps.kind? path).andThen fun _ => .pure _

theorem keeps_below {find : String → String → ExceptT ε (StateM Trial) (List String)}
    (each : ∀ name path, Keeps part (find name path)) (depth : Nat) (folder : String) :
    Keeps part (Glob.below find depth folder) := by
  induction depth generalizing folder with
  | zero => exact .pure _
  | succ depth ih =>
      unfold Glob.below
      refine (Keeps.names folder).andThen fun names => keeps_gather (fun name => ?_) names
      refine (each _ _).andThen fun found => (keeps_isFolder _).andThen fun inside => ?_
      split
      · exact (ih _).andThen fun _ => .pure _
      · exact .pure _

theorem keeps_arrive (isForFolders : Bool) (path : String) :
    Keeps part (Glob.arrive isForFolders path : ExceptT ε (StateM Trial) _) := by
  unfold Glob.arrive
  split
  · refine (keeps_isFolder path).andThen fun inside => ?_
    split
    · exact .pure _
    · exact .pure _
  · exact .pure _

theorem keeps_search (isForFolders : Bool) : (components : List Glob.Component) → (path : String) →
    Keeps part (Glob.search isForFolders components path : ExceptT ε (StateM Trial) _)
  | [], path => keeps_arrive isForFolders path
  | .literal name :: rest, folder => by
      unfold Glob.search
      dsimp only
      split
      · refine (keeps_isFolder folder).andThen fun inside => ?_
        split
        · exact keeps_search isForFolders rest _
        · exact .pure _
      · refine (Keeps.kind? _).andThen fun kind => ?_
        split
        · exact keeps_search isForFolders rest _
        · exact .pure _
  | .pattern tokens :: rest, folder => by
      unfold Glob.search
      refine (keeps_isFolder folder).andThen fun inside => ?_
      split
      · refine (keeps_gather (fun _ => keeps_search isForFolders rest _) _).andThen fun dots => ?_
        refine (Keeps.names folder).andThen fun names => ?_
        exact (keeps_gather (fun _ => keeps_search isForFolders rest _) _).andThen
          fun _ => .pure _
      · exact .pure _
  | [.anyFolders], folder => by
      unfold Glob.search
      refine (keeps_isFolder folder).andThen fun inside => ?_
      split
      · exact keeps_below (fun _ path => keeps_arrive true path) _ folder
      · exact .pure _
  | .anyFolders :: component :: rest, folder => by
      unfold Glob.search
      refine (keeps_isFolder folder).andThen fun inside => ?_
      split
      · refine keeps_below (fun name path => ?_) _ folder
        split
        · exact keeps_search isForFolders rest path
        · exact .pure _
      · exact .pure _

end

theorem keeps_readSettings (options : Options) :
    Keeps id (readSettings options : ExceptT Failure (StateM Trial) Settings) := by
  have ends (settings : Settings) : Keeps id ((if options.isSequential || options.showsProgress
      then return { settings with parallel := false } else return settings) :
        ExceptT Failure (StateM Trial) Settings) := by
    split
    · exact .pure _
    · exact .pure _
  unfold readSettings
  cases options.settingsFile with
  | none => exact (Keeps.pure _).andThen ends
  | some path =>
      refine (Keeps.read path).andThen fun content => ?_
      split
      · exact ends _
      · exact .throw _
      · exact .throw _

theorem perform_createFolders (t : Trial) (path : String) :
    t.perform (FileSystem.createFolders path : ExceptT Failure (StateM Trial) _) =
      match t.files.createFolders path with
      | .ok files => (.ok (.ok ()), { t with files })
      | .error error => (.ok (.error error), t) := by
  have lifted : t.perform (FileSystem.createFolders path : ExceptT Failure (StateM Trial) _) =
      let after := (FileSystem.createFolders path : StateM Trial _).run t
      (.ok after.1, after.2) := rfl
  rw [lifted]
  dsimp only [FileSystem.createFolders, StateT.run]
  cases t.files.createFolders path with
  | ok files => rfl
  | error error => rfl

theorem keeps_createFolders (folders : List String) :
    Keeps (fun t => (t.written, t.schedules))
      (createFolders folders : ExceptT Failure (StateM Trial) Unit) := by
  induction folders with
  | nil => exact .pure _
  | cons path rest ih =>
      unfold createFolders
      refine Keeps.andThen (fun t => ?_) fun created => ?_
      · rw [perform_createFolders]
        cases t.files.createFolders path with
        | ok files => rfl
        | error error => rfl
      · split
        · exact ih
        · exact .throw _

/-- What is found is told, and all files stay as they are. -/
theorem keeps_expand (patterns : List String) :
    Keeps (fun t => (t.files, t.written, t.schedules))
      (expand patterns : ExceptT Failure (StateM Trial) (List String)) := by
  induction patterns with
  | nil => exact .pure _
  | cons text rest ih =>
      unfold expand
      split
      · exact .throw _
      · next pattern _ =>
        have others (found : List String) : Keeps (fun t => (t.files, t.written, t.schedules)) (do
            return found ++ (← expand rest) : ExceptT Failure (StateM Trial) (List String)) :=
          ih.andThen fun _ => .pure _
        refine (keeps_search _ _ _).andThen fun found => ?_
        split
        · exact Keeps.andThen (fun t => rfl) fun _ => others found
        · exact others found

theorem perform_bind_eq_ok {ε α β : Type} {t last : Trial} {program : ExceptT ε (StateM Trial) α}
    {next : α → ExceptT ε (StateM Trial) β} {b : β}
    (ended : t.perform (program >>= next) = (.ok b, last)) :
    ∃ a after, t.perform program = (.ok a, after) ∧ after.perform (next a) = (.ok b, last) := by
  rw [perform_bind] at ended
  split at ended
  · next a after first => exact ⟨a, after, first, ended⟩
  · cases ended

/-- What was done when all was ready for the first feed. -/
theorem prepare_cases {options : Options} {start ready : Trial} {settings : Settings}
    {paths : List String}
    (prepared : start.perform (prepare options) = (.ok (settings, paths), ready)) :
    ∃ made, start.perform (readSettings options) = (.ok settings, start) ∧
      start.perform (createFolders (options.outputFolder.toList ++ options.reportFolder.toList)) =
        (.ok (), made) ∧ ready.files = made.files ∧ ready.written = start.written ∧
          ready.schedules = start.schedules := by
  unfold prepare at prepared
  obtain ⟨read, after, settled, later⟩ := perform_bind_eq_ok prepared
  obtain ⟨⟨⟩, made, created, later⟩ := perform_bind_eq_ok later
  obtain ⟨listed, found, expanded, ends⟩ := perform_bind_eq_ok later
  clear prepared later
  obtain rfl : after = start := by
    have same : (start.perform (readSettings options)).2 = start :=
      keeps_readSettings options start
    rwa [settled] at same
  have first := keeps_createFolders (options.outputFolder.toList ++ options.reportFolder.toList)
    after
  have searched := keeps_expand options.inputs made
  rw [created] at first
  rw [expanded] at searched
  obtain ⟨written, schedules⟩ := Prod.mk.inj first
  obtain ⟨files, searched⟩ := Prod.mk.inj searched
  obtain ⟨unwritten, undrawn⟩ := Prod.mk.inj searched
  dsimp only at ends
  by_cases nothing : listed.isEmpty = true
  · rw [if_pos nothing] at ends
    cases ends
  · rw [if_neg nothing] at ends
    cases ends
    exact ⟨made, settled, created, files, unwritten.trans written, undrawn.trans schedules⟩

/-- Whether a program does the same whatever the schedules are. -/
def Overlooks {ε α : Type} (program : ExceptT ε (StateM Trial) α) : Prop :=
  ∀ (t : Trial) (schedules : List (List FeedTable)),
    { t with schedules }.perform program =
      ((t.perform program).1, { (t.perform program).2 with schedules })

namespace Overlooks

variable {ε α β : Type} {program : ExceptT ε (StateM Trial) α}

theorem andThen (first : Overlooks program) {next : α → ExceptT ε (StateM Trial) β}
    (second : ∀ a, Overlooks (next a)) : Overlooks (program >>= next) := by
  intro t schedules
  have before := first t schedules
  rw [perform_bind, perform_bind, before]
  generalize t.perform program = ended
  obtain ⟨result, after⟩ := ended
  cases result with
  | ok a => exact second a after schedules
  | error error => rfl

theorem pure (a : α) : Overlooks (Pure.pure a : ExceptT ε (StateM Trial) α) := fun _ _ => rfl

theorem throw (error : ε) : Overlooks (MonadExcept.throw error : ExceptT ε (StateM Trial) α) :=
  fun _ _ => rfl

theorem read (path : String) :
    Overlooks (FileSystem.read path : ExceptT ε (StateM Trial) _) := fun _ _ => rfl

end Overlooks

theorem overlooks_readSettings (options : Options) :
    Overlooks (readSettings options : ExceptT Failure (StateM Trial) Settings) := by
  have ends (settings : Settings) : Overlooks ((if options.isSequential || options.showsProgress
      then return { settings with parallel := false } else return settings) :
        ExceptT Failure (StateM Trial) Settings) := by
    split
    · exact .pure _
    · exact .pure _
  unfold readSettings
  cases options.settingsFile with
  | none => exact (Overlooks.pure _).andThen ends
  | some path =>
      refine (Overlooks.read path).andThen fun content => ?_
      split
      · exact ends _
      · exact .throw _
      · exact .throw _

theorem overlooks_createFolders (folders : List String) :
    Overlooks (createFolders folders : ExceptT Failure (StateM Trial) Unit) := by
  induction folders with
  | nil => exact .pure _
  | cons path rest ih =>
      unfold createFolders
      refine Overlooks.andThen (fun t schedules => ?_) fun created => ?_
      · rw [perform_createFolders, perform_createFolders]
        cases t.files.createFolders path with
        | ok files => rfl
        | error error => rfl
      · split
        · exact ih
        · exact .throw _

theorem perform_run (t : Trial) (options : Options) :
    t.perform (run options) =
      match t.perform (prepare options) with
      | (.ok (settings, paths), ready) =>
        let ended := ready.performAll options settings paths
        (if ended.1 = 0 then .ok () else .error (.feedsFailed ended.1 paths.length), ended.2)
      | (.error failure, after) => (.error failure, after) := by
  unfold run
  rw [perform_bind]
  generalize t.perform (prepare options) = prepared
  obtain ⟨result, ready⟩ := prepared
  cases result with
  | error failure => rfl
  | ok found =>
      obtain ⟨settings, paths⟩ := found
      have counted : ready.perform (ExceptT.lift (processAll options settings paths) :
          ExceptT Failure (StateM Trial) Nat) = (.ok (ready.performAll options settings paths).1,
            (ready.performAll options settings paths).2) := rfl
      dsimp only
      rw [perform_bind, counted]
      dsimp only
      generalize (ready.performAll options settings paths).1 = failed
      cases failed with
      | zero => rfl
      | succ others => rfl

end Trial

variable {options : Options} {start ready : Trial} {settings : Settings} {paths : List String}

theorem outcome_run (prepared : start.perform (prepare options) = (.ok (settings, paths), ready))
    (feasible : Feasible options settings ready.files paths) :
    let failed := paths.countP fun path =>
      (examineIn options settings ready.files path).fault.isSome
    let ended := start.perform (run options)
    ended.1 = (if failed = 0 then .ok () else .error (.feedsFailed failed paths.length)) ∧
      ready.Wrote (allOutputs options settings ready.files paths start.schedules) ended.2 := by
  intro failed ended
  obtain ⟨-, -, -, -, -, undrawn⟩ := Trial.prepare_cases prepared
  obtain ⟨counted, wrote⟩ := feasible.performAll (.nothing ready ready.notices)
    (List.forall_mem_nil _) (List.Subset.refl paths)
  have run : ended = _ := start.perform_run options
  rw [prepared] at run
  dsimp only at run
  rw [counted] at run
  rw [run, ← undrawn]
  exact ⟨rfl, wrote⟩

/-- A file is found when the run has ended, if all later ones are in other places. -/
theorem read_run (prepared : start.perform (prepare options) = (.ok (settings, paths), ready))
    (feasible : Feasible options settings ready.files paths) {earlier later : List WrittenFile}
    {path : String} {content : Octets}
    (split : allOutputs options settings ready.files paths start.schedules =
      earlier ++ ⟨path, content⟩ :: later)
    (apart : ∀ other ∈ later, ready.files.place? other.path ≠ ready.files.place? path) :
    (start.perform (run options)).2.files.read path = .ok content := by
  obtain ⟨-, wrote⟩ := outcome_run prepared feasible
  rw [split] at wrote
  have last : ready.files.lastAt? later path = none := FileTree.lastAt?_eq_none apart
  have found := wrote.files.read_eq
  dsimp only at found
  rwa [last] at found

/-- A run that finds one of the feeds alone finds it as it is and with the same settings. -/
theorem prepare_alone (prepared : start.perform (prepare options) = (.ok (settings, paths), ready))
    {inputs : List String} {schedules : List (List FeedTable)} {settings' : Settings}
    {ready' : Trial} {paths' : List String}
    (prepared' : { start with schedules }.perform (prepare { options with inputs }) =
      (.ok (settings', paths'), ready')) :
    settings' = settings ∧ ready'.files = ready.files ∧ ready'.written = ready.written := by
  obtain ⟨made, settled, created, files, written, -⟩ := Trial.prepare_cases prepared
  obtain ⟨made', settled', created', files', written', -⟩ := Trial.prepare_cases prepared'
  have read := Trial.overlooks_readSettings options start schedules
  have folders := Trial.overlooks_createFolders
    (options.outputFolder.toList ++ options.reportFolder.toList) start schedules
  rw [settled] at read
  rw [created] at folders
  cases settled'.symm.trans read
  cases created'.symm.trans folders
  exact ⟨rfl, files'.trans files.symm, written'.trans written.symm⟩

theorem Feasible.alone (feasible : Feasible options settings ready.files paths) {path : String}
    (listed : path ∈ paths) (inputs : List String) :
    Feasible { options with inputs } settings ready.files [path] where
  named := List.forall_mem_singleton.mpr (feasible.named path listed)
  accepted := List.forall_mem_singleton.mpr (feasible.accepted path listed)
  apart := List.forall_mem_singleton.mpr fun file output =>
    List.forall_mem_singleton.mpr (feasible.apart path listed file output path listed)

/-- Feeds of one run do not notice each other. If all files can be written and none of them takes
    the place of a feed, the run processes all feeds, and for each it writes what a run may write that
    finds this feed alone. There is a report also of a feed whose load met a fault, as far as it got,
    but no copy. The run fails if and only if a feed failed, and tells how many did.

    What is written of a feed depends on no schedule but its own. If tables are loaded at the same
    time, the schedule decides the order of the diagnostics and the rows that dangling references are
    put down to. If not, it makes no difference. -/
theorem run_isolated (options : Options)
    (prepared : start.perform (prepare options) = (.ok (settings, paths), ready))
    (feasible : Feasible options settings ready.files paths) :
    let found (path : String) (schedule : List FeedTable) :=
      examineIn options settings ready.files path schedule
    let failed := paths.countP fun path => (found path []).fault.isSome
    let ended := start.perform (run options)
    ended.1 = (if failed = 0 then .ok () else .error (.feedsFailed failed paths.length)) ∧
      ended.2.written =
        start.written ++ allOutputs options settings ready.files paths start.schedules ∧
      (settings.parallel = false → ended.2.written =
        start.written ++ paths.flatMap fun path => outputsIn options settings ready.files path) ∧
      ∀ path ∈ paths,
        (∀ schedule schedule', (found path schedule).Alike (found path schedule') ∧
          copyFiles options path (found path schedule) =
            copyFiles options path (found path schedule')) ∧
        (settings.parallel = false → ∀ schedule, found path schedule = found path []) ∧
        (∀ schedule folder name, options.reportFolder = some folder →
          Path.fileName? path = some name →
            ⟨Path.append folder (Path.stem name ++ ".json"), Utf8.encode (Report.text ⟨path,
              (found path schedule).feed.sizes,
              (found path schedule).session.diagnostics.toList⟩)⟩ ∈
                outputsIn options settings ready.files path schedule) ∧
        (∀ schedule, (found path schedule).fault.isSome = true →
          copyFiles options path (found path schedule) = []) ∧
        ∀ inputs schedules settings' ready',
          { start with schedules }.perform (prepare { options with inputs }) =
              (.ok (settings', [path]), ready') →
            let alone := { start with schedules }.perform (run { options with inputs })
            alone.1 = (if (found path []).fault.isSome = true then .error (.feedsFailed 1 1)
                else .ok ()) ∧
              alone.2.written = start.written ++
                outputsIn options settings ready.files path (schedules.headD []) := by
  intro found failed ended
  obtain ⟨-, -, -, -, unwritten, -⟩ := Trial.prepare_cases prepared
  obtain ⟨outcome, wrote⟩ := outcome_run prepared feasible
  have written : ended.2.written = start.written ++
      allOutputs options settings ready.files paths start.schedules := unwritten ▸ wrote.written
  refine ⟨outcome, written, fun sequential => ?_,
    fun path listed => ⟨?alike, ?sequential, ?report, ?copy, ?alone⟩⟩
  · rw [written, allOutputs_of_sequential options settings sequential]
  case alike =>
    intro schedule schedule'
    have alike : (found path schedule).Alike (found path schedule') := alike_examine _ _ _ _ _ _
    exact ⟨alike, copyFiles_congr options alike⟩
  case sequential =>
    intro sequential schedule
    exact examine_of_sequential settings _ _ sequential _ schedule
  case report =>
    intro schedule folder name asked named
    refine List.mem_append_right _ ?_
    unfold reportFiles
    rw [asked, named]
    exact List.mem_singleton.mpr rfl
  case copy =>
    intro schedule broken
    obtain ⟨fault, broken⟩ := Option.isSome_iff_exists.mp broken
    exact copyFiles_of_fault broken options path
  case alone =>
    intro inputs schedules settings' ready' prepared' alone
    obtain ⟨rfl, files, before⟩ := prepare_alone prepared prepared'
    have feasible' : Feasible { options with inputs } settings' ready'.files [path] := by
      rw [files]
      exact feasible.alone listed inputs
    obtain ⟨outcome', wrote'⟩ := outcome_run prepared' feasible'
    rw [allOutputs, allOutputs, List.append_nil, files] at wrote'
    refine ⟨outcome'.trans ?_, ?_⟩
    · have same : examineIn { options with inputs } settings' ready'.files path =
          found path [] := by
        rw [files]
        rfl
      rw [List.countP_singleton, same]
      split
      · rfl
      · rfl
    · rw [wrote'.written, before, unwritten]
      rfl

/-- A file that is no archive, and an archive without entries. -/
def mixedFiles : Trial :=
  { files := { items := Std.TreeMap.ofList [(["a.zip"], FileItem.file (Utf8.encode "none")),
      (["b.zip"], FileItem.file (Zip.write []))] } }

def mixedOptions : Options :=
  { inputs := ["*.zip"], outputFolder := some "out", reportFolder := some "rep" }

/-- Both get a report, one of them a copy, and the run tells that the other one failed. -/
theorem run_isolated_mixedFiles :
    let ended := mixedFiles.perform (run mixedOptions)
    ended.1 = .error (.feedsFailed 1 2) ∧
      ended.2.written.map (·.path) = ["rep/a.json", "out/b.zip", "rep/b.json"] ∧
        (mixedFiles.perform (run { mixedOptions with inputs := ["a.zip"] })).2.written =
          ended.2.written.take 1 := by
  intro ended
  have prepared : mixedFiles.perform (prepare mixedOptions) =
      (.ok ({}, ["a.zip", "b.zip"]), (mixedFiles.perform (prepare mixedOptions)).2) :=
    Prod.ext (by decide +kernel) rfl
  have feasible : Feasible mixedOptions {} (mixedFiles.perform (prepare mixedOptions)).2.files
      ["a.zip", "b.zip"] :=
    { named := by decide +kernel
      accepted := by decide +kernel
      apart := by decide +kernel }
  obtain ⟨outcome, written, -, each⟩ := run_isolated mixedOptions prepared feasible
  obtain ⟨-, -, -, -, alone⟩ := each "a.zip" List.mem_cons_self
  have prepared' : { mixedFiles with schedules := [] }.perform
      (prepare { mixedOptions with inputs := ["a.zip"] }) =
      (.ok ({}, ["a.zip"]), (mixedFiles.perform (prepare
        { mixedOptions with inputs := ["a.zip"] })).2) :=
    Prod.ext (by decide +kernel) rfl
  refine ⟨outcome.trans (by decide +kernel), ?_, ?_⟩
  · rw [written]
    decide +kernel
  · have one : (outputsIn mixedOptions {} (mixedFiles.perform (prepare mixedOptions)).2.files
        "a.zip").length = 1 := by decide +kernel
    have fresh : mixedFiles.written = [] := rfl
    have unscheduled : mixedFiles.schedules = [] := rfl
    rw [show (mixedFiles.perform (run { mixedOptions with inputs := ["a.zip"] })).2.written = _ from
      (alone _ _ _ _ prepared').2, written, fresh, unscheduled, List.nil_append, List.nil_append,
      allOutputs, List.headD_nil, List.take_left' one]

/-- Two archives without entries, in folders of their own. -/
def twoArchives (name name' : String) : Trial :=
  { files := { items := Std.TreeMap.ofList [(["a"], FileItem.folder),
      (["a", name], FileItem.file (Zip.write [])), (["b"], FileItem.folder),
      (["b", name'], FileItem.file (Zip.write []))] } }

def reportsOf (name name' : String) : Options :=
  { inputs := ["a/" ++ name, "b/" ++ name'], reportFolder := some "rep" }

/-- The report of an archive without entries. -/
def emptyReport (path : String) (settings : Settings := {}) (schedule : List FeedTable := []) :
    Octets :=
  Utf8.encode (examine settings false path (.ok (Zip.write [])) schedule).report.text

theorem outputsIn_of_empty {options : Options} (settings : Settings) (schedule : List FeedTable)
    {path : String} {files : FileTree} (copies : options.outputFolder = none)
    (reports : options.reportFolder = some "rep") (quiet : options.showsProgress = false)
    (named : Path.fileName? path = some "x.zip") (found : files.read path = .ok (Zip.write [])) :
    outputsIn options settings files path schedule =
      [⟨"rep/x.json", emptyReport path settings schedule⟩] := by
  have place : Path.append "rep" (Path.stem "x.zip" ++ ".json") = "rep/x.json" := by
    decide +kernel
  unfold outputsIn outputs examineIn copyFiles reportFiles
  rw [copies, reports, quiet, found, named, ← place]
  rfl

theorem read_run_of_empty {path : String}
    (prepared : start.perform (prepare options) = (.ok (settings, [path]), ready))
    (feasible : Feasible options settings ready.files [path])
    (copies : options.outputFolder = none) (reports : options.reportFolder = some "rep")
    (quiet : options.showsProgress = false) (named : Path.fileName? path = some "x.zip")
    (found : ready.files.read path = .ok (Zip.write [])) :
    (start.perform (run options)).2.files.read "rep/x.json" =
      .ok (emptyReport path settings (start.schedules.headD [])) := by
  have split : allOutputs options settings ready.files [path] start.schedules =
      [] ++ ⟨"rep/x.json", emptyReport path settings (start.schedules.headD [])⟩ :: [] := by
    rw [allOutputs, outputsIn_of_empty settings _ copies reports quiet named found]
    rfl
  exact read_run prepared feasible split (List.forall_mem_nil _)

theorem report_of_missing {a b : Report} (missing : ∀ d ∈ a.diagnostics, d.kind = .missingTable)
    (missing' : ∀ d ∈ b.diagnostics, d.kind = .missingTable)
    (same : Utf8.encode a.text = Utf8.encode b.text) :
    a.feed = b.feed ∧ a.diagnostics = b.diagnostics := by
  have finite {r : Report} (missing : ∀ d ∈ r.diagnostics, d.kind = .missingTable) :
      r.IsFinite := by
    intro d reported
    rw [missing d reported]
    trivial
  obtain ⟨feed, -, diagnostics⟩ :=
    Report.text_injective (finite missing) (finite missing') (Utf8.encode_injective same)
  exact ⟨feed, diagnostics⟩

/-- The report of a feed may be another one in a run on this feed alone. If tables are loaded at the
    same time, they may take other turns there, and then the diagnostics come in another order. If
    they are not, the report of a later feed may have taken the place of the report. -/
theorem report_depends_on_run :
    (let options := reportsOf "x.zip" "y.zip"
      let together :=
        { twoArchives "x.zip" "y.zip" with schedules := [[.stops]] }.perform (run options)
      let alone :=
        (twoArchives "x.zip" "y.zip").perform (run { options with inputs := ["a/x.zip"] })
      together.1 = .ok () ∧ alone.1 = .ok () ∧
        together.2.files.read "rep/x.json" ≠ alone.2.files.read "rep/x.json") ∧
    (let options := { reportsOf "x.zip" "x.zip" with isSequential := true }
      let together := (twoArchives "x.zip" "x.zip").perform (run options)
      let alone :=
        (twoArchives "x.zip" "x.zip").perform (run { options with inputs := ["a/x.zip"] })
      together.1 = .ok () ∧ alone.1 = .ok () ∧
        together.2.files.read "rep/x.json" ≠ alone.2.files.read "rep/x.json") := by
  refine ⟨?parallel, ?sequential⟩
  case parallel =>
    intro options together alone
    let start : Trial := { twoArchives "x.zip" "y.zip" with schedules := [[.stops]] }
    let ready := (start.perform (prepare options)).2
    have prepared : start.perform (prepare options) = (.ok ({}, ["a/x.zip", "b/y.zip"]), ready) :=
      Prod.ext (by decide +kernel) rfl
    have feasible : Feasible options {} ready.files ["a/x.zip", "b/y.zip"] :=
      { named := by decide +kernel
        accepted := by decide +kernel
        apart := by decide +kernel }
    have split : allOutputs options {} ready.files ["a/x.zip", "b/y.zip"] [[.stops]] =
        [] ++ ⟨"rep/x.json", emptyReport "a/x.zip" {} [.stops]⟩ ::
          allOutputs options {} ready.files ["b/y.zip"] [] := by
      rw [allOutputs, List.headD_cons, outputsIn_of_empty {} [.stops] rfl rfl rfl (by decide +kernel)
        (by decide +kernel)]
      rfl
    have kept : together.2.files.read "rep/x.json" = .ok (emptyReport "a/x.zip" {} [.stops]) :=
      read_run prepared feasible split (by decide +kernel)
    let ready' := ((twoArchives "x.zip" "y.zip").perform
      (prepare { options with inputs := ["a/x.zip"] })).2
    have prepared' : (twoArchives "x.zip" "y.zip").perform
        (prepare { options with inputs := ["a/x.zip"] }) = (.ok ({}, ["a/x.zip"]), ready') :=
      Prod.ext (by decide +kernel) rfl
    have feasible' : Feasible { options with inputs := ["a/x.zip"] } {} ready'.files ["a/x.zip"] :=
      { named := by decide +kernel
        accepted := by decide +kernel
        apart := by decide +kernel }
    have kept' : alone.2.files.read "rep/x.json" = .ok (emptyReport "a/x.zip") :=
      read_run_of_empty prepared' feasible' rfl rfl rfl (by decide +kernel) (by decide +kernel)
    refine ⟨(outcome_run prepared feasible).1.trans (by decide +kernel),
      (outcome_run prepared' feasible').1.trans (by decide +kernel), fun same => ?_⟩
    rw [kept, kept'] at same
    obtain ⟨-, diagnostics⟩ :=
      report_of_missing (by decide +kernel) (by decide +kernel) (Except.ok.inj same)
    exact absurd diagnostics (by decide +kernel)
  case sequential =>
    intro options together alone
    let settings : Settings := { parallel := false }
    let ready := ((twoArchives "x.zip" "x.zip").perform (prepare options)).2
    have prepared : (twoArchives "x.zip" "x.zip").perform (prepare options) =
        (.ok (settings, ["a/x.zip", "b/x.zip"]), ready) :=
      Prod.ext (by decide +kernel) rfl
    have feasible : Feasible options settings ready.files ["a/x.zip", "b/x.zip"] :=
      { named := by decide +kernel
        accepted := by decide +kernel
        apart := by decide +kernel }
    have split : allOutputs options settings ready.files ["a/x.zip", "b/x.zip"] [] =
        [⟨"rep/x.json", emptyReport "a/x.zip" settings⟩] ++
          ⟨"rep/x.json", emptyReport "b/x.zip" settings⟩ :: [] := by
      rw [allOutputs, allOutputs, List.tail_nil, List.headD_nil,
        outputsIn_of_empty settings [] rfl rfl rfl (by decide +kernel) (by decide +kernel),
        outputsIn_of_empty settings [] rfl rfl rfl (by decide +kernel) (by decide +kernel)]
      rfl
    have replaced : together.2.files.read "rep/x.json" = .ok (emptyReport "b/x.zip" settings) :=
      read_run prepared feasible split (List.forall_mem_nil _)
    let ready' := ((twoArchives "x.zip" "x.zip").perform
      (prepare { options with inputs := ["a/x.zip"] })).2
    have prepared' : (twoArchives "x.zip" "x.zip").perform
        (prepare { options with inputs := ["a/x.zip"] }) = (.ok (settings, ["a/x.zip"]), ready') :=
      Prod.ext (by decide +kernel) rfl
    have feasible' : Feasible { options with inputs := ["a/x.zip"] } settings ready'.files
        ["a/x.zip"] :=
      { named := by decide +kernel
        accepted := by decide +kernel
        apart := by decide +kernel }
    have kept : alone.2.files.read "rep/x.json" = .ok (emptyReport "a/x.zip" settings) :=
      read_run_of_empty prepared' feasible' rfl rfl rfl (by decide +kernel) (by decide +kernel)
    refine ⟨(outcome_run prepared feasible).1.trans (by decide +kernel),
      (outcome_run prepared' feasible').1.trans (by decide +kernel), fun same => ?_⟩
    rw [replaced, kept] at same
    obtain ⟨feed, -⟩ :=
      report_of_missing (by decide +kernel) (by decide +kernel) (Except.ok.inj same)
    exact absurd feed (by decide +kernel)

end TransitFeed.CommandLine

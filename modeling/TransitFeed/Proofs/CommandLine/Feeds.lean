import TransitFeed.Proofs.CommandLine.Examination
import TransitFeed.Proofs.CommandLine.Trial

/-! # What is written for the feeds of a run

For each feed there is a copy, unless its load met a fault, and a report in any case. What they say
depends on the settings and on the content of the feed alone, and the order of the diagnostics on
the turns of its tables.
-/

namespace TransitFeed.CommandLine

/-- The copy that is written of a feed that was loaded without a fault. -/
def copyFiles (options : Options) (path : String) (found : Examination) : List WrittenFile :=
  match options.outputFolder, found.fault, Path.fileName? path with
  | some folder, none, some name =>
    [⟨Path.append folder name, Zip.write found.copy.package.archive⟩]
  | _, _, _ => []

/-- The report that is written of a feed. -/
def reportFiles (options : Options) (path : String) (found : Examination) : List WrittenFile :=
  match options.reportFolder, Path.fileName? path with
  | some folder, some name =>
    [⟨Path.append folder (Path.stem name ++ ".json"), Utf8.encode found.report.text⟩]
  | _, _ => []

def outputs (options : Options) (path : String) (found : Examination) : List WrittenFile :=
  copyFiles options path found ++ reportFiles options path found

theorem copyFiles_of_fault {found : Examination} {fault : Fault} (broken : found.fault = some fault)
    (options : Options) (path : String) : copyFiles options path found = [] := by
  unfold copyFiles
  rw [broken]
  cases options.outputFolder with
  | none => rfl
  | some folder => rfl

/-- What is found out about a feed among some files. -/
def examineIn (options : Options) (settings : Settings) (files : FileTree) (path : String)
    (schedule : List FeedTable := []) : Examination :=
  examine settings options.showsProgress path (files.read path) schedule

/-- What is written for a feed that is found among some files. -/
def outputsIn (options : Options) (settings : Settings) (files : FileTree) (path : String)
    (schedule : List FeedTable := []) : List WrittenFile :=
  outputs options path (examineIn options settings files path schedule)

/-- What is written for feeds that are found among some files, each with its schedule. -/
def allOutputs (options : Options) (settings : Settings) (files : FileTree) :
    List String → List (List FeedTable) → List WrittenFile
  | [], _ => []
  | path :: rest, schedules =>
    outputsIn options settings files path (schedules.headD []) ++
      allOutputs options settings files rest schedules.tail

/-- How the examination of a feed ends. -/
def Examination.ending (found : Examination) : Except Fault Unit :=
  match found.fault with
  | some fault => .error fault
  | none => .ok ()

section

variable (options : Options) {path : String}

theorem copyFiles_congr {found found' : Examination} (alike : found.Alike found') :
    copyFiles options path found = copyFiles options path found' := by
  unfold copyFiles
  rw [alike.fault, alike.package]

theorem exists_output {found found' : Examination} (alike : found.Alike found')
    {file : WrittenFile} (output : file ∈ outputs options path found) :
    ∃ file' ∈ outputs options path found', file'.path = file.path := by
  rcases List.mem_append.mp output with copy | report
  · rw [copyFiles_congr options alike] at copy
    exact ⟨file, List.mem_append_left _ copy, rfl⟩
  · cases asked : options.reportFolder with
    | none =>
        rw [reportFiles, asked] at report
        contradiction
    | some folder =>
        cases named : Path.fileName? path with
        | none =>
            rw [reportFiles, asked, named] at report
            contradiction
        | some name =>
            rw [reportFiles, asked, named] at report
            obtain rfl := List.mem_singleton.mp report
            let file' : WrittenFile :=
              ⟨Path.append folder (Path.stem name ++ ".json"), Utf8.encode found'.report.text⟩
            have other : reportFiles options path found' = [file'] := by
              rw [reportFiles, asked, named]
            refine ⟨file', List.mem_append_right _ ?_, rfl⟩
            rw [other]
            exact List.mem_singleton_self _

variable (settings : Settings)

theorem outputsIn_of_sequential (sequential : settings.parallel = false) (files : FileTree)
    (path : String) (schedule : List FeedTable) :
    outputsIn options settings files path schedule = outputsIn options settings files path := by
  unfold outputsIn examineIn
  rw [examine_of_sequential settings _ _ sequential]

theorem allOutputs_of_sequential (sequential : settings.parallel = false) (files : FileTree)
    (paths : List String) (schedules : List (List FeedTable)) :
    allOutputs options settings files paths schedules =
      paths.flatMap (outputsIn options settings files) := by
  induction paths generalizing schedules with
  | nil => rfl
  | cons path rest ih =>
      rw [allOutputs, ih, outputsIn_of_sequential options settings sequential, List.flatMap_cons]

/-- A feed depends on the content of its file. Why there is none makes no difference to what is
    written for it. -/
theorem outputsIn_congr {files files' : FileTree}
    (same : files'.content? path = files.content? path) (schedule : List FeedTable) :
    outputsIn options settings files' path schedule =
        outputsIn options settings files path schedule ∧
      (examineIn options settings files' path schedule).fault.isSome =
        (examineIn options settings files path schedule).fault.isSome := by
  unfold FileTree.content? at same
  unfold outputsIn examineIn
  cases content : files.read path with
  | ok octets =>
      rw [content] at same
      cases content' : files'.read path with
      | ok octets' =>
          rw [content'] at same
          obtain rfl : octets' = octets := Option.some.inj same
          exact ⟨rfl, rfl⟩
      | error error =>
          rw [content'] at same
          contradiction
  | error error =>
      rw [content] at same
      cases content' : files'.read path with
      | ok octets =>
          rw [content'] at same
          contradiction
      | error error' =>
          obtain ⟨fault, examined⟩ :=
            examine_of_error settings options.showsProgress path error schedule
          obtain ⟨fault', examined'⟩ :=
            examine_of_error settings options.showsProgress path error' schedule
          rw [examined, examined']
          unfold outputs
          rw [copyFiles_of_fault rfl, copyFiles_of_fault rfl]
          exact ⟨rfl, rfl⟩

end

namespace Trial

variable (t : Trial)

theorem writes_tellLines (lines : List LogLine) :
    t.Writes [] (.ok ()) (tellLines lines) := by
  induction lines generalizing t with
  | nil => exact .nothing t
  | cons line rest ih => exact .andThen (.tells t _) ih

theorem writes_tellCounts (counts : List (String × Nat)) :
    t.Writes [] (.ok ()) (tellCounts counts) := by
  induction counts generalizing t with
  | nil => exact .nothing t
  | cons count rest ih => exact .andThen (.tells t _) ih

variable (options : Options) {path name : String} (named : Path.fileName? path = some name)
include named

theorem writes_writeCopy {found : Examination} (sound : found.feed.Sound) :
    t.Writes (copyFiles options path found) (.ok ()) (writeCopy options name found) := by
  have complete : found.copy.fault = none := (Feed.write_of_sound sound _).1
  unfold copyFiles writeCopy
  cases options.outputFolder with
  | none => exact .nothing t
  | some folder =>
      cases found.fault with
      | some fault => exact .nothing t
      | none =>
          rw [named, complete]
          exact .andThen (.creates t _ _) fun u => .andThen (u.writes_tellLines _) .nothing

theorem writes_writeReport (found : Examination) :
    t.Writes (reportFiles options path found) (.ok ())
      (writeReport options name found.report) := by
  unfold reportFiles writeReport
  cases options.reportFolder with
  | none => exact .nothing t
  | some folder =>
      rw [named]
      exact .andThen (.creates t _ _) fun u => .tells u _

omit named

theorem writes_tellReport (path : String) (report : Report) :
    t.Writes [] (.ok ()) (tellReport path report) := by
  refine .andThen (t.writes_tellCounts _) fun u => ?_
  split
  · exact .tells u _
  · exact .nothing u

theorem writes_conclude (path : String) (found : Examination) :
    t.Writes [] found.ending (conclude path found) := by
  unfold conclude Examination.ending
  cases found.fault with
  | some fault => exact .throws t fault
  | none => exact .tells t _

theorem writes_deliver {found : Examination} (sound : found.feed.Sound)
    (named : Path.fileName? path = some name) :
    t.Writes (outputs options path found) found.ending (deliver options path name found) := by
  have done : t.Writes ([] ++ (copyFiles options path found ++ ([] ++
      (reportFiles options path found ++ [])))) found.ending (deliver options path name found) :=
    .andThen (t.writes_tellLines _) fun u =>
      .andThen (u.writes_writeCopy options named sound) fun u =>
        .andThen (u.writes_tellReport path found.report) fun u =>
          .andThen (u.writes_writeReport options named found) fun u =>
            u.writes_conclude path found
  rwa [List.nil_append, List.nil_append, List.append_nil] at done

/-- What is done with a feed depends on its content and its schedule when its turn comes. -/
theorem writes_process (settings : Settings) (named : Path.fileName? path = some name) :
    let found := examineIn options settings t.files path t.schedule
    t.Writes (outputs options path found) found.ending (process options settings path) := by
  intro found
  unfold process
  rw [named]
  exact .reads t path (.draws t (t.next.writes_deliver options (sound_examine _ _ _ _ _) named))

theorem wrote_process_of_accepted (settings : Settings) (named : Path.fileName? path = some name)
    (accepted : ∀ file ∈ outputsIn options settings t.files path t.schedule,
      t.files.Accepts file.path) :
    t.Wrote (outputsIn options settings t.files path t.schedule)
        (t.perform (process options settings path)).2 ∧
      (t.perform (process options settings path)).1 =
        (examineIn options settings t.files path t.schedule).ending := by
  refine (t.writes_process options settings named).resolve_right ?_
  rintro ⟨before, refused, behind, fault, split, fails, -, -⟩
  refine fails (accepted refused ?_)
  rw [show outputsIn options settings t.files path t.schedule = _ from split]
  exact List.mem_append_right before List.mem_cons_self

theorem process_of_unnamed (settings : Settings) (unnamed : Path.fileName? path = none) :
    t.perform (process options settings path) = (.error (.of (.noFileName path)), t) := by
  unfold process
  rw [unnamed]
  rfl

end Trial

namespace Trial

theorem keeps_create (path : String) (content : Octets) :
    Keeps (·.schedules) (create path content : ExceptT Fault (StateM Trial) Unit) := by
  refine Keeps.andThen (fun t => ?_) fun written => ?_
  · rw [perform_write]
    cases t.files.write path content with
    | ok files => rfl
    | error error => rfl
  · cases written with
    | ok => exact .pure _
    | error error => exact .throw _

theorem keeps_tellLines (lines : List LogLine) :
    Keeps (·.schedules) (tellLines lines : ExceptT Fault (StateM Trial) Unit) := by
  induction lines with
  | nil => exact .pure _
  | cons line rest ih => exact Keeps.andThen (fun t => rfl) fun _ => ih

theorem keeps_tellCounts (counts : List (String × Nat)) :
    Keeps (·.schedules) (tellCounts counts : ExceptT Fault (StateM Trial) Unit) := by
  induction counts with
  | nil => exact .pure _
  | cons count rest ih => exact Keeps.andThen (fun t => rfl) fun _ => ih

variable (options : Options) (path name : String) (found : Examination)

theorem keeps_writeCopy :
    Keeps (·.schedules) (writeCopy options name found : ExceptT Fault (StateM Trial) Unit) := by
  unfold writeCopy
  split
  · refine (keeps_create _ _).andThen fun _ => (keeps_tellLines _).andThen fun _ => ?_
    split
    · exact .throw _
    · exact .pure _
  · exact .pure _

theorem keeps_writeReport (report : Report) :
    Keeps (·.schedules) (writeReport options name report : ExceptT Fault (StateM Trial) Unit) := by
  unfold writeReport
  split
  · exact (keeps_create _ _).andThen fun _ => fun t => rfl
  · exact .pure _

theorem keeps_tellReport (report : Report) :
    Keeps (·.schedules) (tellReport path report : ExceptT Fault (StateM Trial) Unit) := by
  refine (keeps_tellCounts _).andThen fun _ => ?_
  split
  · exact fun t => rfl
  · exact .pure _

theorem keeps_conclude :
    Keeps (·.schedules) (conclude path found : ExceptT Fault (StateM Trial) Unit) := by
  unfold conclude
  split
  · exact .throw _
  · exact fun t => rfl

theorem keeps_deliver :
    Keeps (·.schedules) (deliver options path name found : ExceptT Fault (StateM Trial) Unit) :=
  (keeps_tellLines _).andThen fun _ => (keeps_writeCopy options name found).andThen fun _ =>
    (keeps_tellReport path found.report).andThen fun _ =>
      (keeps_writeReport options name found.report).andThen fun _ => keeps_conclude path found

variable {path name}

theorem schedules_process (t : Trial) (settings : Settings)
    (named : Path.fileName? path = some name) :
    (t.perform (process options settings path)).2.schedules = t.schedules.tail := by
  have drawn : t.perform (process options settings path) = t.next.perform
      (deliver options path name (examineIn options settings t.files path t.schedule)) := by
    unfold process
    rw [named]
    exact (t.perform_read path _).trans (t.perform_schedule _)
  rw [drawn]
  exact keeps_deliver options path name _ t.next

end Trial

namespace Trial

variable (options : Options) (settings : Settings)

/-- How many feeds fail and what is left, if all are processed at some moment of a trial. -/
def performAll (t : Trial) (paths : List String) : Nat × Trial :=
  (processAll options settings paths : StateM Trial Nat).run t

theorem performAll_cons (t : Trial) (path : String) (rest : List String) :
    t.performAll options settings (path :: rest) =
      match t.perform (process options settings path) with
      | (.ok (), after) => after.performAll options settings rest
      | (.error fault, after) =>
        let told : Trial := { after with notices := after.notices ++ [.feedFailed path fault] }
        let last := told.performAll options settings rest
        (last.1 + 1, last.2) := by
  unfold performAll perform
  rw [processAll, StateT.run_bind]
  generalize (process options settings path : ExceptT Fault (StateM Trial) Unit).run.run t = ended
  obtain ⟨result, after⟩ := ended
  cases result with
  | ok => rfl
  | error fault => rfl

/-- Whatever happens to a feed, no other files are written than those that are asked for. -/
theorem wrote_process (t : Trial) (path : String) :
    ∃ done, t.Wrote done (t.perform (process options settings path)).2 ∧
      done <+: outputsIn options settings t.files path t.schedule := by
  cases named : Path.fileName? path with
  | none =>
      rw [t.process_of_unnamed options settings named]
      exact ⟨[], .nothing t _, List.nil_prefix⟩
  | some name =>
      rcases t.writes_process options settings named with
        ⟨wrote, -⟩ | ⟨before, refused, behind, fault, split, -, wrote, -⟩
      · exact ⟨_, wrote, List.prefix_rfl⟩
      · exact ⟨before, wrote, _, split.symm⟩

/-- What is written for some feeds is written for one of them. -/
theorem wrote_performAll (t : Trial) (paths : List String) :
    ∃ done, t.Wrote done (t.performAll options settings paths).2 ∧
      ∀ file ∈ done, ∃ path ∈ paths, ∃ files schedule,
        file ∈ outputsIn options settings files path schedule := by
  induction paths generalizing t with
  | nil => exact ⟨[], .nothing t _, List.forall_mem_nil _⟩
  | cons path rest ih =>
      obtain ⟨done, wrote, asked⟩ := t.wrote_process options settings path
      rw [performAll_cons]
      generalize t.perform (process options settings path) = ended at wrote ⊢
      obtain ⟨result, after⟩ := ended
      have both (told : Trial) (wrote : t.Wrote done told) :
          ∃ done, t.Wrote done (told.performAll options settings rest).2 ∧
            ∀ file ∈ done, ∃ other ∈ path :: rest, ∃ files schedule,
              file ∈ outputsIn options settings files other schedule := by
        obtain ⟨later, wrote', asked'⟩ := ih told
        refine ⟨done ++ later, wrote.append wrote', fun file member => ?_⟩
        rcases List.mem_append.mp member with here | there
        · exact ⟨path, List.mem_cons_self, t.files, t.schedule, asked.subset here⟩
        · obtain ⟨other, listed, files, schedule, output⟩ := asked' file there
          exact ⟨other, List.mem_cons_of_mem _ listed, files, schedule, output⟩
      cases result with
      | ok => exact both after wrote
      | error fault => exact both _ (wrote.told _)

end Trial

/-- Whether each feed has a name, each file that is to be written is accepted, and no such file takes
    the place of a feed. -/
structure Feasible (options : Options) (settings : Settings) (files : FileTree)
    (paths : List String) : Prop where
  named : ∀ path ∈ paths, (Path.fileName? path).isSome = true
  accepted : ∀ path ∈ paths, ∀ file ∈ outputsIn options settings files path,
    files.Accepts file.path
  apart : ∀ path ∈ paths, ∀ file ∈ outputsIn options settings files path, ∀ other ∈ paths,
    files.place? file.path ≠ files.place? other

namespace Feasible

variable {options : Options} {settings : Settings} {ready t : Trial} {paths : List String}

theorem exists_output (options : Options) (settings : Settings) {files : FileTree} {path : String}
    {schedule : List FeedTable} {file : WrittenFile}
    (output : file ∈ outputsIn options settings files path schedule) :
    ∃ file' ∈ outputsIn options settings files path, file'.path = file.path :=
  CommandLine.exists_output options (alike_examine _ _ _ _ _ _) output

theorem content?_eq (feasible : Feasible options settings ready.files paths)
    {done : List WrittenFile} (wrote : ready.Wrote done t)
    (asked : ∀ file ∈ done, ∃ other ∈ paths, ∃ schedule,
      file ∈ outputsIn options settings ready.files other schedule) {path : String}
    (listed : path ∈ paths) : t.files.content? path = ready.files.content? path := by
  have untouched : ready.files.lastAt? done path = none := by
    refine FileTree.lastAt?_eq_none fun file member => ?_
    obtain ⟨other, listed', schedule, output⟩ := asked file member
    obtain ⟨file', output', same⟩ := exists_output options settings output
    rw [← same]
    exact feasible.apart other listed' file' output' path listed
  rw [wrote.files.content?_eq, untouched]

/-- When its turn comes a feed is processed to its end, as it would have been at first. -/
theorem process (feasible : Feasible options settings ready.files paths)
    {done : List WrittenFile} (wrote : ready.Wrote done t)
    (asked : ∀ file ∈ done, ∃ other ∈ paths, ∃ schedule,
      file ∈ outputsIn options settings ready.files other schedule) {path : String}
    (listed : path ∈ paths) :
    let ended := t.perform (CommandLine.process options settings path)
    t.Wrote (outputsIn options settings ready.files path t.schedule) ended.2 ∧
      ended.2.schedules = t.schedules.tail ∧
        ended.1 = (examineIn options settings t.files path t.schedule).ending := by
  intro ended
  obtain ⟨name, named⟩ := Option.isSome_iff_exists.mp (feasible.named path listed)
  obtain ⟨same, -⟩ :=
    outputsIn_congr options settings (feasible.content?_eq wrote asked listed) t.schedule
  have accepted : ∀ file ∈ outputsIn options settings t.files path t.schedule,
      t.files.Accepts file.path := by
    rw [same]
    intro file output
    obtain ⟨file', output', place⟩ := exists_output options settings output
    rw [← place]
    exact (wrote.files.accepts_iff _).mpr (feasible.accepted path listed file' output')
  rw [← same]
  obtain ⟨own, ends⟩ := t.wrote_process_of_accepted options settings named accepted
  exact ⟨own, t.schedules_process options settings named, ends⟩

/-- Feeds that are not written over are processed as if each was the only one. -/
theorem performAll (feasible : Feasible options settings ready.files paths)
    {done : List WrittenFile} (wrote : ready.Wrote done t)
    (asked : ∀ file ∈ done, ∃ other ∈ paths, ∃ schedule,
      file ∈ outputsIn options settings ready.files other schedule) {rest : List String}
    (part : rest ⊆ paths) :
    (t.performAll options settings rest).1 =
        rest.countP (fun path => (examineIn options settings ready.files path).fault.isSome) ∧
      ready.Wrote (done ++ allOutputs options settings ready.files rest t.schedules)
        (t.performAll options settings rest).2 := by
  induction rest generalizing t done with
  | nil => exact ⟨rfl, by rwa [allOutputs, List.append_nil]⟩
  | cons path rest ih =>
      -- what is written so far belongs to some of the feeds, so it is in the place of none of them
      obtain ⟨listed, part⟩ := List.cons_subset.mp part
      obtain ⟨-, same⟩ := outputsIn_congr options settings
        (feasible.content?_eq wrote asked listed) []
      have faults : (examineIn options settings t.files path t.schedule).fault =
          (examineIn options settings t.files path).fault := (alike_examine _ _ _ _ _ _).fault
      obtain ⟨own, drawn, ended⟩ := feasible.process wrote asked listed
      have asked' : ∀ file ∈ done ++ outputsIn options settings ready.files path t.schedule,
          ∃ other ∈ paths, ∃ schedule,
            file ∈ outputsIn options settings ready.files other schedule := by
        intro file member
        rcases List.mem_append.mp member with early | here
        · exact asked file early
        · exact ⟨path, listed, t.schedule, here⟩
      rw [Trial.performAll_cons, List.countP_cons, ← same, allOutputs, ← List.append_assoc]
      generalize t.perform (CommandLine.process options settings path) = result at own drawn ended
      obtain ⟨result, after⟩ := result
      unfold Examination.ending at ended
      rw [faults] at ended
      cases fault : (examineIn options settings t.files path).fault with
      | none =>
          rw [fault] at ended
          obtain rfl : result = .ok () := ended
          rw [← drawn]
          exact ih (wrote.append own) asked' part
      | some reason =>
          rw [fault] at ended
          obtain rfl : result = .error reason := ended
          rw [← drawn]
          obtain ⟨counted, all⟩ := ih (wrote.append (own.told _)) asked' part
          exact ⟨congrArg (· + 1) counted, all⟩

end Feasible

end TransitFeed.CommandLine

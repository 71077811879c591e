import TransitFeed.Proofs.CommandLine.Isolation

/-! # Files that take each other's place

What is written for a feed is named like the feed, whatever folder the feed is in, and reports have
an extension of their own. So a feed keeps its files to the end of a run if no later feed has a name
that starts like its own. Otherwise a later file may take the place of an earlier one.
-/

namespace TransitFeed

namespace Path

/-- The name that a path ends in, without its extension. -/
def stem? (path : String) : Option String := (fileName? path).map stem

end Path

namespace FileTree

variable {t : FileTree} {path other : String}

/-- Paths with names that lead to one place have one name. -/
theorem fileName?_of_place? {location : Location} (found : t.place? path = some location)
    (same : t.place? other = t.place? path) (named : (Path.fileName? path).isSome = true)
    (named' : (Path.fileName? other).isSome = true) :
    Path.fileName? other = Path.fileName? path := by
  obtain ⟨name, named⟩ := Option.isSome_iff_exists.mp named
  obtain ⟨name', named'⟩ := Option.isSome_iff_exists.mp named'
  have last := t.getLast?_of_place? found named
  have last' := t.getLast?_of_place? (same.trans found) named'
  rw [named, named', ← last, ← last']

end FileTree

namespace CommandLine

theorem stem?_of_output {options : Options} {path : String} {found : Examination}
    {file : WrittenFile} (output : file ∈ outputs options path found) :
    (Path.fileName? file.path).isSome = true ∧ Path.stem? file.path = Path.stem? path := by
  rcases List.mem_append.mp output with copy | report
  · unfold copyFiles at copy
    split at copy
    · next folder name _ _ named =>
      obtain rfl := List.mem_singleton.mp copy
      have own := (Path.isName_of_fileName? named).fileName?_append folder
      exact ⟨by rw [own]; rfl, by rw [Path.stem?, Path.stem?, own, named]⟩
    · contradiction
  · unfold reportFiles at report
    split at report
    · next folder name _ named =>
      obtain rfl := List.mem_singleton.mp report
      obtain ⟨plain, same⟩ := (Path.isName_of_fileName? named).report
      have own := plain.fileName?_append folder
      refine ⟨by rw [own]; rfl, ?_⟩
      rw [Path.stem?, Path.stem?, own, named, Option.map_some, Option.map_some, same]
    · contradiction

/-- Files of feeds whose names start otherwise are in places of their own. -/
theorem place?_ne_of_stem? {t : FileTree} {options : Options} {path other : String}
    {found found' : Examination} {file file' : WrittenFile}
    (output : file ∈ outputs options path found) (output' : file' ∈ outputs options other found')
    (accepts : t.Accepts file.path) (differ : Path.stem? other ≠ Path.stem? path) :
    t.place? file'.path ≠ t.place? file.path := by
  intro same
  obtain ⟨location, place, -⟩ := (t.accepts_iff file.path).mp accepts
  obtain ⟨named, stem⟩ := stem?_of_output output
  obtain ⟨named', stem'⟩ := stem?_of_output output'
  have name := FileTree.fileName?_of_place? place same named named'
  refine differ (stem'.symm.trans (Eq.trans ?_ stem))
  rw [Path.stem?, Path.stem?, name]

namespace Trial

theorem performAll_append (t : Trial) (options : Options) (settings : Settings)
    (before behind : List String) :
    (t.performAll options settings (before ++ behind)).2 =
      ((t.performAll options settings before).2.performAll options settings behind).2 := by
  induction before generalizing t with
  | nil => rfl
  | cons path rest ih =>
      rw [List.cons_append, performAll_cons, performAll_cons]
      split
      · exact ih _
      · exact ih _

/-- The files of a feed that is processed to its end, and then those of the feeds behind it. -/
theorem wrote_processed (t : Trial) (options : Options) (settings : Settings) {path name : String}
    (behind : List String) (named : Path.fileName? path = some name)
    (accepted : ∀ file ∈ outputsIn options settings t.files path t.schedule,
      t.files.Accepts file.path) :
    ∃ later, t.Wrote (outputsIn options settings t.files path t.schedule ++ later)
        (t.performAll options settings (path :: behind)).2 ∧
      ∀ file ∈ later, ∃ other ∈ behind, ∃ files schedule,
        file ∈ outputsIn options settings files other schedule := by
  obtain ⟨wrote, -⟩ := t.wrote_process_of_accepted options settings named accepted
  rw [performAll_cons]
  generalize t.perform (process options settings path) = ended at wrote ⊢
  obtain ⟨result, after⟩ := ended
  cases result with
  | ok =>
      obtain ⟨later, wrote', asked⟩ := after.wrote_performAll options settings behind
      exact ⟨later, wrote.append wrote', asked⟩
  | error fault =>
      obtain ⟨later, wrote', asked⟩ := wrote_performAll options settings _ behind
      exact ⟨later, (wrote.told _).append wrote', asked⟩

end Trial

/-- What becomes of the files of a feed that is processed to its end. When the run has ended they are
    still there, unless later files were written to the same places; then the last of those are
    there. The files of later feeds are in other places if the names of these feeds differ from the
    name of this one in more than the extension. -/
theorem results_last (options : Options) {start ready : Trial} {settings : Settings}
    {before behind : List String} {path : String}
    (prepared : start.perform (prepare options) =
      (.ok (settings, before ++ path :: behind), ready)) :
    let turn := (ready.performAll options settings before).2
    let own := outputsIn options settings turn.files path turn.schedule
    let ended := (start.perform (run options)).2
    (Path.fileName? path).isSome = true → (∀ file ∈ own, ready.files.Accepts file.path) →
      ∃ later, ended.written = turn.written ++ own ++ later ∧
        (∀ file ∈ later, ∃ other ∈ behind, ∃ files schedule,
          file ∈ outputsIn options settings files other schedule) ∧
        ∀ earlier file rest, own = earlier ++ file :: rest →
          ended.files.read file.path =
            .ok ((ready.files.lastAt? (rest ++ later) file.path).getD file).content ∧
          ((∀ other ∈ behind, Path.stem? other ≠ Path.stem? path) →
            (∀ next ∈ rest, ready.files.place? next.path ≠ ready.files.place? file.path) →
              ended.files.read file.path = .ok file.content) := by
  intro turn own ended named accepted
  -- whatever the feeds before have written, the folders are those that were ready for the first
  obtain ⟨first, begun, -⟩ := ready.wrote_performAll options settings before
  obtain ⟨name, named⟩ := Option.isSome_iff_exists.mp named
  obtain ⟨later, wrote, asked⟩ := turn.wrote_processed options settings behind named
    fun file output => (begun.files.accepts_iff _).mpr (accepted file output)
  have run : ended = (turn.performAll options settings (path :: behind)).2 := by
    rw [show ended = (start.perform (run options)).2 from rfl, Trial.perform_run, prepared]
    exact ready.performAll_append options settings before (path :: behind)
  rw [← run] at wrote
  refine ⟨later, ?_, asked, ?_⟩
  · rw [wrote.written, List.append_assoc]
  · intro earlier file rest split
    have output : file ∈ own := split ▸ List.mem_append_right earlier List.mem_cons_self
    have last : ended.files.read file.path =
        .ok ((ready.files.lastAt? (rest ++ later) file.path).getD file).content := by
      have files := wrote.files
      rw [show outputsIn options settings turn.files path turn.schedule = _ from split, List.append_assoc,
        List.cons_append] at files
      rw [files.read_eq, begun.files.sameFolders.lastAt?]
    refine ⟨last, fun differ apart => ?_⟩
    have alone : ready.files.lastAt? (rest ++ later) file.path = none := by
      refine FileTree.lastAt?_eq_none fun next member => ?_
      rcases List.mem_append.mp member with own | other
      · exact apart next own
      · obtain ⟨path', listed, files, schedule, output'⟩ := asked next other
        exact place?_ne_of_stem? output output' (accepted file output) (differ path' listed)
    rw [last, alone]
    rfl

/-- With names of their own both archives keep their reports. -/
theorem results_last_named :
    ((twoArchives "x.zip" "y.zip").perform (run (reportsOf "x.zip" "y.zip"))).2.files.read
      "rep/x.json" = .ok (emptyReport "a/x.zip") := by
  let ready := ((twoArchives "x.zip" "y.zip").perform (prepare (reportsOf "x.zip" "y.zip"))).2
  have prepared : (twoArchives "x.zip" "y.zip").perform (prepare (reportsOf "x.zip" "y.zip")) =
      (.ok ({}, [] ++ "a/x.zip" :: ["b/y.zip"]), ready) :=
    Prod.ext (by decide +kernel) rfl
  obtain ⟨-, -, -, -, -, undrawn⟩ := Trial.prepare_cases prepared
  have unscheduled : ready.schedule = [] := by
    unfold Trial.schedule
    rw [undrawn]
    rfl
  have own : outputsIn (reportsOf "x.zip" "y.zip") {} ready.files "a/x.zip" ready.schedule =
      [] ++ ⟨"rep/x.json", emptyReport "a/x.zip"⟩ :: [] := by
    rw [unscheduled]
    exact outputsIn_of_empty {} [] rfl rfl rfl (by decide +kernel) (by decide +kernel)
  have accepted : ∀ file ∈
      outputsIn (reportsOf "x.zip" "y.zip") {} ready.files "a/x.zip" ready.schedule,
        ready.files.Accepts file.path := by
    rw [own]
    decide +kernel
  obtain ⟨later, -, -, each⟩ := results_last _ prepared (by decide +kernel) accepted
  obtain ⟨-, kept⟩ := each [] _ [] own
  dsimp only at kept
  exact kept (by decide +kernel) (List.forall_mem_nil _)

theorem emptyReport_ne : emptyReport "a/x.zip" ≠ emptyReport "b/x.zip" ∧
    emptyReport "a/x.zip" ≠ Zip.write [] := by
  constructor
  · intro same
    have text := String.ofList_injective (Utf8.encode_injective same)
    exact absurd (congrArg (List.take 25) text) (by decide +kernel)
  · intro same
    have first : (emptyReport "a/x.zip").head? = some 123 := by
      unfold emptyReport Report.text Utf8.encode
      rw [String.toList_ofList]
      decide +kernel
    rw [same] at first
    exact absurd first (by decide +kernel)

/-- With one name in two folders the report of the second archive takes the place of the first. -/
theorem results_lost :
    let options := reportsOf "x.zip" "x.zip"
    let ended := (twoArchives "x.zip" "x.zip").perform (run options)
    options.inputs.Nodup ∧ ended.1 = .ok () ∧
      ended.2.written = [⟨"rep/x.json", emptyReport "a/x.zip"⟩,
        ⟨"rep/x.json", emptyReport "b/x.zip"⟩] ∧
      ended.2.files.read "rep/x.json" = .ok (emptyReport "b/x.zip") ∧
      ∀ path, ended.2.files.read path ≠ .ok (emptyReport "a/x.zip") := by
  intro options ended
  let ready := ((twoArchives "x.zip" "x.zip").perform (prepare (reportsOf "x.zip" "x.zip"))).2
  have prepared : (twoArchives "x.zip" "x.zip").perform (prepare (reportsOf "x.zip" "x.zip")) =
      (.ok ({}, ["a/x.zip", "b/x.zip"]), ready) :=
    Prod.ext (by decide +kernel) rfl
  have feasible : Feasible (reportsOf "x.zip" "x.zip") {} ready.files ["a/x.zip", "b/x.zip"] :=
    { named := by decide +kernel
      accepted := by decide +kernel
      apart := by decide +kernel }
  have first : outputsIn (reportsOf "x.zip" "x.zip") {} ready.files "a/x.zip" =
      [⟨"rep/x.json", emptyReport "a/x.zip"⟩] :=
    outputsIn_of_empty {} [] rfl rfl rfl (by decide +kernel) (by decide +kernel)
  have second : outputsIn (reportsOf "x.zip" "x.zip") {} ready.files "b/x.zip" =
      [⟨"rep/x.json", emptyReport "b/x.zip"⟩] :=
    outputsIn_of_empty {} [] rfl rfl rfl (by decide +kernel) (by decide +kernel)
  obtain ⟨-, -, -, -, unwritten, -⟩ := Trial.prepare_cases prepared
  obtain ⟨outcome, wrote⟩ := outcome_run prepared feasible
  have unscheduled : (twoArchives "x.zip" "x.zip").schedules = [] := rfl
  rw [unscheduled, allOutputs, allOutputs, allOutputs, List.tail_nil, List.headD_nil, first, second,
    List.append_nil] at wrote
  have content (path : String) : ended.2.files.content? path =
      if ready.files.place? "rep/x.json" = ready.files.place? path then
        some (emptyReport "b/x.zip")
      else ready.files.content? path := by
    rw [wrote.files.content?_eq]
    unfold FileTree.lastAt?
    by_cases place : ready.files.place? "rep/x.json" = ready.files.place? path
    · simp [place]
    · simp [place]
  have archives : ∀ entry ∈ ready.files.items.toList,
      entry.2 = .folder ∨ entry.2 = .file (Zip.write []) := by
    decide +kernel
  refine ⟨by decide +kernel, outcome.trans (by decide +kernel), ?_, ?_, ?_⟩
  · rw [wrote.written, unwritten]
    rfl
  · rw [FileTree.read_eq_ok_iff, content, if_pos rfl]
  · intro path found
    rw [FileTree.read_eq_ok_iff, content] at found
    split at found
    · exact emptyReport_ne.1 (Option.some.inj found).symm
    · obtain ⟨location, listed⟩ := FileTree.mem_of_content? found
      rcases archives _ listed with folder | archive
      · contradiction
      · exact emptyReport_ne.2 (FileItem.file.inj archive)

end CommandLine

end TransitFeed

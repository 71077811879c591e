import TransitFeed.CommandLine.Run
import TransitFeed.CommandLine.Trial
import TransitFeed.Proofs.File.Tree

/-! # What programs write in a trial

A program may write a list of files one after the other until one of them is not accepted. Programs
that do so can be put together, and what else they do with their notices does not matter.
-/

namespace TransitFeed

open CommandLine

namespace FileTree

/-- What becomes of a tree when files are written, all of which are accepted. -/
inductive Written : FileTree → List WrittenFile → FileTree → Prop where
  | nil (t : FileTree) : Written t [] t
  | cons {t after last : FileTree} {file : WrittenFile} {files : List WrittenFile}
      (written : t.write file.path file.content = .ok after) (rest : Written after files last) :
      Written t (file :: files) last

/-- The last one of some files that is written to the place of a path. -/
def lastAt? (t : FileTree) (files : List WrittenFile) (path : String) : Option WrittenFile :=
  files.findRev? fun file => t.place? file.path = t.place? path

variable {t after last : FileTree} {files : List WrittenFile}

theorem SameFolders.lastAt? (same : t.SameFolders after) (files : List WrittenFile)
    (path : String) : after.lastAt? files path = t.lastAt? files path := by
  unfold FileTree.lastAt?
  simp only [same.place?]

theorem lastAt?_eq_none {path : String}
    (elsewhere : ∀ file ∈ files, t.place? file.path ≠ t.place? path) :
    t.lastAt? files path = none := by
  unfold lastAt?
  rw [List.findRev?_eq_find?_reverse, List.find?_eq_none]
  intro file member
  simpa using elsewhere file (List.mem_reverse.mp member)

namespace Written

theorem append {more : List WrittenFile} (first : Written t files after)
    (second : Written after more last) : Written t (files ++ more) last := by
  induction first with
  | nil => exact second
  | cons written _ ih => exact .cons written (ih second)

theorem sameFolders (written : Written t files after) : t.SameFolders after := by
  induction written with
  | nil t => exact .refl t
  | cons here _ ih =>
      obtain ⟨location, -, room, rfl⟩ := exists_put here
      exact (room.sameFolders _).trans ih

theorem accepts_iff (written : Written t files after) (path : String) :
    after.Accepts path ↔ t.Accepts path := by
  induction written with
  | nil => exact Iff.rfl
  | cons here _ ih =>
      obtain ⟨location, -, room, rfl⟩ := exists_put here
      rw [ih, FileTree.accepts_iff, FileTree.accepts_iff]
      simp only [room.hasRoom_put, (room.sameFolders _).place?]

theorem content?_eq (written : Written t files after) (path : String) :
    after.content? path =
      match t.lastAt? files path with
      | some file => some file.content
      | none => t.content? path := by
  induction written with
  | nil => rfl
  | @cons t after last file files here _ ih =>
      -- the places are those of the first tree, since no file that is written makes a folder
      obtain ⟨location, -, room, same⟩ := exists_put here
      rw [ih, same, (room.sameFolders _).lastAt?, ← same]
      unfold lastAt?
      rw [List.findRev?]
      cases files.findRev? fun file => decide (t.place? file.path = t.place? path) with
      | some later => rfl
      | none =>
          rw [content?_of_write here]
          by_cases place : t.place? file.path = t.place? path
          · simp [place]
          · simp [place]

/-- A file is found again if no later one took its place, or else the last one that did. -/
theorem read_eq {earlier rest : List WrittenFile}
    {file : WrittenFile} (written : t.Written (earlier ++ file :: rest) after) :
    after.read file.path = .ok ((t.lastAt? rest file.path).getD file).content := by
  have last : t.lastAt? (earlier ++ file :: rest) file.path =
      some ((t.lastAt? rest file.path).getD file) := by
    unfold lastAt?
    rw [List.findRev?_eq_find?_reverse, List.findRev?_eq_find?_reverse, List.reverse_append,
      List.reverse_cons, List.append_assoc, List.find?_append, List.find?_append,
      List.find?_singleton, if_pos (decide_eq_true rfl), Option.some_or]
    cases rest.reverse.find? _ with
    | some later => rfl
    | none => rfl
  refine read_eq_ok_iff.mpr ?_
  rw [written.content?_eq, last]

end Written

end FileTree

namespace CommandLine

namespace Trial

/-- Whether between two moments of a trial some files have been written, and nothing else happened
    to the files. -/
structure Wrote (t : Trial) (files : List WrittenFile) (after : Trial) : Prop where
  written : after.written = t.written ++ files
  files : t.files.Written files after.files

variable {t after last : Trial} {files more : List WrittenFile}

theorem Wrote.nothing (t : Trial) (notices : List Notice) :
    t.Wrote [] { t with notices } := ⟨(List.append_nil _).symm, .nil _⟩

theorem Wrote.append (first : t.Wrote files after) (second : after.Wrote more last) :
    t.Wrote (files ++ more) last where
  written := by rw [second.written, first.written, List.append_assoc]
  files := first.files.append second.files

theorem Wrote.told (wrote : t.Wrote files after) (notices : List Notice) :
    t.Wrote files { after with notices } := by
  have both := wrote.append (.nothing after notices)
  rwa [List.append_nil] at both

/-- How a program ends and what it leaves, if it is performed at some moment of a trial. -/
def perform {ε α : Type} (t : Trial) (program : ExceptT ε (StateM Trial) α) : Except ε α × Trial :=
  program.run.run t

theorem perform_bind {ε α β : Type} (t : Trial) (program : ExceptT ε (StateM Trial) α)
    (next : α → ExceptT ε (StateM Trial) β) :
    t.perform (program >>= next) =
      match t.perform program with
      | (.ok a, after) => after.perform (next a)
      | (.error error, after) => (.error error, after) := by
  unfold perform
  rw [ExceptT.run_bind, StateT.run_bind]
  obtain ⟨result, after⟩ := program.run.run t
  cases result with
  | ok a => rfl
  | error error => rfl

theorem perform_write (t : Trial) (path : String) (content : Octets) :
    t.perform (FileSystem.write path content : ExceptT Fault (StateM Trial) _) =
      match t.files.write path content with
      | .ok files => (.ok (.ok ()), { t with files, written := t.written ++ [⟨path, content⟩] })
      | .error error => (.ok (.error error), t) := by
  have lifted : t.perform (FileSystem.write path content : ExceptT Fault (StateM Trial) _) =
      let after := (FileSystem.write path content : StateM Trial _).run t
      (.ok after.1, after.2) := rfl
  rw [lifted]
  dsimp only [FileSystem.write, StateT.run]
  cases t.files.write path content with
  | ok files => rfl
  | error error => rfl

/-- Whether a program leaves a part of a trial as it was. -/
def Keeps {ε α β : Type} (part : Trial → β) (program : ExceptT ε (StateM Trial) α) : Prop :=
  ∀ t : Trial, part (t.perform program).2 = part t

namespace Keeps

variable {ε α β γ : Type} {part : Trial → γ} {program : ExceptT ε (StateM Trial) α}

theorem andThen (first : Keeps part program) {next : α → ExceptT ε (StateM Trial) β}
    (second : ∀ a, Keeps part (next a)) : Keeps part (program >>= next) := by
  intro t
  have before := first t
  rw [perform_bind]
  generalize t.perform program = ended at before ⊢
  obtain ⟨result, after⟩ := ended
  cases result with
  | ok a => exact (second a after).trans before
  | error error => exact before

theorem pure (a : α) : Keeps part (Pure.pure a : ExceptT ε (StateM Trial) α) := fun _ => rfl

theorem throw (error : ε) : Keeps part (MonadExcept.throw error : ExceptT ε (StateM Trial) α) :=
  fun _ => rfl

theorem kind? (path : String) :
    Keeps part (FileSystem.kind? path : ExceptT ε (StateM Trial) _) := fun _ => rfl

theorem names (path : String) :
    Keeps part (FileSystem.names path : ExceptT ε (StateM Trial) _) := fun _ => rfl

theorem read (path : String) :
    Keeps part (FileSystem.read path : ExceptT ε (StateM Trial) _) := fun _ => rfl

end Keeps

/-- How the tables of the next feed take turns. -/
def schedule (t : Trial) : List FeedTable := t.schedules.headD []

/-- The trial when the schedule of the next feed has been drawn. -/
def next (t : Trial) : Trial := { t with schedules := t.schedules.tail }

theorem perform_read {α : Type} (t : Trial) (path : String)
    (rest : Except FileError Octets → ExceptT Fault (StateM Trial) α) :
    t.perform (FileSystem.read path >>= rest) = t.perform (rest (t.files.read path)) := rfl

theorem perform_schedule {α : Type} (t : Trial)
    (rest : List FeedTable → ExceptT Fault (StateM Trial) α) :
    t.perform (Scheduler.schedule >>= rest) = t.next.perform (rest t.schedule) := rfl

/-- Whether a program writes files, if it is performed at some moment of a trial, and then ends in
    some way. It fails at the first file that is not accepted. -/
def Writes (t : Trial) (files : List WrittenFile) (ending : Except Fault Unit)
    (program : ExceptT Fault (StateM Trial) Unit) : Prop :=
  t.Wrote files (t.perform program).2 ∧ (t.perform program).1 = ending ∨
    ∃ before refused behind fault, files = before ++ refused :: behind ∧
      ¬ t.files.Accepts refused.path ∧ t.Wrote before (t.perform program).2 ∧
        (t.perform program).1 = .error fault

namespace Writes

variable {ending : Except Fault Unit} {program : ExceptT Fault (StateM Trial) Unit}

theorem nothing (t : Trial) : t.Writes [] (.ok ()) (pure ()) := Or.inl ⟨.nothing t _, rfl⟩

theorem throws (t : Trial) (fault : Fault) : t.Writes [] (.error fault) (throw fault) :=
  Or.inl ⟨.nothing t _, rfl⟩

theorem tells (t : Trial) (notice : Notice) : t.Writes [] (.ok ()) (Noticeboard.tell notice) :=
  Or.inl ⟨.nothing t _, rfl⟩

theorem reads (t : Trial) (path : String)
    {next : Except FileError Octets → ExceptT Fault (StateM Trial) Unit}
    (rest : t.Writes files ending (next (t.files.read path))) :
    t.Writes files ending (FileSystem.read path >>= next) := by
  unfold Writes at rest ⊢
  rwa [perform_read]

theorem draws (t : Trial) {next : List FeedTable → ExceptT Fault (StateM Trial) Unit}
    (rest : t.next.Writes files ending (next t.schedule)) :
    t.Writes files ending (Scheduler.schedule >>= next) := by
  unfold Writes at rest ⊢
  rw [perform_schedule]
  rcases rest with ⟨wrote, ended⟩ | ⟨before, refused, behind, fault, split, fails, wrote, ended⟩
  · exact Or.inl ⟨⟨wrote.written, wrote.files⟩, ended⟩
  · exact Or.inr ⟨before, refused, behind, fault, split, fails, ⟨wrote.written, wrote.files⟩, ended⟩

/-- One program after another. -/
theorem andThen (first : t.Writes files (.ok ()) program)
    {next : Unit → ExceptT Fault (StateM Trial) Unit}
    (second : ∀ u : Trial, u.Writes more ending (next ())) :
    t.Writes (files ++ more) ending (program >>= next) := by
  unfold Writes at first second ⊢
  rw [perform_bind]
  generalize t.perform program = ended at first ⊢
  obtain ⟨result, after⟩ := ended
  rcases first with ⟨wrote, rfl⟩ | ⟨before, refused, behind, fault, rfl, fails, wrote, rfl⟩
  · rcases second after with ⟨wrote', ended⟩ |
      ⟨before, refused, behind, fault, rfl, fails, wrote', failed⟩
    · exact Or.inl ⟨wrote.append wrote', ended⟩
    · refine Or.inr ⟨files ++ before, refused, behind, fault, ?_, ?_, wrote.append wrote', failed⟩
      · rw [List.append_assoc]
      · rwa [← wrote.files.accepts_iff]
  · refine Or.inr ⟨before, refused, behind ++ more, fault, ?_, fails, wrote, rfl⟩
    rw [List.append_assoc, List.cons_append]

theorem creates (t : Trial) (path : String) (content : Octets) :
    t.Writes [⟨path, content⟩] (.ok ()) (create path content) := by
  unfold Writes create
  rw [perform_bind, perform_write]
  cases written : t.files.write path content with
  | ok files => exact Or.inl ⟨⟨rfl, .cons written (.nil files)⟩, rfl⟩
  | error error =>
      refine Or.inr ⟨[], _, [], _, rfl, ?_, .nothing t _, rfl⟩
      intro accepts
      obtain ⟨after, same⟩ := accepts content
      cases same.symm.trans written

end Writes

end Trial

end CommandLine

end TransitFeed

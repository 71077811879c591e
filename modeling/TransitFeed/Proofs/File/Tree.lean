import Std.Data.TreeMap.Lemmas
import TransitFeed.CommandLine.Trial
import TransitFeed.Proofs.File.Path

/-! # What writing changes

A path leads through folders, and writing files makes no folder and removes none. So paths lead to
the same places after any number of files have been written, and each place has the content that was
written there last.
-/

namespace TransitFeed

namespace FileTree

variable (t : FileTree)

/-- Where a path leads to, if there are folders on its way. -/
def place? (path : String) : Option Location := (t.locate path).toOption

/-- The content of the file at a path. -/
def content? (path : String) : Option Octets := (t.read path).toOption

/-- Whether a file can be written at a path. -/
def Accepts (path : String) : Prop := ∀ content, ∃ after, t.write path content = .ok after

/-- Whether there can be a file at a location: there is one already, or there is nothing and the
    location is in a folder. -/
def HasRoom (location : Location) : Prop :=
  (∃ content, t.item? location = some (.file content)) ∨
    t.item? location = none ∧ t.item? location.dropLast = some .folder

/-- The content of the file at a location. -/
def file? (location : Location) : Option Octets :=
  match t.item? location with
  | some (.file content) => some content
  | _ => none

theorem content?_eq (path : String) : t.content? path = (t.place? path).bind t.file? := by
  unfold content? place? file? read find
  cases t.locate path with
  | error error => rfl
  | ok location =>
      dsimp only [bind, Except.bind, Except.toOption, Option.bind]
      cases t.item? location with
      | none => rfl
      | some item =>
          cases item with
          | file content => rfl
          | folder => rfl

variable {t} in
theorem read_eq_ok_iff {path : String} {content : Octets} :
    t.read path = .ok content ↔ t.content? path = some content := by
  unfold content?
  cases t.read path with
  | ok octets => simp [Except.toOption]
  | error error => simp [Except.toOption]

variable {t} in
theorem mem_of_content? {content : Octets} (found : t.content? path = some content) :
    ∃ location, (location, FileItem.file content) ∈ t.items.toList := by
  rw [content?_eq] at found
  obtain ⟨location, -, found⟩ := Option.bind_eq_some_iff.mp found
  refine ⟨location, Std.TreeMap.mem_toList_iff_getElem?_eq_some.mpr ?_⟩
  unfold file? at found
  split at found
  · next octets item =>
    obtain rfl := Option.some.inj found
    unfold item? at item
    split at item
    · cases item
    · exact item
  · contradiction

theorem write_eq (path : String) (content : Octets) {location : Location}
    (found : t.place? path = some location) (room : t.HasRoom location) :
    t.write path content = .ok (t.put location (.file content)) := by
  unfold place? at found
  unfold write
  cases located : t.locate path with
  | error error =>
      rw [located] at found
      contradiction
  | ok other =>
      rw [located] at found
      obtain rfl : other = location := Option.some.inj found
      dsimp only [bind, Except.bind]
      rcases room with ⟨old, here⟩ | ⟨nothing, folder⟩
      · rw [here]
      · rw [nothing, folder]

variable {t} in
/-- A file that is written is at a place with room for it. -/
theorem exists_put {path : String} {content : Octets} {after : FileTree}
    (written : t.write path content = .ok after) :
    ∃ location, t.place? path = some location ∧ t.HasRoom location ∧
      after = t.put location (.file content) := by
  unfold write at written
  unfold place?
  cases located : t.locate path with
  | error error =>
      rw [located] at written
      contradiction
  | ok location =>
      rw [located] at written
      dsimp only [bind, Except.bind] at written
      split at written
      · contradiction
      · next old here => exact ⟨location, rfl, Or.inl ⟨old, here⟩, (Except.ok.inj written).symm⟩
      · next nothing folder =>
        exact ⟨location, rfl, Or.inr ⟨nothing, folder⟩, (Except.ok.inj written).symm⟩
      · contradiction
      · contradiction

theorem accepts_iff (path : String) :
    t.Accepts path ↔ ∃ location, t.place? path = some location ∧ t.HasRoom location := by
  constructor
  · intro accepts
    obtain ⟨after, written⟩ := accepts []
    obtain ⟨location, found, room, -⟩ := exists_put written
    exact ⟨location, found, room⟩
  · rintro ⟨location, found, room⟩ content
    exact ⟨_, t.write_eq path content found room⟩

instance (path : String) : Decidable (t.Accepts path) :=
  decidable_of_iff ((t.write path []).toOption.isSome = true) <| by
    rw [accepts_iff]
    cases written : t.write path [] with
    | ok after =>
        obtain ⟨location, found, room, -⟩ := exists_put written
        exact iff_of_true rfl ⟨location, found, room⟩
    | error error =>
        refine iff_of_false (fun same => nomatch same) fun ⟨location, found, room⟩ => ?_
        cases written.symm.trans (t.write_eq path [] found room)

theorem follow_append (front rest : List String) (start : Location) :
    t.follow start (front ++ rest) = (t.follow start front).bind fun middle =>
      t.follow middle rest := by
  induction front generalizing start with
  | nil => rfl
  | cons part front ih =>
      rw [List.cons_append, follow, follow]
      split
      · rfl
      · rfl
      · split
        · exact ih start
        · split
          · exact ih start.dropLast
          · exact ih (start ++ [part])

theorem follow_idle {idle : List String} (allIdle : ∀ part ∈ idle, Path.isIdle part = true)
    {start location : Location} (followed : t.follow start idle = .ok location) :
    location = start := by
  induction idle with
  | nil => exact (Except.ok.inj followed).symm
  | cons part rest ih =>
      obtain ⟨here, later⟩ := List.forall_mem_cons.mp allIdle
      rw [follow] at followed
      split at followed
      · contradiction
      · contradiction
      · rw [if_pos here] at followed
        exact ih later followed

theorem getLast?_of_place? {path name : String} {location : Location}
    (found : t.place? path = some location) (named : Path.fileName? path = some name) :
    location.getLast? = some name := by
  obtain ⟨front, idle, split, allIdle, busy, down⟩ := Path.parts_of_fileName? named
  unfold place? locate at found
  split at found
  · contradiction
  · rw [split, follow_append] at found
    cases middle : t.follow (t.start path) front with
    | error error =>
        rw [middle] at found
        contradiction
    | ok folder =>
        rw [middle] at found
        dsimp only [Except.bind] at found
        cases followed : t.follow folder (name :: idle) with
        | error error =>
            rw [followed] at found
            contradiction
        | ok reached =>
            rw [followed] at found
            obtain rfl : reached = location := Option.some.inj found
            rw [follow] at followed
            split at followed
            · contradiction
            · contradiction
            · rw [if_neg (by simp [busy]), if_neg down] at followed
              rw [t.follow_idle allIdle followed, List.getLast?_append, List.getLast?_singleton,
                Option.some_or]

variable {t} {location : Location}

theorem item?_put (inside : location ≠ []) (item : FileItem) (other : Location) :
    (t.put location item).item? other =
      if location = other then some item else t.item? other := by
  have inserted := Std.TreeMap.getElem?_insert (t := t.items) (k := location) (a := other)
    (v := item)
  have read : (t.put location item).items.get? other =
      if location = other then some item else t.items.get? other := by
    simpa [put, Std.LawfulEqCmp.compare_eq_iff_eq] using inserted
  unfold item?
  by_cases root : other = []
  · rw [if_pos root, if_pos root, if_neg fun same => inside (same.trans root)]
  · rw [if_neg root, if_neg root, read]

theorem HasRoom.not_folder (room : t.HasRoom location) : t.item? location ≠ some .folder := by
  intro folder
  rcases room with ⟨content, here⟩ | ⟨nothing, -⟩
  · cases folder.symm.trans here
  · cases folder.symm.trans nothing

theorem HasRoom.ne_nil (room : t.HasRoom location) : location ≠ [] := by
  rintro rfl
  exact room.not_folder (if_pos rfl)

/-- Whether two trees have the same folders, and relative paths start in the same one. -/
structure SameFolders (t after : FileTree) : Prop where
  home : after.home = t.home
  folder : ∀ location, after.item? location = some .folder ↔ t.item? location = some .folder

theorem SameFolders.refl (t : FileTree) : t.SameFolders t := ⟨rfl, fun _ => Iff.rfl⟩

theorem SameFolders.trans {after last : FileTree} (first : t.SameFolders after)
    (second : after.SameFolders last) : t.SameFolders last :=
  ⟨second.home.trans first.home, fun location =>
    (second.folder location).trans (first.folder location)⟩

/-- Of what is on a path only the folders matter. Where there is none, the two trees may differ in
    what is there instead and so in the error. -/
theorem SameFolders.follow {after : FileTree} (same : t.SameFolders after) (parts : List String)
    (start : Location) :
    (after.follow start parts).toOption = (t.follow start parts).toOption := by
  induction parts generalizing start with
  | nil => rfl
  | cons part rest ih =>
      by_cases folder : t.item? start = some .folder
      · unfold FileTree.follow
        rw [folder, (same.folder start).mpr folder]
        dsimp only
        split
        · exact ih start
        · split
          · exact ih start.dropLast
          · exact ih (start ++ [part])
      · have lost (tree : FileTree) (other : tree.item? start ≠ some .folder) :
            (tree.follow start (part :: rest)).toOption = none := by
          unfold FileTree.follow
          split
          · rfl
          · rfl
          · next here => exact absurd here other
        rw [lost t folder, lost after fun here => folder ((same.folder start).mp here)]

theorem SameFolders.place? {after : FileTree} (same : t.SameFolders after) (path : String) :
    after.place? path = t.place? path := by
  unfold FileTree.place? locate start
  rw [same.home]
  split
  · rfl
  · exact same.follow _ _

theorem HasRoom.sameFolders (room : t.HasRoom location) (content : Octets) :
    t.SameFolders (t.put location (.file content)) := by
  refine ⟨rfl, fun other => ?_⟩
  rw [item?_put room.ne_nil]
  by_cases here : location = other
  · rw [if_pos here, ← here]
    exact iff_of_false (fun same => nomatch same) room.not_folder
  · rw [if_neg here]

theorem HasRoom.hasRoom_put (room : t.HasRoom location) (content : Octets) (other : Location) :
    (t.put location (.file content)).HasRoom other ↔ t.HasRoom other := by
  unfold HasRoom
  rw [(room.sameFolders content).folder, item?_put room.ne_nil]
  by_cases here : location = other
  · subst here
    rw [if_pos rfl]
    exact iff_of_true (Or.inl ⟨content, rfl⟩) room
  · rw [if_neg here]

theorem HasRoom.file?_put (room : t.HasRoom location) (content : Octets) (other : Location) :
    (t.put location (.file content)).file? other =
      if location = other then some content else t.file? other := by
  unfold file?
  rw [item?_put room.ne_nil]
  by_cases here : location = other
  · rw [if_pos here, if_pos here]
  · rw [if_neg here, if_neg here]

theorem content?_of_write {path : String} {content : Octets} {after : FileTree}
    (written : t.write path content = .ok after) (other : String) :
    after.content? other =
      if t.place? path = t.place? other then some content else t.content? other := by
  obtain ⟨location, found, room, rfl⟩ := exists_put written
  rw [content?_eq, content?_eq, (room.sameFolders content).place?, found]
  cases t.place? other with
  | none => rfl
  | some place =>
      rw [Option.bind_some, Option.bind_some, room.file?_put]
      simp only [Option.some.injEq]

end FileTree

end TransitFeed

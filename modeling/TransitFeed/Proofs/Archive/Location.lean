import TransitFeed.Archive.Basic

/-! # Where a table is in an archive

A table is the entry of its own name, or else the first entry of that name in a folder.
-/

namespace TransitFeed

/-- Whether an entry is a file of this name in a folder. -/
def Entry.IsNested (fileName : String) (entry : Entry) : Prop :=
  ∃ parent : String, entry.name = parent ++ "/" ++ fileName

namespace Archive

theorem folder?_nested (fileName parent : String) :
    folder? fileName (parent ++ "/" ++ fileName) = some (parent ++ "/") := by
  have name : (parent ++ "/" ++ fileName).toList = (parent ++ "/").toList ++ fileName.toList :=
    String.toList_append
  have suffix : '/' :: fileName.toList <:+ (parent ++ "/" ++ fileName).toList := by
    refine ⟨parent.toList, ?_⟩
    rw [name, String.toList_append, List.append_assoc]
    rfl
  unfold folder?
  dsimp only
  rw [if_pos (List.isSuffixOf_iff_suffix.mpr suffix), name, List.length_append,
    Nat.add_sub_cancel, List.take_left, String.ofList_toList]

theorem folder?_eq_none {fileName : String} {entry : Entry} (other : ¬ entry.IsNested fileName) :
    folder? fileName entry.name = none := by
  unfold folder?
  refine if_neg fun suffix => other ?_
  obtain ⟨parent, name⟩ := List.isSuffixOf_iff_suffix.mp suffix
  refine ⟨String.ofList parent, String.toList_inj.mp ?_⟩
  rw [← name, String.toList_append, String.toList_append, String.toList_ofList, List.append_assoc]
  rfl

variable {archive : Archive} {table : String} {entry : Entry}

/-- The only entry of the name of a table is the table, whatever comes before it. -/
theorem locate?_of_named (inside : entry ∈ archive) (named : entry.name = table ++ ".txt")
    (only : ∀ other ∈ archive, other.name = table ++ ".txt" → other = entry) :
    archive.locate? table = some (.top entry) := by
  have found : archive.entry? (table ++ ".txt") = some entry := by
    unfold entry?
    cases looked : List.find? (fun entry : Entry => decide (entry.name = table ++ ".txt"))
        archive with
    | none =>
        rw [List.find?_eq_none] at looked
        exact absurd (decide_eq_true named) (looked entry inside)
    | some other =>
        have same : other.name = table ++ ".txt" := by
          simpa only [decide_eq_true_iff] using List.find?_some looked
        rw [only other (List.mem_of_find?_eq_some looked) same]
  unfold locate?
  simp only [found]

theorem entry?_eq_none {name : String} (unnamed : ∀ entry ∈ archive, entry.name ≠ name) :
    archive.entry? name = none := by
  unfold entry?
  rw [List.find?_eq_none]
  exact fun entry inside named => unnamed entry inside (of_decide_eq_true named)

/-- Without an entry of its name, the table is the first one of that name in a folder. -/
theorem locate?_of_nested {before after : List Entry} {parent : String}
    (unnamed : ∀ other ∈ before ++ entry :: after, other.name ≠ table ++ ".txt")
    (first : ∀ other ∈ before, ¬ other.IsNested (table ++ ".txt"))
    (nested : entry.name = parent ++ "/" ++ (table ++ ".txt")) :
    locate? (before ++ entry :: after) table = some (.nested (parent ++ "/") entry) := by
  unfold locate?
  simp only [entry?_eq_none unnamed]
  rw [List.findSome?_eq_some_iff]
  refine ⟨before, entry, after, rfl, ?_, ?_⟩
  · rw [nested, folder?_nested, Option.map_some]
  · intro other early
    rw [folder?_eq_none (first other early), Option.map_none]

/-- Whether an archive has an entry for a table, at the top or in a folder. -/
def Holds (archive : Archive) (table : String) : Prop :=
  ∃ entry ∈ archive, entry.name = table ++ ".txt" ∨ entry.IsNested (table ++ ".txt")

theorem locate?_eq_none (lost : ¬ archive.Holds table) : archive.locate? table = none := by
  have unnamed : ∀ entry ∈ archive, entry.name ≠ table ++ ".txt" := fun entry inside named =>
    lost ⟨entry, inside, Or.inl named⟩
  unfold locate?
  simp only [entry?_eq_none unnamed]
  rw [List.findSome?_eq_none_iff]
  intro entry inside
  rw [folder?_eq_none fun nested => lost ⟨entry, inside, Or.inr nested⟩, Option.map_none]

theorem exists_locate? (holds : archive.Holds table) :
    ∃ location, archive.locate? table = some location := by
  obtain ⟨entry, inside, either⟩ := holds
  unfold locate?
  dsimp only
  cases looked : archive.entry? (table ++ ".txt") with
  | some named => exact ⟨_, rfl⟩
  | none =>
      rcases either with named | ⟨parent, nested⟩
      · unfold entry? at looked
        rw [List.find?_eq_none] at looked
        exact absurd (decide_eq_true named) (looked entry inside)
      · refine Option.isSome_iff_exists.mp (List.findSome?_isSome_iff.mpr ⟨entry, inside, ?_⟩)
        rw [nested, folder?_nested]
        rfl

end Archive

end TransitFeed

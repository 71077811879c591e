import Mathlib.Data.List.TakeWhile
import TransitFeed.File.Path
import TransitFeed.Proofs.Text.Split

/-! # Names of files

A path that is made of a folder and a name ends in that name, and a name without its extension gets
another one.
-/

namespace TransitFeed.Path

/-- Whether a text is the name of something in a folder: it has no slash, and it does not lead to the
    folder itself or to the one above. -/
structure IsName (name : String) : Prop where
  free : ∀ c ∈ name.toList, decide (c = '/') = false
  busy : isIdle name = false
  down : name ≠ ".."

variable {path name : String}

/-- The last part of a path that goes somewhere is its name. -/
theorem parts_of_fileName? (found : fileName? path = some name) :
    ∃ front idle, parts path = front ++ name :: idle ∧ (∀ part ∈ idle, isIdle part = true) ∧
      isIdle name = false ∧ name ≠ ".." := by
  unfold fileName? at found
  split at found
  · contradiction
  · next part rest dropped =>
    split at found
    · contradiction
    · next down =>
      obtain rfl := Option.some.inj found
      have whole := List.takeWhile_append_dropWhile (p := isIdle) (l := (parts path).reverse)
      have busy : isIdle part = false := by
        have first := List.head_dropWhile_not isIdle (l := (parts path).reverse)
          (by simp [dropped])
        simpa [dropped] using first
      rw [dropped] at whole
      refine ⟨rest.reverse, ((parts path).reverse.takeWhile isIdle).reverse, ?_, ?_, busy, down⟩
      · have turned := congrArg List.reverse whole
        rw [List.reverse_reverse, List.reverse_append, List.reverse_cons] at turned
        rw [List.append_assoc, List.singleton_append] at turned
        exact turned.symm
      · intro part member
        exact List.mem_takeWhile_imp (List.mem_reverse.mp member)

theorem fileName?_of_parts {front : List String} (split : parts path = front ++ [name])
    (busy : isIdle name = false) (down : name ≠ "..") : fileName? path = some name := by
  unfold fileName?
  rw [split, List.reverse_append, List.reverse_singleton, List.singleton_append,
    List.dropWhile_cons_of_neg (by simp [busy])]
  exact if_neg down

theorem isName_of_fileName? (found : fileName? path = some name) : IsName name := by
  obtain ⟨front, idle, split, -, busy, down⟩ := parts_of_fileName? found
  refine ⟨?_, busy, down⟩
  have member : name ∈ parts path := by
    rw [split]
    exact List.mem_append_right front List.mem_cons_self
  obtain ⟨part, listed, rfl⟩ := List.mem_map.mp member
  rw [String.toList_ofList]
  exact Text.free_of_mem_split listed

theorem parts_of_slash {before : List Char} (text : path.toList = before ++ '/' :: name.toList) :
    parts path = (Text.split (· = '/') before).map String.ofList ++ parts name := by
  unfold parts
  rw [text, Text.split_append_separator (by decide), List.map_append]

theorem IsName.parts (plain : IsName name) : parts name = [name] := by
  unfold Path.parts
  rw [Text.split_of_free plain.free, List.map_singleton, String.ofList_toList]

theorem IsName.fileName?_append (plain : IsName name) (folder : String) :
    fileName? (append folder name) = some name := by
  have ends : ∃ front, Path.parts (append folder name) = front ++ [name] := by
    by_cases here : folder = ""
    · refine ⟨[], ?_⟩
      rw [append, if_pos (Or.inl here), here, String.empty_append, plain.parts, List.nil_append]
    · have text : ∃ before, (append folder name).toList = before ++ '/' :: name.toList := by
        unfold append
        by_cases slash : folder.toList.getLast? = some '/'
        · obtain ⟨before, ended⟩ := List.getLast?_eq_some_iff.mp slash
          refine ⟨before, ?_⟩
          rw [if_pos (Or.inr slash), String.toList_append, ended, List.append_assoc,
            List.singleton_append]
        · refine ⟨folder.toList, ?_⟩
          rw [if_neg (not_or.mpr ⟨here, slash⟩), String.toList_append, String.toList_append,
            List.append_assoc]
          rfl
      obtain ⟨before, text⟩ := text
      exact ⟨_, by rw [parts_of_slash text, plain.parts]⟩
  obtain ⟨front, split⟩ := ends
  exact fileName?_of_parts split plain.busy plain.down

theorem stem_append {before extension : String} (present : before ≠ "")
    (free : ∀ c ∈ extension.toList, decide (c = '.') = false) :
    stem (before ++ "." ++ extension) = before := by
  have text : (before ++ "." ++ extension).toList = before.toList ++ '.' :: extension.toList := by
    rw [String.toList_append, String.toList_append, List.append_assoc]
    rfl
  have filled : before.toList.isEmpty = false := by
    simpa using present
  unfold stem
  rw [text, Text.splitLast?_append free (by decide)]
  simp [filled]

theorem stem_cases (name : String) :
    stem name = name ∨ stem name ≠ "" ∧ (stem name).toList ⊆ name.toList := by
  unfold stem
  cases found : Text.splitLast? (fun c => decide (c = '.')) name.toList with
  | none => exact Or.inl rfl
  | some cut =>
      obtain ⟨before, after⟩ := cut
      dsimp only
      cases before with
      | nil => exact Or.inl rfl
      | cons c before =>
          refine Or.inr ⟨by simp, ?_⟩
          simpa using Text.subset_of_splitLast? found

theorem IsName.stem_ne_empty (plain : IsName name) : stem name ≠ "" := by
  rcases stem_cases name with same | ⟨present, -⟩
  · rintro empty
    have busy := plain.busy
    rw [← same, empty] at busy
    contradiction
  · exact present

theorem IsName.report (plain : IsName name) :
    IsName (stem name ++ ".json") ∧ stem (stem name ++ ".json") = stem name := by
  have again : stem name ++ ".json" = stem name ++ "." ++ "json" := by
    rw [String.append_assoc]
    rfl
  have text : (stem name ++ ".json").toList = (stem name).toList ++ ".json".toList :=
    String.toList_append
  have long (short : String) (few : short.toList.length < 5) : stem name ++ ".json" ≠ short := by
    rintro rfl
    rw [text, List.length_append] at few
    have five : ".json".toList.length = 5 := rfl
    omega
  refine ⟨⟨?_, ?_, long ".." (by decide)⟩, ?_⟩
  · intro c member
    rw [text] at member
    rcases List.mem_append.mp member with inside | extension
    · rcases stem_cases name with same | ⟨-, part⟩
      · exact plain.free c (same ▸ inside)
      · exact plain.free c (part inside)
    · have others : ∀ c ∈ ".json".toList, decide (c = '/') = false := by simp
      exact others c extension
  · unfold isIdle
    simp [long "" (by decide), long "." (by decide)]
  · rw [again]
    exact stem_append plain.stem_ne_empty (by simp)

end TransitFeed.Path

import TransitFeed.Text.Split

/-! # Cutting a text at its separators

The parts of a text have no separators, and what stands on both sides of a separator is cut by
itself.
-/

namespace TransitFeed.Text

variable {isSeparator : Char → Bool}

theorem split_of_free {part : List Char} (free : ∀ c ∈ part, isSeparator c = false) :
    split isSeparator part = [part] := by
  induction part with
  | nil => rfl
  | cons c rest ih =>
      have first : isSeparator c = false := free c List.mem_cons_self
      rw [split, ih (fun c member => free c (List.mem_cons_of_mem _ member))]
      simp only [first, Bool.false_eq_true, if_false]

theorem split_append_separator {before after : List Char} {s : Char}
    (separates : isSeparator s = true) :
    split isSeparator (before ++ s :: after) =
      split isSeparator before ++ split isSeparator after := by
  induction before with
  | nil => simp only [List.nil_append, split, separates, if_true, List.singleton_append]
  | cons c before ih =>
      rw [List.cons_append, split, split, ih]
      by_cases here : isSeparator c = true
      · rw [if_pos here, if_pos here, List.cons_append]
      · rw [if_neg here, if_neg here]
        cases parts : split isSeparator before with
        | nil => exact absurd parts (split_ne_nil isSeparator before)
        | cons part parts => rfl

theorem split_append {part rest : List Char} {s : Char}
    (free : ∀ c ∈ part, isSeparator c = false) (separates : isSeparator s = true) :
    split isSeparator (part ++ s :: rest) = part :: split isSeparator rest := by
  rw [split_append_separator separates, split_of_free free, List.singleton_append]

theorem free_of_mem_split {text part : List Char} (member : part ∈ split isSeparator text) :
    ∀ c ∈ part, isSeparator c = false := by
  induction text generalizing part with
  | nil =>
      obtain rfl := List.mem_singleton.mp member
      exact List.forall_mem_nil _
  | cons c rest ih =>
      rw [split] at member
      by_cases here : isSeparator c = true
      · rw [if_pos here] at member
        rcases List.mem_cons.mp member with rfl | later
        · exact List.forall_mem_nil _
        · exact ih later
      · rw [if_neg here] at member
        cases parts : split isSeparator rest with
        | nil => exact absurd parts (split_ne_nil isSeparator rest)
        | cons first others =>
            rw [parts] at member ih
            rcases List.mem_cons.mp member with rfl | later
            · exact List.forall_mem_cons.mpr
                ⟨Bool.eq_false_iff.mpr here, ih List.mem_cons_self⟩
            · exact ih (List.mem_cons_of_mem _ later)

theorem join_split (s : Char) (text : List Char) : join [s] (split (· = s) text) = text := by
  induction text with
  | nil => rfl
  | cons c rest ih =>
      rw [split]
      by_cases here : c = s
      · rw [if_pos (decide_eq_true here)]
        cases parts : split (· = s) rest with
        | nil => exact absurd parts (split_ne_nil _ rest)
        | cons part others =>
            rw [parts] at ih
            change s :: join [s] (part :: others) = c :: rest
            rw [ih, here]
      · rw [if_neg (by simpa using here)]
        cases parts : split (· = s) rest with
        | nil => exact absurd parts (split_ne_nil _ rest)
        | cons part others =>
            rw [parts] at ih
            cases others with
            | nil => exact congrArg (c :: ·) ih
            | cons next others => exact congrArg (c :: ·) ih

theorem splitLast?_of_free {text : List Char} (free : ∀ c ∈ text, isSeparator c = false) :
    splitLast? isSeparator text = none := by
  induction text with
  | nil => rfl
  | cons c rest ih =>
      have first : isSeparator c = false := free c List.mem_cons_self
      rw [splitLast?, ih (fun c member => free c (List.mem_cons_of_mem _ member))]
      simp only [first, Bool.false_eq_true, if_false]

theorem splitLast?_append {before after : List Char} {s : Char}
    (free : ∀ c ∈ after, isSeparator c = false) (separates : isSeparator s = true) :
    splitLast? isSeparator (before ++ s :: after) = some (before, after) := by
  induction before with
  | nil =>
      rw [List.nil_append, splitLast?, splitLast?_of_free free]
      exact if_pos separates
  | cons c before ih => rw [List.cons_append, splitLast?, ih]

theorem subset_of_splitLast? {text before after : List Char}
    (found : splitLast? isSeparator text = some (before, after)) : before ⊆ text := by
  induction text generalizing before with
  | nil => contradiction
  | cons c rest ih =>
      rw [splitLast?] at found
      split at found
      · next before' after' later =>
        obtain ⟨rfl, rfl⟩ := Prod.mk.inj (Option.some.inj found)
        exact List.cons_subset_cons c (ih later)
      · split at found
        · obtain ⟨rfl, -⟩ := Prod.mk.inj (Option.some.inj found)
          exact List.nil_subset _
        · contradiction

end TransitFeed.Text

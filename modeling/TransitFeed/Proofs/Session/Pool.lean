import Mathlib.Data.List.Nodup
import Std.Data.TreeMap.Lemmas
import TransitFeed.Session.Pool

/-! # Instances of texts

A pool numbers its texts by their first appearance. Whoever asks for a text gets its instance,
sooner or later, and no two texts share one.
-/

namespace TransitFeed

namespace Pool

variable {p : Pool} {order : List String}

theorem share_of_known {text : String} {i : Nat} (known : p.get? text = some i) :
    p.share text = (i, p) := by
  unfold share
  rw [known]

theorem share_of_new {text : String} (new : p.get? text = none) :
    p.share text = (p.size, ⟨p.instances.insert text p.size⟩) := by
  unfold share
  rw [new]

theorem get?_intern (p : Pool) (text other : String) :
    (p.intern text).get? other =
      if text = other ∧ p.get? text = none then some p.size else p.get? other := by
  unfold intern
  cases known : p.get? text with
  | some i => rw [share_of_known known, if_neg fun both => Option.some_ne_none i both.2]
  | none =>
      have inserted := Std.TreeMap.getElem?_insert (t := p.instances) (k := text) (a := other)
        (v := p.size)
      simp only [Std.LawfulEqCmp.compare_eq_iff_eq] at inserted
      rw [share_of_new known]
      simp only [and_true]
      exact inserted

theorem size_intern (p : Pool) (text : String) :
    (p.intern text).size = if p.get? text = none then p.size + 1 else p.size := by
  unfold intern
  cases known : p.get? text with
  | some i => rw [share_of_known known, if_neg (Option.some_ne_none i)]
  | none =>
      have absent : ¬ p.instances.contains text = true := by
        rw [Std.TreeMap.contains_eq_isSome_getElem?, Bool.not_eq_true, Option.isSome_eq_false_iff,
          Option.isNone_iff_eq_none]
        exact known
      have grown := Std.TreeMap.size_insert (t := p.instances) (k := text) (v := p.size)
      rw [if_neg absent] at grown
      rw [share_of_new known, if_pos rfl]
      exact grown

theorem contains_eq (p : Pool) (text : String) : p.contains text = (p.get? text).isSome :=
  Std.TreeMap.contains_eq_isSome_getElem?

theorem contains_intern (p : Pool) (text other : String) :
    (p.intern text).contains other = (other == text || p.contains other) := by
  rw [contains_eq, contains_eq, get?_intern, Bool.eq_iff_iff, Bool.or_eq_true, beq_iff_eq]
  by_cases same : text = other
  · subst same
    cases known : p.get? text with
    | none => simp
    | some i => simp
  · simp [same, Ne.symm same]

theorem get?_intern_self (p : Pool) (text : String) :
    (p.intern text).get? text = some (p.share text).1 := by
  rw [get?_intern]
  cases known : p.get? text with
  | some i => rw [share_of_known known, if_neg fun both => Option.some_ne_none i both.2]
  | none => rw [share_of_new known, if_pos ⟨rfl, rfl⟩]

theorem get?_intern_of_known {text : String} {i : Nat} (known : p.get? text = some i)
    (other : String) : (p.intern other).get? text = some i := by
  rw [get?_intern, if_neg, known]
  rintro ⟨rfl, new⟩
  rw [new] at known
  contradiction

theorem get?_foldl_intern {text : String} {i : Nat} (known : p.get? text = some i)
    (texts : List String) : (texts.foldl Pool.intern p).get? text = some i := by
  induction texts generalizing p with
  | nil => exact known
  | cons first rest ih => exact ih (get?_intern_of_known known first)

/-- All requests for a text are answered with the instance that it is in the end. -/
theorem shareAll_eq (p : Pool) (texts : List String) :
    (p.shareAll texts).2 = texts.foldl Pool.intern p ∧
      (p.shareAll texts).1.map some = texts.map (texts.foldl Pool.intern p).get? := by
  induction texts generalizing p with
  | nil => exact ⟨rfl, rfl⟩
  | cons first rest ih =>
      obtain ⟨pool, answers⟩ := ih (p.intern first)
      have here := get?_foldl_intern (p.get?_intern_self first) rest
      refine ⟨pool, ?_⟩
      rw [List.map_cons, List.foldl_cons, here, ← answers]
      rfl

/-- The texts of a pool in the order of their instances. -/
structure Lists (p : Pool) (order : List String) : Prop where
  size : p.size = order.length
  get? : ∀ text i, p.get? text = some i ↔ order[i]? = some text

namespace Lists

theorem empty : ({} : Pool).Lists [] :=
  ⟨rfl, fun _ _ => iff_of_false (by simp [Pool.get?]) (by simp)⟩

theorem nodup (lists : p.Lists order) : order.Nodup := by
  refine List.nodup_iff_getElem?_ne_getElem?.mpr fun i j less inside same => ?_
  have at_i : order[i]? = some order[i] := List.getElem?_eq_getElem (Nat.lt_trans less inside)
  have first := (lists.get? _ _).mpr at_i
  have second := (lists.get? _ _).mpr (same ▸ at_i)
  rw [first] at second
  exact Nat.ne_of_lt less (Option.some.inj second)

theorem get?_eq_none (lists : p.Lists order) {text : String} :
    p.get? text = none ↔ text ∉ order := by
  rw [List.mem_iff_getElem?, Option.eq_none_iff_forall_ne_some]
  simp only [ne_eq, lists.get?, not_exists]

theorem exists_get? (lists : p.Lists order) {text : String} (listed : text ∈ order) :
    ∃ i, p.get? text = some i := by
  obtain ⟨i, at_i⟩ := List.mem_iff_getElem?.mp listed
  exact ⟨i, (lists.get? _ _).mpr at_i⟩

theorem get?_inj (lists : p.Lists order) {a b : String} {i : Nat} (first : p.get? a = some i)
    (second : p.get? b = some i) : a = b := by
  rw [lists.get?] at first second
  exact Option.some.inj (first.symm.trans second)

/-- A text that a pool has is not given for another one, whether the pool has that or not. -/
theorem share_eq_iff (lists : p.Lists order) {text : String} (listed : text ∈ order)
    (other : String) : (p.share other).1 = (p.share text).1 ↔ other = text := by
  obtain ⟨i, known⟩ := lists.exists_get? listed
  refine ⟨fun same => ?_, fun same => same ▸ rfl⟩
  rw [share_of_known known] at same
  cases known' : p.get? other with
  | some j =>
      rw [share_of_known known'] at same
      obtain rfl : j = i := same
      exact lists.get?_inj known' known
  | none =>
      rw [share_of_new known'] at same
      have inside := (List.getElem?_eq_some_iff.mp ((lists.get? _ _).mp known)).1
      obtain rfl : p.size = i := same
      rw [lists.size] at inside
      exact absurd inside (Nat.lt_irrefl _)

theorem intern (lists : p.Lists order) (text : String) :
    (p.intern text).Lists (if text ∈ order then order else order ++ [text]) := by
  by_cases listed : text ∈ order
  · obtain ⟨i, known⟩ := lists.exists_get? listed
    rw [if_pos listed]
    refine ⟨?_, fun other j => ?_⟩
    · rw [size_intern, known, if_neg (Option.some_ne_none i), lists.size]
    · rw [get?_intern, known, if_neg fun both => Option.some_ne_none i both.2, lists.get?]
  · have new : p.get? text = none := lists.get?_eq_none.mpr listed
    rw [if_neg listed]
    refine ⟨?_, fun other j => ?_⟩
    · rw [size_intern, if_pos new, lists.size, List.length_append, List.length_singleton]
    · rw [get?_intern, List.getElem?_append, lists.size]
      by_cases same : text = other
      · subst same
        rw [if_pos ⟨rfl, new⟩]
        split
        · next inside =>
          refine iff_of_false ?_ fun at_j => listed (List.mem_of_getElem? at_j)
          rw [Option.some.injEq]
          omega
        · next outside =>
          rw [Option.some.injEq, List.getElem?_singleton]
          split <;> simp <;> omega
      · rw [if_neg fun both => same both.1, lists.get?]
        split
        · rfl
        · next outside =>
          rw [List.getElem?_eq_none (by omega), List.getElem?_singleton]
          split <;> simp [same]

theorem foldl_intern (lists : p.Lists order) (texts : List String) :
    ∃ more, (texts.foldl Pool.intern p).Lists (order ++ more) ∧
      ∀ text, text ∈ order ++ more ↔ text ∈ order ∨ text ∈ texts := by
  induction texts generalizing p order with
  | nil => exact ⟨[], by simpa using lists, by simp⟩
  | cons first rest ih =>
      obtain ⟨more, after, members⟩ := ih (lists.intern first)
      by_cases listed : first ∈ order
      · rw [if_pos listed] at after members
        refine ⟨more, after, fun text => ?_⟩
        rw [members, List.mem_cons]
        constructor
        · rintro (inside | inside)
          · exact Or.inl inside
          · exact Or.inr (Or.inr inside)
        · rintro (inside | rfl | inside)
          · exact Or.inl inside
          · exact Or.inl listed
          · exact Or.inr inside
      · rw [if_neg listed, List.append_assoc] at after members
        refine ⟨[first] ++ more, after, fun text => ?_⟩
        rw [members, List.mem_append, List.mem_singleton, List.mem_cons, or_assoc]

end Lists

end Pool

end TransitFeed

import Mathlib.Data.List.Perm.Basic
import TransitFeed.Proofs.Session.Pool
import TransitFeed.Proofs.Session.Run

/-! # Sessions that agree

Tables that are loaded at the same time tell their session the same things in another order. The
session then knows the same texts and references, and it has the same diagnostics but for the table
and the row to which a dangling reference is put down.
-/

namespace TransitFeed

namespace Effect

theorem meets_of_perm {a b : List Effect} (perm : a.Perm b) (p : Sighting) (missing : Bool) :
    Meets a p missing ↔ Meets b p missing := by
  unfold Meets
  simp only [perm.mem_iff]

end Effect

namespace Session

theorem contains_pool_intern (s : Session) (text other : String) :
    (s.intern text).pool.contains other = true ↔ other = text ∨ s.pool.contains other = true := by
  have interned : (s.intern text).pool = s.pool.intern text := rfl
  rw [interned, Pool.contains_intern, Bool.or_eq_true, beq_iff_eq]

/-- The texts of a session are those that it had before and those of the effects. -/
theorem contains_pool_run (s : Session) (effects : List Effect) (text : String) :
    (s.run effects).pool.contains text = true ↔
      s.pool.contains text = true ∨ Effect.intern text ∈ effects := by
  induction effects generalizing s with
  | nil => simp
  | cons e rest ih =>
      rw [run_cons, ih, List.mem_cons]
      by_cases interned : ∃ other, e = .intern other
      · obtain ⟨other, rfl⟩ := interned
        have here : (s.apply (.intern other)).pool.contains text = true ↔
            text = other ∨ s.pool.contains text = true := s.contains_pool_intern other text
        rw [here, Effect.intern.injEq, or_left_comm, or_assoc]
      · have other : ∀ text, e ≠ .intern text := fun text same => interned ⟨text, same⟩
        rw [pool_apply_of_ne s other]
        have ne : Effect.intern text ≠ e := fun same => other text same.symm
        simp only [ne, false_or]

/-- The diagnostics that say no reference to be dangling. -/
def others (s : Session) : List Diagnostic :=
  s.diagnostics.toList.filter fun d => d.dangling?.isNone

theorem others_apply (s : Session) {e : Effect} (plain : e.Plain) :
    (s.apply e).others = s.others ++ e.report?.toList := by
  cases e with
  | report d =>
      simp [apply, report, others, Effect.report?, plain.dangling?]
  | pass row =>
      rw [apply_pass]
      exact (List.append_nil _).symm
  | refer table row column key target =>
      change (s.checkReference table row column key target).others = s.others ++ []
      rw [List.append_nil]
      unfold checkReference
      dsimp only
      split
      · simp [others, reportAt, report, sight, Diagnostic.dangling?]
      · rfl
  | log | tell | intern => exact (List.append_nil _).symm

theorem others_run (s : Session) {effects : List Effect} (plain : ∀ e ∈ effects, e.Plain) :
    (s.run effects).others = s.others ++ effects.filterMap Effect.report? := by
  induction effects generalizing s with
  | nil => simp
  | cons e rest ih =>
      rw [run_cons, ih _ fun e member => plain e (List.mem_cons_of_mem _ member),
        others_apply s (plain e List.mem_cons_self), List.append_assoc]
      cases reported : e.report? with
      | none => rw [List.filterMap_cons_none reported, Option.toList_none, List.nil_append]
      | some d => rw [List.filterMap_cons_some reported, Option.toList_some, List.singleton_append]

theorem kinds_perm (s : Session) :
    (s.diagnostics.toList.map Diagnostic.kind).Perm
      (s.others.map Diagnostic.kind ++
        s.dangling.map fun p => Diagnostic.Kind.referentialIntegrity p.key) := by
  unfold others dangling
  induction s.diagnostics.toList with
  | nil => exact .nil
  | cons d rest ih =>
      cases found : d.dangling? with
      | none =>
          rw [List.filterMap_cons_none found, List.filter_cons_of_pos (by simp [found])]
          exact ih.cons _
      | some p =>
          have kind : d.kind = .referentialIntegrity p.key := by
            unfold Diagnostic.dangling? at found
            split at found
            · next key kind =>
                rw [kind, ← Option.some.inj found]
            · contradiction
          rw [List.filterMap_cons_some found, List.filter_cons_of_neg (by simp [found]),
            List.map_cons, List.map_cons, kind]
          exact (ih.cons _).trans List.perm_middle.symm

/-- Two sessions know the same texts and references and have the same diagnostics, but the dangling
    references may be put down to other rows. -/
structure Agree (a b : Session) : Prop where
  /-- The same texts are interned. -/
  texts : ∀ text, a.pool.contains text = b.pool.contains text
  /-- The same keys were seen in the same columns. -/
  sightings : ∀ p, p ∈ a.sightings ↔ p ∈ b.sightings
  /-- There are as many diagnostics of each kind. -/
  kinds : (a.diagnostics.toList.map Diagnostic.kind).Perm (b.diagnostics.toList.map Diagnostic.kind)
  /-- Each table has the same other diagnostics in the same order. -/
  others : ∀ table, a.others.filter (·.table = table) = b.others.filter (·.table = table)
  /-- The same references are dangling, each as often. -/
  dangling : a.dangling.Perm b.dangling

namespace Agree

variable {a b c : Session}

theorem refl (s : Session) : s.Agree s := ⟨fun _ => rfl, fun _ => Iff.rfl, .rfl, fun _ => rfl, .rfl⟩

theorem symm (agree : a.Agree b) : b.Agree a where
  texts text := (agree.texts text).symm
  sightings p := (agree.sightings p).symm
  kinds := agree.kinds.symm
  others table := (agree.others table).symm
  dangling := agree.dangling.symm

theorem trans (first : a.Agree b) (second : b.Agree c) : a.Agree c where
  texts text := (first.texts text).trans (second.texts text)
  sightings p := (first.sightings p).trans (second.sightings p)
  kinds := first.kinds.trans second.kinds
  others table := (first.others table).trans (second.others table)
  dangling := first.dangling.trans second.dangling

theorem of_parts (texts : ∀ text, a.pool.contains text = b.pool.contains text)
    (sightings : ∀ p, p ∈ a.sightings ↔ p ∈ b.sightings)
    (others : ∀ table, a.others.filter (·.table = table) = b.others.filter (·.table = table))
    (dangling : a.dangling.Perm b.dangling) : a.Agree b where
  texts := texts
  sightings := sightings
  others := others
  dangling := dangling
  kinds := by
    classical
    have perm : a.others.Perm b.others := by
      rw [List.perm_iff_count]
      intro d
      -- A diagnostic is counted among those of its own table.
      have own (l : List Diagnostic) : l.count d = (l.filter (·.table = d.table)).count d :=
        (List.count_filter (by simp)).symm
      rw [own a.others, others, ← own]
    calc a.diagnostics.toList.map Diagnostic.kind
      _ |>.Perm _ := kinds_perm a
      _ |>.Perm _ := (perm.map _).append (dangling.map _)
      _ |>.Perm _ := (kinds_perm b).symm

/-- Sessions that agree do so after the same effects in another order, if each table reports its own
    diagnostics in the same order. -/
theorem run (alike : a.Agree b) {effects effects' : List Effect} (perm : effects.Perm effects')
    (plain : ∀ e ∈ effects, e.Plain) (agree : Effect.Agree effects)
    (order : ∀ table, (effects.filterMap Effect.report?).filter (·.table = table) =
      (effects'.filterMap Effect.report?).filter (·.table = table)) :
    (a.run effects).Agree (b.run effects') := by
  have plain' : ∀ e ∈ effects', e.Plain := fun e member => plain e (perm.mem_iff.mpr member)
  have meets := Effect.meets_of_perm perm
  have agree' : Effect.Agree effects' := fun p missing missing' met met' =>
    agree p missing missing' ((meets p missing).mpr met) ((meets p missing').mpr met')
  obtain ⟨new, reported, distinct, members⟩ := a.dangling_run plain agree
  obtain ⟨new', reported', distinct', members'⟩ := b.dangling_run plain' agree'
  refine of_parts (fun text => ?_) (fun p => ?_) (fun table => ?_) ?_
  · rw [Bool.eq_iff_iff, contains_pool_run, contains_pool_run, perm.mem_iff, alike.texts]
  · rw [mem_sightings_run, mem_sightings_run, alike.sightings]
    simp only [meets]
  · rw [others_run a plain, others_run b plain', List.filter_append, List.filter_append, order,
      alike.others]
  · have same : new.Perm new' := by
      rw [List.perm_ext_iff_of_nodup distinct distinct']
      intro p
      rw [members, members', meets, alike.sightings]
    rw [reported, reported']
    exact alike.dangling.append same

end Agree

end Session

end TransitFeed

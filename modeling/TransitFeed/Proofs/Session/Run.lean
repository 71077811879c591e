import Std.Data.TreeMap.Lemmas
import Std.Data.TreeSet.Lemmas
import TransitFeed.Proofs.Load.Effects

/-! # What effects leave in a session

The texts and the references that a session has after effects are those that it had before and
those of the effects. A reference to a missing record is reported once, if it was not seen before.
-/

namespace TransitFeed

namespace Diagnostic

/-- The reference that a diagnostic says to be dangling. -/
def dangling? (d : Diagnostic) : Option Sighting :=
  match d.kind with
  | .referentialIntegrity key => some ⟨d.column.getD "", key⟩
  | _ => none

end Diagnostic

namespace Effect

def report? : Effect → Option Diagnostic
  | .report d => some d
  | _ => none

/-- The reference that is met, and whether its target lacks the key. -/
def reference? : Effect → Option (Sighting × Bool)
  | .refer _ _ column key target => some (⟨column, key⟩, !target.contains (.name key))
  | _ => none

/-- Whether the effect itself reports no dangling reference. -/
def Plain : Effect → Prop
  | .report d => ∀ key, d.kind ≠ .referentialIntegrity key
  | _ => True

/-- Whether effects meet a reference, and whether its target lacks the key. -/
def Meets (effects : List Effect) (p : Sighting) (missing : Bool) : Prop :=
  ∃ e ∈ effects, e.reference? = some (p, missing)

theorem Plain.dangling? {d : Diagnostic} (plain : (Effect.report d).Plain) : d.dangling? = none := by
  unfold Diagnostic.dangling?
  split
  · next kind => exact absurd kind (plain _)
  · rfl

variable {p : Sighting} {missing : Bool}

@[simp] theorem meets_nil : ¬ Meets [] p missing := by
  rintro ⟨e, member, -⟩
  contradiction

@[simp] theorem meets_cons (e : Effect) (rest : List Effect) :
    Meets (e :: rest) p missing ↔ e.reference? = some (p, missing) ∨ Meets rest p missing := by
  simp [Meets]

@[simp] theorem meets_append (a b : List Effect) :
    Meets (a ++ b) p missing ↔ Meets a p missing ∨ Meets b p missing := by
  simp [Meets, or_and_right, exists_or]

/-- Whether effects that meet the same reference agree on whether it is dangling. -/
def Agree (effects : List Effect) : Prop :=
  ∀ p missing missing', Meets effects p missing → Meets effects p missing' → missing = missing'

end Effect

namespace Session

/-- The references that were reported to be dangling, in the order of their diagnostics. -/
def dangling (s : Session) : List Sighting := s.diagnostics.toList.filterMap Diagnostic.dangling?

theorem apply_pass (s : Session) (row : Nat) :
    s.apply (.pass row) = { s with log := (s.passRow row).log } := by
  change s.passRow row = _
  unfold passRow
  split
  · rfl
  · rfl

theorem mem_sight (s : Session) (column key : String) (p : Sighting) :
    p ∈ (s.sight column key).sightings ↔ p = ⟨column, key⟩ ∨ p ∈ s.sightings := by
  rw [sight, Std.TreeSet.mem_insert, Std.LawfulEqCmp.compare_eq_iff_eq]
  exact or_congr_left eq_comm

theorem sightings_checkReference (s : Session) (table : String) (row : Nat) (column key : String)
    (target : Table) :
    (s.checkReference table row column key target).sightings = (s.sight column key).sightings := by
  unfold checkReference
  dsimp only
  split
  · rfl
  · rfl

theorem dangling_checkReference (s : Session) (table : String) (row : Nat) (column key : String)
    (target : Table) :
    (s.checkReference table row column key target).dangling =
      s.dangling ++ if ⟨column, key⟩ ∉ s.sightings ∧ target.contains (.name key) = false then
        [⟨column, key⟩] else [] := by
  have seen : s.hasSeen column key = true ↔ ⟨column, key⟩ ∈ s.sightings :=
    Std.TreeSet.contains_iff_mem
  unfold checkReference
  by_cases new : ⟨column, key⟩ ∈ s.sightings
  · have old : s.hasSeen column key = true := seen.mpr new
    simp only [old, new, Bool.not_true, Bool.false_and, Bool.false_eq_true, if_false, not_true,
      false_and, List.append_nil]
    rfl
  · have unseen : s.hasSeen column key = false := by
      rw [Bool.eq_false_iff]
      exact fun h => new (seen.mp h)
    cases held : target.contains (.name key) with
    | true =>
        simp only [unseen, Bool.not_false, Bool.not_true, Bool.and_false,
          Bool.false_eq_true, if_false, reduceCtorEq, and_false, List.append_nil]
        rfl
    | false =>
        simp only [unseen, new, Bool.not_false, Bool.and_self, if_true, not_false_eq_true,
          and_self]
        simp [dangling, reportAt, report, sight, Diagnostic.dangling?]

theorem sightings_apply_of_none (s : Session) {e : Effect} (other : e.reference? = none) :
    (s.apply e).sightings = s.sightings := by
  cases e with
  | pass row => rw [apply_pass]
  | refer table row column key target => contradiction
  | log | tell | intern | report => rfl

theorem dangling_apply_of_none (s : Session) {e : Effect} (plain : e.Plain)
    (other : e.reference? = none) : (s.apply e).dangling = s.dangling := by
  cases e with
  | pass row =>
      rw [apply_pass]
      rfl
  | refer table row column key target => contradiction
  | report d =>
      simp [apply, report, dangling, plain.dangling?]
  | log | tell | intern => rfl

theorem mem_sightings_run (s : Session) (effects : List Effect) (p : Sighting) :
    p ∈ (s.run effects).sightings ↔
      p ∈ s.sightings ∨ ∃ missing, Effect.Meets effects p missing := by
  induction effects generalizing s with
  | nil => simp
  | cons e rest ih =>
      rw [run_cons, ih]
      cases reference : e.reference? with
      | none =>
          rw [sightings_apply_of_none s reference]
          simp [reference]
      | some found =>
          cases e with
          | refer table row column key target =>
              have here : (s.apply (.refer table row column key target)).sightings =
                  (s.sight column key).sightings := sightings_checkReference s table row column key target
              rw [here, mem_sight]
              simp only [Effect.meets_cons, exists_or, Effect.reference?, Option.some.injEq,
                Prod.mk.injEq, exists_and_left, exists_eq', and_true]
              rw [eq_comm, or_assoc, or_left_comm]
          | log | tell | pass | intern | report => contradiction

theorem dangling_run_refer (s : Session) {table : String} {row : Nat} {column key : String}
    {target : Table} {rest : List Effect}
    (agree : Effect.Agree (.refer table row column key target :: rest)) {new : List Sighting}
    (distinct : new.Nodup)
    (members : ∀ p, p ∈ new ↔ p ∉ (s.apply (.refer table row column key target)).sightings ∧
      Effect.Meets rest p true) :
    ∃ all : List Sighting,
      (s.apply (.refer table row column key target)).dangling ++ new = s.dangling ++ all ∧
        all.Nodup ∧ ∀ p, p ∈ all ↔ p ∉ s.sightings ∧
          Effect.Meets (.refer table row column key target :: rest) p true := by
  have first : (s.apply (.refer table row column key target)).dangling =
      s.dangling ++ if ⟨column, key⟩ ∉ s.sightings ∧ target.contains (.name key) = false then
        [⟨column, key⟩] else [] := dangling_checkReference s table row column key target
  have seen (p : Sighting) : p ∈ (s.apply (.refer table row column key target)).sightings ↔
      p = ⟨column, key⟩ ∨ p ∈ s.sightings := by
    change p ∈ (s.checkReference table row column key target).sightings ↔ _
    rw [sightings_checkReference, mem_sight]
  by_cases reports : ⟨column, key⟩ ∉ s.sightings ∧ target.contains (.name key) = false
  · refine ⟨⟨column, key⟩ :: new, ?_, ?_, ?_⟩
    · rw [first, if_pos reports, List.append_assoc]
      rfl
    · refine List.nodup_cons.mpr ⟨?_, distinct⟩
      intro inside
      exact ((members _).mp inside).1 ((seen _).mpr (Or.inl rfl))
    · intro p
      rw [List.mem_cons, members, seen, Effect.meets_cons]
      constructor
      · rintro (rfl | ⟨unseen, later⟩)
        · exact ⟨reports.1, Or.inl (by simp [Effect.reference?, reports.2])⟩
        · exact ⟨fun old => unseen (Or.inr old), Or.inr later⟩
      · rintro ⟨unseen, here | later⟩
        · simp only [Effect.reference?, Option.some.injEq, Prod.mk.injEq] at here
          exact Or.inl here.1.symm
        · by_cases same : p = ⟨column, key⟩
          · exact Or.inl same
          · exact Or.inr ⟨fun either => either.elim same unseen, later⟩
  · refine ⟨new, ?_, distinct, ?_⟩
    · rw [first, if_neg reports, List.append_nil]
    · intro p
      rw [members, seen]
      constructor
      · rintro ⟨unseen, later⟩
        exact ⟨fun old => unseen (Or.inr old), (Effect.meets_cons _ _).mpr (Or.inr later)⟩
      · rintro ⟨unseen, met⟩
        -- If a later effect finds this reference dangling, this effect finds it so too.
        have other : p ≠ ⟨column, key⟩ := by
          rintro rfl
          have missing : (!target.contains (.name key)) = true :=
            agree _ _ _ ((Effect.meets_cons _ _).mpr (Or.inl rfl)) met
          exact reports ⟨unseen, by simpa using missing⟩
        refine ⟨fun either => either.elim other unseen, ?_⟩
        rcases (Effect.meets_cons _ _).mp met with here | later
        · simp only [Effect.reference?, Option.some.injEq, Prod.mk.injEq] at here
          exact absurd here.1.symm other
        · exact later

/-- Each dangling reference that was not seen before is reported once. -/
theorem dangling_run (s : Session) {effects : List Effect} (plain : ∀ e ∈ effects, e.Plain)
    (agree : Effect.Agree effects) :
    ∃ new : List Sighting, (s.run effects).dangling = s.dangling ++ new ∧ new.Nodup ∧
      ∀ p, p ∈ new ↔ p ∉ s.sightings ∧ Effect.Meets effects p true := by
  -- For every session, since the effects before decide which references are new.
  induction effects generalizing s with
  | nil => exact ⟨[], by simp⟩
  | cons e rest ih =>
      have restPlain : ∀ e ∈ rest, e.Plain := fun e member => plain e (List.mem_cons_of_mem _ member)
      have restAgree : Effect.Agree rest := fun p missing missing' met met' =>
        agree p missing missing' ((Effect.meets_cons _ _).mpr (Or.inr met))
          ((Effect.meets_cons _ _).mpr (Or.inr met'))
      obtain ⟨new, later, distinct, members⟩ := ih (s.apply e) restPlain restAgree
      rw [run_cons, later]
      cases reference : e.reference? with
      | none =>
          rw [dangling_apply_of_none s (plain e List.mem_cons_self) reference]
          refine ⟨new, rfl, distinct, fun p => ?_⟩
          rw [members, sightings_apply_of_none s reference]
          simp [reference]
      | some found =>
          cases e with
          | refer table row column key target =>
              exact dangling_run_refer s agree distinct members
          | log | tell | pass | intern | report => contradiction

end Session

end TransitFeed

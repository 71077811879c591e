import TransitFeed.Proofs.Load.References

/-! # The diagnostics of effects

A session gets its diagnostics in the order of the effects. A problem is always recorded; a key that
is looked up for a reference is recorded if it is dangling and was not met before in its column.
-/

namespace TransitFeed

/-- A key that a row has in a column of references, and the table in which it is looked up. -/
structure Lookup where
  table : String
  row : Nat
  column : String
  key : String
  target : Table

namespace Lookup

def sighting (l : Lookup) : Sighting := ⟨l.column, l.key⟩

def isDangling (l : Lookup) : Bool := !l.target.contains (.name l.key)

def diagnostic (l : Lookup) : Diagnostic :=
  ⟨l.table, l.row, some l.column, .referentialIntegrity l.key⟩

end Lookup

def Effect.lookup? : Effect → Option Lookup
  | .refer table row column key target => some ⟨table, row, column, key, target⟩
  | _ => none

namespace Session

/-- What an effect adds to the diagnostics. -/
def news (s : Session) (e : Effect) : List Diagnostic :=
  e.report?.toList ++ match e.lookup? with
    | some l => if l.sighting ∉ s.sightings ∧ l.isDangling then [l.diagnostic] else []
    | none => []

def reports (s : Session) : List Effect → List Diagnostic
  | [] => []
  | e :: rest => s.news e ++ (s.apply e).reports rest

theorem diagnostics_apply (s : Session) (e : Effect) :
    (s.apply e).diagnostics.toList = s.diagnostics.toList ++ s.news e := by
  cases e with
  | log | tell | intern => exact (List.append_nil _).symm
  | pass row =>
      rw [apply_pass]
      exact (List.append_nil _).symm
  | report d => exact Array.toList_push
  | refer table row column key target =>
      have seen : s.hasSeen column key = true ↔ ⟨column, key⟩ ∈ s.sightings :=
        Std.TreeSet.contains_iff_mem
      have news : s.news (.refer table row column key target) =
          if ⟨column, key⟩ ∉ s.sightings ∧ (!target.contains (.name key)) = true then
            [⟨table, row, some column, .referentialIntegrity key⟩] else [] := rfl
      change (s.checkReference table row column key target).diagnostics.toList = _
      rw [news]
      unfold checkReference
      by_cases reports :
          ⟨column, key⟩ ∉ s.sightings ∧ (!target.contains (.name key)) = true
      · have fresh : (!s.hasSeen column key) = true := by
          simpa [← seen] using reports.1
        simp only [reports, fresh, Bool.and_self, if_true]
        exact Array.toList_push
      · have quiet : ¬ (!s.hasSeen column key && !target.contains (.name key)) = true := by
          intro both
          rw [Bool.and_eq_true] at both
          exact reports ⟨by simpa [← seen] using both.1, both.2⟩
        simp only [reports, quiet, if_false, List.append_nil]
        rfl

theorem diagnostics_run (s : Session) (effects : List Effect) :
    (s.run effects).diagnostics.toList = s.diagnostics.toList ++ s.reports effects := by
  induction effects generalizing s with
  | nil => exact (List.append_nil _).symm
  | cons e rest ih => rw [run_cons, ih, diagnostics_apply, List.append_assoc, reports]

theorem reports_append (s : Session) (a b : List Effect) :
    s.reports (a ++ b) = s.reports a ++ (s.run a).reports b := by
  induction a generalizing s with
  | nil => rfl
  | cons e rest ih =>
      rw [List.cons_append, reports, ih, reports, List.append_assoc]
      rfl

theorem mem_reports {s : Session} {effects : List Effect} {d : Diagnostic}
    (member : d ∈ s.reports effects) :
    .report d ∈ effects ∨ ∃ e ∈ effects, ∃ l, e.lookup? = some l ∧ d = l.diagnostic := by
  induction effects generalizing s with
  | nil => contradiction
  | cons e rest ih =>
      rcases List.mem_append.mp member with here | later
      · cases e with
        | report found =>
            rw [List.mem_singleton.mp here]
            exact Or.inl List.mem_cons_self
        | refer table row column key target =>
            have new : d ∈ if (Lookup.mk table row column key target).sighting ∉ s.sightings ∧
                (Lookup.mk table row column key target).isDangling = true then
                  [(Lookup.mk table row column key target).diagnostic] else [] := here
            split at new
            · exact Or.inr ⟨_, List.mem_cons_self, _, rfl, List.mem_singleton.mp new⟩
            · contradiction
        | log | tell | pass | intern => contradiction
      · rcases ih later with reported | ⟨e, inside, found⟩
        · exact Or.inl (List.mem_cons_of_mem _ reported)
        · exact Or.inr ⟨e, List.mem_cons_of_mem _ inside, found⟩

theorem mem_reports_of_report (s : Session) {effects : List Effect} {d : Diagnostic}
    (told : .report d ∈ effects) : d ∈ s.reports effects := by
  induction effects generalizing s with
  | nil => contradiction
  | cons e rest ih =>
      rcases List.mem_cons.mp told with rfl | later
      · exact List.mem_append_left _ List.mem_cons_self
      · exact List.mem_append_right _ (ih _ later)

theorem table_of_mem_reports {s : Session} {effects : List Effect} {tables : List String}
    (owned : ∀ e ∈ effects, ∃ table ∈ tables, e.Owned table) {d : Diagnostic}
    (member : d ∈ s.reports effects) : d.table ∈ tables := by
  rcases mem_reports member with reported | ⟨e, inside, l, found, rfl⟩
  · obtain ⟨table, listed, own⟩ := owned _ reported
    rw [own.table_of_report rfl]
    exact listed
  · obtain ⟨table, listed, own⟩ := owned e inside
    cases e with
    | refer of row column key target =>
        cases found
        have same : of = table := own
        rw [← same] at listed
        exact listed
    | log | tell | pass | intern | report => contradiction

end Session

end TransitFeed

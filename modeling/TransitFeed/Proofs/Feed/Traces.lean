import TransitFeed.Proofs.Feed.Effects
import TransitFeed.Proofs.Load.References

/-! # Traces

What a session is told by tables that are loaded at the same time. Two traces in which each table
tells the same things in the same order differ in how the tables take turns, and in nothing else.
-/

namespace TransitFeed

/-- What a session is told, with the table that tells it. -/
abbrev Trace := List (FeedTable × Effect)

namespace Trace

/-- What one table tells. -/
def own (which : FeedTable) (trace : Trace) : Trace := trace.filter fun x => x.1 = which

def tag (which : FeedTable) (effects : List Effect) : Trace := effects.map (Prod.mk which)

def effects (trace : Trace) : List Effect := trace.map (·.2)

variable (which other : FeedTable) (a b : Trace)

theorem own_append : own which (a ++ b) = own which a ++ own which b :=
  List.filter_append a b

theorem own_tag_self (effects : List Effect) : own which (tag which effects) = tag which effects := by
  unfold own tag
  rw [List.filter_eq_self]
  intro x member
  obtain ⟨e, -, rfl⟩ := List.mem_map.mp member
  exact decide_eq_true rfl

theorem own_eq_nil (absent : ∀ x ∈ a, x.1 ≠ which) : own which a = [] := by
  unfold own
  rw [List.filter_eq_nil_iff]
  intro x member
  simpa using absent x member

theorem own_tag_of_ne (ne : other ≠ which) (effects : List Effect) :
    own which (tag other effects) = [] := by
  apply own_eq_nil
  intro x member
  obtain ⟨e, -, rfl⟩ := List.mem_map.mp member
  exact ne

theorem effects_append : effects (a ++ b) = effects a ++ effects b := List.map_append

theorem effects_tag (effects : List Effect) : Trace.effects (tag which effects) = effects := by
  unfold Trace.effects tag
  rw [List.map_map]
  exact List.map_id _

/-- What each of some tables tells, one table after the other. -/
def sequential (told : FeedTable → List Effect) (tables : List FeedTable) : Trace :=
  tables.flatMap fun which => tag which (told which)

theorem effects_sequential_cons (told : FeedTable → List Effect) (first : FeedTable)
    (rest : List FeedTable) :
    (sequential told (first :: rest)).effects = told first ++ (sequential told rest).effects := by
  change effects (tag _ _ ++ _) = _
  rw [effects_append, effects_tag]
  rfl

theorem own_sequential_of_not_mem (told : FeedTable → List Effect) {tables : List FeedTable}
    (absent : which ∉ tables) : own which (sequential told tables) = [] := by
  apply own_eq_nil
  intro x member
  obtain ⟨other, listed, member⟩ := List.mem_flatMap.mp member
  obtain ⟨e, -, rfl⟩ := List.mem_map.mp member
  rintro rfl
  exact absent listed

theorem own_sequential (told : FeedTable → List Effect) {tables : List FeedTable}
    (distinct : tables.Nodup) {which : FeedTable} (listed : which ∈ tables) :
    own which (sequential told tables) = tag which (told which) := by
  induction tables with
  | nil => contradiction
  | cons other rest ih =>
      obtain ⟨absent, distinct⟩ := List.nodup_cons.mp distinct
      change own which (tag other (told other) ++ sequential told rest) = _
      rw [own_append]
      by_cases same : other = which
      · subst same
        rw [own_tag_self, own_sequential_of_not_mem _ told absent, List.append_nil]
      · have later : which ∈ rest := (List.mem_cons.mp listed).resolve_left (Ne.symm same)
        rw [own_tag_of_ne _ _ same, List.nil_append, ih distinct later]

theorem perm_of_own {a b : Trace} (same : ∀ which, own which a = own which b) : a.Perm b := by
  classical
  rw [List.perm_iff_count]
  intro x
  -- A pair is counted in what its own table tells.
  have owned (trace : Trace) : trace.count x = (own x.1 trace).count x :=
    (List.count_filter (by simp)).symm
  rw [owned a, owned b, same]

theorem reports_own {trace : Trace} (owned : ∀ x ∈ trace, x.2.Owned x.1.name) (which : FeedTable) :
    ((effects trace).filterMap Effect.report?).filter (·.table = which.name) =
      (effects (own which trace)).filterMap Effect.report? := by
  induction trace with
  | nil => rfl
  | cons x rest ih =>
      obtain ⟨of, e⟩ := x
      have later := ih fun x member => owned x (List.mem_cons_of_mem _ member)
      have first : e.Owned of.name := owned _ List.mem_cons_self
      change ((e :: effects rest).filterMap Effect.report?).filter _ = _
      by_cases same : of = which
      · subst same
        have kept : own of ((of, e) :: rest) = (of, e) :: own of rest :=
          List.filter_cons_of_pos (by simp)
        rw [kept]
        change _ = (e :: effects (own of rest)).filterMap Effect.report?
        cases reported : e.report? with
        | none =>
            rw [List.filterMap_cons_none reported, List.filterMap_cons_none reported, later]
        | some d =>
            have table : d.table = of.name := first.table_of_report reported
            rw [List.filterMap_cons_some reported, List.filterMap_cons_some reported,
              List.filter_cons_of_pos (by simpa using table), later]
      · have dropped : own which ((of, e) :: rest) = own which rest :=
          List.filter_cons_of_neg (by simpa using same)
        rw [dropped]
        cases reported : e.report? with
        | none => rw [List.filterMap_cons_none reported, later]
        | some d =>
            have table : d.table = of.name := first.table_of_report reported
            have other : d.table ≠ which.name := by
              rw [table]
              exact fun name => same (FeedTable.name_injective name)
            rw [List.filterMap_cons_some reported, List.filter_cons_of_neg (by simpa using other),
              later]

/-- Each table reports its own diagnostics in the same order in both traces. -/
theorem reports_eq_of_own {a b : Trace} (owned : ∀ x ∈ a, x.2.Owned x.1.name)
    (owned' : ∀ x ∈ b, x.2.Owned x.1.name) (same : ∀ which, own which a = own which b)
    (table : String) :
    ((effects a).filterMap Effect.report?).filter (·.table = table) =
      ((effects b).filterMap Effect.report?).filter (·.table = table) := by
  -- A table that is not one of the feed reports nothing.
  by_cases known : ∃ which : FeedTable, which.name = table
  · obtain ⟨which, rfl⟩ := known
    rw [reports_own owned, reports_own owned', same]
  · have none_here {trace : Trace} (owned : ∀ x ∈ trace, x.2.Owned x.1.name) :
        ((effects trace).filterMap Effect.report?).filter (·.table = table) = [] := by
      rw [List.filter_eq_nil_iff]
      intro d member
      obtain ⟨e, told, reported⟩ := List.mem_filterMap.mp member
      obtain ⟨⟨of, e⟩, listed, rfl⟩ := List.mem_map.mp told
      have table' : d.table = of.name := (owned _ listed).table_of_report reported
      simpa using fun name => known ⟨of, table'.symm.trans name⟩
    rw [none_here owned, none_here owned']

end Trace

end TransitFeed

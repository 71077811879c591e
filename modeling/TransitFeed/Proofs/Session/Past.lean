import TransitFeed.Proofs.Session.FirstLookups

/-! # What a session does not say again

The past of a session decides which references are reported, and nothing else. Effects add to the
diagnostics of a session what they add to those of a session with less of a past, except for the
references that the one has met and the other has not.
-/

namespace TransitFeed

namespace Session

/-- Whether a diagnostic is about something else than a reference that was met before. -/
def isNews (s : Session) (d : Diagnostic) : Bool := d.dangling?.all fun p => p ∉ s.sightings

theorem isNews_of_other (s : Session) {d : Diagnostic} (other : d.dangling? = none) :
    s.isNews d = true := by
  unfold isNews
  rw [other]
  rfl

theorem isNews_of_dangling (s : Session) {d : Diagnostic} {p : Sighting}
    (about : d.dangling? = some p) : s.isNews d = true ↔ p ∉ s.sightings := by
  unfold isNews
  rw [about, Option.all_some, decide_eq_true_eq]

variable {s t : Session} {e : Effect} {effects : List Effect} {d : Diagnostic} {p : Sighting}

theorem news_refer (s : Session) (table : String) (row : Nat) (column key : String)
    (target : Table) :
    s.news (.refer table row column key target) =
      if ⟨column, key⟩ ∉ s.sightings ∧ (!target.contains (.name key)) = true then
        [⟨table, row, some column, .referentialIntegrity key⟩] else [] := rfl

theorem met_of_mem_news (plain : e.Plain) (told : d ∈ s.news e) (about : d.dangling? = some p) :
    p ∉ s.sightings ∧ p ∈ (s.apply e).sightings := by
  cases e with
  | report found =>
      obtain rfl : d = found := List.mem_singleton.mp told
      rw [plain.dangling?] at about
      contradiction
  | refer table row column key target =>
      rw [news_refer] at told
      split at told
      · next unseen =>
        rw [List.mem_singleton.mp told] at about
        obtain rfl : ⟨column, key⟩ = p := Option.some.inj about
        exact ⟨unseen.1, (sightings_apply _ _ _).mpr (Or.inl ⟨_, rfl, rfl⟩)⟩
      · contradiction
  | log | tell | pass | intern => contradiction

theorem met_of_mem_reports (plain : ∀ e ∈ effects, e.Plain) (told : d ∈ s.reports effects)
    (about : d.dangling? = some p) : p ∉ s.sightings ∧ p ∈ (s.run effects).sightings := by
  induction effects generalizing s with
  | nil => contradiction
  | cons e rest ih =>
      obtain ⟨first, plain⟩ := List.forall_mem_cons.mp plain
      rcases List.mem_append.mp told with here | later
      · obtain ⟨unseen, met⟩ := met_of_mem_news first here about
        exact ⟨unseen, (mem_sightings_run (s.apply e) rest p).mpr (Or.inl met)⟩
      · obtain ⟨unseen, met⟩ := ih plain later
        exact ⟨fun seen => unseen ((sightings_apply _ _ _).mpr (Or.inr seen)), met⟩

variable (within : ∀ p, p ∈ t.sightings → p ∈ s.sightings)
include within

theorem news_eq_filter (plain : e.Plain) : s.news e = (t.news e).filter s.isNews := by
  cases e with
  | report d =>
      have told : s.isNews d = true := isNews_of_other s plain.dangling?
      have news (u : Session) : u.news (.report d) = [d] := rfl
      rw [news, news, List.filter_cons_of_pos told, List.filter_nil]
  | refer table row column key target =>
      have told : s.isNews ⟨table, row, some column, .referentialIntegrity key⟩ = true ↔
          ⟨column, key⟩ ∉ s.sightings := isNews_of_dangling s rfl
      rw [news_refer, news_refer]
      by_cases seen : ⟨column, key⟩ ∈ s.sightings
      · rw [if_neg fun both => both.1 seen]
        split
        · rw [List.filter_cons_of_neg fun news => told.mp news seen]
          rfl
        · rfl
      · have unseen : ⟨column, key⟩ ∉ t.sightings := fun inside => seen (within _ inside)
        simp only [seen, unseen, not_false_eq_true, true_and]
        split
        · rw [List.filter_cons_of_pos (told.mpr seen)]
          rfl
        · rfl
  | log | tell | pass | intern => rfl

theorem within_apply (e : Effect) (p : Sighting) (inside : p ∈ (t.apply e).sightings) :
    p ∈ (s.apply e).sightings := by
  rw [sightings_apply] at inside ⊢
  exact inside.imp_right (within p)

/-- A session reports what one with less of a past reports, references that it has met apart. -/
theorem reports_eq_filter (plain : ∀ e ∈ effects, e.Plain) :
    s.reports effects = (t.reports effects).filter s.isNews := by
  induction effects generalizing s t with
  | nil => rfl
  | cons e rest ih =>
      obtain ⟨first, plain⟩ := List.forall_mem_cons.mp plain
      rw [reports, reports, List.filter_append, news_eq_filter within first,
        ih (within_apply within e) plain]
      congr 1
      -- What the rest reports is no reference of `e`, so `e` does not change what is news of it.
      refine List.filter_congr fun d told => ?_
      cases about : d.dangling? with
      | none => rw [isNews_of_other _ about, isNews_of_other _ about]
      | some p =>
          have later : p ∉ (t.apply e).sightings := (met_of_mem_reports plain told about).1
          have other : ¬ ∃ l, e.lookup? = some l ∧ l.sighting = p := fun here =>
            later ((sightings_apply t e p).mpr (Or.inl here))
          rw [Bool.eq_iff_iff, isNews_of_dangling _ about, isNews_of_dangling _ about,
            sightings_apply, or_iff_right other]

omit within in
/-- Effects that are run once more report all but the dangling references. -/
theorem reports_again {later : Session} (plain : ∀ e ∈ effects, e.Plain)
    (behind : ∀ p, p ∈ (s.run effects).sightings → p ∈ later.sightings) :
    later.reports effects = (s.reports effects).filter (·.dangling?.isNone) := by
  have within : ∀ p, p ∈ s.sightings → p ∈ later.sightings := fun p inside =>
    behind p ((mem_sightings_run s effects p).mpr (Or.inl inside))
  rw [reports_eq_filter within plain]
  refine List.filter_congr fun d told => ?_
  cases about : d.dangling? with
  | none => exact isNews_of_other _ about
  | some p =>
      have met : p ∈ later.sightings := behind p (met_of_mem_reports plain told about).2
      rw [Bool.eq_iff_iff, isNews_of_dangling _ about]
      simpa using met

end Session

end TransitFeed

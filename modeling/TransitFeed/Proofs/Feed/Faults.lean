import TransitFeed.Proofs.Feed.Interleaving
import TransitFeed.Proofs.Session.Reports
import TransitFeed.Proofs.Table.Values

/-! # Loads that end in a fault

A load goes through the stages up to the first one in which a table meets a fault. The tables of
these stages are as each of them is when it is loaded alone, also behind the fault; the tables of
later stages are as they were, and nothing is reported of them.
-/

namespace TransitFeed

namespace Notes

end Notes

namespace FeedTable

variable (which : FeedTable) (f : Feed) (archive : Archive) (t : Table)

/-- What a table and its fault are after a load, whatever the tables are that it refers to. -/
def alone (archive : Except Fault Archive) (t : Table) : Table × Option Fault :=
  match archive with
  | .error fault => (t, some fault)
  | .ok archive => (which.form.loadTable archive t, which.form.loadFault archive t)

end FeedTable

namespace Feed

end Feed

namespace LoadedFeed

/-- Whether some tables were loaded and became what they should, and all others are as before. -/
structure Loads (own : FeedTable → Table × Option Fault) (l r : LoadedFeed)
    (tables : List FeedTable) : Prop where
  loaded : ∀ which ∈ tables, r.feed.get which = (own which).1
  kept : ∀ which, which ∉ tables → r.feed.get which = l.feed.get which
  told : ∃ effects, r.session = l.session.run effects ∧
    ∀ e ∈ effects, ∃ which ∈ tables, e.Owned which.name

variable {archive : Except Fault Archive} {own : FeedTable → Table × Option Fault}
  {l r q : LoadedFeed} {tables others : List FeedTable}

theorem Loads.nothing : Loads own l l [] := by
  refine ⟨fun which member => ?_, fun which _ => rfl, [], rfl, fun e member => ?_⟩
  · contradiction
  · contradiction

theorem Loads.trans (first : Loads own l r tables) (second : Loads own r q others) :
    Loads own l q (tables ++ others) := by
  refine ⟨?_, ?_, ?_⟩
  · intro which member
    by_cases late : which ∈ others
    · exact second.loaded which late
    · have early : which ∈ tables := (List.mem_append.mp member).resolve_right late
      rw [second.kept which late, first.loaded which early]
  · intro which absent
    rw [List.mem_append, not_or] at absent
    rw [second.kept which absent.2, first.kept which absent.1]
  · obtain ⟨a, ran, owned⟩ := first.told
    obtain ⟨b, ran', owned'⟩ := second.told
    refine ⟨a ++ b, by rw [ran', ran, Session.run_append], ?_⟩
    intro e member
    rcases List.mem_append.mp member with early | late
    · obtain ⟨which, listed, own⟩ := owned e early
      exact ⟨which, List.mem_append_left _ listed, own⟩
    · obtain ⟨which, listed, own⟩ := owned' e late
      exact ⟨which, List.mem_append_right _ listed, own⟩

/-- What is told by some tables leaves no diagnostic of other ones. -/
theorem Loads.reports (loads : Loads own l r tables) :
    ∃ new, r.session.diagnostics.toList = l.session.diagnostics.toList ++ new ∧
      ∀ d ∈ new, ∀ which, which ∉ tables → d.table ≠ which.name := by
  obtain ⟨effects, ran, owned⟩ := loads.told
  refine ⟨l.session.reports effects, ?_, ?_⟩
  · rw [ran, Session.diagnostics_run]
  · intro d member which absent name
    have known : d.table ∈ tables.map FeedTable.name := by
      refine Session.table_of_mem_reports ?_ member
      intro e told
      obtain ⟨which, listed, own⟩ := owned e told
      exact ⟨which.name, List.mem_map.mpr ⟨which, listed, rfl⟩, own⟩
    obtain ⟨other, listed, named⟩ := List.mem_map.mp known
    obtain rfl : other = which := FeedTable.name_injective (named.trans name)
    exact absent listed

end LoadedFeed

namespace Feed

end Feed

end TransitFeed

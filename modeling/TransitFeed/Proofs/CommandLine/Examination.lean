import TransitFeed.CommandLine.Examination
import TransitFeed.Proofs.Diagnostic.Report
import TransitFeed.Proofs.Feed.Turns
import TransitFeed.Proofs.Feed.Written

/-! # Examinations and turns

What is found out about a feed does not depend on the turns that its tables take, but for the order
in which its diagnostics are found and for the rows that dangling references are put down to.
-/

namespace TransitFeed

theorem Diagnostic.tally_equiv {a b : List Diagnostic} (kinds : (a.map kind).Perm (b.map kind)) :
    (tally a).Equiv (tally b) := by
  have counted (l : List Diagnostic) (name : String) :
      (l.countP fun d => d.kind.name = name) = (l.map kind).countP fun k => k.name = name := by
    rw [List.countP_map]
    rfl
  refine Std.TreeMap.Equiv.of_forall_constGet?_eq fun name => Option.ext fun n => ?_
  rw [(tallies_tally a).each, (tallies_tally b).each, counted a, counted b, kinds.countP_eq]

/-- Whether two reports tell the same about a feed. A table has the same diagnostics in the same
    order, but those of dangling references may stand elsewhere and name other rows. -/
structure Report.Alike (a b : Report) : Prop where
  feed : a.feed = b.feed
  tables : a.tables = b.tables
  counts : a.counts.toList = b.counts.toList
  lacksTables : a.lacksTables = b.lacksTables
  others : ∀ table,
    a.diagnostics.filter (fun d => d.table = table && d.dangling?.isNone) =
      b.diagnostics.filter (fun d => d.table = table && d.dangling?.isNone)
  dangling : (a.diagnostics.filterMap Diagnostic.dangling?).Perm
    (b.diagnostics.filterMap Diagnostic.dangling?)

theorem Session.Agree.report {s u : Session} (agree : s.Agree u) (feed : String)
    (tables : Counts) :
    (Report.mk feed tables s.diagnostics.toList).Alike ⟨feed, tables, u.diagnostics.toList⟩ where
  feed := rfl
  tables := rfl
  counts := (Diagnostic.tally_equiv agree.kinds).toList_eq
  lacksTables := by
    have any (l : List Diagnostic) : (l.any fun d => d.kind = .missingTable) =
        (l.map Diagnostic.kind).any (· = .missingTable) := by
      rw [List.any_map]
      rfl
    unfold Report.lacksTables
    rw [any, any, agree.kinds.any_eq]
  others table := by
    have same := agree.others table
    unfold Session.others at same
    rwa [List.filter_filter, List.filter_filter] at same
  dangling := agree.dangling

namespace CommandLine

/-- Whether the same was found out about a feed, and the same would be written of it anew. -/
structure Examination.Alike (a b : Examination) : Prop where
  feed : a.feed = b.feed
  fault : a.fault = b.fault
  report : a.report.Alike b.report
  package : a.copy.package = b.copy.package

variable (settings : Settings) (showsProgress : Bool) (path : String)

theorem sound_examine (content : Except FileError Octets) (schedule : List FeedTable) :
    (examine settings showsProgress path content schedule).feed.Sound := by
  unfold examine
  dsimp only
  rw [(Feed.alike_loadInTurns _ _ _ _).feed]
  exact Feed.sound_empty.load _ _

/-- Turns make no difference to what is found out, but for the order of the diagnostics. -/
theorem alike_examine (content : Except FileError Octets) (schedule schedule' : List FeedTable) :
    (examine settings showsProgress path content schedule).Alike
      (examine settings showsProgress path content schedule') := by
  have alike (archive : Except Fault Archive) (session : Session) :
      (({} : Feed).loadInTurns archive session schedule).Alike
        (({} : Feed).loadInTurns archive session schedule') :=
    (Feed.alike_loadInTurns _ _ _ _).trans (Feed.alike_loadInTurns _ _ _ _).symm
  refine ⟨(alike _ _).feed, (alike _ _).fault, ?_, ?_⟩
  · unfold examine
    dsimp only
    rw [(alike _ _).feed]
    exact (alike _ _).session.report _ _
  · unfold Examination.copy
    rw [(Feed.write_of_sound (sound_examine settings showsProgress path content schedule) _).2,
      (Feed.write_of_sound (sound_examine settings showsProgress path content schedule') _).2]
    unfold examine
    dsimp only
    rw [(alike _ _).feed, (alike _ _).settings]

theorem examine_of_sequential (sequential : settings.parallel = false)
    (content : Except FileError Octets) (schedule : List FeedTable) :
    examine settings showsProgress path content schedule =
      examine settings showsProgress path content := by
  unfold examine
  dsimp only
  rw [Feed.loadInTurns_of_sequential _ _ _ sequential,
    Feed.loadInTurns_of_sequential _ _ _ sequential]

/-- Of a feed that cannot be opened nothing is loaded. -/
theorem examine_of_error (error : FileError) (schedule : List FeedTable) :
    let session : Session := { settings, progress := if showsProgress then some #[] else none }
    ∃ fault, examine settings showsProgress path (.error error) schedule =
      { feed := {}
        session := session.logs .info ("loading feed " ++ path)
        fault := some fault
        report := ⟨path, ({} : Feed).sizes, []⟩ } := by
  unfold examine
  cases error with
  | isADirectory | notFound | alreadyExists | notADirectory | other =>
      dsimp only [openArchive]
      rw [Feed.loadInTurns_error]
      exact ⟨_, rfl⟩

end CommandLine

end TransitFeed

import TransitFeed.Feed.Load
import TransitFeed.Load.Effects

/-! # Loading tables at the same time

The tables of a stage share one session and nothing else. If they are loaded at the same time they
tell it one thing after the other, and who is next is not known beforehand.
-/

namespace TransitFeed

/-- Tells the session as much of an effect as is told at once, and what is still owed. A reference
    is noted before it is reported to be dangling, and others may come in between. -/
def Session.access (s : Session) : Effect → Session × List Effect
  | .refer table row column key target =>
    (s.sight column key,
      if !s.hasSeen column key && !target.contains (.name key) then
        [.report ⟨table, row, some column, .referentialIntegrity key⟩]
      else [])
  | e => (s.apply e, [])

/-- Tables that are loaded at the same time: what each of them has still to tell, and their
    session. -/
structure Turns where
  left : FeedTable → List Effect
  session : Session

namespace Turns

/-- It is the turn of a table. -/
def step (t : Turns) (which : FeedTable) : Turns :=
  match t.left which with
  | [] => t
  | e :: rest =>
    let (session, owed) := t.session.access e
    { left := fun other => if other = which then owed ++ rest else t.left other, session }

/-- A table tells all that is left. -/
def finish (t : Turns) (which : FeedTable) : Turns where
  left other := if other = which then [] else t.left other
  session := t.session.run (t.left which)

/-- The tables take turns for a while. Then they come to their ends, one after the other. -/
def run (t : Turns) (tables schedule : List FeedTable) : Turns :=
  tables.foldl finish (schedule.foldl step t)

end Turns

namespace LoadedFeed

/-- The tables of a stage before the first turn. -/
def turns (archive : Archive) (l : LoadedFeed) (tables : List FeedTable) : Turns where
  left which :=
    if which ∈ tables then (l.feed.schema which).loadEffects archive (l.feed.get which) else []
  session := l.session

/-- Loads the tables of a stage at the same time, unless an earlier stage met a fault. -/
def stageInTurns (archive : Except Fault Archive) (schedule : List FeedTable) (l : LoadedFeed)
    (tables : List FeedTable) : LoadedFeed :=
  if l.fault.isSome then l
  else
    match archive with
    | .error _ => tables.foldl (table archive) l
    | .ok archive =>
      let load (feed : Feed) (which : FeedTable) : Feed :=
        feed.set which ((l.feed.schema which).loadTable archive (l.feed.get which))
      { feed := tables.foldl load l.feed
        session := ((l.turns archive tables).run tables schedule).session
        fault := tables.findSome? fun which =>
          (l.feed.schema which).loadFault archive (l.feed.get which) }

end LoadedFeed

/-- Loads all tables of a feed as the settings say: one after the other, or those of a stage at the
    same time. Then the tables take turns as in the schedule. -/
def Feed.loadInTurns (feed : Feed) (archive : Except Fault Archive) (session : Session)
    (schedule : List FeedTable) : LoadedFeed :=
  if session.settings.parallel then
    (FeedTable.stages.foldl (LoadedFeed.stageInTurns archive schedule) { feed, session }).complete
  else feed.load archive session

end TransitFeed

import TransitFeed.CommandLine.Examination
import TransitFeed.CommandLine.Notice
import TransitFeed.File.Tree

/-! # Trials

A trial is a run on a tree in memory. It shows what a run does without doing it, and it remembers
what was written.
-/

namespace TransitFeed.CommandLine

/-- A file with the path that it was written to. -/
structure WrittenFile where
  path : String
  content : Octets
  deriving Repr, DecidableEq

/-- The files at some moment of a trial, and what was told and written before. -/
structure Trial where
  files : FileTree
  notices : List Notice := []
  /-- The files that were written, in their order. A later one may have taken the place of an
      earlier one. -/
  written : List WrittenFile := []
  /-- How the tables of the next feeds take turns. Behind the last schedule none takes one early. -/
  schedules : List (List FeedTable) := []

namespace Trial

instance : FileSystem (StateM Trial) where
  kind? path := fun t => (t.files.kind? path, t)
  names path := fun t => (t.files.names path, t)
  read path := fun t => (t.files.read path, t)
  createFolders path := fun t =>
    match t.files.createFolders path with
    | .ok files => (.ok (), { t with files })
    | .error error => (.error error, t)
  write path content := fun t =>
    match t.files.write path content with
    | .ok files => (.ok (), { t with files, written := t.written ++ [⟨path, content⟩] })
    | .error error => (.error error, t)

instance : Noticeboard (StateM Trial) where
  tell notice := fun t => ((), { t with notices := t.notices ++ [notice] })

instance : Scheduler (StateM Trial) where
  schedule := fun t => (t.schedules.headD [], { t with schedules := t.schedules.tail })

end Trial

end TransitFeed.CommandLine

import Std.Data.TreeMap.Basic
import TransitFeed.File.Basic
import TransitFeed.File.Path

/-! # Trees of files

Files and folders in memory, with one folder in which relative paths start.
-/

namespace TransitFeed

/-- The names of the folders from the root, and of what is in the last of them. -/
abbrev Location := List String

/-- What is at a location. -/
inductive FileItem where
  | file (content : Octets)
  | folder
  deriving Repr, DecidableEq

namespace FileItem

def kind : FileItem → FileKind
  | .file _ => .file
  | .folder => .folder

end FileItem

/-- Files and folders. The root, at the empty location, is a folder in any case. -/
structure FileTree where
  items : Std.TreeMap Location FileItem := ∅
  /-- Where relative paths start. -/
  home : Location := []

namespace FileTree

def item? (t : FileTree) (location : Location) : Option FileItem :=
  if location = [] then some .folder else t.items.get? location

/-- The tree with another item at a location. -/
def put (t : FileTree) (location : Location) (item : FileItem) : FileTree :=
  { t with items := t.items.insert location item }

/-- The location that is reached through folders that exist. -/
def follow (t : FileTree) : Location → List String → Except FileError Location
  | location, [] => .ok location
  | location, part :: rest =>
    match t.item? location with
    | none => .error .notFound
    | some (.file _) => .error .notADirectory
    | some .folder =>
      if Path.isIdle part then t.follow location rest
      else if part = ".." then t.follow location.dropLast rest
      else t.follow (location ++ [part]) rest

def start (t : FileTree) (path : String) : Location := if Path.isAbsolute path then [] else t.home

def locate (t : FileTree) (path : String) : Except FileError Location :=
  if path = "" then .error .notFound else t.follow (t.start path) (Path.parts path)

def find (t : FileTree) (path : String) : Except FileError FileItem := do
  match t.item? (← t.locate path) with
  | some item => .ok item
  | none => .error .notFound

/-- The kind of what is at a path. -/
def kind? (t : FileTree) (path : String) : Option FileKind :=
  (t.find path).toOption.map FileItem.kind

def names (t : FileTree) (path : String) : List String :=
  match t.locate path with
  | .error _ => []
  | .ok location => t.items.keys.filterMap fun l =>
      if l.dropLast = location then l.getLast? else none

def read (t : FileTree) (path : String) : Except FileError Octets := do
  match ← t.find path with
  | .file content => .ok content
  | .folder => .error .isADirectory

/-- The tree with a file that has a content. -/
def write (t : FileTree) (path : String) (content : Octets) : Except FileError FileTree := do
  let location ← t.locate path
  match t.item? location, t.item? location.dropLast with
  | some .folder, _ => .error .isADirectory
  | some (.file _), _ | none, some .folder => .ok (t.put location (.file content))
  | none, some (.file _) => .error .notADirectory
  | none, none => .error .notFound

/-- The tree with the folders that the parts name, one in another. -/
def createFrom (t : FileTree) : Location → List String → Except FileError FileTree
  | _, [] => .ok t
  | location, part :: rest =>
    if Path.isIdle part then t.createFrom location rest
    else if part = ".." then t.createFrom location.dropLast rest
    else
      let next := location ++ [part]
      match t.item? next with
      | some .folder => t.createFrom next rest
      | some (.file _) => .error (if rest.all Path.isIdle then .alreadyExists else .notADirectory)
      | none => (t.put next .folder).createFrom next rest

/-- The tree with the folders of a path. -/
def createFolders (t : FileTree) (path : String) : Except FileError FileTree :=
  t.createFrom (t.start path) (Path.parts path)

end FileTree

end TransitFeed

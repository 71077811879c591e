import TransitFeed.Text.Utf8

/-! # Files

What can be done with files. A program that keeps to these operations can run on real files as well
as on a tree in memory.
-/

namespace TransitFeed

/-- What an operation on files meets. -/
inductive FileError where
  | notFound
  | alreadyExists
  | notADirectory
  | isADirectory
  /-- Any other error, with its text. -/
  | other (text : String)
  deriving Repr, DecidableEq

namespace FileError

def message : FileError → String
  | .notFound => "No such file or directory (os error 2)"
  | .alreadyExists => "File exists (os error 17)"
  | .notADirectory => "Not a directory (os error 20)"
  | .isADirectory => "Is a directory (os error 21)"
  | .other text => text

end FileError

/-- What a path can lead to. -/
inductive FileKind where
  | file
  | folder
  deriving Repr, DecidableEq

/-- The operations on files. Their arguments are paths. -/
class FileSystem (m : Type → Type) where
  /-- What is at a path, if anything is. -/
  kind? : String → m (Option FileKind)
  /-- The names in a folder in their order. -/
  names : String → m (List String)
  /-- The content of a file. -/
  read : String → m (Except FileError Octets)
  /-- Creates the folders of a path that do not exist. -/
  createFolders : String → m (Except FileError Unit)
  /-- Creates a file or replaces its content. -/
  write : String → Octets → m (Except FileError Unit)

/-- The same operations in a program that can fail. -/
instance {ε : Type} {m : Type → Type} [Monad m] [FileSystem m] : FileSystem (ExceptT ε m) where
  kind? path := ExceptT.lift (FileSystem.kind? path)
  names path := ExceptT.lift (FileSystem.names path)
  read path := ExceptT.lift (FileSystem.read path)
  createFolders path := ExceptT.lift (FileSystem.createFolders path)
  write path content := ExceptT.lift (FileSystem.write path content)

end TransitFeed

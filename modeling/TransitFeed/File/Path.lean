import TransitFeed.Text.Split

/-! # Paths

A path is a text with slashes between its parts. Empty parts and `.` stay where they are, and `..`
goes one folder up.
-/

namespace TransitFeed.Path

def parts (path : String) : List String :=
  (Text.split (· = '/') path.toList).map String.ofList

def isAbsolute (path : String) : Bool := path.toList.head? = some '/'

/-- Whether a part goes nowhere. -/
def isIdle (part : String) : Bool := part = "" || part = "."

/-- Whether a path is the current folder, however it is written. -/
def isHere (path : String) : Bool :=
  path ≠ "" && !isAbsolute path && (parts path).all isIdle

/-- The path of a name in a folder. -/
def append (folder name : String) : String :=
  if folder = "" ∨ folder.toList.getLast? = some '/' then folder ++ name
  else folder ++ "/" ++ name

/-- The path of a name in a folder; the current folder is left out. -/
def child (folder name : String) : String := if isHere folder then name else append folder name

/-- The name that a path ends in. A path that ends by going up has none. -/
def fileName? (path : String) : Option String :=
  match (parts path).reverse.dropWhile isIdle with
  | [] => none
  | part :: _ => if part = ".." then none else some part

/-- A file name without what follows its last dot. A dot at the start does not count. -/
def stem (name : String) : String :=
  match Text.splitLast? (· = '.') name.toList with
  | some (before, _) => if before.isEmpty then name else String.ofList before
  | none => name

end TransitFeed.Path

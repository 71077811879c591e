import TransitFeed.File.Basic
import TransitFeed.File.Path
import TransitFeed.Glob.Pattern

/-! # Searching for files

The paths that match a pattern, found folder by folder in the order of the names. A name without
wildcards is not looked for in the folder; it is enough that it leads to something.
-/

namespace TransitFeed.Glob

variable {m : Type → Type} [Monad m] [FileSystem m]

/-- The paths that are found for each item, one after the other. -/
def gather {α : Type} (find : α → m (List String)) : List α → m (List String)
  | [] => pure []
  | item :: rest => do return (← find item) ++ (← gather find rest)

def isFolder (path : String) : m Bool := do
  return (← FileSystem.kind? path) = some .folder

/-- What is found at everything below a folder. A folder comes before its contents. No path leads
    more than `depth` folders down. -/
def below (find : String → String → m (List String)) : Nat → String → m (List String)
  | 0, _ => pure []
  | depth + 1, folder => do
    gather (fun name => do
      let path := Path.child folder name
      let found ← find name path
      if ← isFolder path then return found ++ (← below find depth path) else return found)
      (← FileSystem.names folder)

/-- How deep folders can lie, by the length of a path. -/
def deepest : Nat := 4096

/-- The path at the end of a search, if it is one that is looked for. -/
def arrive (isForFolders : Bool) (path : String) : m (List String) := do
  if isForFolders then
    if ← isFolder path then return [path] else return []
  else return [path]

/-- The paths that match the components and start in a folder. -/
def search (isForFolders : Bool) : List Component → String → m (List String)
  | [], path => arrive isForFolders path
  | .literal name :: rest, folder => do
    let path := Path.child folder name
    if name = "." || name = ".." then
      if ← isFolder folder then search isForFolders rest path else return []
    else if (← FileSystem.kind? path).isSome then search isForFolders rest path
    else return []
  | .pattern tokens :: rest, folder => do
    if ← isFolder folder then
      let component := Component.pattern tokens
      let dots ← gather (fun name => search isForFolders rest (Path.append folder name))
        component.dotNames
      let names := (← FileSystem.names folder).filter component.standsFor
      return dots ++
        (← gather (fun name => search isForFolders rest (Path.child folder name)) names)
    else return []
  | .anyFolders :: [], folder => do
    if ← isFolder folder then below (fun _ path => arrive true path) deepest folder
    else return []
  | .anyFolders :: component :: rest, folder => do
    if ← isFolder folder then
      below (fun name path =>
        if component.standsFor name then search isForFolders rest path else pure [])
        deepest folder
    else return []

def Pattern.search (pattern : Pattern) : m (List String) :=
  Glob.search pattern.isForFolders pattern.components (if pattern.isAbsolute then "/" else ".")

end TransitFeed.Glob

import SensorFlow.File.Path

/-!
# Folders and files

The part of a file system that an analysis looks at: what lies at each absolute location, and the
folder that relative paths start from. Everything but the top folder lies in a folder. Some paths
the system may refuse to look up, such as one that is too long or goes through a folder that may
not be entered.
-/
namespace SensorFlow
set_option autoImplicit false

/-- The names on the way from the top folder. -/
abbrev Location := List String

inductive Entry where
  | folder
  | file (content : List UInt8)
  deriving Repr, DecidableEq

structure FileTree where
  entries : List (Location × Entry) := []
  current : Location := []
  /-- What the system says to those who ask whether there is anything at a path. -/
  refused : List (Path × String) := []
  deriving Repr, DecidableEq

namespace FileTree

/-- What lies at a location; the top folder is always there. -/
def at? (tree : FileTree) (location : Location) : Option Entry :=
  if location.isEmpty then some .folder else tree.entries.lookup location

def isFolderAt (tree : FileTree) (location : Location) : Bool := tree.at? location == some .folder

/-- The location of a name in a folder; two dots lead back to the folder around it. -/
def enter (location : Location) (name : String) : Location :=
  if name == ".." then location.dropLast else location ++ [name]

/-- Follows names; all but the last must lead to folders. -/
def follow? (tree : FileTree) (location : Location) : List String → Option Location
  | [] => some location
  | name :: names =>
    if tree.isFolderAt location then follow? tree (enter location name) names else none

def startOf (tree : FileTree) (path : Path) : Location :=
  if path.isAbsolute then [] else tree.current

def locate? (tree : FileTree) (path : Path) : Option Location :=
  tree.follow? (tree.startOf path) path.parts

def get? (tree : FileTree) (path : Path) : Option Entry := (tree.locate? path).bind tree.at?

def exists? (tree : FileTree) (path : Path) : Bool := (tree.get? path).isSome

def refusal? (tree : FileTree) (path : Path) : Option String := tree.refused.lookup path

def isFolder (tree : FileTree) (path : Path) : Bool := tree.get? path == some .folder

/-- The content of the file at a path. -/
def content? (tree : FileTree) (path : Path) : Option (List UInt8) :=
  match tree.get? path with
  | some (.file content) => some content
  | _ => none

def isFile (tree : FileTree) (path : Path) : Bool := (tree.content? path).isSome

/-- The content of the file that a text names; a trailing slash or dot names no file. -/
def contentNamed? (tree : FileTree) (text : String) : Option (List UInt8) :=
  match text.toList.reverse with
  | [] | '/' :: _ | ['.'] | '.' :: '/' :: _ => none
  | _ => tree.content? (Path.ofString text)

/-- The location that a path names, found by its text alone. -/
def resolve (tree : FileTree) (path : Path) : Location :=
  path.parts.foldl enter (tree.startOf path)

def pathOf (location : Location) : Path := { root := "/", parts := location }

/-- All entries below a location with their locations relative to it. -/
def below (tree : FileTree) (location : Location) : List (Location × Entry) :=
  tree.entries.filterMap fun (place, entry) =>
    if location.isPrefixOf place && place != location then
      some (place.drop location.length, entry)
    else none

/-- Puts an entry at a location, in place of what was there. -/
def put (tree : FileTree) (location : Location) (entry : Entry) : FileTree :=
  { tree with
    entries := (location, entry) :: tree.entries.filter fun (place, _) => place != location }

/-- Removes what lies at a location and everything below it. -/
def remove (tree : FileTree) (location : Location) : FileTree :=
  { tree with entries := tree.entries.filter fun (place, _) => !location.isPrefixOf place }

/-- Follows names and makes a folder wherever there is nothing; a file in the way stops it. -/
def makeFoldersFrom? (tree : FileTree) (location : Location) :
    List String → Option (FileTree × Location)
  | [] => some (tree, location)
  | name :: names =>
    let inner := enter location name
    match tree.at? inner with
    | some .folder => makeFoldersFrom? tree inner names
    | some (.file _) => none
    | none => makeFoldersFrom? (tree.put inner .folder) inner names

/-- Makes the folder at a path with the folders around it. -/
def makeFolders? (tree : FileTree) (path : Path) : Option (FileTree × Location) :=
  tree.makeFoldersFrom? (tree.startOf path) path.parts

/-- Writes a file into a folder, over a file that is there but not over a folder. -/
def write? (tree : FileTree) (folder : Location) (name : String) (content : List UInt8) :
    Option FileTree :=
  let location := folder ++ [name]
  if tree.isFolderAt folder && !tree.isFolderAt location then
    some (tree.put location (.file content))
  else none

end FileTree
end SensorFlow

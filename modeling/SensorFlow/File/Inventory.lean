import SensorFlow.File.Glob
import SensorFlow.File.Ignore
import SensorFlow.File.Tree
import SensorFlow.Language
import SensorFlow.Text.Order
import SensorFlow.Text.Scan

/-!
# The source files of a project

Every Kotlin and Java file below the project folder counts, except in hidden and build folders and
except what the ignore rules or the exclusion patterns leave out.
-/
namespace SensorFlow
open Text
set_option autoImplicit false

structure Inventory where
  /-- Absolute paths, in increasing order. -/
  kotlin : List String := []
  java : List String := []
  deriving Repr, DecidableEq

def Inventory.all (inventory : Inventory) : List String :=
  sorted (inventory.kotlin ++ inventory.java)

def Inventory.size (inventory : Inventory) : Nat :=
  inventory.kotlin.length + inventory.java.length

inductive InventoryError where
  /-- An exclusion pattern has no component. -/
  | emptyPattern
  /-- An ignore rule with a defect had to be tried. -/
  | defectiveRule (defect : String)
  deriving Repr, DecidableEq

def InventoryError.message : InventoryError → String
  | .emptyPattern => "empty pattern"
  | .defectiveRule defect => defect

/-- What to leave out of an inventory. -/
structure Selection where
  /-- Wildcard patterns; empty ones are left aside. -/
  exclude : List String := []
  followIgnoreRules : Bool := true
  deriving Repr, DecidableEq

namespace Inventory

/-- Folders and files that are never looked at. -/
def isSkipped (name : String) : Bool :=
  startsWith ['.'] name.toList || ["build", "gradle", "node_modules", "__pycache__"].contains name

/-- Whether one of the patterns matches; the patterns are tried in order. -/
def isExcluded (path : Path) : List String → Except InventoryError Bool
  | [] => .ok false
  | pattern :: patterns =>
    match Glob.matches? (Path.ofString pattern) path with
    | none => .error .emptyPattern
    | some true => .ok true
    | some false => isExcluded path patterns

/-- Tells whether the ignore file of a folder leaves out the file at a place below it. A rule with a
defect cannot be tried. -/
abbrev Matcher := FileTree → Location → Location → Except String Bool

/-- The rules in the ignore file of a folder, if there are usable ones. -/
def rulesIn (tree : FileTree) (root : Location) : List Ignore.Rule :=
  match tree.at? (root ++ [".gitignore"]) with
  | some (.file content) => (Ignore.rules? content).getD []
  | _ => []

def byRules : Matcher := fun tree root place =>
  Ignore.ignores (rulesIn tree root) ("/".intercalate place).toList

/-- Whether a file is left out by the ignore file or a pattern. -/
def isLeftOut (ignored : Except String Bool) (patterns : List String) (path : Path) :
    Except InventoryError Bool :=
  match ignored with
  | .error defect => .error (.defectiveRule defect)
  | .ok true => .ok true
  | .ok false => isExcluded path patterns

/-- The files below a folder that are in no skipped folder, with their languages. -/
def candidates (tree : FileTree) (languages : LanguageRegistry) (root : Location) :
    List (Location × Language) :=
  (tree.below root).filterMap fun (place, entry) =>
    if place.any isSkipped || entry == .folder then none
    else (languages.detect? (FileTree.pathOf place)).map fun language => (place, language)

/-- The paths of the files of one language. -/
def pathsOf (root : Location) (name : String) (files : List (Location × Language)) :
    List String :=
  sorted ((files.filter fun (_, language) => language.name == name).map fun (place, _) =>
    (FileTree.pathOf (root ++ place)).toString)

/-- The inventory of a project folder; it is empty if there is no such folder. -/
def take (matcher : Matcher) (tree : FileTree) (languages : LanguageRegistry)
    (selection : Selection) (project : String) : Except InventoryError Inventory := do
  let root := tree.resolve (Path.ofString project)
  if !tree.isFolderAt root then return {}
  let patterns := selection.exclude.filter (· != "")
  let files ← (candidates tree languages root).filterM fun (place, _) =>
    let ignored := if selection.followIgnoreRules then matcher tree root place else .ok false
    (isLeftOut ignored patterns (FileTree.pathOf (root ++ place))).map (!·)
  return { kotlin := pathsOf root "kotlin" files, java := pathsOf root "java" files }

end Inventory
end SensorFlow

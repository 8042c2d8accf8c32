import SensorFlow.Json.Indent
import SensorFlow.Service.CommandLine
import Std.Time.DateTime.Timestamp

/-!
# The program

Takes up the project folder from disk, runs the command and puts the saved report back.
-/
namespace SensorFlow.Program
set_option autoImplicit false

/-- The environment variables that the command knows. -/
def knownVariables : List String :=
  ["WORKSPACE_PATH", "PARSE_WORKERS", "FOLLOW_GITIGNORE", "EXCLUDE_PATTERNS", "WRITE_CACHE"]

def environment : IO Environment :=
  knownVariables.filterMapM fun name => return (← IO.getEnv name).map fun value => (name, value)

/-- Whether an analysis may look into a file. -/
def matters (path : String) : Bool :=
  (LanguageRegistry.standard.detect? (Path.ofString path)).isSome ||
    (Path.ofString path).name == ".gitignore"

/-- What lies at a location and below it. Links are not followed into folders. -/
partial def entriesBelow (location : Location) : IO (List (Location × Entry)) := do
  let path := (FileTree.pathOf location).toString
  let here := (← IO.currentDir) / path
  match ← (here.symlinkMetadata).toBaseIO with
  | .error _ => return []
  | .ok data =>
    if data.type == .dir then
      let inner := (← (here.readDir).toBaseIO).toOption.getD #[]
      let below ← inner.toList.flatMapM fun entry => entriesBelow (location ++ [entry.fileName])
      return (location, .folder) :: below
    else if matters path then
      match ← (IO.FS.readBinFile here).toBaseIO with
      | .error _ => return []
      | .ok content => return [(location, .file content.toList)]
    else return [(location, .file [])]

/-- The folders around a location. -/
def around (location : Location) : List (Location × Entry) :=
  (List.range location.length).map fun size => (location.take size, Entry.folder)

/-- The files of a project as they are on disk. -/
def takeUp (project : String) : IO FileTree := do
  let current := (Path.ofString (← IO.currentDir).toString).parts
  let bare : FileTree := { current := current }
  let location := bare.resolve (Path.ofString project)
  return { bare with entries := around current ++ around location ++ (← entriesBelow location) }

/-- Writes the saved report to disk if the command has made one. -/
def putBack (before after : FileTree) (project : String) : IO Unit := do
  let path := Cache.documentPath project
  match after.content? path with
  | none => return
  | some content =>
    if before.content? path == some content then return
    let here := (← IO.currentDir) / (Cache.folder project).toString
    IO.FS.createDirAll here
    IO.FS.writeBinFile (here / Cache.documentName) ⟨content.toArray⟩

def now : IO Rat := return mkRat (← Std.Time.Timestamp.now).toNanosecondsSinceUnixEpoch.val 1000000000

end SensorFlow.Program

open SensorFlow in
def main (arguments : List String) : IO UInt32 := do
  let environment ← Program.environment
  let named := (arguments.head?.or (environment.lookup "WORKSPACE_PATH")).getD "/workspace"
  let tree ← Program.takeUp named
  let call := CommandLine.run tree environment arguments (Number.nearest (← Program.now))
  Program.putBack tree call.tree named
  if let some output := call.output then IO.println output.indent
  return call.exitCode

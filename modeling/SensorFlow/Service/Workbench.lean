import SensorFlow.Analysis.Run
import SensorFlow.Service.Error
import SensorFlow.Service.Settings

/-!
# The workbench

Analyses of projects with their results: in memory by project folder, and saved below the project.
Only an analysis with a successful report replaces a result. The hash, the ignore rules and the
depth of documents are the business of others, with usual ones as defaults.
-/
namespace SensorFlow
set_option autoImplicit false

/-- Parts that are out of order, with the messages that they fail with. -/
structure Faults where
  inventory : Option String := none
  loading : Option String := none
  deriving Repr, DecidableEq

structure Workbench where
  tree : FileTree
  settings : Settings := {}
  /-- The results in memory, the latest first. -/
  results : List (Location × Report) := []
  languages : LanguageRegistry := .standard
  extractors : ExtractorRegistry := {}
  ignoring : Inventory.Matcher := Inventory.byRules
  scheme : Fingerprint.Scheme := {}
  /-- How deep a saved document may be nested. -/
  nesting : Nat := Json.maxNesting
  faults : Faults := {}
  /-- Names for what a saved document leaves unnamed. -/
  fresh : FreshIds
  /-- The present time in seconds. -/
  now : Rat := 0

namespace Workbench

def locationOf (bench : Workbench) (project : String) : Location :=
  bench.tree.resolve (Path.ofString project)

def result? (bench : Workbench) (project : String) : Option Report :=
  bench.results.lookup (bench.locationOf project)

/-- Keeps a result in memory. -/
def keep (bench : Workbench) (project : String) (report : Report) : Workbench :=
  { bench with results := (bench.locationOf project, report) :: bench.results }

def inventory (bench : Workbench) (project : String) (exclude : List String) :
    Except ServiceError Inventory :=
  match bench.faults.inventory with
  | some message => .error (.analysis message)
  | none =>
    (Inventory.take bench.ignoring bench.tree bench.languages
      { exclude := bench.settings.excludePatterns ++ exclude
        followIgnoreRules := bench.settings.followIgnoreRules } project).mapError .inventory

/-- The saved result of a project whose files have not changed since. -/
def saved? (bench : Workbench) (project : String) (exclude : List String) :
    Except ServiceError (Option Report) := do
  if !(← (Cache.isPresent bench.tree project).mapError .document) then return none
  let inventory ← bench.inventory project exclude
  let stale ← (Cache.isStale bench.scheme bench.nesting bench.tree project
    inventory.all).mapError .document
  if stale then return none
  let loaded ← (Cache.load? bench.nesting bench.fresh bench.tree project).mapError .document
  return loaded.filter (·.success)

/-- Saves a result if the settings say so. -/
def save (bench : Workbench) (project : String) (files : List String) (report : Report) :
    Except Cache.Failure Workbench :=
  if bench.settings.writeCache then
    (Cache.save bench.scheme bench.tree report project (some files) bench.now).map
      fun (tree, _) => { bench with tree := tree }
  else .ok bench

/-- What a run leaves behind. -/
structure Ran where
  bench : Workbench
  reported : List Progress
  result : Except ServiceError Report

/-- Runs an analysis. A successful result is kept and then saved; it stays in memory if there is no
fingerprint to save it with, though the run then fails. -/
def run (bench : Workbench) (project : String) (exclude : List String)
    (signal : Analysis.Signal) : Ran :=
  match bench.inventory project exclude with
  | .error error => { bench := bench, reported := [], result := .error error }
  | .ok inventory =>
    let analysis := Analysis.ofFiles .standard bench.extractors bench.tree inventory.kotlin
      inventory.java (some project)
    let outcome := Analysis.outcome analysis signal
    match outcome.report with
    | none => { bench := bench, reported := outcome.reported, result := .error .cancelled }
    | some report =>
      if report.success then
        let kept := bench.keep project report
        match kept.save project inventory.all report with
        | .ok saved => { bench := saved, reported := outcome.reported, result := .ok report }
        | .error failure =>
          { bench := kept, reported := outcome.reported, result := .error (.document failure) }
      else
        { bench := bench
          reported := outcome.reported
          result := .error (.analysis (report.errorMessage.getD "")) }

/-- Analyses a project, or takes the saved result if that is wanted and still right. The flag in
the answer tells which. -/
def analyze (bench : Workbench) (project : String) (exclude : List String) (useSaved : Bool) :
    Workbench × Except ServiceError (Bool × Report) :=
  if !bench.tree.isFolder (Path.ofString project) then (bench, .error (.projectMissing project))
  else
    match if useSaved then bench.saved? project exclude else .ok none with
    | .error error => (bench, .error error)
    | .ok (some report) => (bench.keep project report, .ok (true, report))
    | .ok none =>
      let ran := bench.run project exclude .never
      (ran.bench, ran.result.map fun report => (false, report))

/-- The result in memory, else the saved one, which is then kept in memory. -/
def loaded? (bench : Workbench) (project : String) :
    Workbench × Except ServiceError (Option Report) :=
  match bench.faults.loading with
  | some message => (bench, .error (.analysis message))
  | none =>
    match bench.result? project with
    | some report => (bench, .ok (some report))
    | none =>
      match Cache.load? bench.nesting bench.fresh bench.tree project with
      | .error failure => (bench, .error (.document failure))
      | .ok (some report) => (bench.keep project report, .ok (some report))
      | .ok none => (bench, .ok none)

/-- Forgets the results in memory. -/
def forget (bench : Workbench) : Workbench := { bench with results := [] }

/-- Forgets the result of a project and deletes the saved one. -/
def clear (bench : Workbench) (project : String) : Workbench × Bool :=
  let location := bench.locationOf project
  let (tree, cleared) := Cache.clear bench.tree project
  ({ bench with
      tree := tree
      results := bench.results.filter fun (place, _) => place != location }, cleared)

end Workbench
end SensorFlow

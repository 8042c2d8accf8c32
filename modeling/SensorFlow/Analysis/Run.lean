import SensorFlow.File.Inventory
import SensorFlow.Graph.Build
import SensorFlow.Graph.Flow
import SensorFlow.Issue.Detection
import SensorFlow.Report.Basic
import SensorFlow.Sensor.Detection
import SensorFlow.Symbol.Extractor

/-!
# Analysis runs

A run goes through its stages in order: sources, symbols, entry points, graph, flows, issues. It is
watched: it reports checkpoints on its way, and it checks again and again whether it is to stop,
before every stage, every file and every step of the search for flows.
-/
namespace SensorFlow.Analysis
open Text
set_option autoImplicit false

/-- The replaceable stages; a stage may fail with a message. -/
structure Stages where
  entryPoints : List ClassSymbol → Except String (List EntryPoint)
  graph : SymbolTable → List EntryPoint → Except String Graph
  issues : SymbolTable → Graph → Except String (List Issue)

def Stages.standard : Stages where
  entryPoints classes := .ok (SensorFlow.entryPoints classes)
  graph table entries := .ok (table.graph entries)
  issues table g := .ok (SensorFlow.issues table g)

/-- A checkpoint at so many tenths of the run. -/
def checkpoint (tenths : Nat) (message : String) : Progress where
  fraction := Number.nearest (tenths / 10 : Rat)
  message := message

/-- What has been seen of a run: the number of its checks and the checkpoints it has reported. -/
structure Trace where
  checks : Nat := 0
  reported : List Progress := []
  deriving Repr, DecidableEq

/-- Tells at each check, from the number of checks before it and the checkpoints so far, whether
the run is to stop. -/
abbrev Signal := (checks : Nat) → (reported : List Progress) → Bool

def Signal.never : Signal := fun _ _ => false

/-- Why a run ends before its last stage. -/
inductive Halt where
  | cancelled
  | failed (message : String)
  deriving Repr, DecidableEq

/-- Computations that are watched. Their trace is kept also if they halt. -/
abbrev Watched := ReaderT Signal (ExceptT Halt (StateM Trace))

namespace Watched

/-- Stops the run if the signal says so. -/
def check : Watched Unit := do
  let signal ← read
  let trace ← get
  if signal trace.checks trace.reported then throw .cancelled
  set { trace with checks := trace.checks + 1 }

def reach (tenths : Nat) (message : String) : Watched Unit :=
  modify fun trace => { trace with reported := trace.reported ++ [checkpoint tenths message] }

/-- A stage that fails halts the run. -/
def ofStage {α : Type} : Except String α → Watched α
  | .ok result => pure result
  | .error message => throw (.failed message)

end Watched

def noSources : String := "No Kotlin or Java files found in project"

def failure (message : String) : Report := Report.failure ("Analysis failed: " ++ message) none

/-- The files in the order of extraction: by path, Java before Kotlin. -/
def ordered (kotlin java : List String) : List (String × String) :=
  ((java.map fun path => (path, "java")) ++ kotlin.map fun path => (path, "kotlin")).mergeSort
    fun a b => decide (a.1 ≤ b.1)

/-- The classes of one file; a language without an extractor has none. -/
def extract (extractors : ExtractorRegistry) (tree : FileTree) (path language : String) :
    List ClassSymbol :=
  ((extractors.get? language).map fun extractor => extractor.extract tree path).getD []

/-- The classes of all files, file by file, with a check before each. -/
def extractAll (extractors : ExtractorRegistry) (tree : FileTree) (files : List (String × String)) :
    Watched (List ClassSymbol) :=
  files.foldlM (fun classes (path, language) => do
    Watched.check
    return classes ++ extract extractors tree path language) []

/-- Analyses given files; `project` is only recorded. -/
def ofFiles (stages : Stages) (extractors : ExtractorRegistry) (tree : FileTree)
    (kotlin java : List String) (project : Option String) : Watched Report := do
  let total := kotlin.length + java.length
  Watched.reach 1 s!"Found {total} source files"
  if total = 0 then return Report.failure noSources none
  Watched.check
  Watched.reach 3 s!"Parsing {total} files..."
  let classes ← extractAll extractors tree (ordered kotlin java)
  let table := SymbolTable.ofClasses classes
  Watched.check
  let entries ← Watched.ofStage (stages.entryPoints classes)
  Watched.reach 5 "Detected sensor API usage"
  Watched.check
  let g ← Watched.ofStage (stages.graph table entries)
  Watched.reach 7 "Built call graph"
  Watched.check
  let flows ← g.flowsWith Watched.check
  Watched.reach 8 "Extracted data flows"
  Watched.check
  let found ← Watched.ofStage (stages.issues table g)
  Watched.reach 9 "Detected issues"
  Watched.reach 10 "Analysis complete"
  return {
    success := true
    projectPath := project
    graph := some g
    flows := flows
    issues := found
    totalFiles := total
    totalClasses := classes.length
    sensorCount := entries.length }

/-- The checkpoints that were reached, and the report unless the run was cancelled. -/
structure Outcome where
  reported : List Progress
  report : Option Report
  deriving Repr, DecidableEq

/-- Runs an analysis to its end. A stage that fails is reported; only a cancelled run has no
report. -/
def outcome (analysis : Watched Report) (signal : Signal) : Outcome :=
  match (analysis.run signal).run.run {} with
  | (.ok report, trace) => { reported := trace.reported, report := some report }
  | (.error (.failed message), trace) =>
    { reported := trace.reported, report := some (failure message) }
  | (.error .cancelled, trace) => { reported := trace.reported, report := none }

end SensorFlow.Analysis

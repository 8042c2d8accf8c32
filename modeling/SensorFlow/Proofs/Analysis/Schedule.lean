import SensorFlow.Analysis.Run
import SensorFlow.Proofs.Graph.Search

/-!
# The schedule of an analysis

What a run computes does not depend on when it is watched. So an analysis is the same as going
through a fixed course of checks and checkpoints and then having the report, or the failure of the
stage at which the course breaks off, and what a signal does to it can be read off the course.
-/
namespace SensorFlow.Analysis
set_option autoImplicit false

inductive Event where
  | check
  | reach (tenths : Nat) (message : String)
  deriving Repr, DecidableEq

def Event.perform : Event → Watched Unit
  | check => Watched.check
  | reach tenths message => Watched.reach tenths message

def play : List Event → Watched Unit
  | [] => pure ()
  | event :: more => event.perform >>= fun _ => play more

theorem play_append (before after : List Event) :
    play (before ++ after) = play before >>= fun _ => play after := by
  induction before with
  | nil => simp [play]
  | cons event before ih => simp [play, ih]

theorem times_check (n : Nat) : times Watched.check n = play (List.replicate n .check) := by
  induction n with
  | zero => rfl
  | succ n ih => rw [List.replicate_succ, times, play, ih, Event.perform]

def classesOf (extractors : ExtractorRegistry) (tree : FileTree) (files : List (String × String)) :
    List ClassSymbol :=
  files.flatMap fun file => extract extractors tree file.1 file.2

theorem extractAll_eq (extractors : ExtractorRegistry) (tree : FileTree)
    (files : List (String × String)) :
    extractAll extractors tree files =
      play (List.replicate files.length .check) >>= fun _ =>
        pure (classesOf extractors tree files) := by
  rw [extractAll, foldlM_times Watched.check (fun _ => 1)
    (fun file => extract extractors tree file.1 file.2), ← times_check]
  · simp [classesOf]
  · intro file _ found
    simp [times]

theorem length_ordered (kotlin java : List String) :
    (ordered kotlin java).length = kotlin.length + java.length := by
  simp [ordered, Nat.add_comm]

/-- The events up to the end of the sources. -/
def untilSymbols (files : Nat) : List Event :=
  [Event.reach 1 s!"Found {files} source files", Event.check,
    Event.reach 3 s!"Parsing {files} files..."] ++ List.replicate files Event.check

def untilGraph (files : Nat) : List Event :=
  untilSymbols files ++ [Event.check, Event.reach 5 "Detected sensor API usage"]

def untilIssues (files steps : Nat) : List Event :=
  untilGraph files ++ [Event.check, Event.reach 7 "Built call graph", Event.check] ++
    List.replicate steps Event.check ++ [Event.reach 8 "Extracted data flows"]

/-- The checkpoints that no check follows. -/
def closing : List Event := [Event.reach 9 "Detected issues", Event.reach 10 "Analysis complete"]

/-- The events of an analysis of so many files whose search for flows takes so many steps. -/
def schedule (files steps : Nat) : List Event := untilIssues files steps ++ .check :: closing

/-- What is to be seen of a run, and how its stages come to an end. -/
structure Course where
  events : List Event
  ended : Except String Report

def Course.run (course : Course) : Watched Report :=
  play course.events >>= fun _ => Watched.ofStage course.ended

/-- The course of an analysis of one file or more; it breaks off at the first stage that fails. -/
def courseOf (stages : Stages) (extractors : ExtractorRegistry) (tree : FileTree)
    (kotlin java : List String) (project : Option String) : Course :=
  let files := kotlin.length + java.length
  let classes := classesOf extractors tree (ordered kotlin java)
  match stages.entryPoints classes with
  | .error message => ⟨untilSymbols files ++ [.check], .error message⟩
  | .ok entries =>
    match stages.graph (.ofClasses classes) entries with
    | .error message => ⟨untilGraph files ++ [.check], .error message⟩
    | .ok g =>
      match stages.issues (.ofClasses classes) g with
      | .error message => ⟨untilIssues files g.flowSteps ++ [.check], .error message⟩
      | .ok found => ⟨schedule files g.flowSteps,
        .ok {
          success := true
          projectPath := project
          graph := some g
          flows := g.flows
          issues := found
          totalFiles := files
          totalClasses := classes.length
          sensorCount := entries.length }⟩

theorem ofFiles_eq_run (stages : Stages) (extractors : ExtractorRegistry) (tree : FileTree)
    {kotlin java : List String} (hFiles : 0 < kotlin.length + java.length)
    (project : Option String) :
    ofFiles stages extractors tree kotlin java project =
      (courseOf stages extractors tree kotlin java project).run := by
  have hTotal : kotlin.length + java.length ≠ 0 := by omega
  simp only [ofFiles, if_neg hTotal, extractAll_eq, length_ordered, bind_assoc, pure_bind,
    courseOf, Course.run]
  -- in each case both sides are the same events bound in the same order
  cases stages.entryPoints (classesOf extractors tree (ordered kotlin java)) with
  | error message =>
    simp only [Watched.ofStage, untilSymbols, play_append, play, Event.perform, bind_assoc,
      pure_bind]
    rfl
  | ok entries =>
    cases hGraph : stages.graph (.ofClasses (classesOf extractors tree (ordered kotlin java)))
      entries with
    | error message =>
      simp only [hGraph, Watched.ofStage, untilGraph, untilSymbols, play_append, play,
        Event.perform, bind_assoc, pure_bind]
      rfl
    | ok g =>
      cases hFound : stages.issues (.ofClasses (classesOf extractors tree (ordered kotlin java)))
        g with
      | error message =>
        simp only [hGraph, hFound, Graph.flowsWith_eq_flows, times_check, Watched.ofStage,
          untilIssues, untilGraph, untilSymbols, play_append, play, Event.perform, bind_assoc,
          pure_bind]
        rfl
      | ok found =>
        simp only [hGraph, hFound, Graph.flowsWith_eq_flows, times_check, Watched.ofStage, schedule,
          untilIssues, untilGraph, untilSymbols, closing, play_append, play, Event.perform,
          bind_assoc, pure_bind]

structure Stages.Work (stages : Stages) : Prop where
  entryPoints : ∀ classes, ∃ entries, stages.entryPoints classes = .ok entries
  graph : ∀ table entries, ∃ g, stages.graph table entries = .ok g
  issues : ∀ table g, ∃ found, stages.issues table g = .ok found

theorem Stages.standard_work : Stages.standard.Work where
  entryPoints _ := ⟨_, rfl⟩
  graph _ _ := ⟨_, rfl⟩
  issues _ _ := ⟨_, rfl⟩

theorem courseOf_eq {stages : Stages} (hWork : stages.Work) (extractors : ExtractorRegistry)
    (tree : FileTree) (kotlin java : List String) (project : Option String) :
    ∃ (g : Graph) (report : Report), report.success = true ∧ report.graph = some g ∧
      courseOf stages extractors tree kotlin java project =
        ⟨schedule (kotlin.length + java.length) g.flowSteps, .ok report⟩ := by
  obtain ⟨entries, hEntries⟩ := hWork.entryPoints (classesOf extractors tree (ordered kotlin java))
  obtain ⟨g, hGraph⟩ := hWork.graph (.ofClasses (classesOf extractors tree (ordered kotlin java)))
    entries
  obtain ⟨found, hFound⟩ := hWork.issues
    (.ofClasses (classesOf extractors tree (ordered kotlin java))) g
  simp only [courseOf, hEntries, hGraph, hFound]
  exact ⟨g, _, rfl, rfl, rfl⟩

end SensorFlow.Analysis

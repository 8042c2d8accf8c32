import Mathlib.Algebra.Order.Ring.Rat
import SensorFlow.Proofs.Analysis.Cancellation
import SensorFlow.Service.Workbench

/-!
# Cancelling at a checkpoint

A run that is asked to stop while it reports a checkpoint goes on to its next check. Whatever the
stages do, there is one behind every checkpoint before the issues are found. Behind the last two
there is none, so a request that is made there is not heard.
-/
namespace SensorFlow.Analysis
set_option autoImplicit false

/-- The signal that is set while `p` is reported and stays set. -/
def Signal.since (p : Progress) : Signal := fun _ reported => decide (p ∈ reported)

theorem reportsOf_append (before more : List Event) :
    reportsOf (before ++ more) = reportsOf before ++ reportsOf more := by
  simp [reportsOf]

theorem eq_append_of_check_not_mem {before more late rest : List Event}
    (hEvents : before ++ .check :: more = late ++ .check :: rest) (hLate : Event.check ∉ more) :
    ∃ between, before = late ++ between := by
  rcases List.append_eq_append_iff.1 hEvents with ⟨between, rfl, hRest⟩ | ⟨between, rfl, _⟩
  · cases between with
    | nil => exact ⟨[], by simp⟩
    | cons event between =>
      obtain ⟨rfl, hMore⟩ := List.cons.inj hRest
      exact absurd (hMore ▸ by simp) hLate
  · exact ⟨between, rfl⟩

/-- Of the checkpoints of a run, exactly those before its last check are heard. -/
theorem cancelled_since_iff (before late : List Event) (ended : Except String Report)
    (hLate : Event.check ∉ late) (p : Progress) :
    (outcome (Course.run ⟨before ++ .check :: late, ended⟩) (.since p)).report = none ↔
      p ∈ reportsOf before := by
  rcases outcome_run (.since p) ⟨before ++ .check :: late, ended⟩ with ⟨hOutcome, hPass⟩ |
    ⟨seen, rest, hEvents, hStop, hOutcome⟩
  · have hUnheard := hPass before late rfl
    rw [hOutcome]
    simpa [Signal.since] using hUnheard
  · obtain ⟨between, rfl⟩ := eq_append_of_check_not_mem hEvents hLate
    have hHeard : p ∈ reportsOf seen := by simpa [Signal.since] using hStop
    rw [hOutcome, reportsOf_append]
    simp [hHeard]

/-- The fraction of the first checkpoint that no check follows. -/
def lastStage : Rat := Number.nearest (9 / 10)

theorem fraction_of_mem_untilIssues {files steps : Nat} {p : Progress}
    (hMem : p ∈ reportsOf (untilIssues files steps)) : p.fraction < lastStage := by
  have hCheck : Event.progress? .check = none := rfl
  have hTenths (tenths : Nat) (hTenths : tenths ∈ [1, 3, 5, 7, 8]) :
      Number.nearest (tenths / 10 : Rat) < lastStage := by
    revert tenths
    decide +kernel
  simp [reportsOf, untilIssues, untilGraph, untilSymbols, List.filterMap_cons_none hCheck,
    List.filterMap_replicate_of_none hCheck, Event.progress?] at hMem
  rcases hMem with rfl | rfl | rfl | rfl | rfl <;> exact hTenths _ (by decide)

theorem lastStage_le_of_mem_closing {p : Progress} (hMem : p ∈ reportsOf closing) :
    lastStage ≤ p.fraction := by
  have hTenths (tenths : Nat) (hTenths : tenths ∈ [9, 10]) :
      lastStage ≤ Number.nearest (tenths / 10 : Rat) := by
    revert tenths
    decide +kernel
  simp [reportsOf, closing, Event.progress?] at hMem
  rcases hMem with rfl | rfl <;> exact hTenths _ (by decide)

/-- Whichever stage fails, the run goes through the events before that stage and a check, and what
follows the check is at most the last two checkpoints. -/
theorem courseOf_cases (stages : Stages) (extractors : ExtractorRegistry) (tree : FileTree)
    (kotlin java : List String) (project : Option String) :
    ∃ (before late : List Event) (ended : Except String Report),
      courseOf stages extractors tree kotlin java project = ⟨before ++ .check :: late, ended⟩ ∧
      (late = [] ∨ late = closing) ∧
      ∃ steps, before <+: untilIssues (kotlin.length + java.length) steps := by
  have hSymbols (files steps : Nat) : untilSymbols files <+: untilIssues files steps := by
    simp [untilIssues, untilGraph]
  have hGraphs (files steps : Nat) : untilGraph files <+: untilIssues files steps := by
    simp [untilIssues]
  rw [courseOf]
  split
  · exact ⟨_, [], _, rfl, .inl rfl, 0, hSymbols _ 0⟩
  · split
    · exact ⟨_, [], _, rfl, .inl rfl, 0, hGraphs _ 0⟩
    · next g _ =>
      split
      · exact ⟨_, [], _, rfl, .inl rfl, g.flowSteps, List.prefix_rfl⟩
      · exact ⟨_, closing, _, rfl, .inr rfl, g.flowSteps, List.prefix_rfl⟩

theorem mem_reportsOf_before_iff {before late : List Event} {files steps : Nat}
    (hBefore : before <+: untilIssues files steps) (hLate : late = [] ∨ late = closing)
    {p : Progress} (hMem : p ∈ reportsOf (before ++ .check :: late)) :
    p ∈ reportsOf before ↔ p.fraction < lastStage := by
  constructor
  · intro hIn
    obtain ⟨rest, hRest⟩ := hBefore
    have hStage : p ∈ reportsOf (untilIssues files steps) := by
      rw [← hRest, reportsOf_append]
      exact List.mem_append_left _ hIn
    exact fraction_of_mem_untilIssues hStage
  · intro hFraction
    rw [reportsOf_append] at hMem
    rcases List.mem_append.1 hMem with hIn | hIn
    · exact hIn
    · rcases hLate with rfl | rfl
      · cases hIn
      · exact absurd hFraction (not_lt.2 (lastStage_le_of_mem_closing hIn))

theorem cancelled_run (bench : Workbench) {project : String} {exclude : List String}
    {inventory : Inventory} (hInventory : bench.inventory project exclude = .ok inventory)
    {signal : Signal}
    (hCancelled : (outcome (ofFiles .standard bench.extractors bench.tree inventory.kotlin
      inventory.java (some project)) signal).report = none) :
    (bench.run project exclude signal).bench = bench ∧
      (bench.run project exclude signal).result = .error .cancelled := by
  simp only [Workbench.run, hInventory, hCancelled, and_self]

/-- A request to stop that is made while a checkpoint is reported cancels the run exactly if the
issues have not been found by then. A cancelled run leaves the workbench as it was. -/
theorem cancelled_at_checkpoint_iff (stages : Stages) (extractors : ExtractorRegistry)
    (tree : FileTree) (kotlin java : List String) (hFiles : 0 < kotlin.length + java.length)
    (project : Option String) {p : Progress}
    (hReported : p ∈
      (outcome (ofFiles stages extractors tree kotlin java project) .never).reported) :
    ((outcome (ofFiles stages extractors tree kotlin java project) (.since p)).report = none ↔
      p.fraction < lastStage) ∧
    ∀ (bench : Workbench) (name : String) (exclude : List String) (inventory : Inventory)
      (signal : Signal),
      bench.inventory name exclude = .ok inventory →
      (outcome (ofFiles .standard bench.extractors bench.tree inventory.kotlin inventory.java
        (some name)) signal).report = none →
      (bench.run name exclude signal).bench = bench ∧
        (bench.run name exclude signal).result = .error .cancelled := by
  refine ⟨?_, fun bench _ _ _ _ hInventory hCancelled => cancelled_run bench hInventory hCancelled⟩
  obtain ⟨before, late, ended, hCourse, hLate, steps, hBefore⟩ :=
    courseOf_cases stages extractors tree kotlin java project
  rw [ofFiles_eq_run stages extractors tree hFiles, hCourse] at hReported ⊢
  rw [outcome_run_never] at hReported
  have hUnchecked : Event.check ∉ late := by
    rcases hLate with rfl | rfl <;> decide
  rw [cancelled_since_iff before late ended hUnchecked]
  exact mem_reportsOf_before_iff hBefore hLate hReported

theorem cancelled_at_checkpoint_iff_extracted :
    (outcome (ofFiles .standard {} {} ["/p/A.kt"] [] none)
      (.since (checkpoint 8 "Extracted data flows"))).report = none :=
  (cancelled_at_checkpoint_iff .standard {} {} ["/p/A.kt"] [] (by decide) none
    (by decide +kernel)).1.2 (by decide +kernel)

/-- A request that is made when the issues have been found comes before the end and is not
heard: the run has its report. -/
theorem unheard_at_last_stage :
    let run := ofFiles .standard {} {} ["/p/A.kt"] [] none
    let p := checkpoint 9 "Detected issues"
    p ∈ (outcome run .never).reported ∧ p.fraction < 1 ∧
      ((outcome run (.since p)).report.map (·.success)) = some true := by
  decide +kernel

end SensorFlow.Analysis

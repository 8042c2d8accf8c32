import SensorFlow.Proofs.Service.History

/-!
# What an activity does

What an activity can find, what becomes of the files, and what stays as it is. Later proofs about a
history look at these cases only.
-/
namespace SensorFlow
open FileTree Inventory
set_option autoImplicit false

namespace Workbench

/-- The activity runs an analysis of the project, and the analysis succeeds. -/
inductive Runs (bench : Workbench) : Activity → String → List String → Report → Prop where
  | analyze {project : String} {exclude : List String} {useSaved : Bool} {report : Report}
      (hAnswer : (bench.analyze project exclude useSaved).2 = .ok (false, report)) :
      Runs bench (.analyze project exclude useSaved) project exclude report
  | background {project : String} {exclude : List String} {signal : Analysis.Signal}
      {report : Report} (hFolder : bench.tree.isFolder (Path.ofString project) = true)
      (hResult : (bench.run project exclude signal).result = .ok report) :
      Runs bench (.background project exclude signal) project exclude report

section Steps

variable {bench : Workbench} {project : String} {exclude : List String} {report : Report}

theorem Runs.spec {activity : Activity} (hRuns : Runs bench activity project exclude report) :
    bench.tree.isFolder (Path.ofString project) = true ∧
    ∃ inventory, Finds bench project exclude inventory report ∧
      (bench.keep project report).save project inventory.all report =
        .ok (bench.perform activity) := by
  have hRun {signal : Analysis.Signal}
      (hResult : (bench.run project exclude signal).result = .ok report) :
      ∃ inventory, Finds bench project exclude inventory report ∧
        (bench.keep project report).save project inventory.all report =
          .ok (bench.run project exclude signal).bench := by
    rcases run_ends bench project exclude signal with
      ⟨error, _, hFailed, _⟩ | ⟨inventory, found, hFinds,
        ⟨after, hSave, hFound, hBench⟩ | ⟨failure, _, hFailed, _⟩⟩
    · rw [hFailed] at hResult
      cases hResult
    · obtain rfl := Except.ok.inj (hFound.symm.trans hResult)
      exact ⟨inventory, hFinds, by rw [hSave, hBench]⟩
    · rw [hFailed] at hResult
      cases hResult
  cases hRuns with
  | @analyze _ _ useSaved _ hAnswer =>
    rcases analyze_ends bench project exclude useSaved with
      ⟨error, hEnds⟩ | ⟨hFolder, ⟨saved, _, _, hEnds⟩ | hEnds⟩
    · rw [hEnds] at hAnswer
      cases hAnswer
    · rw [hEnds] at hAnswer
      cases hAnswer
    · refine ⟨hFolder, ?_⟩
      rw [perform, hEnds]
      rw [hEnds] at hAnswer
      cases hResult : (bench.run project exclude .never).result with
      | error error =>
        rw [hResult] at hAnswer
        cases hAnswer
      | ok found =>
        rw [hResult] at hAnswer
        cases hAnswer
        exact hRun hResult
  | @background _ _ signal _ hFolder hResult =>
    refine ⟨hFolder, ?_⟩
    rw [perform, if_pos hFolder]
    exact hRun hResult

theorem Runs.exists_save {activity : Activity} (hRuns : Runs bench activity project exclude report)
    {inventory : Inventory} (hTaken : bench.inventory project exclude = .ok inventory)
    (hEnabled : bench.settings.writeCache = true) :
    ∃ answer, Cache.save bench.scheme bench.tree report project (some inventory.all) bench.now =
      .ok answer ∧ (bench.perform activity).tree = answer.1 := by
  obtain ⟨_, found, hFinds, hSave⟩ := hRuns.spec
  obtain rfl : found = inventory := Except.ok.inj (hFinds.taken.symm.trans hTaken)
  have hKept : (bench.keep project report).settings.writeCache = true := hEnabled
  rw [save_eq_ok_iff, if_pos hKept] at hSave
  obtain ⟨answer, hAnswer, hBench⟩ := hSave
  exact ⟨answer, hAnswer, by rw [← hBench]⟩

/-- A run with a result leaves the files as they are or with the document of the result. -/
theorem Runs.tree_perform {activity : Activity}
    (hRuns : Runs bench activity project exclude report) :
    (bench.perform activity).tree = bench.tree ∨
    ∃ project exclude report inventory answer, Runs bench activity project exclude report ∧
      bench.inventory project exclude = .ok inventory ∧ bench.settings.writeCache = true ∧
      Cache.save bench.scheme bench.tree report project (some inventory.all) bench.now =
        .ok answer ∧ (bench.perform activity).tree = answer.1 := by
  obtain ⟨_, inventory, hFinds, hSave⟩ := hRuns.spec
  by_cases hEnabled : bench.settings.writeCache = true
  · obtain ⟨answer, hAnswer, hTree⟩ := hRuns.exists_save hFinds.taken hEnabled
    exact .inr ⟨project, exclude, report, inventory, answer, hRuns, hFinds.taken, hEnabled, hAnswer,
      hTree⟩
  · have hKept : ¬ (bench.keep project report).settings.writeCache = true := hEnabled
    rw [save_eq_ok_iff, if_neg hKept] at hSave
    rw [← hSave]
    exact .inl rfl

/-- A run without a result is over before it saves. -/
theorem tree_run_of_error {signal : Analysis.Signal} {error : ServiceError}
    (hResult : (bench.run project exclude signal).result = .error error) :
    (bench.run project exclude signal).bench.tree = bench.tree := by
  rcases run_ends bench project exclude signal with
    ⟨_, _, _, hBench⟩ | ⟨_, _, _, ⟨_, _, hFound, _⟩ | ⟨_, _, _, hBench⟩⟩
  · rw [hBench]
  · rw [hFound] at hResult
    cases hResult
  · rw [hBench]
    rfl

/-- What an activity can do to the files. -/
theorem tree_perform_cases (bench : Workbench) (activity : Activity) :
    (bench.perform activity).tree = bench.tree ∨
    (∃ project exclude report inventory answer, Runs bench activity project exclude report ∧
      bench.inventory project exclude = .ok inventory ∧ bench.settings.writeCache = true ∧
      Cache.save bench.scheme bench.tree report project (some inventory.all) bench.now =
        .ok answer ∧ (bench.perform activity).tree = answer.1) ∨
    (∃ project, activity = .clear project ∧
      (bench.perform activity).tree = (Cache.clear bench.tree project).1) ∨
    ∃ tree, activity = .edit tree ∧ (bench.perform activity).tree = tree := by
  cases activity with
  | analyze project exclude useSaved =>
    rcases analyze_ends bench project exclude useSaved with
      ⟨error, hEnds⟩ | ⟨_, ⟨saved, _, _, hEnds⟩ | hEnds⟩
    · exact .inl (by rw [perform, hEnds])
    · exact .inl (by rw [perform, hEnds]; rfl)
    · cases hResult : (bench.run project exclude .never).result with
      | error error => exact .inl (by rw [perform, hEnds]; exact tree_run_of_error hResult)
      | ok report =>
        have hRuns : Runs bench (.analyze project exclude useSaved) project exclude report :=
          .analyze (by rw [hEnds, hResult]; rfl)
        exact hRuns.tree_perform.imp_right .inl
  | background project exclude signal =>
    by_cases hFolder : bench.tree.isFolder (Path.ofString project) = true
    · cases hResult : (bench.run project exclude signal).result with
      | error error =>
        exact .inl (by rw [perform, if_pos hFolder]; exact tree_run_of_error hResult)
      | ok report =>
        have hRuns : Runs bench (.background project exclude signal) project exclude report :=
          .background hFolder hResult
        exact hRuns.tree_perform.imp_right .inl
    · exact .inl (by rw [perform, if_neg hFolder])
  | result project =>
    -- what is loaded goes to the results only
    refine .inl ?_
    rw [perform, loaded?]
    split
    · rfl
    · split
      · rfl
      · split <;> rfl
  | clear project => exact .inr (.inr (.inl ⟨project, rfl, rfl⟩))
  | edit tree => exact .inr (.inr (.inr ⟨tree, rfl, rfl⟩))
  | pass now fresh => exact .inl rfl

/-- All but the files, the results and the time stays as it is. -/
theorem perform_eq (bench : Workbench) (activity : Activity) :
    ∃ tree results fresh now, bench.perform activity =
      { bench with tree := tree, results := results, fresh := fresh, now := now } := by
  have hRun (project : String) (exclude : List String) (signal : Analysis.Signal) :
      ∃ tree results fresh now, (bench.run project exclude signal).bench =
        { bench with tree := tree, results := results, fresh := fresh, now := now } := by
    rcases run_ends bench project exclude signal with
      ⟨_, _, _, hBench⟩ | ⟨_, report, _, ⟨after, hSave, _, hBench⟩ | ⟨_, _, _, hBench⟩⟩
    · exact ⟨_, _, _, _, hBench⟩
    · rw [hBench]
      rw [save_eq_ok_iff] at hSave
      split at hSave
      · obtain ⟨answer, _, rfl⟩ := hSave
        exact ⟨_, _, _, _, rfl⟩
      · exact ⟨_, _, _, _, hSave.symm⟩
    · exact ⟨_, _, _, _, hBench⟩
  cases activity with
  | analyze project exclude useSaved =>
    rcases analyze_ends bench project exclude useSaved with
      ⟨error, hEnds⟩ | ⟨_, ⟨saved, _, _, hEnds⟩ | hEnds⟩
    · exact ⟨_, _, _, _, by rw [perform, hEnds]⟩
    · exact ⟨_, _, _, _, by rw [perform, hEnds]; rfl⟩
    · rw [perform, hEnds]
      exact hRun project exclude .never
  | background project exclude signal =>
    rw [perform]
    split
    · exact hRun project exclude signal
    · exact ⟨_, _, _, _, rfl⟩
  | result project =>
    rw [perform, loaded?]
    split
    · exact ⟨_, _, _, _, rfl⟩
    · split
      · exact ⟨_, _, _, _, rfl⟩
      · split
        · exact ⟨_, _, _, _, rfl⟩
        · exact ⟨_, _, _, _, rfl⟩
        · exact ⟨_, _, _, _, rfl⟩
  | clear project => exact ⟨_, _, _, _, rfl⟩
  | edit tree => exact ⟨_, _, _, _, rfl⟩
  | pass now fresh => exact ⟨_, _, _, _, rfl⟩

/-- The workbenches differ in their files, their results and the time only. -/
structure Alike (first second : Workbench) : Prop where
  settings : second.settings = first.settings
  languages : second.languages = first.languages
  extractors : second.extractors = first.extractors
  ignoring : second.ignoring = first.ignoring
  scheme : second.scheme = first.scheme
  nesting : second.nesting = first.nesting
  faults : second.faults = first.faults

theorem Alike.refl (bench : Workbench) : Alike bench bench := ⟨rfl, rfl, rfl, rfl, rfl, rfl, rfl⟩

theorem Alike.trans {first second third : Workbench} (hFirst : Alike first second)
    (hSecond : Alike second third) : Alike first third where
  settings := hSecond.settings.trans hFirst.settings
  languages := hSecond.languages.trans hFirst.languages
  extractors := hSecond.extractors.trans hFirst.extractors
  ignoring := hSecond.ignoring.trans hFirst.ignoring
  scheme := hSecond.scheme.trans hFirst.scheme
  nesting := hSecond.nesting.trans hFirst.nesting
  faults := hSecond.faults.trans hFirst.faults

theorem alike_perform (bench : Workbench) (activity : Activity) :
    Alike bench (bench.perform activity) := by
  obtain ⟨tree, results, fresh, now, hPerform⟩ := perform_eq bench activity
  rw [hPerform]
  exact ⟨rfl, rfl, rfl, rfl, rfl, rfl, rfl⟩

/-- What the settings and a request leave out of an inventory. -/
def selection (bench : Workbench) (exclude : List String) : Selection where
  exclude := bench.settings.excludePatterns ++ exclude
  followIgnoreRules := bench.settings.followIgnoreRules

theorem inventory_eq_ok_iff (hLanguages : bench.languages = .standard) (inventory : Inventory) :
    bench.inventory project exclude = .ok inventory ↔
      bench.faults.inventory = none ∧
        take bench.ignoring bench.tree .standard (bench.selection exclude) project =
          .ok inventory := by
  rw [Workbench.inventory, hLanguages, ← selection]
  cases bench.faults.inventory with
  | some message => simp
  | none =>
    cases take bench.ignoring bench.tree .standard (bench.selection exclude) project with
    | error error =>
      constructor
      · intro hTaken
        cases hTaken
      · rintro ⟨_, hTaken⟩
        cases hTaken
    | ok found =>
      constructor
      · intro hTaken
        cases hTaken
        exact ⟨rfl, rfl⟩
      · rintro ⟨_, hTaken⟩
        cases hTaken
        rfl

end Steps

end Workbench
end SensorFlow

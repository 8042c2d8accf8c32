import SensorFlow.Proofs.Analysis.Findings
import SensorFlow.Proofs.Store.Cache
import SensorFlow.Service.Workbench

/-!
# How analyses end

The ways in which saving, a run and an analysis can end: what is found, what is kept and saved, and
what stays as it is. Later proofs look at these cases only.
-/
namespace SensorFlow
set_option autoImplicit false

theorem mapError_eq_error {ε ε' α : Type} {wrap : ε → ε'} {result : Except ε α} {error : ε'}
    (hError : result.mapError wrap = .error error) :
    ∃ inner, result = .error inner ∧ wrap inner = error := by
  cases result with
  | ok value => cases hError
  | error inner => exact ⟨inner, rfl, Except.error.inj hError⟩

namespace Workbench

section Steps

variable {bench : Workbench} {project : String} {exclude files : List String} {report : Report}

theorem save_eq_ok_iff {after : Workbench} :
    bench.save project files report = .ok after ↔
      if bench.settings.writeCache then
        ∃ answer, Cache.save bench.scheme bench.tree report project (some files) bench.now =
          .ok answer ∧ { bench with tree := answer.1 } = after
      else bench = after := by
  rw [save]
  split
  · cases Cache.save bench.scheme bench.tree report project (some files) bench.now with
    | error failure => simp [Except.map]
    | ok answer => simp [Except.map]
  · simp

theorem hashable_of_save {after : Workbench} (hEnabled : bench.settings.writeCache = true)
    (hSave : bench.save project files report = .ok after) :
    Fingerprint.Hashable bench.scheme files := by
  rw [save_eq_ok_iff, if_pos hEnabled] at hSave
  obtain ⟨answer, hAnswer, _⟩ := hSave
  exact (Cache.save_eq_ok_iff.1 hAnswer).1

theorem exists_save_eq_ok (bench : Workbench)
    (hFiles : bench.settings.writeCache = true → Fingerprint.Hashable bench.scheme files)
    (project : String) (report : Report) :
    ∃ after, bench.save project files report = .ok after := by
  by_cases hEnabled : bench.settings.writeCache = true
  · obtain ⟨answer, hAnswer⟩ : ∃ answer, Cache.save bench.scheme bench.tree report project
        (some files) bench.now = .ok answer :=
      ⟨_, Cache.save_eq_ok_iff.2 ⟨hFiles hEnabled, rfl⟩⟩
    refine ⟨{ bench with tree := answer.1 }, save_eq_ok_iff.2 ?_⟩
    rw [if_pos hEnabled]
    exact ⟨answer, hAnswer, rfl⟩
  · exact ⟨bench, save_eq_ok_iff.2 (by rw [if_neg hEnabled])⟩

/-- The files of the inventory are analysed, and this is found. -/
structure Finds (bench : Workbench) (project : String) (exclude : List String)
    (inventory : Inventory) (report : Report) : Prop where
  taken : bench.inventory project exclude = .ok inventory
  files : 0 < inventory.kotlin.length + inventory.java.length
  report : report = Analysis.findings bench.extractors bench.tree inventory.kotlin inventory.java
    (some project)

theorem inventory_ne_document (failure : Cache.Failure) :
    bench.inventory project exclude ≠ .error (.document failure) := by
  rw [inventory]
  split
  · simp
  · intro hTaken
    obtain ⟨error, _, hError⟩ := mapError_eq_error hTaken
    cases hError

/-- A run ends with an error and changes nothing, or it keeps what it has found. Then saving decides
how it ends. -/
theorem run_ends (bench : Workbench) (project : String) (exclude : List String)
    (signal : Analysis.Signal) :
    (∃ error, (∀ failure, error ≠ .document failure) ∧
      (bench.run project exclude signal).result = .error error ∧
      (bench.run project exclude signal).bench = bench) ∨
    ∃ inventory report, Finds bench project exclude inventory report ∧
      ((∃ after, (bench.keep project report).save project inventory.all report = .ok after ∧
        (bench.run project exclude signal).result = .ok report ∧
        (bench.run project exclude signal).bench = after) ∨
      ∃ failure, (bench.keep project report).save project inventory.all report = .error failure ∧
        (bench.run project exclude signal).result = .error (.document failure) ∧
        (bench.run project exclude signal).bench = bench.keep project report) := by
  cases hTaken : bench.inventory project exclude with
  | error error =>
    refine .inl ⟨error, ?_, by simp [run, hTaken], by simp [run, hTaken]⟩
    rintro failure rfl
    exact inventory_ne_document failure hTaken
  | ok inventory =>
    cases hFound : (Analysis.outcome (Analysis.ofFiles .standard bench.extractors bench.tree
        inventory.kotlin inventory.java (some project)) signal).report with
    | none =>
      exact .inl ⟨.cancelled, by simp, by simp [run, hTaken, hFound], by simp [run, hTaken, hFound]⟩
    | some report =>
      cases hSuccess : report.success with
      | false =>
        exact .inl ⟨.analysis (report.errorMessage.getD ""), by simp,
          by simp [run, hTaken, hFound, hSuccess], by simp [run, hTaken, hFound, hSuccess]⟩
      | true =>
        obtain ⟨hFiles, hReport⟩ := Analysis.eq_findings_of_success _ _ _ hFound hSuccess
        refine .inr ⟨inventory, report, ⟨hTaken, hFiles, hReport⟩, ?_⟩
        cases hSave : (bench.keep project report).save project inventory.all report with
        | ok after =>
          exact .inl ⟨after, rfl, by simp [run, hTaken, hFound, hSuccess, hSave],
            by simp [run, hTaken, hFound, hSuccess, hSave]⟩
        | error failure =>
          exact .inr ⟨failure, rfl, by simp [run, hTaken, hFound, hSuccess, hSave],
            by simp [run, hTaken, hFound, hSuccess, hSave]⟩

/-- A run that is left alone finds what there is, and ends well if that can be saved. -/
theorem run_never {inventory : Inventory} (hFinds : Finds bench project exclude inventory report)
    (hHashable : bench.settings.writeCache = true →
      Fingerprint.Hashable bench.scheme inventory.all) :
    (bench.run project exclude .never).result = .ok report := by
  obtain ⟨hTaken, hFiles, hReport⟩ := hFinds
  obtain ⟨after, hSave⟩ :=
    exists_save_eq_ok (bench.keep project report) hHashable project report
  have hSuccess : report.success = true := by rw [hReport]; rfl
  have hNever := Analysis.report_never bench.extractors bench.tree (some project) hFiles
  rw [← hReport] at hNever
  simp [run, hTaken, hNever, hSuccess, hSave]

/-- How an analysis can end: with an error before anything is run, with the saved result, or with
what a run gives. -/
theorem analyze_ends (bench : Workbench) (project : String) (exclude : List String)
    (useSaved : Bool) :
    (∃ error, bench.analyze project exclude useSaved = (bench, .error error)) ∨
    bench.tree.isFolder (Path.ofString project) = true ∧
      ((∃ report, useSaved = true ∧ bench.saved? project exclude = .ok (some report) ∧
        bench.analyze project exclude useSaved = (bench.keep project report, .ok (true, report))) ∨
      bench.analyze project exclude useSaved =
        ((bench.run project exclude .never).bench,
          (bench.run project exclude .never).result.map fun report => (false, report))) := by
  rw [analyze]
  cases hFolder : bench.tree.isFolder (Path.ofString project) with
  | false => exact .inl ⟨_, rfl⟩
  | true =>
    simp only [Bool.not_true, Bool.false_eq_true, if_false]
    cases useSaved with
    | false => exact .inr ⟨trivial, .inr rfl⟩
    | true =>
      simp only [if_true]
      cases hSaved : bench.saved? project exclude with
      | error error => exact .inl ⟨error, rfl⟩
      | ok saved =>
        cases saved with
        | none => exact .inr ⟨trivial, .inr rfl⟩
        | some report => exact .inr ⟨trivial, .inl ⟨report, trivial, rfl, rfl⟩⟩

/-- An analysis of the files succeeds only in a folder with files, and if they can be hashed for a
document that is to be saved. -/
theorem finds_of_analyze_isOk (hOk : (bench.analyze project exclude false).2.isOk = true) :
    bench.tree.isFolder (Path.ofString project) = true ∧
      ∃ inventory report, Finds bench project exclude inventory report ∧
        (bench.settings.writeCache = true →
          Fingerprint.Hashable bench.scheme inventory.all) := by
  rcases analyze_ends bench project exclude false with
    ⟨error, hEnds⟩ | ⟨hFolder, ⟨saved, hUse, _⟩ | hEnds⟩
  · rw [hEnds] at hOk
    cases hOk
  · cases hUse
  · rw [hEnds] at hOk
    refine ⟨hFolder, ?_⟩
    rcases run_ends bench project exclude .never with
      ⟨error, _, hResult, _⟩ | ⟨inventory, report, hFinds,
        ⟨after, hSave, _⟩ | ⟨failure, _, hResult, _⟩⟩
    · rw [hResult] at hOk
      cases hOk
    · refine ⟨inventory, report, hFinds, fun hEnabled => ?_⟩
      have hKept : (bench.keep project report).settings.writeCache = true := hEnabled
      have hHashable := hashable_of_save hKept hSave
      exact hHashable
    · rw [hResult] at hOk
      cases hOk

/-- The saved result is looked for in a document that is not stale. -/
theorem saved?_eq {inventory : Inventory}
    (hTaken : bench.inventory project exclude = .ok inventory) :
    bench.saved? project exclude =
      match Cache.isStale bench.scheme bench.nesting bench.tree project inventory.all with
      | .error failure => .error (.document failure)
      | .ok true => .ok none
      | .ok false =>
        ((Cache.load? bench.nesting bench.fresh bench.tree project).mapError .document).map
          (·.filter (·.success)) := by
  cases hSeen : bench.tree.refusal? (Cache.documentPath project) with
  | some message =>
    rw [Cache.isStale_of_refused hSeen]
    simp only [saved?, Cache.isPresent, hSeen, bind, Except.bind, Except.mapError]
  | none =>
    cases hThere : bench.tree.exists? (Cache.documentPath project) with
    | false =>
      have hStale : Cache.isStale bench.scheme bench.nesting bench.tree project inventory.all =
          .ok true := by
        simp only [Cache.isStale, Cache.document?, Cache.isPresent, hSeen, hThere, bind,
          Except.bind]
        rfl
      rw [hStale]
      simp only [saved?, Cache.isPresent, hSeen, hThere, bind, Except.bind, Except.mapError]
      rfl
    | true =>
      simp only [saved?, Cache.isPresent, hSeen, hThere, hTaken, bind, Except.bind, Except.mapError,
        Bool.not_true, Bool.false_eq_true, if_false]
      cases Cache.isStale bench.scheme bench.nesting bench.tree project inventory.all with
      | error failure => rfl
      | ok stale =>
        cases stale with
        | true => rfl
        | false =>
          cases Cache.load? bench.nesting bench.fresh bench.tree project with
          | error failure => rfl
          | ok loaded => rfl

end Steps

end Workbench
end SensorFlow

import SensorFlow.Proofs.Analysis.Cancellation

/-!
# What an analysis finds

The standard stages cannot fail, so an analysis that is not cancelled has one possible report. It
depends on the contents of its files and on nothing else in the tree.
-/
namespace SensorFlow.Analysis
set_option autoImplicit false

/-- The report of an analysis of some files that goes through. -/
def findings (extractors : ExtractorRegistry) (tree : FileTree) (kotlin java : List String)
    (project : Option String) : Report :=
  let classes := classesOf extractors tree (ordered kotlin java)
  let entries := entryPoints classes
  let g := (SymbolTable.ofClasses classes).graph entries
  { success := true
    projectPath := project
    graph := some g
    flows := g.flows
    issues := issues (SymbolTable.ofClasses classes) g
    totalFiles := (kotlin.length + java.length : Nat)
    totalClasses := classes.length
    sensorCount := entries.length }

section Outcome

variable (extractors : ExtractorRegistry) (tree : FileTree) {kotlin java : List String}
  (project : Option String)

theorem courseOf_standard :
    courseOf .standard extractors tree kotlin java project =
      ⟨schedule (kotlin.length + java.length)
        ((SymbolTable.ofClasses (classesOf extractors tree (ordered kotlin java))).graph
          (entryPoints (classesOf extractors tree (ordered kotlin java)))).flowSteps,
        .ok (findings extractors tree kotlin java project)⟩ :=
  rfl

theorem report_never (hFiles : 0 < kotlin.length + java.length) :
    (outcome (ofFiles .standard extractors tree kotlin java project) .never).report =
      some (findings extractors tree kotlin java project) := by
  rw [ofFiles_eq_run _ _ _ hFiles, outcome_run_never, courseOf_standard]
  rfl

/-- A run that succeeds has files to analyse and reports its findings, however it is watched. -/
theorem eq_findings_of_success {signal : Signal} {report : Report}
    (hReport : (outcome (ofFiles .standard extractors tree kotlin java project) signal).report =
      some report) (hSuccess : report.success = true) :
    0 < kotlin.length + java.length ∧
      report = findings extractors tree kotlin java project := by
  rcases Nat.eq_zero_or_pos (kotlin.length + java.length) with hNone | hFiles
  · have hEmpty : ofFiles .standard extractors tree kotlin java project =
        Course.run ⟨[.reach 1 s!"Found {kotlin.length + java.length} source files"],
          .ok (Report.failure noSources none)⟩ := by
      simp only [ofFiles, if_pos hNone, Course.run, Watched.ofStage, play, Event.perform,
        bind_assoc, pure_bind]
    rw [hEmpty] at hReport
    rw [eq_reportOf_of_report hReport] at hSuccess
    cases hSuccess
  · rw [ofFiles_eq_run _ _ _ hFiles, courseOf_standard] at hReport
    exact ⟨hFiles, eq_reportOf_of_report hReport⟩

end Outcome

theorem findings_of_same_contents (extractors : ExtractorRegistry) {tree other : FileTree}
    {kotlin java : List String}
    (hContents : ∀ path, path ∈ kotlin ∨ path ∈ java →
      tree.content? (Path.ofString path) = other.content? (Path.ofString path))
    (project project' : Option String) :
    findings extractors tree kotlin java project =
      { findings extractors other kotlin java project' with projectPath := project } := by
  have hExtract {path language : String} (hPath : path ∈ kotlin ∨ path ∈ java) :
      extract extractors tree path language = extract extractors other path language := by
    have hText : tree.sourceText? path = other.sourceText? path := by
      rw [FileTree.sourceText?, hContents path hPath, ← FileTree.sourceText?]
    simp [extract, Extractor.extract, hText]
  have hClasses : classesOf extractors tree (ordered kotlin java) =
      classesOf extractors other (ordered kotlin java) := by
    refine List.flatMap_congr fun file hFile => hExtract ?_
    have hMem := (List.mergeSort_perm _ _).mem_iff.1 hFile
    simp only [List.mem_append, List.mem_map] at hMem
    rcases hMem with ⟨path, hPath, rfl⟩ | ⟨path, hPath, rfl⟩
    · exact .inr hPath
    · exact .inl hPath
  simp only [findings, hClasses]

end SensorFlow.Analysis

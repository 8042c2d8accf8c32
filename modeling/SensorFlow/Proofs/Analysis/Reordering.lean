import Mathlib.Data.List.Perm.Basic
import Mathlib.Data.List.Sort
import SensorFlow.Analysis.Run
import SensorFlow.Proofs.Symbol.Table

/-!
# The order of the sources

An analysis does not depend on the order in which sources are given. Files are put in order before
they are read, and of class descriptions only those of one class are ever compared by position.
-/
namespace SensorFlow
set_option autoImplicit false

/-- The same descriptions, with those of each class in the same order. -/
structure Reordered (left right : List ClassSymbol) : Prop where
  perm : left.Perm right
  order : ∀ name, (left.filter (·.qualifiedName = name)) = right.filter (·.qualifiedName = name)

theorem Reordered.swap {a b : ClassSymbol} (hApart : a.qualifiedName ≠ b.qualifiedName)
    (more : List ClassSymbol) : Reordered (a :: b :: more) (b :: a :: more) where
  perm := List.Perm.swap b a more
  order name := by
    by_cases hA : a.qualifiedName = name
    · have hB : b.qualifiedName ≠ name := fun hB => hApart (hA.trans hB.symm)
      simp [hA, hB]
    · simp [List.filter_cons, hA]

section Descriptions

theorem className_of_mem_entryPoints {c : ClassSymbol} {entry : EntryPoint}
    (h : entry ∈ c.entryPoints) : entry.className = c.qualifiedName := by
  obtain ⟨method, _, hEntry⟩ := List.mem_flatMap.1 h
  obtain ⟨sensor, _, rfl⟩ := List.mem_map.1 hEntry
  rfl

theorem filter_entryPoints (descriptions : List ClassSymbol) (name : String) :
    (entryPoints descriptions).filter (·.className == name) =
      entryPoints (descriptions.filter (·.qualifiedName = name)) := by
  induction descriptions with
  | nil => rfl
  | cons c descriptions ih =>
    rw [entryPoints, List.flatMap_cons, List.filter_append]
    by_cases hName : c.qualifiedName = name
    · have hAll : c.entryPoints.filter (·.className == name) = c.entryPoints := by
        refine List.filter_eq_self.2 ?_
        intro entry hEntry
        simpa [className_of_mem_entryPoints hEntry] using hName
      rw [hAll, List.filter_cons_of_pos (by simpa using hName)]
      exact congrArg (c.entryPoints ++ ·) ih
    · have hNone : c.entryPoints.filter (·.className == name) = [] := by
        refine List.filter_eq_nil_iff.2 ?_
        intro entry hEntry
        simpa [className_of_mem_entryPoints hEntry] using hName
      rw [hNone, List.filter_cons_of_neg (by simpa using hName)]
      exact ih

theorem graph_congr {left right : SymbolTable} {entries others : List EntryPoint}
    (hClasses : left.classes = right.classes)
    (hSensors : ∀ name, sensorsOf entries name = sensorsOf others name) :
    left.graph entries = right.graph others := by
  obtain ⟨classes, _⟩ := left
  obtain ⟨_, _⟩ := right
  cases hClasses
  have hSensors : sensorsOf entries = sensorsOf others := funext hSensors
  rw [SymbolTable.graph, SymbolTable.graph, hSensors]
  -- the record of declarations is nowhere read
  rfl

theorem issues_congr {left right : SymbolTable} (hClasses : left.classes = right.classes)
    (g : Graph) : issues left g = issues right g := by
  simp only [issues, unregisteredListeners, duplicateListeners, hClasses]

namespace Reordered
variable {left right : List ClassSymbol} (h : Reordered left right)
include h

theorem names_eq : SymbolTable.names left = SymbolTable.names right := by
  refine (SymbolTable.names_sorted left).eq_of_mem_iff (SymbolTable.names_sorted right) ?_
  intro name
  simp only [SymbolTable.mem_names, h.perm.mem_iff]

theorem classes_eq :
    (SymbolTable.ofClasses left).classes = (SymbolTable.ofClasses right).classes := by
  have hSurviving : SymbolTable.surviving? left = SymbolTable.surviving? right := by
    funext name
    rw [SymbolTable.surviving?_eq_getLast?, SymbolTable.surviving?_eq_getLast?, h.order]
  rw [SymbolTable.ofClasses, SymbolTable.ofClasses, h.names_eq, hSurviving]

theorem sensorsOf_eq (name : String) :
    sensorsOf (entryPoints left) name = sensorsOf (entryPoints right) name := by
  rw [sensorsOf, sensorsOf, filter_entryPoints, filter_entryPoints, h.order]

theorem graph_eq :
    (SymbolTable.ofClasses left).graph (entryPoints left) =
      (SymbolTable.ofClasses right).graph (entryPoints right) :=
  graph_congr h.classes_eq h.sensorsOf_eq

end Reordered
end Descriptions

namespace Analysis

section Files
variable {kotlin kotlin' java java' : List String}

theorem filter_map_path (paths : List String) (language path : String) :
    ((paths.map fun other => (other, language)).filter fun file => file.1 = path) =
      List.replicate (paths.count path) (path, language) := by
  calc
    _ = (paths.filter fun other => other = path).map fun other => (other, language) :=
      List.filter_map
    _ = (List.replicate (paths.count path) path).map fun other => (other, language) :=
      congrArg _ (List.filter_eq path)
    _ = List.replicate (paths.count path) (path, language) := List.map_replicate

theorem filter_ordered (kotlin java : List String) (path : String) :
    ((ordered kotlin java).filter fun file => file.1 = path) =
      List.replicate (java.count path) (path, "java") ++
        List.replicate (kotlin.count path) (path, "kotlin") := by
  refine (filter_mergeSort_key Prod.fst _ path).trans ?_
  rw [List.filter_append, filter_map_path, filter_map_path]

theorem ordered_eq_of_perm (hKotlin : kotlin.Perm kotlin') (hJava : java.Perm java') :
    ordered kotlin java = ordered kotlin' java' := by
  refine eq_of_filter_key_eq Prod.fst (mergeSort_key_sorted Prod.fst _)
    (mergeSort_key_sorted Prod.fst _) ?_
  -- for each path only the counts are left of the order in which files are given
  intro path
  rw [filter_ordered, filter_ordered, hKotlin.count_eq, hJava.count_eq]

theorem ofFiles_eq_of_perm (stages : Stages) (extractors : ExtractorRegistry) (tree : FileTree)
    (project : Option String) (hKotlin : kotlin.Perm kotlin') (hJava : java.Perm java') :
    ofFiles stages extractors tree kotlin java project =
      ofFiles stages extractors tree kotlin' java' project := by
  simp only [ofFiles, hKotlin.length_eq, hJava.length_eq, ordered_eq_of_perm hKotlin hJava]

end Files

/-- Descriptions of different classes may change places and files of one language may: the graph,
the flows and the issues stay, and so does every watched run. -/
theorem analysis_of_reordered {left right : List ClassSymbol} (h : Reordered left right) :
    (entryPoints left).Perm (entryPoints right) ∧
      (SymbolTable.ofClasses left).graph (entryPoints left) =
        (SymbolTable.ofClasses right).graph (entryPoints right) ∧
      ((SymbolTable.ofClasses left).graph (entryPoints left)).flows =
        ((SymbolTable.ofClasses right).graph (entryPoints right)).flows ∧
      issues (SymbolTable.ofClasses left)
          ((SymbolTable.ofClasses left).graph (entryPoints left)) =
        issues (SymbolTable.ofClasses right)
          ((SymbolTable.ofClasses right).graph (entryPoints right)) ∧
      ∀ (stages : Stages) (extractors : ExtractorRegistry) (tree : FileTree)
        (project : Option String) {kotlin kotlin' java java' : List String},
        kotlin.Perm kotlin' → java.Perm java' →
          ofFiles stages extractors tree kotlin java project =
            ofFiles stages extractors tree kotlin' java' project := by
  refine ⟨h.perm.flatMap_right _, h.graph_eq, congrArg Graph.flows h.graph_eq, ?_, ?_⟩
  · rw [h.graph_eq]
    exact issues_congr h.classes_eq _
  · intro stages extractors tree project kotlin kotlin' java java' hKotlin hJava
    exact ofFiles_eq_of_perm stages extractors tree project hKotlin hJava

theorem analysis_of_reordered_listener :
    let screen : ClassSymbol :=
      { name := "Screen"
        qualifiedName := "app.Screen"
        filePath := "/p/Screen.kt"
        packageName := "app"
        isActivity := true }
    let listener : ClassSymbol :=
      { name := "Listener"
        qualifiedName := "app.Listener"
        filePath := "/p/Listener.kt"
        packageName := "app"
        methods := [{ name := "onSensorChanged"
                      qualifiedName := "app.Listener.onSensorChanged"
                      returnType := "Unit"
                      line := 3 }] }
    let plain : ClassSymbol := { listener with methods := [] }
    screen.qualifiedName ≠ listener.qualifiedName ∧
      ["/p/b.kt", "/p/a.kt"].Perm ["/p/a.kt", "/p/b.kt"] ∧
      (SymbolTable.ofClasses [screen, listener, plain]).graph
          (entryPoints [screen, listener, plain]) =
        (SymbolTable.ofClasses [listener, screen, plain]).graph
          (entryPoints [listener, screen, plain]) ∧
      ofFiles .standard {} {} ["/p/b.kt", "/p/a.kt"] [] none =
        ofFiles .standard {} {} ["/p/a.kt", "/p/b.kt"] [] none := by
  intro screen listener plain
  have hApart : screen.qualifiedName ≠ listener.qualifiedName := by decide
  have hFiles : ["/p/b.kt", "/p/a.kt"].Perm ["/p/a.kt", "/p/b.kt"] := List.Perm.swap _ _ []
  obtain ⟨_, hGraph, _, _, hRun⟩ := analysis_of_reordered (Reordered.swap hApart [plain])
  exact ⟨hApart, hFiles, hGraph, hRun .standard {} {} none hFiles (List.Perm.refl _)⟩

end Analysis
end SensorFlow

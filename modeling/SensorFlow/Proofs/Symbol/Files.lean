import SensorFlow.Proofs.Symbol.Table

/-!
# The classes of a file

A table remembers every description of a file by its name and looks the names up when the file is
asked for. So a file lists one class for each of its descriptions, the one that survives of that
name: a name that is described again is listed again, and a class that a later file describes anew
is listed as that file has it.
-/
namespace SensorFlow.SymbolTable
set_option autoImplicit false

variable {descriptions : List ClassSymbol} {path : String}

theorem get?_ofClasses (descriptions : List ClassSymbol) (name : String) :
    (ofClasses descriptions).get? name = surviving? descriptions name := by
  cases hFound : surviving? descriptions name with
  | none =>
    refine List.find?_eq_none.2 ?_
    intro c hMem hName
    have hSurvives := surviving?_eq_some_iff.2 ⟨beq_iff_eq.1 hName, mem_classes_iff.1 hMem⟩
    rw [hFound] at hSurvives
    cases hSurvives
  | some c =>
    obtain ⟨hName, hSurvives⟩ := surviving?_eq_some_iff.1 hFound
    have hMem := mem_classes_iff.2 hSurvives
    have hSome : ((ofClasses descriptions).get? name).isSome :=
      List.find?_isSome.2 ⟨c, hMem, beq_iff_eq.2 hName⟩
    obtain ⟨found, hGet⟩ := Option.isSome_iff_exists.1 hSome
    have hFoundName : found.qualifiedName = name := by simpa using List.find?_some hGet
    rw [hGet, eq_of_qualifiedName_eq (List.mem_of_find?_eq_some hGet) hMem
      (hFoundName.trans hName.symm)]

theorem classesIn_ofClasses (descriptions : List ClassSymbol) (path : String) :
    (ofClasses descriptions).classesIn path =
      (descriptions.filter (·.filePath = path)).filterMap fun c =>
        surviving? descriptions c.qualifiedName := by
  have hNames : (ofClasses descriptions).namesIn path =
      (descriptions.filter (·.filePath = path)).map (·.qualifiedName) := by
    rw [namesIn, ofClasses, List.filterMap_map, ← List.filterMap_eq_map, List.filterMap_filter]
    refine List.filterMap_congr ?_
    intro c _
    by_cases hPath : c.filePath = path <;> simp [hPath]
  rw [classesIn, hNames, List.filterMap_map]
  refine List.filterMap_congr ?_
  intro c _
  exact get?_ofClasses descriptions c.qualifiedName

theorem exists_surviving_of_mem {c : ClassSymbol} (hMem : c ∈ descriptions) :
    ∃ last, surviving? descriptions c.qualifiedName = some last ∧
      last.qualifiedName = c.qualifiedName ∧ Survives descriptions last := by
  obtain ⟨last, hLast⟩ := exists_surviving (mem_names.2 ⟨c, hMem, rfl⟩)
  exact ⟨last, hLast, surviving?_eq_some_iff.1 hLast⟩

theorem surviving?_append {before later : List ClassSymbol} {c : ClassSymbol} {name : String}
    (hLater : surviving? later name = some c) : surviving? (before ++ later) name = some c := by
  rw [surviving?, List.reverse_append, List.find?_append, ← surviving?, hLater]
  rfl

/-- The file lists the surviving classes that lie in it, each once. -/
structure ListsOwn (descriptions : List ClassSymbol) (path : String) : Prop where
  nodup : ((ofClasses descriptions).classesIn path).Nodup
  mem_iff : ∀ c, c ∈ (ofClasses descriptions).classesIn path ↔
    Survives descriptions c ∧ c.filePath = path

/-- No class that the file describes is described again, be it in this file or in another one. -/
def DescribedLast (descriptions : List ClassSymbol) (path : String) : Prop :=
  descriptions.Pairwise fun c later => c.filePath = path → later.qualifiedName ≠ c.qualifiedName

namespace DescribedLast

theorem survives (hLast : DescribedLast descriptions path) {c : ClassSymbol}
    (hMem : c ∈ descriptions) (hPath : c.filePath = path) : Survives descriptions c := by
  obtain ⟨before, later, rfl⟩ := List.append_of_mem hMem
  have hBehind := (List.pairwise_append.1 hLast).2.1
  exact ⟨before, later, rfl, fun other hOther => List.rel_of_pairwise_cons hBehind hOther hPath⟩

theorem classesIn_eq (hLast : DescribedLast descriptions path) :
    (ofClasses descriptions).classesIn path = descriptions.filter (·.filePath = path) := by
  rw [classesIn_ofClasses]
  refine (List.filterMap_congr ?_).trans List.filterMap_some
  intro c hMem
  obtain ⟨hMem, hPath⟩ := List.mem_filter.1 hMem
  exact surviving?_eq_some_iff.2 ⟨rfl, hLast.survives hMem (of_decide_eq_true hPath)⟩

theorem listsOwn (hLast : DescribedLast descriptions path) : ListsOwn descriptions path where
  nodup := by
    rw [hLast.classesIn_eq]
    refine (List.Pairwise.filter _ hLast).imp_of_mem ?_
    rintro c other hMem _ hApart rfl
    exact hApart (of_decide_eq_true (List.mem_filter.1 hMem).2) rfl
  mem_iff c := by
    rw [hLast.classesIn_eq, List.mem_filter, decide_eq_true_eq]
    constructor
    · rintro ⟨hMem, hPath⟩
      exact ⟨hLast.survives hMem hPath, hPath⟩
    · rintro ⟨⟨before, later, rfl, _⟩, hPath⟩
      exact ⟨by simp, hPath⟩

end DescribedLast

theorem ListsOwn.describedLast (hOwn : ListsOwn descriptions path) :
    DescribedLast descriptions path := by
  refine List.pairwise_iff_forall_sublist.2 ?_
  intro c other hOrder hPath hName
  obtain ⟨before, later, rfl, hBefore, hLater⟩ := List.cons_sublist_iff.1 hOrder
  obtain ⟨last, hLast, _, hSurvives⟩ := exists_surviving_of_mem (List.singleton_sublist.1 hLater)
  have hMem : last ∈ later := by
    obtain ⟨_, _, rfl, _⟩ := hSurvives
    simp
  have hListed {d : ClassSymbol} {part : List ClassSymbol} (hPart : d ∈ part)
      (hFile : d.filePath = path) (hSame : d.qualifiedName = other.qualifiedName) :
      last ∈ (part.filter (·.filePath = path)).filterMap fun c =>
        surviving? (before ++ later) c.qualifiedName := by
    refine List.mem_filterMap.2 ⟨d, List.mem_filter.2 ⟨hPart, decide_eq_true hFile⟩, ?_⟩
    rw [hSame]
    exact surviving?_append hLast
  have hFirst := hListed hBefore hPath hName.symm
  -- the survivor lies in the file as well, so the file would list it for `c` and for itself
  obtain ⟨hNodup, hIff⟩ := hOwn
  rw [classesIn_ofClasses, List.filter_append, List.filterMap_append] at hNodup hIff
  have hFile := ((hIff last).1 (List.mem_append_left _ hFirst)).2
  have hSecond := hListed hMem hFile (surviving?_eq_some_iff.1 hLast).1
  exact List.disjoint_of_nodup_append hNodup hFirst hSecond

/-- For each description of a file it lists the last description of the same class, in their order.
So it lists the surviving classes that lie in it, each once, exactly if no class that it describes
is described again. -/
theorem file_lists_last_descriptions (descriptions : List ClassSymbol) (path : String) :
    ((ofClasses descriptions).classesIn path).map some =
      ((descriptions.filter (·.filePath = path)).map fun c =>
        (descriptions.filter (·.qualifiedName = c.qualifiedName)).getLast?) ∧
    (ListsOwn descriptions path ↔ DescribedLast descriptions path) := by
  refine ⟨?_, ListsOwn.describedLast, DescribedLast.listsOwn⟩
  rw [classesIn_ofClasses, List.map_filterMap_some_eq_filter_map_isSome]
  simp only [surviving?_eq_getLast?]
  refine List.filter_eq_self.2 ?_
  intro last hLast
  obtain ⟨c, hMem, rfl⟩ := List.mem_map.1 hLast
  obtain ⟨last, hLast, _⟩ := exists_surviving_of_mem (List.mem_of_mem_filter hMem)
  rw [← surviving?_eq_getLast?, hLast]
  rfl

/-- Described in two files, a class is listed in the earlier one as the later one has it; described
twice in one file, it is listed there twice. -/
theorem redescribed_class_listed :
    let first : ClassSymbol :=
      { name := "Dup", qualifiedName := "app.Dup", filePath := "one/Dup.kt", packageName := "app" }
    let second : ClassSymbol := { first with filePath := "two/Dup.kt" }
    (ofClasses [first, second]).classesIn "one/Dup.kt" = [second] ∧
      ¬ListsOwn [first, second] "one/Dup.kt" ∧
      (ofClasses [first, first]).classesIn "one/Dup.kt" = [first, first] ∧
      ¬ListsOwn [first, first] "one/Dup.kt" := by
  intro first second
  have hOther : (ofClasses [first, second]).classesIn "one/Dup.kt" = [second] := by
    rw [classesIn_ofClasses]
    decide
  have hTwice : (ofClasses [first, first]).classesIn "one/Dup.kt" = [first, first] := by
    rw [classesIn_ofClasses]
    decide
  refine ⟨hOther, ?_, hTwice, ?_⟩
  · intro hOwn
    have hFile := ((hOwn.mem_iff second).1 (by simp [hOther])).2
    revert hFile
    decide
  · intro hOwn
    have hNodup := hOwn.nodup
    rw [hTwice] at hNodup
    simp at hNodup

end SensorFlow.SymbolTable

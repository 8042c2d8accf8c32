import Mathlib.Data.List.Perm.Basic
import SensorFlow.File.Inventory
import SensorFlow.Proofs.File.Regular
import SensorFlow.Proofs.Order
import SensorFlow.Proofs.Store.Fingerprint

/-!
# What an inventory depends on

The inventory of a folder lists files that are there, each with the language that its path tells.
It is settled by the source files that can be listed and by the ignore file, if the matcher looks
at nothing else: whatever else changes, the inventory stays the same.
-/
namespace SensorFlow
open FileTree Text
set_option autoImplicit false

section Filter

variable {α ε : Type} {test : α → Except ε Bool} {items : List α}

theorem filterAuxM_eq_ok {keep : α → Bool} (hKeep : ∀ item ∈ items, test item = .ok (keep item))
    (taken : List α) :
    items.filterAuxM test taken = .ok ((items.filter keep).reverse ++ taken) := by
  induction items generalizing taken with
  | nil => rfl
  | cons item items ih =>
    rw [List.filterAuxM, hKeep item List.mem_cons_self]
    change items.filterAuxM test (cond (keep item) (item :: taken) taken) = _
    rw [ih fun other hOther => hKeep other (List.mem_cons_of_mem _ hOther)]
    cases hItem : keep item with
    | true => simp [hItem]
    | false => simp [hItem]

theorem exists_of_filterAuxM {taken kept : List α}
    (hKept : items.filterAuxM test taken = .ok kept) :
    ∀ item ∈ items, ∃ keep, test item = .ok keep := by
  induction items generalizing taken with
  | nil => simp
  | cons item items ih =>
    rw [List.filterAuxM] at hKept
    cases hTest : test item with
    | error error =>
      rw [hTest] at hKept
      cases hKept
    | ok keep =>
      rw [hTest] at hKept
      intro other hOther
      rcases List.mem_cons.1 hOther with rfl | hOther
      · exact ⟨keep, hTest⟩
      · exact ih hKept other hOther

/-- A filter whose test may fail keeps what an ordinary one keeps, if no test fails. -/
theorem filterM_eq_ok_iff {kept : List α} :
    items.filterM test = .ok kept ↔
      ∃ keep : α → Bool, (∀ item ∈ items, test item = .ok (keep item)) ∧
        kept = items.filter keep := by
  have hFilter {keep : α → Bool} (hKeep : ∀ item ∈ items, test item = .ok (keep item)) :
      items.filterM test = .ok (items.filter keep) := by
    rw [List.filterM, filterAuxM_eq_ok hKeep]
    simp [bind, Except.bind, pure, Except.pure]
  constructor
  · intro hKept
    have hAux : ∃ taken, items.filterAuxM test [] = .ok taken := by
      cases hAux : items.filterAuxM test [] with
      | ok taken => exact ⟨taken, rfl⟩
      | error error =>
        rw [List.filterM, hAux] at hKept
        cases hKept
    obtain ⟨taken, hAux⟩ := hAux
    have hTests := exists_of_filterAuxM hAux
    have hKeep : ∀ item ∈ items, test item = .ok ((test item).toOption.getD false) := by
      intro item hItem
      obtain ⟨keep, hTest⟩ := hTests item hItem
      rw [hTest]
      rfl
    refine ⟨_, hKeep, ?_⟩
    rw [hFilter hKeep] at hKept
    exact (Except.ok.inj hKept).symm
  · rintro ⟨keep, hKeep, rfl⟩
    exact hFilter hKeep

end Filter

theorem LanguageRegistry.detect?_pathOf_append (registry : LanguageRegistry) (outer : Location)
    {inner : Location} (hInner : inner ≠ []) :
    registry.detect? (pathOf (outer ++ inner)) = registry.detect? (pathOf inner) := by
  simp [detect?, Path.suffix, Path.name, pathOf, List.getLast?_append_of_ne_nil outer hInner]

namespace Inventory

/-- The place, seen from the project folder, where a source file is listed if there is one. -/
structure IsListed (place : Location) : Prop where
  inside : place ≠ []
  shown : place.any isSkipped = false
  source : (LanguageRegistry.standard.detect? (pathOf place)).isSome

theorem eq_of_below {root location place : Location} {entry found : Entry}
    (hBelow : (if root.isPrefixOf location && location != root then
      some (location.drop root.length, entry) else none) = some (place, found)) :
    location = root ++ place ∧ place ≠ [] ∧ entry = found := by
  split at hBelow
  · next hInside =>
    rw [Bool.and_eq_true, List.isPrefixOf_iff_prefix, bne_iff_ne] at hInside
    obtain ⟨⟨rest, rfl⟩, hNe⟩ := hInside
    rw [List.drop_left, Option.some.injEq, Prod.mk.injEq] at hBelow
    obtain ⟨rfl, rfl⟩ := hBelow
    exact ⟨rfl, by rintro rfl; simp at hNe, rfl⟩
  · cases hBelow

theorem mem_below_iff (tree : FileTree) (root place : Location) (entry : Entry) :
    (place, entry) ∈ tree.below root ↔ place ≠ [] ∧ (root ++ place, entry) ∈ tree.entries := by
  rw [below, List.mem_filterMap]
  constructor
  · rintro ⟨⟨location, found⟩, hMem, hBelow⟩
    obtain ⟨rfl, hPlace, rfl⟩ := eq_of_below hBelow
    exact ⟨hPlace, hMem⟩
  · rintro ⟨hPlace, hMem⟩
    refine ⟨(root ++ place, entry), hMem, ?_⟩
    simp [hPlace]

theorem mem_candidates_iff {tree : FileTree} (hRegular : tree.Regular) (root place : Location)
    (language : Language) :
    (place, language) ∈ candidates tree .standard root ↔
      IsListed place ∧ (∃ content, tree.at? (root ++ place) = some (.file content)) ∧
        LanguageRegistry.standard.detect? (pathOf place) = some language := by
  rw [candidates, List.mem_filterMap]
  constructor
  · rintro ⟨⟨found, entry⟩, hBelow, hFound⟩
    obtain ⟨hInside, hEntry⟩ := (mem_below_iff _ _ _ _).1 hBelow
    dsimp only at hFound
    split at hFound
    · cases hFound
    · next hShown =>
      rw [Bool.or_eq_true, not_or, Bool.not_eq_true, beq_iff_eq] at hShown
      obtain ⟨detected, hDetect, hSame⟩ := Option.map_eq_some_iff.1 hFound
      obtain ⟨rfl, rfl⟩ := Prod.mk.inj hSame
      refine ⟨⟨hInside, hShown.1, by simp [hDetect]⟩, ?_, hDetect⟩
      have hThere := (hRegular.mem_entries_iff (by simp [hInside]) entry).1 hEntry
      cases entry with
      | folder => exact absurd rfl hShown.2
      | file content => exact ⟨content, hThere⟩
  · rintro ⟨hListed, ⟨content, hFile⟩, hDetect⟩
    have hEntry := (hRegular.mem_entries_iff (by simp [hListed.inside]) _).2 hFile
    refine ⟨(place, .file content), (mem_below_iff _ _ _ _).2 ⟨hListed.inside, hEntry⟩, ?_⟩
    simp [hListed.shown, hDetect]

theorem nodup_candidates {tree : FileTree} (hRegular : tree.Regular) (root : Location) :
    (candidates tree .standard root).Nodup := by
  have hEntries : tree.entries.Pairwise fun first second => first.1 ≠ second.1 :=
    List.pairwise_map.1 hRegular.once
  have hBelow : (tree.below root).Pairwise fun first second => first.1 ≠ second.1 := by
    rw [below, List.pairwise_filterMap]
    refine hEntries.imp ?_
    rintro ⟨location, entry⟩ ⟨other, otherEntry⟩ hApart ⟨place, found⟩ hPlace ⟨otherPlace, _⟩ hOther
    rw [(eq_of_below hPlace).1, (eq_of_below hOther).1] at hApart
    exact fun hSame => hApart (congrArg (root ++ ·) hSame)
  refine List.Nodup.of_map Prod.fst (List.pairwise_map.2 (List.pairwise_filterMap.2 ?_))
  refine hBelow.imp ?_
  intro first second hApart found hFound other hOther
  have hPlace {item : Location × Entry} {candidate : Location × Language}
      (hItem : (if item.1.any isSkipped || item.2 == .folder then none
        else (LanguageRegistry.standard.detect? (pathOf item.1)).map fun language =>
          (item.1, language)) = some candidate) : candidate.1 = item.1 := by
    split at hItem
    · cases hItem
    · obtain ⟨language, _, rfl⟩ := Option.map_eq_some_iff.1 hItem
      rfl
  rw [hPlace hFound, hPlace hOther]
  exact hApart

theorem sorted_eq_of_perm {texts others : List String} (hPerm : texts.Perm others) :
    sorted texts = sorted others := by
  refine List.Perm.eq_of_pairwise (fun a b _ _ hLe hGe => le_antisymm hLe hGe)
    (mergeSort_key_sorted id texts) (mergeSort_key_sorted id others) ?_
  exact (sorted_perm texts).trans (hPerm.trans (sorted_perm others).symm)

def ofCandidates (root : Location) (files : List (Location × Language)) : Inventory where
  kotlin := pathsOf root "kotlin" files
  java := pathsOf root "java" files

theorem ofCandidates_of_perm (root : Location) {files others : List (Location × Language)}
    (hPerm : files.Perm others) : ofCandidates root files = ofCandidates root others := by
  have hPaths (name : String) : pathsOf root name files = pathsOf root name others :=
    sorted_eq_of_perm ((hPerm.filter _).map _)
  rw [ofCandidates, hPaths, hPaths, ← ofCandidates]

/-- The test that keeps a candidate in the inventory. -/
def isKept (matcher : Matcher) (tree : FileTree) (selection : Selection) (root : Location)
    (file : Location × Language) : Except InventoryError Bool :=
  (isLeftOut (if selection.followIgnoreRules then matcher tree root file.1 else .ok false)
    (selection.exclude.filter (· != "")) (pathOf (root ++ file.1))).map (!·)

theorem take_eq_ok_iff (matcher : Matcher) (tree : FileTree) (selection : Selection)
    (project : String) (inventory : Inventory) {root : Location}
    (hRoot : tree.resolve (Path.ofString project) = root) :
    take matcher tree .standard selection project = .ok inventory ↔
      if tree.isFolderAt root then
        ∃ keep : Location × Language → Bool,
          (∀ file ∈ candidates tree .standard root,
            isKept matcher tree selection root file = .ok (keep file)) ∧
          inventory = ofCandidates root ((candidates tree .standard root).filter keep)
      else inventory = {} := by
  have hFilter : take matcher tree .standard selection project =
      if tree.isFolderAt root then
        ((candidates tree .standard root).filterM (isKept matcher tree selection root)).map
          (ofCandidates root)
      else .ok {} := by
    rw [take, hRoot]
    cases tree.isFolderAt root with
    | true => rfl
    | false => rfl
  rw [hFilter]
  split
  · constructor
    · intro hTake
      cases hKept : (candidates tree .standard root).filterM
          (isKept matcher tree selection root) with
      | error error =>
        rw [hKept] at hTake
        cases hTake
      | ok files =>
        rw [hKept] at hTake
        obtain ⟨keep, hKeep, rfl⟩ := filterM_eq_ok_iff.1 hKept
        exact ⟨keep, hKeep, (Except.ok.inj hTake).symm⟩
    · rintro ⟨keep, hKeep, rfl⟩
      rw [filterM_eq_ok_iff.2 ⟨keep, hKeep, rfl⟩]
      rfl
  · rw [Except.ok.injEq]
    exact eq_comm

/-- The ignore file of the folder is the same, if there is one. -/
def SameIgnoreFile (root : Location) (before after : FileTree) : Prop :=
  ∀ content, after.at? (root ++ [".gitignore"]) = some (.file content) ↔
    before.at? (root ++ [".gitignore"]) = some (.file content)

/-- What is ignored below a folder is settled by its ignore file. -/
def Matcher.SettledByIgnoreFile (matcher : Matcher) : Prop :=
  ∀ root before after, SameIgnoreFile root before after → matcher after root = matcher before root

theorem settledByIgnoreFile_byRules : Matcher.SettledByIgnoreFile byRules := by
  intro root before after hSame
  have hRules : rulesIn after root = rulesIn before root := by
    by_cases hThere : ∃ content, before.at? (root ++ [".gitignore"]) = some (.file content)
    · obtain ⟨content, hBefore⟩ := hThere
      rw [rulesIn, rulesIn, hBefore, (hSame content).2 hBefore]
    · have hNone {tree : FileTree}
          (hNo : ∀ content, tree.at? (root ++ [".gitignore"]) ≠ some (.file content)) :
          rulesIn tree root = [] := by
        rw [rulesIn]
        split
        · next content hFile => exact absurd hFile (hNo content)
        · rfl
      rw [hNone fun content hFile => hThere ⟨content, hFile⟩,
        hNone fun content hFile => hThere ⟨content, (hSame content).1 hFile⟩]
  funext place
  rw [byRules, hRules, ← byRules]

/-- The source files that can be listed and the ignore file are the same. -/
structure SameSources (root : Location) (before after : FileTree) : Prop where
  sources : ∀ place, IsListed place → ∀ content,
    after.at? (root ++ place) = some (.file content) ↔
      before.at? (root ++ place) = some (.file content)
  rules : SameIgnoreFile root before after

namespace SameSources

variable {root : Location} {before after : FileTree}

theorem candidates_perm (hSame : SameSources root before after) (hBefore : before.Regular)
    (hAfter : after.Regular) :
    (candidates after .standard root).Perm (candidates before .standard root) := by
  -- the trees may list their entries in different orders
  refine (List.perm_ext_iff_of_nodup (nodup_candidates hAfter root)
    (nodup_candidates hBefore root)).2 ?_
  rintro ⟨place, language⟩
  rw [mem_candidates_iff hAfter, mem_candidates_iff hBefore]
  refine and_congr_right fun hListed => and_congr_left fun _ => exists_congr fun content => ?_
  exact hSame.sources place hListed content

theorem refl (root : Location) (tree : FileTree) : SameSources root tree tree :=
  ⟨fun _ _ _ => .rfl, fun _ => .rfl⟩

theorem trans {last : FileTree} (hFirst : SameSources root before after)
    (hSecond : SameSources root after last) : SameSources root before last where
  sources place hListed content :=
    (hSecond.sources place hListed content).trans (hFirst.sources place hListed content)
  rules content := (hSecond.rules content).trans (hFirst.rules content)

end SameSources

/-- An inventory stays the same as long as the sources do. -/
theorem take_of_sameSources {matcher : Matcher} (hMatcher : matcher.SettledByIgnoreFile)
    {before after : FileTree} (hBefore : before.Regular) (hAfter : after.Regular)
    {project : String} {root : Location} (hRoot : before.resolve (Path.ofString project) = root)
    (hRootAfter : after.resolve (Path.ofString project) = root)
    (hFolder : before.at? root = some .folder) (hFolderAfter : after.at? root = some .folder)
    (hSame : SameSources root before after) {selection : Selection} {inventory : Inventory}
    (hTake : take matcher before .standard selection project = .ok inventory) :
    take matcher after .standard selection project = .ok inventory := by
  rw [take_eq_ok_iff _ _ _ _ _ hRoot, if_pos ((isFolderAt_iff _ _).2 hFolder)] at hTake
  rw [take_eq_ok_iff _ _ _ _ _ hRootAfter, if_pos ((isFolderAt_iff _ _).2 hFolderAfter)]
  obtain ⟨keep, hKeep, rfl⟩ := hTake
  have hPerm := hSame.candidates_perm hBefore hAfter
  refine ⟨keep, ?_, (ofCandidates_of_perm _ (hPerm.filter keep)).symm⟩
  intro file hFile
  rw [isKept, hMatcher root before after hSame.rules, ← isKept]
  exact hKeep file (hPerm.mem_iff.1 hFile)

/-- No source file of the tree holds a zero byte. -/
def SourcesZeroFree (tree : FileTree) : Prop :=
  ∀ location content, tree.at? location = some (.file content) →
    (LanguageRegistry.standard.detect? (pathOf location)).isSome → 0 ∉ content

def languageOf (path : String) : Option String :=
  (LanguageRegistry.standard.detect? (Path.ofString path)).map (·.name)

/-- The inventory lists files of the tree, by language and in order. -/
structure Accurate (tree : FileTree) (inventory : Inventory) : Prop where
  kotlin : ∀ path ∈ inventory.kotlin, languageOf path = some "kotlin"
  java : ∀ path ∈ inventory.java, languageOf path = some "java"
  kotlinSorted : inventory.kotlin.Pairwise (· ≤ ·)
  javaSorted : inventory.java.Pairwise (· ≤ ·)
  readable : ∀ path ∈ inventory.all, ∃ content, tree.contentNamed? path = some content ∧
    tree.content? (Path.ofString path) = some content
  zeroFree : ∀ path ∈ inventory.all, Fingerprint.ZeroFree tree path

theorem mem_all_iff (inventory : Inventory) (path : String) :
    path ∈ inventory.all ↔ path ∈ inventory.kotlin ∨ path ∈ inventory.java := by
  rw [all, (sorted_perm _).mem_iff, List.mem_append]

theorem exists_of_mem_pathsOf {root : Location} {name : String} {files : List (Location × Language)}
    {path : String} (hPath : path ∈ pathsOf root name files) :
    ∃ place language, (place, language) ∈ files ∧ language.name = name ∧
      (pathOf (root ++ place)).toString = path := by
  obtain ⟨⟨place, language⟩, hFile, rfl⟩ :=
    List.mem_map.1 ((sorted_perm _).mem_iff.1 hPath)
  obtain ⟨hMem, hName⟩ := List.mem_filter.1 hFile
  exact ⟨place, language, hMem, by simpa using hName, rfl⟩

theorem exists_of_mem_all {root : Location} {files : List (Location × Language)} {path : String}
    (hPath : path ∈ (ofCandidates root files).all) :
    ∃ place language, (place, language) ∈ files ∧ (pathOf (root ++ place)).toString = path := by
  rcases (mem_all_iff _ _).1 hPath with hPath | hPath
  all_goals
    obtain ⟨place, language, hMem, _, rfl⟩ := exists_of_mem_pathsOf hPath
    exact ⟨place, language, hMem, rfl⟩

section Candidate

variable {tree : FileTree} {root place : Location} {language : Language}

theorem exists_content_of_candidate (hRegular : tree.Regular) (hText : SourcesZeroFree tree)
    (hCandidate : (place, language) ∈ candidates tree .standard root) :
    ∃ content, tree.contentNamed? (pathOf (root ++ place)).toString = some content ∧
      tree.content? (Path.ofString (pathOf (root ++ place)).toString) = some content ∧
      0 ∉ content ∧ 0 ∉ Utf8.encode (pathOf (root ++ place)).toString.toList := by
  obtain ⟨hListed, ⟨content, hFile⟩, _⟩ := (mem_candidates_iff hRegular _ _ _).1 hCandidate
  have hLocation : root ++ place ≠ [] := by simp [hListed.inside]
  have hNames := hRegular.names (root ++ place) (by simp [hFile])
  have hContent := hRegular.content?_pathOf hFile
  refine ⟨content, ?_, ?_, ?_, zero_notMem_pathOf hLocation hNames⟩
  · rw [contentNamed?_pathOf tree hLocation hNames, hContent]
  · rw [ofString_pathOf hLocation hNames, hContent]
  · refine hText _ content hFile ?_
    rw [LanguageRegistry.detect?_pathOf_append _ _ hListed.inside]
    exact hListed.source

theorem languageOf_candidate (hRegular : tree.Regular)
    (hCandidate : (place, language) ∈ candidates tree .standard root) :
    languageOf (pathOf (root ++ place)).toString = some language.name := by
  obtain ⟨hListed, ⟨content, hFile⟩, hDetect⟩ := (mem_candidates_iff hRegular _ _ _).1 hCandidate
  have hNames := hRegular.names (root ++ place) (by simp [hFile])
  rw [languageOf, ofString_pathOf (by simp [hListed.inside]) hNames,
    LanguageRegistry.detect?_pathOf_append _ _ hListed.inside, hDetect, Option.map_some]

end Candidate

theorem accurate_ofCandidates {tree : FileTree} (hRegular : tree.Regular)
    (hText : SourcesZeroFree tree) {root : Location} {files : List (Location × Language)}
    (hFiles : ∀ file ∈ files, file ∈ candidates tree .standard root) :
    Accurate tree (ofCandidates root files) := by
  have hLanguage {name path : String} (hPath : path ∈ pathsOf root name files) :
      languageOf path = some name := by
    obtain ⟨place, language, hMem, rfl, rfl⟩ := exists_of_mem_pathsOf hPath
    exact languageOf_candidate hRegular (hFiles _ hMem)
  have hAll {path : String} (hPath : path ∈ (ofCandidates root files).all) :
      ∃ content, tree.contentNamed? path = some content ∧
        tree.content? (Path.ofString path) = some content ∧ 0 ∉ content ∧
        0 ∉ Utf8.encode path.toList := by
    obtain ⟨place, language, hMem, rfl⟩ := exists_of_mem_all hPath
    exact exists_content_of_candidate hRegular hText (hFiles _ hMem)
  refine ⟨fun _ => hLanguage, fun _ => hLanguage, mergeSort_key_sorted id _,
    mergeSort_key_sorted id _, ?_, ?_⟩
  · intro path hPath
    obtain ⟨content, hNamed, hContent, _⟩ := hAll hPath
    exact ⟨content, hNamed, hContent⟩
  · intro path hPath
    obtain ⟨content, hNamed, _, hZero, hName⟩ := hAll hPath
    exact ⟨hName, by rw [hNamed]; exact hZero⟩

theorem accurate_of_take {tree : FileTree} (hRegular : tree.Regular) (hText : SourcesZeroFree tree)
    {matcher : Matcher} {selection : Selection} {project : String} {inventory : Inventory}
    (hTake : take matcher tree .standard selection project = .ok inventory) :
    Accurate tree inventory := by
  rw [take_eq_ok_iff _ _ _ _ _ rfl] at hTake
  split at hTake
  · obtain ⟨keep, _, rfl⟩ := hTake
    exact accurate_ofCandidates hRegular hText fun file hFile => List.mem_of_mem_filter hFile
  · have hNone : ∀ file ∈ [], file ∈ candidates tree .standard [] := by simp
    have hEmpty : ofCandidates [] [] = {} := by simp [ofCandidates, pathsOf, sorted]
    rw [hTake, ← hEmpty]
    exact accurate_ofCandidates hRegular hText hNone

namespace Accurate

variable {tree other : FileTree} {inventory second : Inventory}

theorem eq_filter_all (hAccurate : Accurate tree inventory) :
    inventory.kotlin = inventory.all.filter (languageOf · == some "kotlin") ∧
      inventory.java = inventory.all.filter (languageOf · == some "java") := by
  have hKeep {paths : List String} {name : String}
      (hPaths : ∀ path ∈ paths, languageOf path = some name) (wanted : String) :
      paths.filter (languageOf · == some wanted) = if name = wanted then paths else [] := by
    split
    · next hSame => exact List.filter_eq_self.2 fun path hPath => by simp [hPaths path hPath, hSame]
    · next hOther =>
      exact List.filter_eq_nil_iff.2 fun path hPath => by simp [hPaths path hPath, hOther]
  -- both sides are sorted, so it is enough that they are permutations of each other
  have hSorted : inventory.all.Pairwise (· ≤ ·) := mergeSort_key_sorted id _
  have hSplit (wanted : String) : (inventory.all.filter (languageOf · == some wanted)).Perm
      ((if "kotlin" = wanted then inventory.kotlin else []) ++
        if "java" = wanted then inventory.java else []) := by
    rw [← hKeep hAccurate.kotlin, ← hKeep hAccurate.java, ← List.filter_append]
    exact (sorted_perm _).filter _
  constructor
  · refine List.Perm.eq_of_pairwise (fun a b _ _ hLe hGe => le_antisymm hLe hGe)
      hAccurate.kotlinSorted (hSorted.filter _) ?_
    simpa using (hSplit "kotlin").symm
  · refine List.Perm.eq_of_pairwise (fun a b _ _ hLe hGe => le_antisymm hLe hGe)
      hAccurate.javaSorted (hSorted.filter _) ?_
    simpa using (hSplit "java").symm

/-- The hashed bytes tell the inventory and the content of each file. -/
theorem eq_of_bytes_eq (hAccurate : Accurate tree inventory) (hOther : Accurate other second)
    (hBytes : Fingerprint.bytes tree inventory.all = Fingerprint.bytes other second.all) :
    inventory = second ∧ ∀ path ∈ inventory.all,
      tree.content? (Path.ofString path) = other.content? (Path.ofString path) := by
  obtain ⟨hPaths, hContents⟩ := Fingerprint.bytes_inj hAccurate.zeroFree hOther.zeroFree hBytes
  have hTwice (inventory : Inventory) : sorted inventory.all = inventory.all :=
    sorted_eq_of_perm (sorted_perm _)
  rw [hTwice, hTwice] at hPaths
  constructor
  · obtain ⟨hKotlin, hJava⟩ := hAccurate.eq_filter_all
    obtain ⟨hOtherKotlin, hOtherJava⟩ := hOther.eq_filter_all
    rw [hPaths, ← hOtherKotlin] at hKotlin
    rw [hPaths, ← hOtherJava] at hJava
    exact congrArg₂ Inventory.mk hKotlin hJava
  · intro path hPath
    obtain ⟨content, hNamed, hContent⟩ := hAccurate.readable path hPath
    obtain ⟨found, hOtherNamed, hOtherContent⟩ := hOther.readable path (hPaths ▸ hPath)
    have hSame := hContents path hPath
    rw [hNamed, hOtherNamed, Option.getD_some, Option.getD_some] at hSame
    rw [hContent, hOtherContent, hSame]

end Accurate

/-- Where an inventory lists something, there is a source file below the folder. -/
theorem exists_source_of_take {tree : FileTree} (hRegular : tree.Regular) {project : String}
    {root : Location} (hRoot : tree.resolve (Path.ofString project) = root)
    (hFolder : tree.at? root = some .folder) {matcher : Matcher} {selection : Selection}
    {inventory : Inventory} (hTake : take matcher tree .standard selection project = .ok inventory)
    (hFiles : 0 < inventory.kotlin.length + inventory.java.length) :
    ∃ place content, IsListed place ∧ tree.at? (root ++ place) = some (.file content) := by
  obtain ⟨path, hPath⟩ : ∃ path, path ∈ inventory.all := by
    refine List.exists_mem_of_length_pos ?_
    rw [all, (sorted_perm _).length_eq, List.length_append]
    exact hFiles
  rw [take_eq_ok_iff _ _ _ _ _ hRoot, if_pos ((isFolderAt_iff _ _).2 hFolder)] at hTake
  obtain ⟨keep, _, rfl⟩ := hTake
  obtain ⟨place, language, hMem, _⟩ := exists_of_mem_all hPath
  obtain ⟨hListed, ⟨content, hFile⟩, _⟩ :=
    (mem_candidates_iff hRegular _ _ _).1 (List.mem_of_mem_filter hMem)
  exact ⟨place, content, hListed, hFile⟩

/-- The hashed bytes of an inventory stay the same as long as the sources do. -/
theorem bytes_of_sameSources {before after : FileTree} (hBefore : before.Regular)
    (hAfter : after.Regular) {project : String} {root : Location}
    (hRoot : before.resolve (Path.ofString project) = root)
    (hFolder : before.at? root = some .folder) (hSame : SameSources root before after)
    {matcher : Matcher} {selection : Selection} {inventory : Inventory}
    (hTake : take matcher before .standard selection project = .ok inventory) :
    Fingerprint.bytes after inventory.all = Fingerprint.bytes before inventory.all := by
  rw [take_eq_ok_iff _ _ _ _ _ hRoot, if_pos ((isFolderAt_iff _ _).2 hFolder)] at hTake
  obtain ⟨keep, _, rfl⟩ := hTake
  refine List.flatMap_congr fun path hPath => ?_
  obtain ⟨place, language, hMem, rfl⟩ := exists_of_mem_all ((sorted_perm _).mem_iff.1 hPath)
  obtain ⟨hListed, ⟨content, hFile⟩, _⟩ :=
    (mem_candidates_iff hBefore _ _ _).1 (List.mem_of_mem_filter hMem)
  have hFileAfter := (hSame.sources place hListed content).2 hFile
  have hNames := hBefore.names (root ++ place) (by simp [hFile])
  have hNamed (tree : FileTree) := contentNamed?_pathOf tree (by simp [hListed.inside]) hNames
  rw [Fingerprint.record, Fingerprint.record, hNamed, hNamed, hBefore.content?_pathOf hFile,
    hAfter.content?_pathOf hFileAfter]

end Inventory
end SensorFlow

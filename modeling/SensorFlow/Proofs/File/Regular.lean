import Mathlib.Data.List.Nodup
import Mathlib.Tactic.MkIffOfInductiveProp
import SensorFlow.Proofs.File.Tree
import SensorFlow.Proofs.Text.Utf8

/-!
# Regular file trees

A regular tree is sound, lists each location once and has only names that a path can spell. So the
text of a location reads back as the location, and the file there is found by that text.
-/
namespace SensorFlow
set_option autoImplicit false

/-- A name that stands for itself in a path. -/
@[mk_iff] structure IsName (name : String) : Prop where
  nonempty : name ≠ ""
  notDot : name ≠ "."
  notDots : name ≠ ".."
  slash : '/' ∉ name.toList
  zero : Char.ofNat 0 ∉ name.toList

instance (name : String) : Decidable (IsName name) := decidable_of_iff _ (isName_iff name).symm

theorem IsName.exists_cons {name : String} (hName : IsName name) :
    ∃ c chars, name.toList = c :: chars ∧ c ≠ '/' := by
  obtain ⟨c, chars, hC⟩ := List.exists_cons_of_ne_nil (l := name.toList)
    fun hNil => hName.nonempty (String.toList_injective hNil)
  refine ⟨c, chars, hC, ?_⟩
  rintro rfl
  exact hName.slash (by simp [hC])

namespace FileTree

theorem toList_pathOf {location : Location} (hLocation : location ≠ []) :
    (pathOf location).toString.toList = location.flatMap fun name => '/' :: name.toList := by
  have hText : (pathOf location).toString.toList =
      '/' :: ['/'].intercalate (location.map String.toList) := by
    simp [pathOf, Path.toString, String.toList_intercalate]
  rw [hText]
  clear hText
  induction location with
  | nil => exact absurd rfl hLocation
  | cons first rest ih =>
    cases rest with
    | nil => simp
    | cons second rest =>
      rw [List.flatMap_cons, ← ih (by simp), List.map_cons, List.map_cons,
        List.intercalate_cons_cons]
      simp

theorem zero_notMem_pathOf {location : Location} (hLocation : location ≠ [])
    (hNames : ∀ name ∈ location, IsName name) :
    0 ∉ Text.Utf8.encode (pathOf location).toString.toList := by
  refine Text.Utf8.zero_notMem_encode ?_
  rw [toList_pathOf hLocation]
  intro hZero
  obtain ⟨name, hName, hChar⟩ := List.mem_flatMap.1 hZero
  rcases List.mem_cons.1 hChar with hSlash | hChar
  · revert hSlash
    decide
  · exact (hNames name hName).zero hChar

theorem splitOn_pathOf {location : Location} (hLocation : location ≠ [])
    (hNames : ∀ name ∈ location, IsName name) :
    (pathOf location).toString.toList.splitOn '/' = [] :: location.map String.toList := by
  have hText : (pathOf location).toString.toList =
      ['/'].intercalate ([] :: location.map String.toList) := by
    rw [List.intercalate_cons_of_ne_nil (by simpa using hLocation)]
    simp [pathOf, Path.toString, String.toList_intercalate]
  rw [hText, List.splitOn_intercalate _ _ (by simp)]
  intro chars hMem
  rcases List.mem_cons.1 hMem with rfl | hMem
  · simp
  · obtain ⟨name, hName, rfl⟩ := List.mem_map.1 hMem
    exact (hNames name hName).slash

theorem ofString_pathOf {location : Location} (hLocation : location ≠ [])
    (hNames : ∀ name ∈ location, IsName name) :
    Path.ofString (pathOf location).toString = pathOf location := by
  obtain ⟨first, rest, rfl⟩ := List.exists_cons_of_ne_nil hLocation
  obtain ⟨c, chars, hC, hSlash⟩ := (hNames first List.mem_cons_self).exists_cons
  have hText := toList_pathOf hLocation
  rw [List.flatMap_cons, hC] at hText
  simp only [Path.ofString, splitOn_pathOf hLocation hNames]
  refine congrArg₂ Path.mk ?_ ?_
  · rw [hText]
    split
    · next hThree => exact absurd (List.cons.inj (List.cons.inj hThree).2).1 hSlash
    · next hTwo => exact absurd (List.cons.inj (List.cons.inj hTwo).2).1 hSlash
    · rfl
    · next hOther => exact absurd rfl (hOther _)
  · have hKept :
        ((first :: rest).filter fun part => part != "" && part != ".") = first :: rest := by
      refine List.filter_eq_self.2 fun name hName => ?_
      simp [(hNames name hName).nonempty, (hNames name hName).notDot]
    simpa using hKept

/-- The text of a location ends with a name, so it can name a file. -/
theorem contentNamed?_pathOf (tree : FileTree) {location : Location} (hLocation : location ≠ [])
    (hNames : ∀ name ∈ location, IsName name) :
    tree.contentNamed? (pathOf location).toString = tree.content? (pathOf location) := by
  obtain ⟨init, last, rfl⟩ := (List.eq_nil_or_concat' location).resolve_left hLocation
  have hLast := hNames last (by simp)
  have hText : (pathOf (init ++ [last])).toString.toList.reverse =
      last.toList.reverse ++ '/' :: (init.flatMap fun name => '/' :: name.toList).reverse := by
    rw [toList_pathOf hLocation, List.flatMap_append]
    simp
  rw [contentNamed?, ofString_pathOf hLocation hNames, hText]
  have hSlash : '/' ∉ last.toList.reverse := by simpa using hLast.slash
  have hDot : last.toList.reverse ≠ ['.'] := by
    intro hSame
    exact hLast.notDot (String.toList_injective (List.reverse_injective hSame))
  have hNil : last.toList.reverse ≠ [] := by
    intro hSame
    exact hLast.nonempty (String.toList_injective (List.reverse_injective hSame))
  generalize last.toList.reverse = chars at hSlash hDot hNil
  obtain ⟨c, chars, rfl⟩ := List.exists_cons_of_ne_nil hNil
  have hC : c ≠ '/' := Ne.symm (List.ne_of_not_mem_cons hSlash)
  split
  · next hMatch => cases hMatch
  · next hMatch => exact absurd (List.cons.inj hMatch).1 hC
  · next hMatch => simp at hMatch
  · next hMatch =>
    -- a dot behind a slash would be the whole name
    obtain ⟨rfl, hRest⟩ := List.cons.inj hMatch
    cases chars with
    | nil => exact absurd rfl hDot
    | cons d chars =>
      obtain ⟨rfl, _⟩ := List.cons.inj hRest
      exact absurd (by simp) hSlash
  · rfl

theorem follow?_inner {tree : FileTree} (hSound : tree.Sound) {outer inner : Location}
    (hThere : tree.at? (outer ++ inner) ≠ none) (hDots : ".." ∉ inner) :
    tree.follow? outer inner = some (outer ++ inner) := by
  induction inner generalizing outer with
  | nil => simp [follow?]
  | cons name inner ih =>
    obtain ⟨hName, hInner⟩ := List.ne_and_not_mem_of_not_mem_cons hDots
    have hFolder : tree.isFolderAt outer = true :=
      (isFolderAt_iff _ _).2 (hSound.folder_above (name :: inner) (by simp) hThere)
    have hEnter : enter outer name = outer ++ [name] := by simp [enter, Ne.symm hName]
    rw [follow?, if_pos hFolder, hEnter, ih (by simpa using hThere) hInner]
    simp

theorem foldl_enter (outer : Location) {inner : Location} (hDots : ".." ∉ inner) :
    inner.foldl enter outer = outer ++ inner := by
  induction inner generalizing outer with
  | nil => simp
  | cons name inner ih =>
    obtain ⟨hName, hInner⟩ := List.ne_and_not_mem_of_not_mem_cons hDots
    rw [List.foldl_cons, ih _ hInner]
    simp [enter, Ne.symm hName]

/-- A path that never goes back leads to the folder that its text names. -/
theorem isFolder_of_plain {tree : FileTree} (hSound : tree.Sound) {path : Path}
    (hDots : ".." ∉ path.parts) (hFolder : tree.at? (tree.resolve path) = some .folder) :
    tree.isFolder path = true := by
  refine (isFolder_iff _ _).2 ⟨?_, hFolder⟩
  have hResolve : tree.resolve path = tree.startOf path ++ path.parts := foldl_enter _ hDots
  rw [hResolve] at hFolder ⊢
  exact follow?_inner hSound (by simp [hFolder]) hDots

/-- Nothing is listed twice, and every name can be spelled. -/
structure Regular (tree : FileTree) : Prop where
  sound : tree.Sound
  once : (tree.entries.map Prod.fst).Nodup
  names : ∀ location, tree.at? location ≠ none → ∀ name ∈ location, IsName name

theorem mem_keys_of_at? {tree : FileTree} {location : Location} (hThere : tree.at? location ≠ none)
    (hLocation : location ≠ []) : ∃ entry, (location, entry) ∈ tree.entries := by
  rw [at?_eq_lookup _ hLocation] at hThere
  obtain ⟨entry, hLookup⟩ := Option.ne_none_iff_exists'.1 hThere
  obtain ⟨before, after, hEntries, _⟩ := List.lookup_eq_some_iff.1 hLookup
  exact ⟨entry, by simp [hEntries]⟩

namespace Regular

variable {tree : FileTree}

/-- It is enough to look at what is listed. -/
theorem of_entries (hOnce : (tree.entries.map Prod.fst).Nodup)
    (hEntries : ∀ entry ∈ tree.entries, tree.at? entry.1.dropLast = some .folder ∧
      ∀ name ∈ entry.1, IsName name) : tree.Regular where
  sound := by
    intro location hLocation hThere
    obtain ⟨entry, hMem⟩ := mem_keys_of_at? hThere hLocation
    exact (hEntries _ hMem).1
  once := hOnce
  names := by
    intro location hThere
    by_cases hLocation : location = []
    · simp [hLocation]
    · obtain ⟨entry, hMem⟩ := mem_keys_of_at? hThere hLocation
      exact (hEntries _ hMem).2

theorem mem_entries_iff (hRegular : tree.Regular) {location : Location} (hLocation : location ≠ [])
    (entry : Entry) : (location, entry) ∈ tree.entries ↔ tree.at? location = some entry := by
  rw [at?_eq_lookup _ hLocation]
  constructor
  · intro hMem
    obtain ⟨before, after, hEntries⟩ := List.append_of_mem hMem
    refine List.lookup_eq_some_iff.2 ⟨before, after, hEntries, ?_⟩
    intro other hOther
    have hOnce := hRegular.once
    rw [hEntries, List.map_append, List.nodup_append] at hOnce
    have hNe := hOnce.2.2 other.1 (List.mem_map_of_mem hOther) location (by simp)
    simpa using Ne.symm hNe
  · intro hLookup
    obtain ⟨before, after, hEntries, _⟩ := List.lookup_eq_some_iff.1 hLookup
    simp [hEntries]

theorem content?_pathOf (hRegular : tree.Regular) {location : Location} {content : List UInt8}
    (hFile : tree.at? location = some (.file content)) :
    tree.content? (pathOf location) = some content := by
  have hThere : tree.at? location ≠ none := by simp [hFile]
  have hLocate : tree.locate? (pathOf location) = some location := by
    change tree.follow? [] location = some ([] ++ location)
    refine follow?_inner hRegular.sound hThere fun hDots => ?_
    exact (hRegular.names location hThere _ hDots).notDots rfl
  simp [content?, get?, hLocate, hFile]

theorem put (hRegular : tree.Regular) {location : Location} {entry : Entry}
    (hSound : (tree.put location entry).Sound) (hLocation : location ≠ [])
    (hNames : ∀ name ∈ location, IsName name) : (tree.put location entry).Regular where
  sound := hSound
  once := by
    rw [FileTree.put, List.map_cons, List.nodup_cons]
    refine ⟨by simp, ?_⟩
    exact hRegular.once.sublist (List.Sublist.map Prod.fst List.filter_sublist)
  names := by
    intro place hThere
    rw [at?_put _ _ hLocation] at hThere
    split at hThere
    · next hSame => exact hSame ▸ hNames
    · exact hRegular.names place hThere

theorem remove (hRegular : tree.Regular) {location : Location} (hLocation : location ≠ []) :
    (tree.remove location).Regular where
  sound := hRegular.sound.remove hLocation
  once := hRegular.once.sublist (List.Sublist.map Prod.fst List.filter_sublist)
  names := by
    intro place hThere
    rw [at?_remove _ hLocation] at hThere
    split at hThere
    · exact absurd rfl hThere
    · exact hRegular.names place hThere

end Regular
end FileTree
end SensorFlow

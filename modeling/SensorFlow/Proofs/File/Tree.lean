import Mathlib.Data.List.Induction
import SensorFlow.File.Tree

/-!
# Sound file trees

In a sound tree everything lies in a folder, so nothing lies below a file. Writing and removing
keep a tree sound. A path that leads somewhere leads to the location that its text names.
-/
namespace SensorFlow
set_option autoImplicit false

theorem lookup_filter_key {α β : Type} [BEq α] [LawfulBEq α] (keep : α → Bool)
    (entries : List (α × β)) (key : α) :
    (entries.filter fun entry => keep entry.1).lookup key =
      if keep key then entries.lookup key else none := by
  induction entries with
  | nil => simp
  | cons entry entries ih =>
    obtain ⟨place, value⟩ := entry
    by_cases hKey : key = place
    · subst hKey
      by_cases hKeep : keep key <;> simp [hKeep, ih]
    · have hNe : (key == place) = false := beq_eq_false_iff_ne.2 hKey
      by_cases hKeep : keep place <;> simp [hKeep, List.lookup_cons, hNe, ih]

namespace FileTree

@[simp] theorem at?_nil (tree : FileTree) : tree.at? [] = some .folder := rfl

theorem at?_eq_lookup (tree : FileTree) {location : Location} (hLocation : location ≠ []) :
    tree.at? location = tree.entries.lookup location := by
  simp [at?, hLocation]

theorem at?_put (tree : FileTree) {location : Location} (entry : Entry) (hLocation : location ≠ [])
    (place : Location) :
    (tree.put location entry).at? place =
      if place = location then some entry else tree.at? place := by
  by_cases hPlace : place = []
  · subst hPlace
    simp [Ne.symm hLocation]
  · have hKeep := lookup_filter_key (fun key => key != location) tree.entries place
    rw [at?_eq_lookup _ hPlace, at?_eq_lookup _ hPlace, put, List.lookup_cons]
    by_cases hSame : place = location
    · simp [hSame]
    · have hNe : (place == location) = false := beq_eq_false_iff_ne.2 hSame
      simp only [hNe, if_neg hSame]
      simpa [hSame] using hKeep

theorem at?_remove (tree : FileTree) {location : Location} (hLocation : location ≠ [])
    (place : Location) :
    (tree.remove location).at? place = if location <+: place then none else tree.at? place := by
  by_cases hPlace : place = []
  · subst hPlace
    simp [hLocation]
  · have hKeep := lookup_filter_key (fun key => !location.isPrefixOf key) tree.entries place
    rw [at?_eq_lookup _ hPlace, at?_eq_lookup _ hPlace, remove]
    by_cases hBelow : location <+: place
    · simpa [hBelow, List.isPrefixOf_iff_prefix.2 hBelow] using hKeep
    · have hApart : location.isPrefixOf place = false :=
        Bool.eq_false_iff.2 fun hPrefix => hBelow (List.isPrefixOf_iff_prefix.1 hPrefix)
      simpa [hBelow, hApart] using hKeep

/-- Everything but the top folder lies in a folder. -/
def Sound (tree : FileTree) : Prop :=
  ∀ location, location ≠ [] → tree.at? location ≠ none →
    tree.at? location.dropLast = some .folder

namespace Sound

variable {tree : FileTree}

theorem folder_above (hSound : tree.Sound) {outer : Location} (rest : Location) (hRest : rest ≠ [])
    (hInner : tree.at? (outer ++ rest) ≠ none) : tree.at? outer = some .folder := by
  induction rest using List.reverseRecOn with
  | nil => exact absurd rfl hRest
  | append_singleton rest name ih =>
    have hParent : tree.at? (outer ++ rest) = some .folder := by
      have hAbove := hSound (outer ++ (rest ++ [name])) (by simp) hInner
      rwa [← List.append_assoc, List.dropLast_concat] at hAbove
    cases rest with
    | nil => simpa using hParent
    | cons first rest => exact ih (by simp) (by rw [hParent]; simp)

theorem none_below (hSound : tree.Sound) {outer inner : Location}
    (hOuter : tree.at? outer ≠ some .folder) (hPrefix : outer <+: inner) (hNe : outer ≠ inner) :
    tree.at? inner = none := by
  obtain ⟨rest, rfl⟩ := hPrefix
  by_contra hInner
  exact hOuter (hSound.folder_above rest (by rintro rfl; simp at hNe) hInner)

theorem put (hSound : tree.Sound) {location : Location} {entry : Entry} (hLocation : location ≠ [])
    (hParent : tree.at? location.dropLast = some .folder)
    (hFree : entry = .folder ∨ tree.at? location ≠ some .folder) :
    (tree.put location entry).Sound := by
  intro place hPlace hThere
  rw [at?_put _ _ hLocation] at hThere ⊢
  have hAbove : tree.at? place.dropLast = some .folder := by
    by_cases hSame : place = location
    · rw [hSame]
      exact hParent
    · rw [if_neg hSame] at hThere
      exact hSound place hPlace hThere
  by_cases hInside : place.dropLast = location
  · rw [if_pos hInside]
    rcases hFree with rfl | hFree
    · rfl
    · exact absurd (hInside ▸ hAbove) hFree
  · rw [if_neg hInside]
    exact hAbove

theorem remove (hSound : tree.Sound) {location : Location} (hLocation : location ≠ []) :
    (tree.remove location).Sound := by
  intro place hPlace hThere
  rw [at?_remove _ hLocation] at hThere ⊢
  by_cases hBelow : location <+: place
  · simp [hBelow] at hThere
  · rw [if_neg hBelow] at hThere
    have hAbove : ¬ location <+: place.dropLast :=
      fun hPrefix => hBelow (hPrefix.trans (List.dropLast_prefix place))
    rw [if_neg hAbove]
    exact hSound place hPlace hThere

end Sound

theorem follow?_append (tree : FileTree) (location : Location) (before more : List String) :
    tree.follow? location (before ++ more) =
      (tree.follow? location before).bind fun reached => tree.follow? reached more := by
  induction before generalizing location with
  | nil => rfl
  | cons name before ih =>
    rw [List.cons_append, follow?, follow?]
    split
    · exact ih _
    · rfl

theorem eq_foldl_of_follow? {tree : FileTree} {location reached : Location} {names : List String}
    (hFollow : tree.follow? location names = some reached) :
    reached = names.foldl enter location := by
  induction names generalizing location with
  | nil => exact (Option.some.inj hFollow).symm
  | cons name names ih =>
    rw [follow?] at hFollow
    split at hFollow
    · exact ih hFollow
    · cases hFollow

theorem eq_resolve_of_locate? {tree : FileTree} {path : Path} {location : Location}
    (hLocate : tree.locate? path = some location) : location = tree.resolve path :=
  eq_foldl_of_follow? hLocate

theorem isFolderAt_iff (tree : FileTree) (location : Location) :
    tree.isFolderAt location = true ↔ tree.at? location = some .folder := by
  simp [isFolderAt]

theorem isFolder_iff (tree : FileTree) (path : Path) :
    tree.isFolder path = true ↔
      tree.locate? path = some (tree.resolve path) ∧
        tree.at? (tree.resolve path) = some .folder := by
  rw [isFolder, get?, beq_iff_eq, Option.bind_eq_some_iff]
  constructor
  · rintro ⟨location, hLocate, hFolder⟩
    obtain rfl := eq_resolve_of_locate? hLocate
    exact ⟨hLocate, hFolder⟩
  · rintro ⟨hLocate, hFolder⟩
    exact ⟨_, hLocate, hFolder⟩

theorem folder_of_follow? {tree : FileTree} {location reached : Location} {names : List String}
    (hFollow : tree.follow? location names = some reached)
    (hReached : tree.at? reached = some .folder) : tree.at? location = some .folder := by
  cases names with
  | nil =>
    obtain rfl := Option.some.inj hFollow
    exact hReached
  | cons name names =>
    rw [follow?] at hFollow
    split at hFollow
    · next hFolder => exact (isFolderAt_iff tree location).1 hFolder
    · cases hFollow

/-- On the way to a folder there is nothing to make. -/
theorem makeFoldersFrom?_append {tree : FileTree} {location reached : Location}
    {names : List String} (hFollow : tree.follow? location names = some reached)
    (hReached : tree.at? reached = some .folder) (more : List String) :
    tree.makeFoldersFrom? location (names ++ more) = tree.makeFoldersFrom? reached more := by
  induction names generalizing location with
  | nil =>
    obtain rfl := Option.some.inj hFollow
    rfl
  | cons name names ih =>
    rw [follow?] at hFollow
    split at hFollow
    · have hNext := folder_of_follow? hFollow hReached
      rw [List.cons_append, makeFoldersFrom?, hNext]
      exact ih hFollow
    · cases hFollow

end FileTree
end SensorFlow

import SensorFlow.Proofs.File.Inventory
import SensorFlow.Proofs.Report.RoundTrip
import SensorFlow.Proofs.Store.Cache

/-!
# Saved documents

Saving and clearing a document keep a tree regular and change nothing that counts as a source. A
document whose text can be read is found again as long as it lies in its place, with the report
and the fingerprint that it was made from.
-/
namespace SensorFlow

theorem Json.member?_concat (members : List (String × Json)) (name : String) (value : Json) :
    member? name (members ++ [(name, value)]) = some value := by
  induction members with
  | nil => simp [member?]
  | cons member members ih => simp [member?, ih]

theorem Json.ObjectWidens.append {plain : List String} {nested : List (String × Widening)}
    {narrow : Json} {members more : List (String × Json)}
    (hWidens : ObjectWidens plain nested narrow (.obj members))
    (hUnknown : ∀ member ∈ more, member.1 ∉ plain ++ nested.map Prod.fst) :
    ObjectWidens plain nested narrow (.obj (members ++ more)) := by
  obtain ⟨known, _, rfl, hSame, hRelated⟩ := hWidens
  cases hSame
  refine ⟨known, members ++ more, rfl, rfl, ?_⟩
  have hNone : (more.filter fun member => (plain ++ nested.map Prod.fst).contains member.1) = [] :=
    List.filter_eq_nil_iff.2 fun member hMember hKnown =>
      hUnknown member hMember (List.contains_iff_mem.1 hKnown)
  rwa [List.filter_append, hNone, List.append_nil]

namespace Cache
open FileTree Inventory
set_option autoImplicit false

def draftName : String := documentName ++ ".tmp"

/-- The names of what saving makes. -/
def ownNames : List String := [".sensedev", "cache", documentName, draftName]

theorem isName_of_mem_ownNames {name : String} (hName : name ∈ ownNames) : IsName name := by
  simp only [ownNames, documentName, draftName, List.mem_cons, List.not_mem_nil, or_false] at hName
  rcases hName with rfl | rfl | rfl | rfl
  all_goals exact ⟨by decide, by decide, by decide, by decide, by decide⟩

theorem detect?_of_mem_ownNames {location : Location} {name : String} (hName : name ∈ ownNames)
    (hLast : location.getLast? = some name) :
    LanguageRegistry.standard.detect? (pathOf location) = none := by
  simp only [LanguageRegistry.detect?, Path.suffix, Path.name, pathOf, hLast]
  simp only [ownNames, documentName, draftName, List.mem_cons, List.not_mem_nil, or_false] at hName
  rcases hName with rfl | rfl | rfl | rfl
  all_goals decide +kernel

/-- All that changes has a name of its own. -/
structure Leaves (before after : FileTree) : Prop where
  regular : after.Regular
  current : after.current = before.current
  others : ∀ location, (∀ name ∈ ownNames, location.getLast? ≠ some name) →
    after.at? location = before.at? location

namespace Leaves

variable {before after : FileTree}

theorem refl {tree : FileTree} (hRegular : tree.Regular) : Leaves tree tree :=
  ⟨hRegular, rfl, fun _ _ => rfl⟩

theorem trans {last : FileTree} (hFirst : Leaves before after) (hSecond : Leaves after last) :
    Leaves before last where
  regular := hSecond.regular
  current := hSecond.current.trans hFirst.current
  others location hOther := (hSecond.others location hOther).trans (hFirst.others location hOther)

theorem at?_source (hLeaves : Leaves before after) {location : Location}
    (hSource : (LanguageRegistry.standard.detect? (pathOf location)).isSome) :
    after.at? location = before.at? location := by
  refine hLeaves.others location fun name hName hLast => ?_
  rw [detect?_of_mem_ownNames hName hLast] at hSource
  cases hSource

theorem sameSources (hLeaves : Leaves before after) (root : Location) :
    SameSources root before after where
  sources place hListed content := by
    rw [hLeaves.at?_source]
    rw [LanguageRegistry.detect?_pathOf_append _ _ hListed.inside]
    exact hListed.source
  rules content := by
    rw [hLeaves.others]
    intro name hName hLast
    rw [List.getLast?_append_of_ne_nil _ (by simp)] at hLast
    cases hLast
    revert hName
    decide

theorem sourcesZeroFree (hLeaves : Leaves before after) (hText : SourcesZeroFree before) :
    SourcesZeroFree after := by
  intro location content hFile hSource
  rw [hLeaves.at?_source hSource] at hFile
  exact hText location content hFile hSource

theorem put (hRegular : before.Regular) {folder : Location} {name : String} {entry : Entry}
    (hName : name ∈ ownNames) (hFolder : before.at? folder = some .folder)
    (hFree : entry = .folder ∨ before.at? (folder ++ [name]) ≠ some .folder) :
    Leaves before (before.put (folder ++ [name]) entry) where
  regular := by
    refine hRegular.put (hRegular.sound.put (by simp) ?_ hFree) (by simp) ?_
    · rw [List.dropLast_concat]
      exact hFolder
    · intro other hOther
      rcases List.mem_append.1 hOther with hOther | hOther
      · exact hRegular.names folder (by simp [hFolder]) other hOther
      · rw [List.mem_singleton.1 hOther]
        exact isName_of_mem_ownNames hName
  current := rfl
  others location hOther := by
    rw [at?_put _ _ (by simp), if_neg]
    rintro rfl
    exact hOther name hName (by simp)

theorem write? (hRegular : before.Regular) {folder : Location} {name : String}
    {content : List UInt8} (hName : name ∈ ownNames)
    (hWrite : before.write? folder name content = some after) : Leaves before after := by
  obtain ⟨hFolder, hFree, rfl⟩ := write?_eq_some hWrite
  exact .put hRegular hName hFolder (.inr hFree)

theorem remove (hRegular : before.Regular) {folder : Location} {name : String}
    (hName : name ∈ ownNames) (hFile : before.at? (folder ++ [name]) ≠ some .folder) :
    Leaves before (before.remove (folder ++ [name])) where
  regular := hRegular.remove (by simp)
  current := rfl
  others location hOther := by
    rw [at?_remove _ (by simp)]
    split
    · next hBelow =>
      -- nothing lies below what is no folder
      refine (hRegular.sound.none_below hFile hBelow ?_).symm
      rintro rfl
      exact hOther name hName (by simp)
    · rfl

theorem makeFoldersFrom? {tree made : FileTree} {location reached : Location} {names : List String}
    (hRegular : tree.Regular) (hFolder : tree.at? location = some .folder)
    (hNames : ∀ name ∈ names, name ∈ ownNames)
    (hMade : tree.makeFoldersFrom? location names = some (made, reached)) : Leaves tree made := by
  induction names generalizing tree location with
  | nil =>
    obtain ⟨rfl, rfl⟩ := Prod.mk.inj (Option.some.inj hMade)
    exact .refl hRegular
  | cons name names ih =>
    have hName := hNames name List.mem_cons_self
    have hRest := fun other hOther => hNames other (List.mem_cons_of_mem name hOther)
    have hEnter : enter location name = location ++ [name] := by
      simp [enter, (isName_of_mem_ownNames hName).notDots]
    rw [FileTree.makeFoldersFrom?, hEnter] at hMade
    split at hMade
    · next hThere => exact ih hRegular hThere hRest hMade
    · cases hMade
    · have hPut := Leaves.put hRegular hName hFolder (.inl rfl)
      refine hPut.trans (ih hPut.regular ?_ hRest hMade)
      rw [at?_put _ _ (by simp), if_pos rfl]

end Leaves

section Place

variable {tree : FileTree} {project : String}

def homeOf (location : Location) : Location := location ++ [".sensedev", "cache"]

theorem documentAt_eq (location : Location) :
    documentAt location = homeOf location ++ [documentName] := by
  simp [documentAt, homeOf, documentName]

/-- How far saving can get: to the folders, to the draft, or to the document. -/
theorem place_cases (hSound : tree.Sound) (hFolder : tree.isFolder (Path.ofString project) = true)
    (content : List UInt8) {home : Location}
    (hHome : homeOf (tree.resolve (Path.ofString project)) = home) :
    place tree project content = (tree, false) ∨
    ∃ made, tree.makeFoldersFrom? (tree.resolve (Path.ofString project)) [".sensedev", "cache"] =
        some (made, home) ∧
      (place tree project content = (made, false) ∨
        ∃ drafted, made.write? home draftName content = some drafted ∧
          (place tree project content = (drafted, false) ∨
            ∃ written, drafted.write? home documentName content = some written ∧
              place tree project content = (written.remove (home ++ [draftName]), true))) := by
  have hThere := ((isFolder_iff _ _).1 hFolder).2
  rw [place, makeFolders?_folder hFolder]
  dsimp only
  rw [← draftName]
  cases hMade : tree.makeFoldersFrom? (tree.resolve (Path.ofString project))
      [".sensedev", "cache"] with
  | none => exact .inl rfl
  | some result =>
    obtain ⟨made, reached⟩ := result
    obtain rfl : reached = home :=
      (makeFoldersFrom?_spec hSound hThere (by decide) hMade).1.trans hHome
    refine .inr ⟨made, rfl, ?_⟩
    dsimp only
    split
    · exact .inl rfl
    cases hDrafted : made.write? reached draftName content with
    | none => exact .inl rfl
    | some drafted =>
      refine .inr ⟨drafted, rfl, ?_⟩
      dsimp only
      cases hWritten : drafted.write? reached documentName content with
      | none => exact .inl rfl
      | some written => exact .inr ⟨written, rfl, rfl⟩

theorem leaves_place (hRegular : tree.Regular)
    (hFolder : tree.isFolder (Path.ofString project) = true) (content : List UInt8) :
    Leaves tree (place tree project content).1 := by
  have hThere := ((isFolder_iff _ _).1 hFolder).2
  rcases place_cases hRegular.sound hFolder content rfl with hPlace | ⟨made, hMade, hMore⟩
  · rw [hPlace]
    exact .refl hRegular
  have hMadeLeaves := Leaves.makeFoldersFrom? hRegular hThere (by decide) hMade
  rcases hMore with hPlace | ⟨drafted, hDrafted, hMore⟩
  · rw [hPlace]
    exact hMadeLeaves
  have hDraftLeaves := hMadeLeaves.trans (.write? hMadeLeaves.regular (by decide) hDrafted)
  rcases hMore with hPlace | ⟨written, hWritten, hPlace⟩
  · rw [hPlace]
    exact hDraftLeaves
  have hWrittenLeaves := hDraftLeaves.trans (.write? hDraftLeaves.regular (by decide) hWritten)
  rw [hPlace]
  refine hWrittenLeaves.trans (.remove hWrittenLeaves.regular (by decide) ?_)
  obtain ⟨_, _, rfl⟩ := write?_eq_some hDrafted
  obtain ⟨_, _, rfl⟩ := write?_eq_some hWritten
  rw [at?_put _ _ (by simp), if_neg (by simp [draftName, documentName]), at?_put _ _ (by simp),
    if_pos rfl]
  simp

theorem leaves_clear (hRegular : tree.Regular) (project : String) :
    Leaves tree (clear tree project).1 := by
  rcases clear_cases tree project with hSame | ⟨⟨content, hThere⟩, hRemoved⟩
  · rw [hSame]
    exact .refl hRegular
  · rw [hRemoved, documentAt_eq]
    refine .remove hRegular (by decide) ?_
    rw [← documentAt_eq, hThere]
    simp

/-- The document is the new one if it was written, and else what it was. -/
theorem at?_documentAt_place (hSound : tree.Sound)
    (hFolder : tree.isFolder (Path.ofString project) = true) (content : List UInt8) :
    (place tree project content).1.at? (documentAt (tree.resolve (Path.ofString project))) =
      if (place tree project content).2 then some (.file content)
      else tree.at? (documentAt (tree.resolve (Path.ofString project))) := by
  have hThere := ((isFolder_iff _ _).1 hFolder).2
  have hDraft : documentAt (tree.resolve (Path.ofString project)) ≠
      homeOf (tree.resolve (Path.ofString project)) ++ [draftName] := by
    simp [documentAt_eq, documentName, draftName]
  rcases place_cases hSound hFolder content rfl with hPlace | ⟨made, hMade, hMore⟩
  · rw [hPlace]
    rfl
  have hMadeSame : made.at? (documentAt (tree.resolve (Path.ofString project))) =
      tree.at? (documentAt (tree.resolve (Path.ofString project))) := by
    refine (makeFoldersFrom?_spec hSound hThere (by decide) hMade).2.2.2 _ fun name hName => ?_
    rw [getLast?_documentAt]
    rintro ⟨⟩
    revert hName
    decide
  rcases hMore with hPlace | ⟨drafted, hDrafted, hPlace | ⟨written, hWritten, hPlace⟩⟩
  · rw [hPlace]
    exact hMadeSame
  · obtain ⟨_, _, rfl⟩ := write?_eq_some hDrafted
    rw [hPlace, at?_put _ _ (by simp), if_neg hDraft]
    exact hMadeSame
  · obtain ⟨_, _, rfl⟩ := write?_eq_some hWritten
    rw [hPlace, at?_remove _ (by simp), if_neg, at?_put _ _ (by simp), if_pos (documentAt_eq _)]
    · rfl
    · intro hBelow
      exact hDraft (hBelow.eq_of_length (by simp [documentAt_eq])).symm

theorem leaves_save (hRegular : tree.Regular)
    (hFolder : tree.isFolder (Path.ofString project) = true) {scheme : Fingerprint.Scheme}
    {report : Report} {files : List String} {savedAt : Rat} {answer : FileTree × Bool}
    (hSave : save scheme tree report project (some files) savedAt = .ok answer) :
    Leaves tree answer.1 := by
  obtain ⟨_, rfl⟩ := save_eq_ok_iff.1 hSave
  exact leaves_place hRegular hFolder _

/-- Saving changes the document of its own folder, if it succeeds, and no other one. -/
theorem at?_documentAt_save (hSound : tree.Sound)
    (hFolder : tree.isFolder (Path.ofString project) = true) {scheme : Fingerprint.Scheme}
    {report : Report} {files : List String} {savedAt : Rat} {answer : FileTree × Bool}
    (hSave : save scheme tree report project (some files) savedAt = .ok answer)
    (location : Location) :
    answer.1.at? (documentAt location) =
      if location = tree.resolve (Path.ofString project) ∧ answer.2 = true then
        some (.file (Text.Utf8.encode (document report savedAt
          (some (scheme.print (Fingerprint.bytes tree files)))).spell))
      else tree.at? (documentAt location) := by
  by_cases hOwn : location = tree.resolve (Path.ofString project)
  · obtain ⟨_, rfl⟩ := save_eq_ok_iff.1 hSave
    rw [hOwn, at?_documentAt_place hSound hFolder]
    simp
  · rw [(spares_save hSound hFolder hSave).others location hOwn, if_neg]
    exact fun hSaved => hOwn hSaved.1

theorem at?_documentAt_clear (project : String) {location : Location}
    {content : List UInt8}
    (hLeft : (clear tree project).1.at? (documentAt location) = some (.file content)) :
    tree.at? (documentAt location) = some (.file content) := by
  rcases clear_cases tree project with hSame | ⟨_, hRemoved⟩
  · rwa [hSame] at hLeft
  · rw [hRemoved, at?_remove _ (documentAt_ne_nil _)] at hLeft
    split at hLeft
    · cases hLeft
    · exact hLeft

end Place

/-- The document can be read back from its text. -/
def Legible (nesting : Nat) (document : Json) : Prop :=
  Json.read? nesting document.spell = some document

instance (nesting : Nat) (document : Json) : Decidable (Legible nesting document) :=
  inferInstanceAs (Decidable (_ = _))

theorem exists_document_eq (report : Report) (savedAt : Rat) (fingerprint : Option String) :
    ∃ members, report.toJson = .obj members ∧
      document report savedAt fingerprint = .obj (members ++
        [("format_version", .int formatVersion), ("saved_at", .float savedAt)] ++
        [("fingerprint", Json.optional fingerprint)]) :=
  ⟨_, rfl, by simp [document, Report.toJson]⟩

theorem ofJson_document (fresh : FreshIds) (report : Report) (savedAt : Rat)
    (fingerprint : Option String) :
    Report.ofJson fresh (document report savedAt fingerprint) = .ok report := by
  obtain ⟨members, hMembers, hDocument⟩ := exists_document_eq report savedAt fingerprint
  have hSelf := report.widens_self
  refine Report.recovers fresh report _ ?_
  rw [hDocument, List.append_assoc]
  rw [hMembers] at hSelf ⊢
  exact hSelf.append (by simp)

section Stored

variable {nesting : Nat} {tree : FileTree} {project : String} {report : Report} {savedAt : Rat}
  {print : String}

/-- The document of a folder holds the report and the fingerprint. -/
structure Stored (nesting : Nat) (tree : FileTree) (location : Location) (report : Report)
    (savedAt : Rat) (print : String) : Prop where
  legible : Legible nesting (document report savedAt (some print))
  there : tree.at? (documentAt location) =
    some (.file (Text.Utf8.encode (document report savedAt (some print)).spell))

theorem Stored.written?_eq (hStored : Stored nesting tree (tree.resolve (Path.ofString project))
    report savedAt print) (hSound : tree.Sound)
    (hFolder : tree.isFolder (Path.ofString project) = true) :
    written? nesting tree project = some (document report savedAt (some print)) := by
  have hContent : tree.content? (documentPath project) =
      some (Text.Utf8.encode (document report savedAt (some print)).spell) := by
    rw [content?, get?, locate?_documentPath, ((isFolder_iff _ _).1 hFolder).1, Option.bind_some,
      follow?_documentAt hSound (by simp [hStored.there]), Option.bind_some, hStored.there]
  have hLegible : Json.read? nesting (document report savedAt (some print)).spell =
      some (document report savedAt (some print)) := hStored.legible
  simp only [written?, hContent, Option.bind_eq_bind, Option.bind_some, Text.Utf8.decode?_encode,
    hLegible]
  rfl

theorem Stored.load?_eq (hStored : Stored nesting tree (tree.resolve (Path.ofString project))
    report savedAt print) (hSound : tree.Sound)
    (hFolder : tree.isFolder (Path.ofString project) = true)
    (hSeen : tree.refusal? (documentPath project) = none) (fresh : FreshIds) :
    load? nesting fresh tree project = .ok (some report) := by
  rw [load?, document?_eq, hSeen, hStored.written?_eq hSound hFolder]
  simp only [bind, Except.bind, Option.bind_some, ofJson_document]
  rfl

theorem Stored.isStale_eq (hStored : Stored nesting tree (tree.resolve (Path.ofString project))
    report savedAt print) (hSound : tree.Sound)
    (hFolder : tree.isFolder (Path.ofString project) = true)
    (hSeen : tree.refusal? (documentPath project) = none) (hPrint : print ≠ "")
    (scheme : Fingerprint.Scheme) (files : List String) :
    isStale scheme nesting tree project files =
      (fingerprint scheme tree files).map fun found => print != found := by
  obtain ⟨members, _, hDocument⟩ := exists_document_eq report savedAt (some print)
  have hWritten := hStored.written?_eq hSound hFolder
  rw [hDocument] at hWritten
  have hSaved : fingerprint? nesting tree project = some (.str print) := by
    rw [fingerprint?, hWritten]
    exact Json.member?_concat _ _ _
  exact isStale_of_fingerprint hSeen hSaved hPrint scheme files

end Stored
end Cache
end SensorFlow

import SensorFlow.Proofs.File.Tree
import SensorFlow.Proofs.Store.Fingerprint
import SensorFlow.Store.Cache

/-!
# The places of saved documents

The document of a project folder has a place of its own below that folder, and saving or clearing
it touches the document of no other folder. Deleting a document takes a path that leads to its
folder: a path may name the folder and yet lead nowhere, if it goes through a folder that is not
there and back again.
-/
namespace SensorFlow.Cache
open FileTree
set_option autoImplicit false

/-- The place of the document of a project folder. -/
def documentAt (location : Location) : Location :=
  location ++ [".sensedev", "cache", "analysis.json"]

theorem documentAt_ne_nil (location : Location) : documentAt location ≠ [] := by
  simp [documentAt]

theorem documentAt_inj {first second : Location} (h : documentAt first = documentAt second) :
    first = second :=
  List.append_cancel_right h

theorem getLast?_documentAt (location : Location) :
    (documentAt location).getLast? = some "analysis.json" := by
  simp [documentAt]

theorem parts_documentPath (project : String) :
    (documentPath project).parts =
      (Path.ofString project).parts ++ [".sensedev", "cache", "analysis.json"] := by
  simp [documentPath, folder, Path.join, Path.isAbsolute, documentName]

theorem startOf_documentPath (tree : FileTree) (project : String) :
    tree.startOf (documentPath project) = tree.startOf (Path.ofString project) := by
  simp [documentPath, folder, Path.join, Path.isAbsolute, startOf]

theorem locate?_documentPath (tree : FileTree) (project : String) :
    tree.locate? (documentPath project) =
      (tree.locate? (Path.ofString project)).bind fun location =>
        tree.follow? location [".sensedev", "cache", "analysis.json"] := by
  rw [locate?, startOf_documentPath, parts_documentPath, follow?_append, locate?]

theorem resolve_documentPath (tree : FileTree) (project : String) :
    tree.resolve (documentPath project) = documentAt (tree.resolve (Path.ofString project)) := by
  rw [resolve, startOf_documentPath, parts_documentPath, List.foldl_append, ← resolve]
  simp [enter, documentAt]

/-- Where there is a document, its folder leads to it. -/
theorem follow?_documentAt {tree : FileTree} (hSound : tree.Sound) {location : Location}
    (hThere : tree.at? (documentAt location) ≠ none) :
    tree.follow? location [".sensedev", "cache", "analysis.json"] = some (documentAt location) := by
  have hProject : tree.isFolderAt location = true :=
    (isFolderAt_iff _ _).2 (hSound.folder_above _ (by simp) hThere)
  have hOuter : tree.isFolderAt (location ++ [".sensedev"]) = true :=
    (isFolderAt_iff _ _).2
      (hSound.folder_above ["cache", "analysis.json"] (by simp)
        (by simpa [documentAt] using hThere))
  have hInner : tree.isFolderAt (location ++ [".sensedev"] ++ ["cache"]) = true :=
    (isFolderAt_iff _ _).2
      (hSound.folder_above ["analysis.json"] (by simp)
        (by simpa [documentAt] using hThere))
  simp only [follow?, enter, hProject, if_true, String.reduceBEq, Bool.false_eq_true, if_false,
    hOuter, hInner]
  simp [documentAt]

/-- The document is read from its place. -/
theorem content?_eq_some {tree : FileTree} {project : String} {content : List UInt8}
    (hContent : tree.content? (documentPath project) = some content) :
    tree.at? (documentAt (tree.resolve (Path.ofString project))) = some (.file content) := by
  rw [content?, get?] at hContent
  split at hContent
  · next found hGet =>
    obtain ⟨location, hLocate, hThere⟩ := Option.bind_eq_some_iff.1 hGet
    rw [← resolve_documentPath, ← eq_resolve_of_locate? hLocate, hThere]
    exact congrArg (some ∘ Entry.file) (Option.some.inj hContent)
  · cases hContent

theorem exists?_of_written? {nesting : Nat} {tree : FileTree} {project : String} {document : Json}
    (hWritten : written? nesting tree project = some document) :
    tree.exists? (documentPath project) = true := by
  rw [written?] at hWritten
  obtain ⟨content, hContent, _⟩ := Option.bind_eq_some_iff.1 hWritten
  rw [content?] at hContent
  split at hContent
  · next hGet => rw [exists?, hGet, Option.isSome_some]
  · cases hContent

/-- What is written can be had unless the system refuses to look it up. -/
theorem document?_eq (nesting : Nat) (tree : FileTree) (project : String) :
    document? nesting tree project =
      match tree.refusal? (documentPath project) with
      | some message => .error (.refused message)
      | none => .ok (written? nesting tree project) := by
  rw [document?, isPresent]
  cases tree.refusal? (documentPath project) with
  | some message => rfl
  | none =>
    cases hThere : tree.exists? (documentPath project) with
    | true => rfl
    | false =>
      cases hWritten : written? nesting tree project with
      | none => rfl
      | some document =>
        rw [exists?_of_written? hWritten] at hThere
        cases hThere

/-- The document is a value that has no members. -/
def IsForeign (nesting : Nat) (tree : FileTree) (project : String) : Prop :=
  ∃ document, written? nesting tree project = some document ∧ ∀ members, document ≠ .obj members

/-- The fingerprint that the document holds. -/
def fingerprint? (nesting : Nat) (tree : FileTree) (project : String) : Option Json :=
  match written? nesting tree project with
  | some (.obj members) => Json.member? "fingerprint" members
  | _ => none

theorem fingerprint_eq_ok_iff {scheme : Fingerprint.Scheme} {tree : FileTree}
    {files : List String} {print : String} :
    fingerprint scheme tree files = .ok print ↔
      Fingerprint.Hashable scheme files ∧
        scheme.print (Fingerprint.bytes tree files) = print := by
  rw [← Fingerprint.ofFiles_eq_ok_iff, fingerprint]
  cases Fingerprint.ofFiles scheme tree files with
  | error error => simp [Except.mapError]
  | ok found => simp [Except.mapError]

section Stale

variable {nesting : Nat} {tree : FileTree} {project : String}

theorem isStale_of_refused {message : String}
    (hRefused : tree.refusal? (documentPath project) = some message)
    (scheme : Fingerprint.Scheme) (files : List String) :
    isStale scheme nesting tree project files = .error (.refused message) := by
  simp only [isStale, document?_eq, hRefused, bind, Except.bind]

theorem isStale_of_foreign (hSeen : tree.refusal? (documentPath project) = none)
    (hForeign : IsForeign nesting tree project) (scheme : Fingerprint.Scheme)
    (files : List String) :
    ∃ kind, isStale scheme nesting tree project files = .error (.foreign kind) := by
  obtain ⟨document, hWritten, hMembers⟩ := hForeign
  simp only [isStale, document?_eq, hSeen, hWritten, bind, Except.bind]
  cases document with
  | obj members => exact absurd rfl (hMembers members)
  | _ => exact ⟨_, rfl⟩

/-- A document of one's own is stale unless it has a fingerprint, and that of the files. -/
theorem isStale_of_own (hSeen : tree.refusal? (documentPath project) = none)
    (hOwn : ¬ IsForeign nesting tree project) (scheme : Fingerprint.Scheme) (files : List String) :
    isStale scheme nesting tree project files =
      match (fingerprint? nesting tree project).filter (!·.isEmpty) with
      | none => .ok true
      | some saved => (fingerprint scheme tree files).map fun print => saved != .str print := by
  simp only [isStale, document?_eq, hSeen, bind, Except.bind, fingerprint?]
  cases hWritten : written? nesting tree project with
  | none => rfl
  | some document =>
    cases document with
    | obj members =>
      dsimp only
      cases (Json.member? "fingerprint" members).filter (!·.isEmpty) with
      | none => rfl
      | some saved =>
        cases fingerprint scheme tree files with
        | error failure => rfl
        | ok print => rfl
    | _ => exact absurd ⟨_, hWritten, by simp⟩ hOwn

/-- The document holds a fingerprint to compare with. -/
def IsPrinted (nesting : Nat) (tree : FileTree) (project : String) : Prop :=
  ∃ saved, fingerprint? nesting tree project = some saved ∧ saved.isEmpty = false

/-- What it takes to tell whether a document is stale. -/
theorem isStale_isOk_iff (scheme : Fingerprint.Scheme) (files : List String) :
    (∃ stale, isStale scheme nesting tree project files = .ok stale) ↔
      tree.refusal? (documentPath project) = none ∧ ¬ IsForeign nesting tree project ∧
        (IsPrinted nesting tree project → Fingerprint.Hashable scheme files) := by
  cases hSeen : tree.refusal? (documentPath project) with
  | some message => simp [isStale_of_refused hSeen]
  | none =>
    by_cases hForeign : IsForeign nesting tree project
    · obtain ⟨kind, hStale⟩ := isStale_of_foreign hSeen hForeign scheme files
      simp [hStale, hForeign]
    · rw [isStale_of_own hSeen hForeign]
      cases hSaved : (fingerprint? nesting tree project).filter (!·.isEmpty) with
      | none =>
        have hPlain : ¬ IsPrinted nesting tree project := by
          rintro ⟨saved, hPrint, hFilled⟩
          simp [hPrint, hFilled] at hSaved
        simp [hForeign, hPlain]
      | some saved =>
        obtain ⟨hPrint, hFilled⟩ := Option.filter_eq_some_iff.1 hSaved
        have hPrinted : IsPrinted nesting tree project := ⟨saved, hPrint, by simpa using hFilled⟩
        have hHashable : (∃ print, fingerprint scheme tree files = .ok print) ↔
            Fingerprint.Hashable scheme files := by
          simp [fingerprint_eq_ok_iff]
        rw [← hHashable]
        cases fingerprint scheme tree files with
        | error failure => simp [Except.map, hForeign, hPrinted]
        | ok print => simp [Except.map, hForeign]

theorem isStale_of_fingerprint {print : String}
    (hSeen : tree.refusal? (documentPath project) = none)
    (hSaved : fingerprint? nesting tree project = some (.str print)) (hPrint : print ≠ "")
    (scheme : Fingerprint.Scheme) (files : List String) :
    isStale scheme nesting tree project files =
      (fingerprint scheme tree files).map fun found => print != found := by
  have hOwn : ¬ IsForeign nesting tree project := by
    rintro ⟨document, hWritten, hMembers⟩
    rw [fingerprint?, hWritten] at hSaved
    cases document with
    | obj members => exact hMembers members rfl
    | _ => cases hSaved
  have hFilled : (some (Json.str print)).filter (!·.isEmpty) = some (.str print) := by
    simp [Json.isEmpty, hPrint]
  have hNe (found : String) : (Json.str print != Json.str found) = (print != found) := by
    simp [bne, beq_eq_decide]
  rw [isStale_of_own hSeen hOwn, hSaved, hFilled]
  simp only [hNe]

end Stale

theorem load?_ne_some (nesting : Nat) (fresh : FreshIds) {tree : FileTree} {project : String}
    (hNone : ∀ content, tree.at? (documentAt (tree.resolve (Path.ofString project))) ≠
      some (.file content)) (report : Report) :
    load? nesting fresh tree project ≠ .ok (some report) := by
  have hWritten : written? nesting tree project = none := by
    cases hContent : tree.content? (documentPath project) with
    | none => rw [written?, hContent]; rfl
    | some content => exact absurd (content?_eq_some hContent) (hNone content)
  rw [load?, document?_eq, hWritten]
  cases tree.refusal? (documentPath project) with
  | none => simp [bind, Except.bind, pure, Except.pure]
  | some message => simp [bind, Except.bind]

/-- The path leads to the folder that its text names, if there is one. -/
def Straight (tree : FileTree) (project : String) : Prop :=
  tree.isFolderAt (tree.resolve (Path.ofString project)) = true →
    tree.isFolder (Path.ofString project) = true

theorem locate?_documentPath_eq_none {tree : FileTree} {project : String}
    (hAstray : tree.locate? (Path.ofString project) = none) :
    tree.locate? (documentPath project) = none := by
  rw [locate?_documentPath, hAstray]
  rfl

/-- Clearing removes the document or nothing. -/
theorem clear_cases (tree : FileTree) (project : String) :
    (clear tree project).1 = tree ∨
      (∃ content, tree.at? (documentAt (tree.resolve (Path.ofString project))) =
        some (.file content)) ∧
      (clear tree project).1 =
        tree.remove (documentAt (tree.resolve (Path.ofString project))) := by
  rw [clear]
  split
  · exact .inl rfl
  split
  · exact .inl rfl
  · next location hLocate =>
    rw [eq_resolve_of_locate? hLocate, resolve_documentPath]
    split
    · exact .inl rfl
    · exact .inl rfl
    · next content hThere => exact .inr ⟨⟨content, hThere⟩, rfl⟩

theorem at?_clear_of_straight {tree : FileTree} (hSound : tree.Sound) {project : String}
    (hStraight : Straight tree project) (hSeen : tree.refusal? (documentPath project) = none)
    (content : List UInt8) :
    (clear tree project).1.at? (documentAt (tree.resolve (Path.ofString project))) ≠
      some (.file content) := by
  intro hLeft
  have hFile : ∃ content, tree.at? (documentAt (tree.resolve (Path.ofString project))) =
      some (.file content) := by
    rcases clear_cases tree project with hSame | ⟨hThere, _⟩
    · rw [hSame] at hLeft
      exact ⟨content, hLeft⟩
    · exact hThere
  obtain ⟨found, hThere⟩ := hFile
  have hHome : tree.at? (tree.resolve (Path.ofString project)) = some .folder :=
    hSound.folder_above [".sensedev", "cache", "analysis.json"] (by simp)
      (by rw [← documentAt, hThere]; simp)
  have hLocate := ((isFolder_iff _ _).1 (hStraight ((isFolderAt_iff _ _).2 hHome))).1
  have hDocument : tree.locate? (documentPath project) =
      some (documentAt (tree.resolve (Path.ofString project))) := by
    rw [locate?_documentPath, hLocate]
    exact follow?_documentAt hSound (by rw [hThere]; simp)
  simp only [clear, hSeen, hDocument, hThere, Option.isSome_none, Bool.false_eq_true, if_false]
    at hLeft
  rw [at?_remove _ (documentAt_ne_nil _), if_pos List.prefix_rfl] at hLeft
  cases hLeft

/-- Making folders puts folders where there was nothing, and nowhere else. -/
theorem makeFoldersFrom?_spec {tree : FileTree} {location : Location} {names : List String}
    (hSound : tree.Sound) (hFolder : tree.at? location = some .folder)
    (hPlain : ".." ∉ names) {made : FileTree} {reached : Location}
    (hMade : tree.makeFoldersFrom? location names = some (made, reached)) :
    reached = location ++ names ∧ made.Sound ∧ made.current = tree.current ∧
      ∀ place, (∀ name ∈ names, place.getLast? ≠ some name) → made.at? place = tree.at? place := by
  induction names generalizing tree location with
  | nil =>
    obtain ⟨rfl, rfl⟩ := Prod.mk.inj (Option.some.inj hMade)
    exact ⟨(List.append_nil _).symm, hSound, rfl, fun _ _ => rfl⟩
  | cons name names ih =>
    obtain ⟨hName, hNames⟩ := List.ne_and_not_mem_of_not_mem_cons hPlain
    have hEnter : enter location name = location ++ [name] := by simp [enter, Ne.symm hName]
    rw [makeFoldersFrom?, hEnter] at hMade
    split at hMade
    · next hThere =>
      obtain ⟨rfl, hMadeSound, hCurrent, hFrame⟩ := ih hSound hThere hNames hMade
      refine ⟨by simp, hMadeSound, hCurrent, fun place hPlace => hFrame place fun other hOther =>
        hPlace other (List.mem_cons_of_mem _ hOther)⟩
    · cases hMade
    · next hThere =>
      have hPut : (tree.put (location ++ [name]) .folder).Sound :=
        hSound.put (by simp) (by rw [List.dropLast_concat]; exact hFolder) (.inl rfl)
      have hInner : (tree.put (location ++ [name]) .folder).at? (location ++ [name]) =
          some .folder := by
        rw [at?_put _ _ (by simp), if_pos rfl]
      obtain ⟨rfl, hMadeSound, hCurrent, hFrame⟩ := ih hPut hInner hNames hMade
      refine ⟨by simp, hMadeSound, hCurrent, ?_⟩
      intro place hPlace
      rw [hFrame place fun other hOther => hPlace other (List.mem_cons_of_mem _ hOther),
        at?_put _ _ (by simp), if_neg]
      rintro rfl
      exact hPlace name List.mem_cons_self (by simp)

theorem makeFolders?_folder {tree : FileTree} {project : String}
    (hFolder : tree.isFolder (Path.ofString project) = true) :
    tree.makeFolders? (folder project) =
      tree.makeFoldersFrom? (tree.resolve (Path.ofString project)) [".sensedev", "cache"] := by
  obtain ⟨hLocate, hThere⟩ := (isFolder_iff _ _).1 hFolder
  have hParts : (folder project).parts =
      (Path.ofString project).parts ++ [".sensedev", "cache"] := by
    simp [folder, Path.join, Path.isAbsolute]
  have hStart : tree.startOf (folder project) = tree.startOf (Path.ofString project) := by
    simp [folder, Path.join, Path.isAbsolute, startOf]
  rw [makeFolders?, hParts, hStart]
  exact makeFoldersFrom?_append hLocate hThere _

theorem write?_eq_some {tree written : FileTree} {location : Location} {name : String}
    {content : List UInt8} (hWrite : tree.write? location name content = some written) :
    tree.at? location = some .folder ∧ tree.at? (location ++ [name]) ≠ some .folder ∧
      written = tree.put (location ++ [name]) (.file content) := by
  rw [write?] at hWrite
  split at hWrite
  · next hFree =>
    rw [Bool.and_eq_true, Bool.not_eq_true', isFolderAt_iff, ← Bool.not_eq_true, isFolderAt_iff]
      at hFree
    exact ⟨hFree.1, hFree.2, (Option.some.inj hWrite).symm⟩
  · cases hWrite

/-- What saving leaves of a tree: it is sound, and the documents of the other folders are the
same. -/
structure Spares (project : Location) (before after : FileTree) : Prop where
  sound : after.Sound
  current : after.current = before.current
  others : ∀ other, other ≠ project → after.at? (documentAt other) = before.at? (documentAt other)

theorem Spares.rfl {project : Location} {tree : FileTree} (hSound : tree.Sound) :
    Spares project tree tree :=
  ⟨hSound, by rfl, fun _ _ => by rfl⟩

theorem Spares.trans {project : Location} {first second third : FileTree}
    (hFirst : Spares project first second) (hSecond : Spares project second third) :
    Spares project first third where
  sound := hSecond.sound
  current := hSecond.current.trans hFirst.current
  others other hOther := (hSecond.others other hOther).trans (hFirst.others other hOther)

theorem Spares.write? {tree written : FileTree} {project : Location} {name : String}
    {content : List UInt8} (hSound : tree.Sound)
    (hWrite : tree.write? (project ++ [".sensedev", "cache"]) name content = some written) :
    Spares project tree written := by
  obtain ⟨hFolder, hFree, rfl⟩ := write?_eq_some hWrite
  refine ⟨hSound.put (by simp) (by rw [List.dropLast_concat]; exact hFolder) (.inr hFree), ?_, ?_⟩
  · rfl
  · intro other hOther
    rw [at?_put _ _ (by simp), if_neg]
    intro hSame
    have hName : name = "analysis.json" := by
      have hLast := congrArg List.getLast? hSame
      rw [getLast?_documentAt] at hLast
      simpa using hLast.symm
    subst hName
    exact hOther (documentAt_inj (by simpa [documentAt] using hSame))

theorem spares_place {tree : FileTree} (hSound : tree.Sound) {project : String}
    (hFolder : tree.isFolder (Path.ofString project) = true) (content : List UInt8) :
    Spares (tree.resolve (Path.ofString project)) tree (place tree project content).1 := by
  have hHome := ((isFolder_iff _ _).1 hFolder).2
  rw [place, makeFolders?_folder hFolder]
  split
  · exact .rfl hSound
  · next made reached hMade =>
    obtain ⟨rfl, hMadeSound, hCurrent, hFrame⟩ :=
      makeFoldersFrom?_spec hSound hHome (by decide) hMade
    have hMadeSpares : Spares (tree.resolve (Path.ofString project)) tree made := by
      refine ⟨hMadeSound, hCurrent, fun other _ => hFrame _ fun name hName => ?_⟩
      rw [getLast?_documentAt]
      rintro ⟨⟩
      revert hName
      decide
    dsimp only
    split
    · exact hMadeSpares
    split
    · exact hMadeSpares
    · next drafted hDrafted =>
      have hDraftSpares := hMadeSpares.trans (.write? hMadeSound hDrafted)
      split
      · exact hDraftSpares
      · next written hWritten =>
        have hWrittenSpares := hDraftSpares.trans (.write? hDraftSpares.sound hWritten)
        refine ⟨hWrittenSpares.sound.remove (by simp), hWrittenSpares.current, ?_⟩
        intro other hOther
        rw [at?_remove _ (by simp)]
        split
        · next hBelow =>
          -- the draft was no folder, so there has been nothing below it
          have hNone : made.at? (documentAt other) = none := by
            refine hMadeSound.none_below (write?_eq_some hDrafted).2.1 hBelow ?_
            intro hSame
            have hLast := congrArg List.getLast? hSame
            rw [getLast?_documentAt] at hLast
            revert hLast
            simp [documentName]
          rw [← hNone, hMadeSpares.others other hOther]
        · exact hWrittenSpares.others other hOther

/-- Saving puts the document in its place, if there is a fingerprint for the files. -/
theorem save_eq_ok_iff {scheme : Fingerprint.Scheme} {tree : FileTree} {report : Report}
    {project : String} {files : List String} {savedAt : Rat} {answer : FileTree × Bool} :
    save scheme tree report project (some files) savedAt = .ok answer ↔
      Fingerprint.Hashable scheme files ∧
        place tree project (Text.Utf8.encode (document report savedAt
          (some (scheme.print (Fingerprint.bytes tree files)))).spell) = answer := by
  simp only [save, Option.mapM_some]
  cases hPrint : fingerprint scheme tree files with
  | error failure =>
    have hNot : ¬ Fingerprint.Hashable scheme files := fun hFiles => by
      rw [fingerprint_eq_ok_iff.2 ⟨hFiles, rfl⟩] at hPrint
      cases hPrint
    simp [hNot, bind, Except.bind, Functor.map, Except.map]
  | ok print =>
    obtain ⟨hFiles, rfl⟩ := fingerprint_eq_ok_iff.1 hPrint
    simp [hFiles, bind, Except.bind, Functor.map, Except.map, pure, Except.pure]

theorem spares_save {scheme : Fingerprint.Scheme} {tree : FileTree} (hSound : tree.Sound)
    {project : String} (hFolder : tree.isFolder (Path.ofString project) = true) {report : Report}
    {files : List String} {savedAt : Rat} {answer : FileTree × Bool}
    (hSave : save scheme tree report project (some files) savedAt = .ok answer) :
    Spares (tree.resolve (Path.ofString project)) tree answer.1 := by
  obtain ⟨_, rfl⟩ := save_eq_ok_iff.1 hSave
  exact spares_place hSound hFolder _

theorem spares_clear {tree : FileTree} (hSound : tree.Sound) (project : String) :
    Spares (tree.resolve (Path.ofString project)) tree (clear tree project).1 := by
  rcases clear_cases tree project with hSame | ⟨⟨content, hThere⟩, hRemoved⟩
  · rw [hSame]
    exact .rfl hSound
  · rw [hRemoved]
    refine ⟨hSound.remove (documentAt_ne_nil _), by rfl, ?_⟩
    intro other hOther
    rw [at?_remove _ (documentAt_ne_nil _)]
    split
    · next hBelow =>
      refine (hSound.none_below (by rw [hThere]; simp) hBelow ?_).symm
      exact fun hSame => hOther (documentAt_inj hSame).symm
    · rfl

end SensorFlow.Cache

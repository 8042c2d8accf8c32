import Mathlib.Data.Set.Function
import SensorFlow.Proofs.Service.Activity
import SensorFlow.Proofs.Service.SavedResult
import SensorFlow.Proofs.Store.Saving
import SensorFlow.Service.Query

/-!
# Saved results stand for analyses

Documents come from analyses only, each with the fingerprint of the files that it is about. So a
saved result is given only where an analysis of the present files would find the same. And it is
given as long as nothing has put it aside: a change to the sources, a clearing, or an analysis of
the same folder that saved a report about other files, since a folder has one document.
-/
namespace SensorFlow
open FileTree Inventory
set_option autoImplicit false

/-- What a summary counts, behind the path that it opens with. -/
def Report.counts (report : Report) : List (String × Json) := report.summary.tail

namespace Workbench

/-- The activity runs an analysis of the project, and its report is saved. -/
structure Saves (bench : Workbench) (activity : Activity) (project : String)
    (exclude : List String) (inventory : Inventory) (report : Report) : Prop where
  runs : Runs bench activity project exclude report
  taken : bench.inventory project exclude = .ok inventory
  enabled : bench.settings.writeCache = true
  saved : ∃ tree, Cache.save bench.scheme bench.tree report project (some inventory.all) bench.now =
    .ok (tree, true)

/-- The document that is to be saved for a report about files. -/
def documentFor (bench : Workbench) (report : Report) (files : List String) : Json :=
  Cache.document report bench.now (some (bench.scheme.print (Fingerprint.bytes bench.tree files)))

/-- Edits keep out of the folders of documents and leave a regular tree without zero bytes in its
sources; a document that is saved can be read back, and its hash is among those told apart. -/
structure Trusted (streams : Set (List UInt8)) (bench : Workbench) (activity : Activity) :
    Prop where
  edit : ∀ tree, activity = .edit tree →
    Edited bench.tree tree ∧ tree.Regular ∧ SourcesZeroFree tree
  analysis : ∀ project exclude inventory report,
    Saves bench activity project exclude inventory report →
      Fingerprint.bytes bench.tree inventory.all ∈ streams ∧
      Cache.Legible bench.nesting (bench.documentFor report inventory.all)

/-- The activity neither changes the sources of the folder nor clears it nor saves a report about
other files for it. -/
structure Undisturbing (root : Location) (files : List String) (bench : Workbench)
    (activity : Activity) : Prop where
  edit : ∀ tree, activity = .edit tree → SameSources root bench.tree tree
  clear : ∀ project, activity = .clear project → bench.locationOf project ≠ root
  analysis : ∀ project exclude inventory report,
    Saves bench activity project exclude inventory report → bench.locationOf project = root →
      inventory.all = files

def Quiet (streams : Set (List UInt8)) (root : Location) (files : List String)
    (bench : Workbench) (activity : Activity) : Prop :=
  Trusted streams bench activity ∧ Undisturbing root files bench activity

structure Pristine (bench : Workbench) : Prop where
  regular : bench.tree.Regular
  zeroFree : SourcesZeroFree bench.tree
  languages : bench.languages = .standard
  documents : ∀ location content,
    bench.tree.at? (Cache.documentAt location) ≠ some (.file content)

/-- The document of the folder holds what an analysis of some files has found, under the
fingerprint of those files. -/
def Genuine (streams : Set (List UInt8)) (start : Workbench) (tree : FileTree)
    (root : Location) : Prop :=
  ∃ (past : FileTree) (inventory : Inventory) (project : Option String) (savedAt : Rat),
    Accurate past inventory ∧ 0 < inventory.kotlin.length + inventory.java.length ∧
    Fingerprint.bytes past inventory.all ∈ streams ∧
    Cache.Stored start.nesting tree root
      (Analysis.findings start.extractors past inventory.kotlin inventory.java project) savedAt
      (start.scheme.print (Fingerprint.bytes past inventory.all))

structure Accounted (streams : Set (List UInt8)) (start bench : Workbench) : Prop where
  alike : Alike start bench
  regular : bench.tree.Regular
  zeroFree : SourcesZeroFree bench.tree
  languages : bench.languages = .standard
  documents : ∀ root content, bench.tree.at? (Cache.documentAt root) = some (.file content) →
    Genuine streams start bench.tree root

theorem Pristine.accounted {start : Workbench} (hPristine : Pristine start)
    (streams : Set (List UInt8)) : Accounted streams start start where
  alike := .refl start
  regular := hPristine.regular
  zeroFree := hPristine.zeroFree
  languages := hPristine.languages
  documents root content hThere := absurd hThere (hPristine.documents root content)

theorem Genuine.of_same {streams : Set (List UInt8)} {start : Workbench}
    {before after : FileTree} {root : Location} (hGenuine : Genuine streams start before root)
    (hSame : after.at? (Cache.documentAt root) = before.at? (Cache.documentAt root)) :
    Genuine streams start after root := by
  obtain ⟨past, inventory, project, savedAt, hAccurate, hFiles, hBytes, hStored⟩ := hGenuine
  exact ⟨past, inventory, project, savedAt, hAccurate, hFiles, hBytes, hStored.legible,
    hSame.trans hStored.there⟩

namespace Accounted

variable {streams : Set (List UInt8)} {start bench : Workbench}

theorem accurate (hAccounted : Accounted streams start bench) {project : String}
    {exclude : List String} {inventory : Inventory}
    (hInventory : bench.inventory project exclude = .ok inventory) :
    Accurate bench.tree inventory :=
  accurate_of_take hAccounted.regular hAccounted.zeroFree
    ((inventory_eq_ok_iff hAccounted.languages _).1 hInventory).2

theorem of_tree (hAccounted : Accounted streams start bench) {activity : Activity}
    (hRegular : (bench.perform activity).tree.Regular)
    (hZeroFree : SourcesZeroFree (bench.perform activity).tree)
    (hDocuments : ∀ root content,
      (bench.perform activity).tree.at? (Cache.documentAt root) = some (.file content) →
        Genuine streams start (bench.perform activity).tree root) :
    Accounted streams start (bench.perform activity) := by
  have hAlike := alike_perform bench activity
  exact ⟨hAccounted.alike.trans hAlike, hRegular, hZeroFree,
    hAlike.languages.trans hAccounted.languages, hDocuments⟩

theorem step (hAccounted : Accounted streams start bench) {activity : Activity}
    (hTrusted : Trusted streams bench activity) :
    Accounted streams start (bench.perform activity) := by
  have hSound := hAccounted.regular.sound
  rcases tree_perform_cases bench activity with
    hTree | ⟨project, exclude, report, inventory, answer, hRuns, hTaken, hEnabled, hSave, hTree⟩ |
    ⟨project, _, hTree⟩ | ⟨tree, hEdit, hTree⟩
  · refine hAccounted.of_tree (by rw [hTree]; exact hAccounted.regular)
      (by rw [hTree]; exact hAccounted.zeroFree) ?_
    rw [hTree]
    exact hAccounted.documents
  · obtain ⟨hFolder, found, hFinds, _⟩ := hRuns.spec
    obtain rfl : found = inventory := Except.ok.inj (hFinds.taken.symm.trans hTaken)
    have hLeaves := Cache.leaves_save hAccounted.regular hFolder hSave
    refine hAccounted.of_tree (by rw [hTree]; exact hLeaves.regular)
      (by rw [hTree]; exact hLeaves.sourcesZeroFree hAccounted.zeroFree) ?_
    intro root content hThere
    have hDocument := Cache.at?_documentAt_save hSound hFolder hSave root
    rw [← hTree] at hDocument
    split at hDocument
    · next hOwn =>
      have hSaved : Cache.save bench.scheme bench.tree report project (some found.all) bench.now =
          .ok (answer.1, true) := by
        rw [hSave, ← hOwn.2]
      obtain ⟨hBytes, hLegible⟩ := hTrusted.analysis project exclude found report
        ⟨hRuns, hTaken, hEnabled, answer.1, hSaved⟩
      refine ⟨bench.tree, found, some project, bench.now, hAccounted.accurate hTaken, hFinds.files,
        hBytes, ?_⟩
      rw [← hAccounted.alike.extractors, ← hAccounted.alike.scheme, ← hAccounted.alike.nesting,
        ← hFinds.report]
      exact ⟨hLegible, hDocument⟩
    · rw [hDocument] at hThere
      exact (hAccounted.documents root content hThere).of_same hDocument
  · have hLeaves := Cache.leaves_clear hAccounted.regular project
    refine hAccounted.of_tree (by rw [hTree]; exact hLeaves.regular)
      (by rw [hTree]; exact hLeaves.sourcesZeroFree hAccounted.zeroFree) ?_
    intro root content hLeft
    have hThere := Cache.at?_documentAt_clear project (by rwa [hTree] at hLeft)
    exact (hAccounted.documents root content hThere).of_same (hLeft.trans hThere.symm)
  · obtain ⟨hEdited, hRegular, hZeroFree⟩ := hTrusted.edit tree hEdit
    refine hAccounted.of_tree (by rw [hTree]; exact hRegular) (by rw [hTree]; exact hZeroFree) ?_
    intro root content hThere
    have hSame := hEdited.saved (Cache.documentAt root) (by simp [Cache.documentAt])
    rw [hTree] at hThere ⊢
    exact (hAccounted.documents root content (hSame ▸ hThere)).of_same hSame

end Accounted

theorem History.accounted {streams : Set (List UInt8)} {start origin bench : Workbench}
    {allowed : Workbench → Activity → Prop} {log : List (Location × Option Report)}
    (hAllowed : ∀ bench activity, allowed bench activity → Trusted streams bench activity)
    (hHistory : History allowed origin log bench) (hOrigin : Accounted streams start origin) :
    Accounted streams start bench := by
  induction hHistory with
  | start => exact hOrigin
  | step activity _ hStep ih => exact ih.step (hAllowed _ _ hStep)

section Answers

variable {streams : Set (List UInt8)} {start bench : Workbench} {project : String}
  {exclude : List String} {report : Report}

theorem saved?_eq_some (hSaved : bench.saved? project exclude = .ok (some report)) :
    ∃ inventory, bench.inventory project exclude = .ok inventory ∧
      Cache.isStale bench.scheme bench.nesting bench.tree project inventory.all = .ok false ∧
      Cache.load? bench.nesting bench.fresh bench.tree project = .ok (some report) := by
  cases hTaken : bench.inventory project exclude with
  | error error =>
    rw [saved?] at hSaved
    cases hPresent : Cache.isPresent bench.tree project with
    | error failure => simp [hPresent, Except.mapError, bind, Except.bind] at hSaved
    | ok present =>
      cases present with
      | true => simp [hPresent, hTaken, Except.mapError, bind, Except.bind] at hSaved
      | false =>
        simp [hPresent, Except.mapError, bind, Except.bind, pure, Except.pure] at hSaved
  | ok inventory =>
    rw [saved?_eq hTaken] at hSaved
    split at hSaved
    · cases hSaved
    · cases hSaved
    · next hStale =>
      refine ⟨inventory, rfl, hStale, ?_⟩
      cases hLoad : Cache.load? bench.nesting bench.fresh bench.tree project with
      | error failure =>
        rw [hLoad] at hSaved
        cases hSaved
      | ok loaded =>
        rw [hLoad] at hSaved
        rw [(Option.filter_eq_some_iff.1 (Except.ok.inj hSaved)).1]

theorem exists_document_of_not_stale {scheme : Fingerprint.Scheme} {nesting : Nat}
    {tree : FileTree} {files : List String}
    (hStale : Cache.isStale scheme nesting tree project files = .ok false) :
    ∃ content, tree.at? (Cache.documentAt (tree.resolve (Path.ofString project))) =
      some (.file content) := by
  cases hContent : tree.content? (Cache.documentPath project) with
  | some content => exact ⟨content, Cache.content?_eq_some hContent⟩
  | none =>
    have hSeen := ((Cache.isStale_isOk_iff _ _).1 ⟨false, hStale⟩).1
    have hWritten : Cache.written? nesting tree project = none := by
      rw [Cache.written?, hContent]
      rfl
    simp [Cache.isStale, Cache.document?_eq, hSeen, hWritten, bind, Except.bind, pure,
      Except.pure] at hStale

/-- A saved result that is still right has the counts of what an analysis would find. -/
theorem Accounted.finds_of_saved (hAccounted : Accounted streams start bench)
    (hHash : Set.InjOn start.scheme.hash streams)
    (hDigest : ∀ content, start.scheme.hash content ≠ [])
    (hFolder : bench.tree.isFolder (Path.ofString project) = true)
    (hStreams : ∀ inventory, bench.inventory project exclude = .ok inventory →
      Fingerprint.bytes bench.tree inventory.all ∈ streams)
    (hSaved : bench.saved? project exclude = .ok (some report)) :
    ∃ inventory found, Finds bench project exclude inventory found ∧
      Fingerprint.Hashable bench.scheme inventory.all ∧ found.counts = report.counts := by
  obtain ⟨inventory, hTaken, hStale, hLoad⟩ := saved?_eq_some hSaved
  have hSound := hAccounted.regular.sound
  have hSeen := ((Cache.isStale_isOk_iff _ _).1 ⟨false, hStale⟩).1
  obtain ⟨content, hThere⟩ := exists_document_of_not_stale hStale
  obtain ⟨past, kept, origin, savedAt, hAccurate, hFiles, hBytes, hStored⟩ :=
    hAccounted.documents _ content hThere
  rw [← hAccounted.alike.nesting, ← hAccounted.alike.scheme] at hStored
  rw [← hAccounted.alike.scheme] at hHash hDigest
  rw [hStored.load?_eq hSound hFolder hSeen] at hLoad
  rw [hStored.isStale_eq hSound hFolder hSeen (Fingerprint.print_ne_empty (hDigest _))] at hStale
  obtain ⟨print, hPrint, hMatch⟩ : ∃ print,
      Cache.fingerprint bench.scheme bench.tree inventory.all = .ok print ∧
        bench.scheme.print (Fingerprint.bytes past kept.all) = print := by
    cases hPrint : Cache.fingerprint bench.scheme bench.tree inventory.all with
    | error failure =>
      rw [hPrint] at hStale
      cases hStale
    | ok print =>
      rw [hPrint] at hStale
      exact ⟨print, rfl, by simpa using Except.ok.inj hStale⟩
  obtain ⟨hHashable, hNow⟩ := Cache.fingerprint_eq_ok_iff.1 hPrint
  -- one fingerprint is one hash, so the files and contents are those that the report is about
  have hSame := hHash hBytes (hStreams inventory hTaken)
    ((Fingerprint.print_eq_iff _ _).1 (hMatch.trans hNow.symm))
  obtain ⟨rfl, hContents⟩ := hAccurate.eq_of_bytes_eq (hAccounted.accurate hTaken) hSame
  refine ⟨kept, _, ⟨hTaken, hFiles, rfl⟩, hHashable, ?_⟩
  have hFindings := Analysis.findings_of_same_contents bench.extractors
    (fun path hPath => (hContents path ((mem_all_iff _ _).2 hPath)).symm) (some project) origin
  rw [hFindings, ← Option.some.inj (Except.ok.inj hLoad), ← hAccounted.alike.extractors]
  rfl

end Answers

/-- The sources of the folder and the settings are as they were at the origin, and the document
holds a report about these files under the fingerprint that they had there. -/
structure Holds (origin : Workbench) (root : Location) (files : List String) (bench : Workbench) :
    Prop where
  alike : Alike origin bench
  current : bench.tree.current = origin.tree.current
  sources : SameSources root origin.tree bench.tree
  hashable : Fingerprint.Hashable origin.scheme files
  document : ∃ report savedAt, report.success = true ∧
    Cache.Stored origin.nesting bench.tree root report savedAt
      (origin.scheme.print (Fingerprint.bytes origin.tree files))

namespace Holds

variable {streams : Set (List UInt8)} {start origin bench : Workbench} {project : String}
  {exclude : List String} {inventory : Inventory}

theorem of_tree {root : Location} {files : List String} (hHolds : Holds origin root files bench)
    {activity : Activity}
    (hCurrent : (bench.perform activity).tree.current = bench.tree.current)
    (hSources : SameSources root bench.tree (bench.perform activity).tree)
    (hDocument : ∃ report savedAt, report.success = true ∧
      Cache.Stored origin.nesting (bench.perform activity).tree root report savedAt
        (origin.scheme.print (Fingerprint.bytes origin.tree files))) :
    Holds origin root files (bench.perform activity) :=
  ⟨hHolds.alike.trans (alike_perform bench activity), hCurrent.trans hHolds.current,
    hHolds.sources.trans hSources, hHolds.hashable, hDocument⟩

theorem document_of_same {root : Location} {files : List String}
    (hHolds : Holds origin root files bench) {tree : FileTree}
    (hSame : tree.at? (Cache.documentAt root) = bench.tree.at? (Cache.documentAt root)) :
    ∃ report savedAt, report.success = true ∧
      Cache.Stored origin.nesting tree root report savedAt
        (origin.scheme.print (Fingerprint.bytes origin.tree files)) := by
  obtain ⟨report, savedAt, hSuccess, hStored⟩ := hHolds.document
  exact ⟨report, savedAt, hSuccess, hStored.legible, hSame.trans hStored.there⟩

/-- The files of the inventory have kept what they are hashed by. -/
theorem bytes_eq (hHolds : Holds origin (origin.locationOf project) inventory.all bench)
    (hOrigin : Accounted streams start origin) (hAccounted : Accounted streams start bench)
    (hFolder : origin.tree.isFolder (Path.ofString project) = true)
    (hInventory : origin.inventory project exclude = .ok inventory) :
    Fingerprint.bytes bench.tree inventory.all = Fingerprint.bytes origin.tree inventory.all :=
  bytes_of_sameSources hOrigin.regular hAccounted.regular rfl ((isFolder_iff _ _).1 hFolder).2
    hHolds.sources ((inventory_eq_ok_iff hOrigin.languages _).1 hInventory).2

theorem step (hHolds : Holds origin (origin.locationOf project) inventory.all bench)
    (hOrigin : Accounted streams start origin) (hAccounted : Accounted streams start bench)
    (hFolder : origin.tree.isFolder (Path.ofString project) = true)
    (hInventory : origin.inventory project exclude = .ok inventory) {activity : Activity}
    (hTrusted : Trusted streams bench activity)
    (hQuiet : Undisturbing (origin.locationOf project) inventory.all bench activity) :
    Holds origin (origin.locationOf project) inventory.all (bench.perform activity) := by
  have hSound := hAccounted.regular.sound
  rcases tree_perform_cases bench activity with
    hTree | ⟨other, otherExclude, report, found, answer, hRuns, hFound, hEnabled, hSave, hTree⟩ |
    ⟨other, hClear, hTree⟩ | ⟨tree, hEdit, hTree⟩
  · refine hHolds.of_tree (by rw [hTree]) (by rw [hTree]; exact .refl _ _) ?_
    rw [hTree]
    exact hHolds.document
  · obtain ⟨hOtherFolder, taken, hFinds, _⟩ := hRuns.spec
    obtain rfl : taken = found := Except.ok.inj (hFinds.taken.symm.trans hFound)
    have hLeaves := Cache.leaves_save hAccounted.regular hOtherFolder hSave
    have hDocument := Cache.at?_documentAt_save hSound hOtherFolder hSave
      (origin.locationOf project)
    rw [← hTree] at hLeaves hDocument
    refine hHolds.of_tree hLeaves.current (hLeaves.sameSources _) ?_
    split at hDocument
    · next hOwn =>
      -- the new document is about the same files, and they have not changed
      have hSaves : Saves bench activity other otherExclude taken report :=
        ⟨hRuns, hFound, hEnabled, answer.1, by rw [hSave, ← hOwn.2]⟩
      have hFiles := hQuiet.analysis _ _ _ _ hSaves hOwn.1.symm
      have hBytes := hHolds.bytes_eq hOrigin hAccounted hFolder hInventory
      have hLegible := (hTrusted.analysis _ _ _ _ hSaves).2
      rw [hFiles, hBytes, hHolds.alike.scheme] at hDocument
      rw [documentFor, hFiles, hBytes, hHolds.alike.scheme, hHolds.alike.nesting] at hLegible
      exact ⟨report, bench.now, by rw [hFinds.report]; rfl, hLegible, hDocument⟩
    · exact hHolds.document_of_same hDocument
  · have hLeaves := Cache.leaves_clear hAccounted.regular other
    have hOthers := (Cache.spares_clear hSound other).others (origin.locationOf project)
      (Ne.symm (hQuiet.clear other hClear))
    rw [← hTree] at hLeaves hOthers
    exact hHolds.of_tree hLeaves.current (hLeaves.sameSources _) (hHolds.document_of_same hOthers)
  · obtain ⟨hEdited, _, _⟩ := hTrusted.edit tree hEdit
    have hSame := hEdited.saved (Cache.documentAt (origin.locationOf project))
      (by simp [Cache.documentAt])
    refine hHolds.of_tree ?_ ?_ ?_
    · rw [hTree]
      exact hEdited.current
    · rw [hTree]
      exact hQuiet.edit tree hEdit
    · rw [hTree]
      exact hHolds.document_of_same hSame

theorem of_saves (hOrigin : Accounted streams start origin) {activity : Activity} {report : Report}
    (hTrusted : Trusted streams origin activity)
    (hSaves : Saves origin activity project exclude inventory report) :
    Holds origin (origin.locationOf project) inventory.all (origin.perform activity) := by
  obtain ⟨hFolder, found, hFinds, _⟩ := hSaves.runs.spec
  obtain ⟨tree, hSave⟩ := hSaves.saved
  obtain ⟨answer, hAnswer, hTree⟩ := hSaves.runs.exists_save hSaves.taken hSaves.enabled
  obtain rfl : answer = (tree, true) := Except.ok.inj (hAnswer.symm.trans hSave)
  have hLeaves := Cache.leaves_save hOrigin.regular hFolder hSave
  have hDocument := Cache.at?_documentAt_save hOrigin.regular.sound hFolder hSave
    (origin.locationOf project)
  rw [if_pos ⟨rfl, rfl⟩] at hDocument
  rw [← hTree] at hLeaves hDocument
  refine ⟨alike_perform origin activity, hLeaves.current, hLeaves.sameSources _,
    (Cache.save_eq_ok_iff.1 hSave).1, report, origin.now, by rw [hFinds.report]; rfl, ?_, hDocument⟩
  exact (hTrusted.analysis _ _ _ _ hSaves).2

theorem resolve_eq (hHolds : Holds origin (origin.locationOf project) inventory.all bench) :
    bench.tree.resolve (Path.ofString project) = origin.locationOf project := by
  simp [locationOf, resolve, startOf, hHolds.current]

theorem at?_root (hHolds : Holds origin (origin.locationOf project) inventory.all bench)
    (hOrigin : Accounted streams start origin) (hAccounted : Accounted streams start bench)
    (hFolder : origin.tree.isFolder (Path.ofString project) = true)
    (hInventory : origin.inventory project exclude = .ok inventory)
    (hFiles : 0 < inventory.kotlin.length + inventory.java.length) :
    bench.tree.at? (origin.locationOf project) = some .folder := by
  obtain ⟨place, content, hListed, hFile⟩ := exists_source_of_take hOrigin.regular rfl
    ((isFolder_iff _ _).1 hFolder).2 ((inventory_eq_ok_iff hOrigin.languages _).1 hInventory).2
    hFiles
  -- one of the sources has been there all along, and so has the folder above it
  have hNow := (hHolds.sources.sources place hListed content).2 hFile
  exact hAccounted.regular.sound.folder_above place hListed.inside (by simp [hNow])

theorem exists_cached (hHolds : Holds origin (origin.locationOf project) inventory.all bench)
    (hOrigin : Accounted streams start origin) (hAccounted : Accounted streams start bench)
    (hDigest : ∀ content, start.scheme.hash content ≠ [])
    (hIgnoring : Matcher.SettledByIgnoreFile start.ignoring)
    (hFolder : origin.tree.isFolder (Path.ofString project) = true)
    (hInventory : origin.inventory project exclude = .ok inventory)
    (hThere : bench.tree.isFolder (Path.ofString project) = true)
    (hSeen : bench.tree.refusal? (Cache.documentPath project) = none) :
    ∃ report, (bench.analyze project exclude true).2 = .ok (true, report) := by
  have hSound := hAccounted.regular.sound
  have hRoot := hHolds.resolve_eq
  have hHome := ((isFolder_iff _ _).1 hThere).2
  rw [hRoot] at hHome
  rw [← hOrigin.alike.ignoring] at hIgnoring
  rw [← hOrigin.alike.scheme] at hDigest
  obtain ⟨hWorking, hTake⟩ := (inventory_eq_ok_iff hOrigin.languages _).1 hInventory
  have hTakeNow := take_of_sameSources hIgnoring hOrigin.regular hAccounted.regular rfl hRoot
    ((isFolder_iff _ _).1 hFolder).2 hHome hHolds.sources hTake
  have hBytes := hHolds.bytes_eq hOrigin hAccounted hFolder hInventory
  have hSelection : bench.selection exclude = origin.selection exclude := by
    rw [selection, hHolds.alike.settings, ← selection]
  have hNow : bench.inventory project exclude = .ok inventory := by
    refine (inventory_eq_ok_iff hAccounted.languages _).2 ⟨?_, ?_⟩
    · rw [hHolds.alike.faults]
      exact hWorking
    · rw [hSelection, hHolds.alike.ignoring]
      exact hTakeNow
  obtain ⟨report, savedAt, hSuccess, hStored⟩ := hHolds.document
  rw [← hRoot, ← hHolds.alike.nesting] at hStored
  have hPrint : Cache.fingerprint bench.scheme bench.tree inventory.all =
      .ok (origin.scheme.print (Fingerprint.bytes origin.tree inventory.all)) := by
    rw [hHolds.alike.scheme]
    exact Cache.fingerprint_eq_ok_iff.2 ⟨hHolds.hashable, by rw [hBytes]⟩
  have hStale : Cache.isStale bench.scheme bench.nesting bench.tree project inventory.all =
      .ok false := by
    rw [hStored.isStale_eq hSound hThere hSeen (Fingerprint.print_ne_empty (hDigest _)), hPrint]
    simp [Except.map]
  have hSaved : bench.saved? project exclude = .ok (some report) := by
    rw [saved?_eq hNow, hStale, hStored.load?_eq hSound hThere hSeen]
    simp [Except.mapError, Except.map, hSuccess]
  refine ⟨report, ?_⟩
  simp [analyze, hThere, hSaved]

end Holds

theorem History.holds {streams : Set (List UInt8)} {start origin first bench : Workbench}
    {log : List (Location × Option Report)} {project : String} {exclude : List String}
    {inventory : Inventory}
    (hHistory : History (Quiet streams (origin.locationOf project) inventory.all) first log
      bench)
    (hFirst : Holds origin (origin.locationOf project) inventory.all first)
    (hOrigin : Accounted streams start origin) (hAccounted : Accounted streams start first)
    (hFolder : origin.tree.isFolder (Path.ofString project) = true)
    (hInventory : origin.inventory project exclude = .ok inventory) :
    Holds origin (origin.locationOf project) inventory.all bench := by
  induction hHistory with
  | start => exact hFirst
  | step activity hBefore hStep ih =>
    have hBench := hBefore.accounted (fun _ _ hAllowed => hAllowed.1) hAccounted
    exact ih.step hOrigin hBench hFolder hInventory hStep.1 hStep.2

/-- A saved result is given only where an analysis of the present files would report the same
counts. After an analysis whose report was saved it is given as long as nothing has put it aside,
the path leads to the folder and the document can be looked up. This rests on a hash that tells the
files apart that are met and is never empty, and on a matcher that looks at the ignore file
alone. -/
theorem saved_results_stand_for_analyses {streams : Set (List UInt8)} {start bench : Workbench}
    (hHash : Set.InjOn start.scheme.hash streams)
    (hDigest : ∀ content, start.scheme.hash content ≠ [])
    (hIgnoring : Matcher.SettledByIgnoreFile start.ignoring)
    {log : List (Location × Option Report)} (hStart : Pristine start)
    (hHistory : History (Trusted streams) start log bench) (project : String)
    (exclude : List String)
    (hStreams : ∀ inventory, bench.inventory project exclude = .ok inventory →
      Fingerprint.bytes bench.tree inventory.all ∈ streams) :
    (∀ report, (bench.analyze project exclude true).2 = .ok (true, report) →
      ∃ found, (bench.analyze project exclude false).2 = .ok (false, found) ∧
        found.counts = report.counts) ∧
    ∀ activity inventory report, Trusted streams bench activity →
      Saves bench activity project exclude inventory report →
      ∀ more later, History (Quiet streams (bench.locationOf project) inventory.all)
          (bench.perform activity) more later →
        (".." ∈ (Path.ofString project).parts →
          later.tree.isFolder (Path.ofString project) = true) →
        later.tree.refusal? (Cache.documentPath project) = none →
        ∃ cached, (later.analyze project exclude true).2 = .ok (true, cached) := by
  have hAccounted := hHistory.accounted (fun _ _ hTrusted => hTrusted) (hStart.accounted streams)
  constructor
  · intro report hAnswer
    rcases analyze_ends bench project exclude true with
      ⟨error, hEnds⟩ | ⟨hFolder, ⟨saved, _, hSaved, hEnds⟩ | hEnds⟩
    · rw [hEnds] at hAnswer
      cases hAnswer
    · rw [hEnds] at hAnswer
      cases hAnswer
      obtain ⟨inventory, found, hFinds, hHashable, hCounts⟩ :=
        hAccounted.finds_of_saved hHash hDigest hFolder hStreams hSaved
      refine ⟨found, ?_, hCounts⟩
      simp [analyze, hFolder, run_never hFinds fun _ => hHashable, Except.map]
    · rw [hEnds] at hAnswer
      cases hRun : (bench.run project exclude .never).result with
      | error error =>
        rw [hRun] at hAnswer
        cases hAnswer
      | ok found =>
        rw [hRun] at hAnswer
        cases hAnswer
  · intro activity inventory report hTrusted hSaves more later hLater hBack hSeen
    obtain ⟨hFolder, found, hFinds, _⟩ := hSaves.runs.spec
    obtain rfl : found = inventory := Except.ok.inj (hFinds.taken.symm.trans hSaves.taken)
    have hNext := hAccounted.step hTrusted
    have hHolds := hLater.holds (.of_saves hAccounted hTrusted hSaves) hAccounted hNext hFolder
      hSaves.taken
    have hLast := hLater.accounted (fun _ _ hAllowed => hAllowed.1) hNext
    refine hHolds.exists_cached hAccounted hLast hDigest hIgnoring hFolder hSaves.taken ?_ hSeen
    by_cases hDots : ".." ∈ (Path.ofString project).parts
    · exact hBack hDots
    · refine isFolder_of_plain hLast.regular.sound hDots ?_
      rw [hHolds.resolve_eq]
      exact hHolds.at?_root hAccounted hLast hFolder hSaves.taken hFinds.files

/-- What becomes of an analysis: the files it is about, the flag in its answer, and whether its
report can be saved and read back. -/
structure Attempt where
  files : List String
  cached : Bool
  saved : Bool
  legible : Bool
  deriving DecidableEq

def attempt? (bench : Workbench) (project : String) (exclude : List String) (useSaved : Bool) :
    Option Attempt := do
  let inventory ← (bench.inventory project exclude).toOption
  let answer ← (bench.analyze project exclude useSaved).2.toOption
  let saved ← (Cache.save bench.scheme bench.tree answer.2 project (some inventory.all)
    bench.now).toOption
  return {
    files := inventory.all
    cached := answer.1
    saved := saved.2
    legible := decide (Cache.Legible bench.nesting (bench.documentFor answer.2 inventory.all)) }

section Attempts

variable {bench : Workbench} {project : String} {exclude files : List String}

theorem attempt?_eq_some {useSaved : Bool} {attempt : Attempt}
    (hAttempt : bench.attempt? project exclude useSaved = some attempt) :
    ∃ inventory report tree, bench.inventory project exclude = .ok inventory ∧
      (bench.analyze project exclude useSaved).2 = .ok (attempt.cached, report) ∧
      inventory.all = attempt.files ∧
      Cache.save bench.scheme bench.tree report project (some inventory.all) bench.now =
        .ok (tree, attempt.saved) ∧
      decide (Cache.Legible bench.nesting (bench.documentFor report inventory.all)) =
        attempt.legible := by
  rw [attempt?] at hAttempt
  cases hTaken : bench.inventory project exclude with
  | error error => simp [hTaken, Except.toOption] at hAttempt
  | ok inventory =>
    cases hAnswer : (bench.analyze project exclude useSaved).2 with
    | error error => simp [hTaken, hAnswer, Except.toOption] at hAttempt
    | ok answer =>
      cases hSave : Cache.save bench.scheme bench.tree answer.2 project (some inventory.all)
          bench.now with
      | error failure => simp [hTaken, hAnswer, hSave, Except.toOption] at hAttempt
      | ok saved =>
        simp only [hTaken, hAnswer, hSave, Except.toOption, Option.bind_eq_bind, Option.bind_some]
          at hAttempt
        obtain rfl := Option.some.inj hAttempt
        exact ⟨inventory, answer.2, saved.1, rfl, rfl, rfl, hSave, rfl⟩

theorem exists_saves (hAttempt : bench.attempt? project exclude false =
      some { files := files, cached := false, saved := true, legible := true })
    (hEnabled : bench.settings.writeCache = true) :
    ∃ inventory report, inventory.all = files ∧
      Saves bench (.analyze project exclude false) project exclude inventory report := by
  obtain ⟨inventory, report, tree, hTaken, hAnswer, hFiles, hSave, _⟩ := attempt?_eq_some hAttempt
  exact ⟨inventory, report, hFiles, .analyze hAnswer, hTaken, hEnabled, tree, hSave⟩

theorem trusted_analyze {streams : Set (List UInt8)}
    (hAttempt : bench.attempt? project exclude false =
      some { files := files, cached := false, saved := true, legible := true })
    (hBytes : Fingerprint.bytes bench.tree files ∈ streams) :
    Trusted streams bench (.analyze project exclude false) := by
  obtain ⟨inventory, report, _, hTaken, hAnswer, hFiles, _, hLegible⟩ :=
    attempt?_eq_some hAttempt
  constructor
  · intro tree hEdit
    cases hEdit
  · intro _ _ other found hSaves
    have hOther := hSaves.taken
    cases hSaves.runs with
    | analyze hFound =>
      obtain rfl := Except.ok.inj (hTaken.symm.trans hOther)
      obtain ⟨_, rfl⟩ := Prod.mk.inj (Except.ok.inj (hAnswer.symm.trans hFound))
      exact ⟨hFiles ▸ hBytes, of_decide_eq_true hLegible⟩

/-- Removing an empty folder disturbs nothing. -/
theorem Accounted.quiet_remove {streams : Set (List UInt8)} {start : Workbench}
    (hAccounted : Accounted streams start bench) {location : Location}
    (hLocation : location ≠ []) (hSaved : ".sensedev" ∉ location)
    (hEmpty : ∀ entry ∈ bench.tree.entries, location <+: entry.1 → entry = (location, .folder))
    (root : Location) : Quiet streams root files bench (.edit (bench.tree.remove location)) := by
  have hNone {place : Location} {found : Entry} (hFound : bench.tree.at? place = some found)
      (hBelow : location <+: place) : place = location ∧ found = .folder := by
    have hPlace : place ≠ [] := by
      rintro rfl
      exact hLocation (List.prefix_nil.1 hBelow)
    have hMem := (hAccounted.regular.mem_entries_iff hPlace found).2 hFound
    exact Prod.mk.inj (hEmpty _ hMem hBelow)
  have hFile (place : Location) (content : List UInt8) :
      (bench.tree.remove location).at? place = some (.file content) ↔
        bench.tree.at? place = some (.file content) := by
    rw [at?_remove _ hLocation]
    split
    · next hBelow =>
      constructor
      · intro hThere
        cases hThere
      · intro hThere
        cases (hNone hThere hBelow).2
    · rfl
  have hRegular := hAccounted.regular.remove hLocation
  have hKept (place : Location) (hPlace : ".sensedev" ∈ place) :
      (bench.tree.remove location).at? place = bench.tree.at? place := by
    rw [at?_remove _ hLocation]
    split
    · next hBelow =>
      cases hThere : bench.tree.at? place with
      | none => rfl
      | some found => exact absurd ((hNone hThere hBelow).1 ▸ hPlace) hSaved
    · rfl
  refine ⟨⟨?_, ?_⟩, ⟨?_, ?_, ?_⟩⟩
  · rintro tree ⟨⟩
    refine ⟨⟨hRegular.sound, rfl, hKept⟩, hRegular, ?_⟩
    intro place content hThere
    exact hAccounted.zeroFree place content ((hFile place content).1 hThere)
  · intro _ _ _ _ hSaves
    cases hSaves.runs
  · rintro tree ⟨⟩
    exact ⟨fun place _ content => hFile _ content, fun content => hFile _ content⟩
  · intro _ hClear
    cases hClear
  · intro _ _ _ _ hSaves
    cases hSaves.runs

end Attempts

/-- Two sources beside an empty folder. -/
def pair : Workbench where
  tree := {
    entries := [
      (["p"], .folder),
      (["p", "docs"], .folder),
      (["p", "A.kt"], .file (Text.Utf8.encode "class A".toList)),
      (["p", "B.kt"], .file (Text.Utf8.encode "class B".toList))] }
  fresh := { node := fun _ => "", edge := fun _ => "", issue := fun _ => "" }

def told : Set (List UInt8) :=
  {Fingerprint.bytes pair.tree ["/p/A.kt"], Fingerprint.bytes pair.tree ["/p/B.kt"]}

theorem hash_told : Set.InjOn pair.scheme.hash told :=
  Set.injOn_pair.2 fun hSame => by
    revert hSame
    decide +kernel

theorem pristine_pair : Pristine pair := by
  have hRegular : pair.tree.Regular := .of_entries (by decide +kernel) (by decide +kernel)
  have hFiles : ∀ location content, pair.tree.at? location = some (.file content) →
      0 ∉ content ∧ location.length = 2 := by
    intro location content hFile
    have hLocation : location ≠ [] := by
      rintro rfl
      cases hFile
    have hMem := (hRegular.mem_entries_iff hLocation _).2 hFile
    simp only [pair, List.mem_cons, Prod.mk.injEq, reduceCtorEq, and_false, Entry.file.injEq,
      List.not_mem_nil, or_false, false_or] at hMem
    rcases hMem with ⟨rfl, rfl⟩ | ⟨rfl, rfl⟩
    · decide
    · decide
  refine ⟨hRegular, fun location content hFile _ => (hFiles location content hFile).1, rfl, ?_⟩
  intro location content hFile
  simpa [Cache.documentAt] using (hFiles _ content hFile).2

theorem attempt?_pair : pair.attempt? "/p" ["B.kt"] false =
    some { files := ["/p/A.kt"], cached := false, saved := true, legible := true } := by
  decide +kernel

def savedFirst : Workbench := pair.perform (.analyze "/p" ["B.kt"] false)

def tidied : Workbench := savedFirst.perform (.edit (savedFirst.tree.remove ["p", "docs"]))

theorem trusted_pair : Trusted told pair (.analyze "/p" ["B.kt"] false) :=
  trusted_analyze attempt?_pair (.inl rfl)

theorem saved_results_stand_for_analyses_tidied : ∃ log cached found,
    History (Trusted told) pair log tidied ∧
      (tidied.analyze "/p" ["B.kt"] true).2 = .ok (true, cached) ∧
      (tidied.analyze "/p" ["B.kt"] false).2 = .ok (false, found) ∧
      found.counts = cached.counts := by
  have hFirst : Accounted told pair savedFirst := (pristine_pair.accounted told).step trusted_pair
  have hQuiet : Quiet told ["p"] ["/p/A.kt"] savedFirst
      (.edit (savedFirst.tree.remove ["p", "docs"])) :=
    hFirst.quiet_remove (by decide) (by decide) (by decide +kernel) ["p"]
  have hHistory : History (Trusted told) pair _ tidied :=
    (History.start.step _ trusted_pair).step _ hQuiet.1
  obtain ⟨inventory, report, hFiles, hSaves⟩ := exists_saves attempt?_pair rfl
  have hHome : pair.locationOf "/p" = ["p"] := by decide +kernel
  have hStreams (bench : Workbench) (hInventory : (bench.inventory "/p" ["B.kt"]).toOption.all
      (fun found => Fingerprint.bytes bench.tree found.all =
        Fingerprint.bytes pair.tree ["/p/A.kt"]) = true) (found : Inventory)
      (hFound : bench.inventory "/p" ["B.kt"] = .ok found) :
      Fingerprint.bytes bench.tree found.all ∈ told := by
    rw [hFound] at hInventory
    exact .inl (of_decide_eq_true hInventory)
  obtain ⟨cached, hCached⟩ := (saved_results_stand_for_analyses hash_told Blake3.hash_ne_nil
    settledByIgnoreFile_byRules pristine_pair History.start "/p" ["B.kt"]
    (hStreams pair (by decide +kernel))).2 _ _ _ trusted_pair hSaves _ _
    (History.start.step _ (by rw [hHome, hFiles]; exact hQuiet)) (by decide) (by decide +kernel)
  obtain ⟨found, hFound, hCounts⟩ := (saved_results_stand_for_analyses hash_told
    Blake3.hash_ne_nil settledByIgnoreFile_byRules pristine_pair hHistory "/p" ["B.kt"]
    (hStreams tidied (by decide +kernel))).1 cached hCached
  exact ⟨_, cached, found, hHistory, hCached, hFound, hCounts⟩

def savedOther : Workbench := savedFirst.perform (.analyze "/p" ["A.kt"] false)

def roundabout : Workbench := pair.perform (.analyze "/p/docs/.." ["B.kt"] false)

/-- An analysis with other exclusions puts the saved result aside, though it stands for the same
sources as before. And a path through a folder that is gone does not lead to it. -/
theorem saved_result_put_aside :
    Set.InjOn pair.scheme.hash told ∧ Pristine pair ∧
    (∃ inventory report log,
      Saves pair (.analyze "/p" ["B.kt"] false) "/p" ["B.kt"] inventory report ∧
      History (Trusted told) savedFirst log savedOther ∧
      ∀ cached, (savedOther.analyze "/p" ["B.kt"] true).2 ≠ .ok (true, cached)) ∧
    ∃ inventory report log later,
      Saves pair (.analyze "/p/docs/.." ["B.kt"] false) "/p/docs/.." ["B.kt"] inventory report ∧
      History (Quiet told ["p"] inventory.all) roundabout log later ∧
      ∀ cached, (later.analyze "/p/docs/.." ["B.kt"] true).2 ≠ .ok (true, cached) := by
  refine ⟨hash_told, pristine_pair, ?_, ?_⟩
  · obtain ⟨inventory, report, _, hSaves⟩ := exists_saves attempt?_pair rfl
    have hAttempt : savedFirst.attempt? "/p" ["A.kt"] false =
        some { files := ["/p/B.kt"], cached := false, saved := true, legible := true } := by
      decide +kernel
    have hBytes : Fingerprint.bytes savedFirst.tree ["/p/B.kt"] =
        Fingerprint.bytes pair.tree ["/p/B.kt"] := by
      decide +kernel
    refine ⟨inventory, report, _, hSaves,
      History.start.step _ (trusted_analyze hAttempt (.inr hBytes)), ?_⟩
    intro cached hCached
    have hFlag : (savedOther.analyze "/p" ["B.kt"] true).2.toOption.map Prod.fst = some false := by
      decide +kernel
    rw [hCached] at hFlag
    cases hFlag
  · have hAttempt : pair.attempt? "/p/docs/.." ["B.kt"] false =
        some { files := ["/p/A.kt"], cached := false, saved := true, legible := true } := by
      decide +kernel
    obtain ⟨inventory, report, _, hSaves⟩ := exists_saves hAttempt rfl
    have hAccounted : Accounted told pair roundabout :=
      (pristine_pair.accounted told).step (trusted_analyze hAttempt (.inl rfl))
    have hQuiet : Quiet told ["p"] inventory.all roundabout
        (.edit (roundabout.tree.remove ["p", "docs"])) :=
      hAccounted.quiet_remove (by decide) (by decide) (by decide +kernel) ["p"]
    refine ⟨inventory, report, _, _, hSaves, History.start.step _ hQuiet, ?_⟩
    intro cached hCached
    have hGone : (roundabout.tree.remove ["p", "docs"]).isFolder (Path.ofString "/p/docs/..") =
        false := by
      decide +kernel
    simp [analyze, perform, hGone] at hCached

end Workbench
end SensorFlow

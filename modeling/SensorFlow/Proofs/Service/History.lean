import SensorFlow.Proofs.Service.Ending
import SensorFlow.Service.Session

/-!
# Results over a history

A workbench is used over and over: projects are analysed, asked about and cleared in any order,
while the sources around the saved documents change. If it starts with no results and no
documents, its answer about a project is the report of the latest analysis since the project was
last cleared. This needs every clearing to take a path that leads to its folder; through a folder
that is not there the document stays behind, and a later question brings its report back. It also
needs every analysed file to have a path that can be hashed: if not, the analysis fails when its
result is in memory already.
-/
namespace SensorFlow
open FileTree
set_option autoImplicit false

/-- Files change outside the folders of saved documents. -/
structure FileTree.Edited (before after : FileTree) : Prop where
  sound : after.Sound
  current : after.current = before.current
  saved : ∀ location, ".sensedev" ∈ location → after.at? location = before.at? location

namespace Workbench

inductive Activity where
  | analyze (project : String) (exclude : List String) (useSaved : Bool)
  | background (project : String) (exclude : List String) (signal : Analysis.Signal)
  | result (project : String)
  | clear (project : String)
  | edit (tree : FileTree)
  | pass (now : Rat) (fresh : FreshIds)

def perform (bench : Workbench) : Activity → Workbench
  | .analyze project exclude useSaved => (bench.analyze project exclude useSaved).1
  | .background project exclude signal =>
    if bench.tree.isFolder (Path.ofString project) then (bench.run project exclude signal).bench
    else bench
  | .result project => (bench.loaded? project).1
  | .clear project => (bench.clear project).1
  | .edit tree => { bench with tree := tree }
  | .pass now fresh => { bench with now := now, fresh := fresh }

/-- The folder that an activity gives a new result, or none if it is cleared. -/
def effect (bench : Workbench) : Activity → Option (Location × Option Report)
  | .analyze project exclude useSaved =>
    (bench.analyze project exclude useSaved).2.toOption.map fun answer =>
      (bench.locationOf project, some answer.2)
  | .background project exclude signal =>
    if bench.tree.isFolder (Path.ofString project) then
      (bench.run project exclude signal).result.toOption.map fun report =>
        (bench.locationOf project, some report)
    else none
  | .clear project => some (bench.locationOf project, none)
  | .result _ | .edit _ | .pass _ _ => none

def Fair (bench : Workbench) : Activity → Prop
  | .edit tree => Edited bench.tree tree
  | _ => True

/-- A clearing reaches the document of the folder that it names. -/
def Direct (bench : Workbench) : Activity → Prop
  | .clear project =>
    Cache.Straight bench.tree project ∧
      bench.tree.refusal? (Cache.documentPath project) = none
  | _ => True

/-- The files of a result that is to be saved can be hashed. -/
def Hashes (bench : Workbench) : Activity → Prop
  | .analyze project exclude _ | .background project exclude _ =>
    bench.settings.writeCache = true → ∀ inventory,
      bench.inventory project exclude = .ok inventory →
        Fingerprint.Hashable bench.scheme inventory.all
  | _ => True

structure Orderly (bench : Workbench) (activity : Activity) : Prop where
  fair : Fair bench activity
  direct : Direct bench activity
  hashes : Hashes bench activity

/-- The effects of the activities so far, in order, and the workbench after them. -/
inductive History (allowed : Workbench → Activity → Prop) (start : Workbench) :
    List (Location × Option Report) → Workbench → Prop where
  | start : History allowed start [] start
  | step {log : List (Location × Option Report)} {bench : Workbench} (activity : Activity)
      (hBefore : History allowed start log bench) (hAllowed : allowed bench activity) :
      History allowed start (log ++ (bench.effect activity).toList) (bench.perform activity)

/-- The last effect on a folder is this report. -/
def Latest (log : List (Location × Option Report)) (location : Location) (report : Report) : Prop :=
  ∃ before after, log = before ++ (location, some report) :: after ∧
    ∀ entry ∈ after, entry.1 ≠ location

structure Blank (bench : Workbench) : Prop where
  sound : bench.tree.Sound
  working : bench.faults.loading = none
  results : bench.results = []
  documents : ∀ location content,
    bench.tree.at? (Cache.documentAt location) ≠ some (.file content)

theorem not_latest_nil (location : Location) (report : Report) : ¬ Latest [] location report := by
  rintro ⟨before, after, hLog, _⟩
  simp at hLog

theorem latest_concat_iff (log : List (Location × Option Report)) (entry : Location × Option Report)
    (location : Location) (report : Report) :
    Latest (log ++ [entry]) location report ↔
      if entry.1 = location then entry.2 = some report else Latest log location report := by
  constructor
  · rintro ⟨before, after, hLog, hAfter⟩
    rcases List.eq_nil_or_concat after with rfl | ⟨rest, last, rfl⟩
    · obtain ⟨_, hEntry⟩ := List.append_inj' hLog rfl
      obtain rfl := List.singleton_inj.1 hEntry
      simp
    · rw [List.concat_eq_append, ← List.cons_append, ← List.append_assoc] at hLog
      obtain ⟨hInit, hEntry⟩ := List.append_inj' hLog rfl
      obtain rfl := List.singleton_inj.1 hEntry
      rw [if_neg (hAfter entry (by simp))]
      exact ⟨before, rest, hInit, fun other hOther => hAfter other (by simp [hOther])⟩
  · intro hLatest
    split at hLatest
    · next hHere =>
      refine ⟨log, [], ?_, by simp⟩
      rw [← hHere, ← hLatest]
    · next hElsewhere =>
      obtain ⟨before, after, rfl, hAfter⟩ := hLatest
      refine ⟨before, after ++ [entry], by simp, ?_⟩
      intro other hOther
      rcases List.mem_append.1 hOther with hOther | hOther
      · exact hAfter other hOther
      · rw [List.mem_singleton.1 hOther]
        exact hElsewhere

/-- All but one folder keep their results and documents. -/
structure Confined (touched : Option Location) (before after : Workbench) : Prop where
  sound : after.tree.Sound
  current : after.tree.current = before.tree.current
  faults : after.faults = before.faults
  results : ∀ place, touched ≠ some place → after.results.lookup place = before.results.lookup place
  documents : ∀ place, touched ≠ some place →
    after.tree.at? (Cache.documentAt place) = before.tree.at? (Cache.documentAt place)

theorem Confined.rfl {touched : Option Location} {bench : Workbench} (hSound : bench.tree.Sound) :
    Confined touched bench bench :=
  ⟨hSound, by rfl, by rfl, fun _ _ => by rfl, fun _ _ => by rfl⟩

theorem Confined.trans {touched : Option Location} {first second third : Workbench}
    (hFirst : Confined touched first second) (hSecond : Confined touched second third) :
    Confined touched first third where
  sound := hSecond.sound
  current := hSecond.current.trans hFirst.current
  faults := hSecond.faults.trans hFirst.faults
  results place hPlace := (hSecond.results place hPlace).trans (hFirst.results place hPlace)
  documents place hPlace := (hSecond.documents place hPlace).trans (hFirst.documents place hPlace)

theorem Confined.result?_eq {touched : Option Location} {before after : Workbench}
    (hConfined : Confined touched before after) {project : String}
    (hProject : touched ≠ some (before.locationOf project)) :
    after.result? project = before.result? project := by
  have hLocation : after.locationOf project = before.locationOf project := by
    simp [locationOf, resolve, startOf, hConfined.current]
  rw [result?, result?, hLocation]
  exact hConfined.results _ hProject

structure Renewed (project : String) (report : Report) (before after : Workbench) : Prop where
  confined : Confined (some (before.locationOf project)) before after
  result : after.results.lookup (before.locationOf project) = some report

section Steps

variable {bench : Workbench} {project : String}

theorem renewed_keep (hSound : bench.tree.Sound) (report : Report) :
    Renewed project report bench (bench.keep project report) where
  confined := by
    refine ⟨hSound, rfl, rfl, ?_, fun _ _ => rfl⟩
    intro place hPlace
    have hNe : (place == bench.locationOf project) = false :=
      beq_eq_false_iff_ne.2 fun hSame => hPlace (congrArg some hSame.symm)
    simp [keep, List.lookup_cons, hNe]
  result := by simp [keep]

theorem Renewed.save {before after : Workbench} {report : Report} {files : List String}
    (hRenewed : Renewed project report before bench)
    (hFolder : bench.tree.isFolder (Path.ofString project) = true)
    (hLocation : bench.locationOf project = before.locationOf project)
    (hSave : bench.save project files report = .ok after) :
    Renewed project report before after := by
  rw [save_eq_ok_iff] at hSave
  split at hSave
  · obtain ⟨answer, hAnswer, rfl⟩ := hSave
    have hSpares := Cache.spares_save hRenewed.confined.sound hFolder hAnswer
    refine ⟨hRenewed.confined.trans ⟨hSpares.sound, hSpares.current, rfl, fun _ _ => rfl, ?_⟩,
      hRenewed.result⟩
    intro place hPlace
    refine hSpares.others place ?_
    rintro rfl
    exact hPlace (congrArg some hLocation.symm)
  · exact hSave ▸ hRenewed

/-- A run of files that can be hashed fails and changes nothing, or its report is the new result. -/
theorem run_renews (exclude : List String) (hSound : bench.tree.Sound)
    (hFolder : bench.tree.isFolder (Path.ofString project) = true) (signal : Analysis.Signal)
    (hHashes : Hashes bench (.background project exclude signal)) :
    (∃ error, (bench.run project exclude signal).result = .error error ∧
      (bench.run project exclude signal).bench = bench) ∨
    ∃ report, (bench.run project exclude signal).result = .ok report ∧
      Renewed project report bench (bench.run project exclude signal).bench := by
  rcases run_ends bench project exclude signal with
    ⟨error, _, hFailed⟩ | ⟨inventory, report, hFinds,
      ⟨after, hSave, hResult, hBench⟩ | ⟨failure, hSave, _⟩⟩
  · exact .inl ⟨error, hFailed⟩
  · refine .inr ⟨report, hResult, ?_⟩
    rw [hBench]
    exact (renewed_keep hSound report).save hFolder rfl hSave
  · obtain ⟨after, hSaved⟩ := exists_save_eq_ok (bench.keep project report)
      (fun hEnabled => hHashes hEnabled inventory hFinds.taken) project report
    rw [hSaved] at hSave
    cases hSave

theorem analyze_renews (project : String) (exclude : List String) (hSound : bench.tree.Sound)
    (useSaved : Bool) (hHashes : Hashes bench (.analyze project exclude useSaved)) :
    (∃ error, (bench.analyze project exclude useSaved).2 = .error error ∧
      (bench.analyze project exclude useSaved).1 = bench) ∨
    ∃ cached report, (bench.analyze project exclude useSaved).2 = .ok (cached, report) ∧
      Renewed project report bench (bench.analyze project exclude useSaved).1 := by
  rcases analyze_ends bench project exclude useSaved with
    ⟨error, hEnds⟩ | ⟨hFolder, ⟨report, _, _, hEnds⟩ | hEnds⟩
  · rw [hEnds]
    exact .inl ⟨error, rfl, rfl⟩
  · rw [hEnds]
    exact .inr ⟨true, report, rfl, renewed_keep hSound report⟩
  · rw [hEnds]
    rcases run_renews exclude hSound hFolder .never hHashes with
      ⟨error, hResult, hBench⟩ | ⟨report, hResult, hRenewed⟩
    · exact .inl ⟨error, by rw [hResult]; rfl, hBench⟩
    · exact .inr ⟨false, report, by rw [hResult]; rfl, hRenewed⟩

/-- An analysis of files that cannot be hashed fails when its report is in memory already. -/
theorem kept_of_unhashable {exclude : List String} {failure : Cache.Failure}
    (hAnswer : (bench.analyze project exclude false).2 = .error (.document failure)) :
    ∃ inventory report, Finds bench project exclude inventory report ∧
      ¬ Fingerprint.Hashable bench.scheme inventory.all ∧
      (bench.analyze project exclude false).1 = bench.keep project report := by
  have hFolder : bench.tree.isFolder (Path.ofString project) = true := by
    cases hFolder : bench.tree.isFolder (Path.ofString project) with
    | true => rfl
    | false => simp [analyze, hFolder] at hAnswer
  simp only [analyze, hFolder, Bool.not_true, Bool.false_eq_true, if_false] at hAnswer ⊢
  rcases run_ends bench project exclude .never with
    ⟨error, hOther, hResult, _⟩ | ⟨inventory, report, hFinds,
      ⟨after, _, hResult, _⟩ | ⟨_, hSave, _, hBench⟩⟩
  · rw [hResult] at hAnswer
    exact absurd (Except.error.inj hAnswer) (hOther failure)
  · rw [hResult] at hAnswer
    cases hAnswer
  · refine ⟨inventory, report, hFinds, fun hFiles => ?_, hBench⟩
    obtain ⟨after, hSaved⟩ :=
      exists_save_eq_ok (bench.keep project report) (fun _ => hFiles) project report
    rw [hSaved] at hSave
    cases hSave

theorem tree_clear : (bench.clear project).1.tree = (Cache.clear bench.tree project).1 := rfl

theorem lookup_clear (place : Location) :
    (bench.clear project).1.results.lookup place =
      if place = bench.locationOf project then none else bench.results.lookup place := by
  have hKeep := lookup_filter_key (fun key => key != bench.locationOf project) bench.results place
  by_cases hSame : place = bench.locationOf project
  · simpa [Workbench.clear, hSame] using hKeep
  · simpa [Workbench.clear, hSame] using hKeep

theorem confined_clear (hSound : bench.tree.Sound) :
    Confined (some (bench.locationOf project)) bench (bench.clear project).1 := by
  have hSpares := Cache.spares_clear hSound project
  rw [← tree_clear] at hSpares
  refine ⟨hSpares.sound, hSpares.current, rfl, ?_, ?_⟩
  · intro place hPlace
    rw [lookup_clear, if_neg fun hSame => hPlace (congrArg some hSame.symm)]
  · intro place hPlace
    exact hSpares.others place fun hSame => hPlace (congrArg some hSame.symm)

end Steps

/-- The results are those of the log, and what is saved is also in memory. -/
structure Keeps (log : List (Location × Option Report)) (bench : Workbench) : Prop where
  sound : bench.tree.Sound
  working : bench.faults.loading = none
  results : ∀ place report, bench.results.lookup place = some report ↔ Latest log place report
  documents : ∀ place content, bench.results.lookup place = none →
    bench.tree.at? (Cache.documentAt place) ≠ some (.file content)

theorem Blank.keeps {bench : Workbench} (hBlank : Blank bench) : Keeps [] bench where
  sound := hBlank.sound
  working := hBlank.working
  results place report := by simp [hBlank.results, not_latest_nil]
  documents place content _ := hBlank.documents place content

namespace Keeps

variable {log : List (Location × Option Report)} {bench : Workbench} {activity : Activity}

theorem loaded?_eq (hKeeps : Keeps log bench) (project : String) :
    ∃ answer, bench.loaded? project = (bench, answer) ∧
      ∀ report, answer = .ok (some report) ↔ bench.result? project = some report := by
  rw [loaded?, hKeeps.working]
  cases hResult : bench.result? project with
  | some found => exact ⟨_, rfl, by simp⟩
  | none =>
    -- what is not in memory is not saved either, so there is nothing to fall back on
    have hLoad := Cache.load?_ne_some bench.nesting bench.fresh
      fun content => hKeeps.documents (bench.locationOf project) content hResult
    dsimp only
    cases hLoaded : Cache.load? bench.nesting bench.fresh bench.tree project with
    | error failure => exact ⟨_, rfl, by simp⟩
    | ok loaded =>
      cases loaded with
      | none => exact ⟨_, rfl, by simp⟩
      | some report => exact absurd hLoaded (hLoad report)

/-- What one activity does: nothing to any result, a new result for a project, or a clearing. -/
theorem perform_cases (hKeeps : Keeps log bench) (hFair : Fair bench activity)
    (hHashes : Hashes bench activity) :
    (bench.effect activity = none ∧ Confined none bench (bench.perform activity)) ∨
    (∃ project report, bench.effect activity = some (bench.locationOf project, some report) ∧
      Renewed project report bench (bench.perform activity)) ∨
    ∃ project, activity = .clear project := by
  have hSound := hKeeps.sound
  cases activity with
  | analyze project exclude useSaved =>
    rw [effect, perform]
    rcases analyze_renews project exclude hSound useSaved hHashes with
      ⟨error, hAnswer, hBench⟩ | ⟨cached, report, hAnswer, hRenewed⟩
    · exact .inl ⟨by rw [hAnswer]; rfl, by rw [hBench]; exact .rfl hSound⟩
    · exact .inr (.inl ⟨project, report, by rw [hAnswer]; rfl, hRenewed⟩)
  | background project exclude signal =>
    rw [effect, perform]
    split
    · next hFolder =>
      rcases run_renews exclude hSound hFolder signal hHashes with
        ⟨error, hAnswer, hBench⟩ | ⟨report, hAnswer, hRenewed⟩
      · exact .inl ⟨by rw [hAnswer]; rfl, by rw [hBench]; exact .rfl hSound⟩
      · exact .inr (.inl ⟨project, report, by rw [hAnswer]; rfl, hRenewed⟩)
    · exact .inl ⟨rfl, .rfl hSound⟩
  | result project =>
    obtain ⟨answer, hLoaded, _⟩ := hKeeps.loaded?_eq project
    rw [perform, hLoaded]
    exact .inl ⟨rfl, .rfl hSound⟩
  | clear project => exact .inr (.inr ⟨project, rfl⟩)
  | edit tree =>
    refine .inl ⟨rfl, hFair.sound, hFair.current, rfl, fun _ _ => rfl, fun place _ => ?_⟩
    exact hFair.saved _ (by simp [Cache.documentAt])
  | pass now fresh => exact .inl ⟨rfl, hSound, rfl, rfl, fun _ _ => rfl, fun _ _ => rfl⟩

theorem confined (hKeeps : Keeps log bench) (hFair : Fair bench activity)
    (hHashes : Hashes bench activity) :
    Confined ((bench.effect activity).map Prod.fst) bench (bench.perform activity) := by
  rcases hKeeps.perform_cases hFair hHashes with
    ⟨hNone, hConfined⟩ | ⟨project, report, hSome, hRenewed⟩ | ⟨project, rfl⟩
  · rw [hNone]
    exact hConfined
  · rw [hSome]
    exact hRenewed.confined
  · exact confined_clear hKeeps.sound

theorem lookup_touched (hKeeps : Keeps log bench) (hFair : Fair bench activity)
    (hHashes : Hashes bench activity) {place : Location} {new : Option Report}
    (hEffect : bench.effect activity = some (place, new)) :
    (bench.perform activity).results.lookup place = new := by
  rcases hKeeps.perform_cases hFair hHashes with
    ⟨hNone, _⟩ | ⟨project, report, hSome, hRenewed⟩ | ⟨project, rfl⟩
  · rw [hNone] at hEffect
    cases hEffect
  · rw [hSome] at hEffect
    obtain ⟨rfl, rfl⟩ := Prod.mk.inj (Option.some.inj hEffect)
    exact hRenewed.result
  · obtain ⟨rfl, rfl⟩ := Prod.mk.inj (Option.some.inj hEffect)
    rw [perform, lookup_clear, if_pos rfl]

theorem document_cleared (hKeeps : Keeps log bench) (hOrderly : Orderly bench activity)
    {place : Location} (hEffect : bench.effect activity = some (place, none))
    (content : List UInt8) :
    (bench.perform activity).tree.at? (Cache.documentAt place) ≠ some (.file content) := by
  rcases hKeeps.perform_cases hOrderly.fair hOrderly.hashes with
    ⟨hNone, _⟩ | ⟨project, report, hSome, _⟩ | ⟨project, rfl⟩
  · rw [hNone] at hEffect
    cases hEffect
  · rw [hSome] at hEffect
    cases hEffect
  · obtain ⟨rfl, _⟩ := Prod.mk.inj (Option.some.inj hEffect)
    rw [perform, tree_clear]
    exact Cache.at?_clear_of_straight hKeeps.sound hOrderly.direct.1 hOrderly.direct.2 content

theorem step (hKeeps : Keeps log bench) (hOrderly : Orderly bench activity) :
    Keeps (log ++ (bench.effect activity).toList) (bench.perform activity) := by
  have hFair := hOrderly.fair
  have hHashes := hOrderly.hashes
  have hConfined := hKeeps.confined hFair hHashes
  refine ⟨hConfined.sound, by rw [hConfined.faults, hKeeps.working], ?_, ?_⟩
  · intro place report
    cases hEffect : bench.effect activity with
    | none =>
      rw [hEffect] at hConfined
      rw [Option.toList_none, List.append_nil, hConfined.results place (by simp)]
      exact hKeeps.results place report
    | some entry =>
      obtain ⟨touched, new⟩ := entry
      rw [Option.toList_some, latest_concat_iff]
      split
      · next hHere =>
        obtain rfl : touched = place := hHere
        rw [hKeeps.lookup_touched hFair hHashes hEffect]
      · next hElsewhere =>
        rw [hEffect] at hConfined
        rw [hConfined.results place fun hSame => hElsewhere (Option.some.inj hSame)]
        exact hKeeps.results place report
  · intro place content hNone
    by_cases hTouched : (bench.effect activity).map Prod.fst = some place
    · -- an activity that leaves its own folder without a result has cleared it
      obtain ⟨⟨touched, new⟩, hEffect, rfl⟩ := Option.map_eq_some_iff.1 hTouched
      have hNew := hKeeps.lookup_touched hFair hHashes hEffect
      rw [hNone] at hNew
      subst hNew
      exact hKeeps.document_cleared hOrderly hEffect content
    · rw [hConfined.documents place hTouched]
      rw [hConfined.results place hTouched] at hNone
      exact hKeeps.documents place content hNone

end Keeps

theorem History.keeps {start bench : Workbench} {log : List (Location × Option Report)}
    (hHistory : History Orderly start log bench) (hBlank : Blank start) : Keeps log bench := by
  induction hHistory with
  | start => exact hBlank.keeps
  | step activity hBefore hAllowed ih => exact ih.step hAllowed

theorem clear_astray {bench : Workbench} {project : String}
    (hAstray : ¬ Cache.Straight bench.tree project)
    (hSeen : bench.tree.refusal? (Cache.documentPath project) = none) :
    (bench.clear project).1.tree = bench.tree ∧ (bench.clear project).2 = true := by
  obtain ⟨hThere, hAway⟩ := Classical.not_imp.1 hAstray
  have hNowhere : bench.tree.locate? (Path.ofString project) = none := by
    cases hLocate : bench.tree.locate? (Path.ofString project) with
    | none => rfl
    | some location =>
      obtain rfl := eq_resolve_of_locate? hLocate
      exact absurd ((isFolder_iff _ _).2 ⟨hLocate, (isFolderAt_iff _ _).1 hThere⟩) hAway
  simp [Workbench.clear, Cache.clear, hSeen, Cache.locate?_documentPath_eq_none hNowhere]

theorem result_isOk_iff {session : Session} {log : List (Location × Option Report)}
    (hKeeps : Keeps log session.bench) (hReady : session.isReady = true) (project : String)
    (whole : Bool) :
    (session.result project whole).2.isOk = true ↔
      ∃ report, session.bench.result? project = some report := by
  obtain ⟨answer, hLoaded, hAnswer⟩ := hKeeps.loaded?_eq project
  simp only [Session.result, Session.request, hReady, if_true, hLoaded, ← hAnswer]
  cases answer with
  | error error => simp [bind, Except.bind, Except.isOk, Except.toBool]
  | ok found =>
    cases found with
    | none => simp [bind, Except.bind, Except.isOk, Except.toBool]
    | some report => simp [bind, Except.bind, pure, Except.pure, Except.isOk, Except.toBool]

theorem result_eq_of_result? {session : Session} {log : List (Location × Option Report)}
    (hKeeps : Keeps log session.bench) (hReady : session.isReady = true) {project : String}
    {report : Report} (hResult : session.bench.result? project = some report) (whole : Bool) :
    (session.result project whole).2 =
      .ok ([("source", .str "memory")] ++ report.summary ++
        if whole then [("result", report.toJson)] else []) := by
  obtain ⟨answer, hLoaded, hAnswer⟩ := hKeeps.loaded?_eq project
  obtain rfl := (hAnswer report).2 hResult
  simp only [Session.result, Session.request, hReady, if_true, hLoaded, hResult]
  rfl

/-- After a history whose clearings reach their folders and whose files can be hashed, there is a
result for a project exactly if it has been analysed with success since it was last cleared, and it
is that of the latest such analysis. Failed analyses and activities elsewhere leave the result and
the document alone. A clearing that does not reach its folder deletes nothing, and says that it has.
And an analysis that fails as its files cannot be hashed has replaced the result all the same. -/
theorem result_of_latest_analysis {start : Workbench} {log : List (Location × Option Report)}
    (session : Session) (hBlank : Blank start)
    (hHistory : History Orderly start log session.bench) (hReady : session.isReady = true)
    (project : String) (whole : Bool) :
    ((session.result project whole).2.isOk = true ↔
      ∃ report, Latest log (session.bench.locationOf project) report) ∧
    (∀ report, Latest log (session.bench.locationOf project) report →
      (session.result project whole).2 =
        .ok ([("source", .str "memory")] ++ report.summary ++
          if whole then [("result", report.toJson)] else [])) ∧
    (∀ activity, Fair session.bench activity → Hashes session.bench activity →
      (session.bench.effect activity).map Prod.fst ≠ some (session.bench.locationOf project) →
      (session.bench.perform activity).result? project = session.bench.result? project ∧
      (session.bench.perform activity).tree.at?
          (Cache.documentAt (session.bench.locationOf project)) =
        session.bench.tree.at? (Cache.documentAt (session.bench.locationOf project))) ∧
    (∀ astray, ¬ Cache.Straight session.bench.tree astray →
      session.bench.tree.refusal? (Cache.documentPath astray) = none →
      (session.bench.clear astray).1.tree = session.bench.tree ∧
        (session.bench.clear astray).2 = true) ∧
    (∀ exclude failure,
      (session.bench.analyze project exclude false).2 = .error (.document failure) →
      ∃ inventory, session.bench.inventory project exclude = .ok inventory ∧
        ¬ Fingerprint.Hashable session.bench.scheme inventory.all ∧
        ((session.bench.analyze project exclude false).1.result? project).isSome = true) := by
  have hKeeps := hHistory.keeps hBlank
  refine ⟨?_, ?_, ?_, fun astray => clear_astray, ?_⟩
  · rw [result_isOk_iff hKeeps hReady]
    exact exists_congr fun report => hKeeps.results _ report
  · intro report hLatest
    exact result_eq_of_result? hKeeps hReady ((hKeeps.results _ report).2 hLatest) whole
  · intro activity hFair hHashes hElsewhere
    have hConfined := hKeeps.confined hFair hHashes
    exact ⟨hConfined.result?_eq hElsewhere, hConfined.documents _ hElsewhere⟩
  · intro exclude failure hAnswer
    obtain ⟨inventory, report, hFinds, hNot, hBench⟩ := kept_of_unhashable hAnswer
    refine ⟨inventory, hFinds.taken, hNot, ?_⟩
    rw [hBench]
    simp [result?, keep, locationOf]

def unsaved : Workbench where
  tree := {
    entries := [
      (["p"], .folder),
      (["p", "A.kt"], .file (Text.Utf8.encode "class A".toList))] }
  fresh := { node := fun _ => "", edge := fun _ => "", issue := fun _ => "" }

theorem blank_unsaved : Blank unsaved where
  sound := by
    intro location hLocation hThere
    rw [at?_eq_lookup _ hLocation] at hThere
    by_cases hFolder : location = ["p"]
    · subst hFolder
      rfl
    · by_cases hFile : location = ["p", "A.kt"]
      · subst hFile
        rfl
      · simp [unsaved, List.lookup_cons, beq_eq_false_iff_ne.2 hFolder,
          beq_eq_false_iff_ne.2 hFile] at hThere
  working := rfl
  results := rfl
  documents := by
    intro location content
    have hFolder : Cache.documentAt location ≠ ["p"] :=
      fun hSame => by simpa [Cache.documentAt] using congrArg List.length hSame
    have hFile : Cache.documentAt location ≠ ["p", "A.kt"] :=
      fun hSame => by simpa [Cache.documentAt] using congrArg List.length hSame
    rw [at?_eq_lookup _ (Cache.documentAt_ne_nil _)]
    simp [unsaved, List.lookup_cons, beq_eq_false_iff_ne.2 hFolder, beq_eq_false_iff_ne.2 hFile]

theorem exists_effect_unsaved : ∃ report,
    unsaved.effect (.analyze "/p" [] false) = some (["p"], some report) := by
  have hOk : (unsaved.analyze "/p" [] false).2.isOk = true := by decide +kernel
  cases hAnswer : (unsaved.analyze "/p" [] false).2 with
  | ok answer => exact ⟨answer.2, by rw [effect, hAnswer]; rfl⟩
  | error error => simp [hAnswer, Except.isOk, Except.toBool] at hOk

def analysed : Workbench := unsaved.perform (.analyze "/p" [] false)

theorem result_of_latest_analysis_unsaved : ∃ log bench, History Orderly unsaved log bench ∧
    (Session.result { isReady := true, bench := bench } "/p" true).2.isOk = true := by
  obtain ⟨report, hEffect⟩ := exists_effect_unsaved
  have hHashes : Hashes unsaved (.analyze "/p" [] false) := by
    intro _ inventory hTaken
    have hFiles : (unsaved.inventory "/p" []).toOption.all
        (fun found => decide (Fingerprint.Hashable {} found.all)) = true := by
      decide +kernel
    rw [hTaken] at hFiles
    exact of_decide_eq_true hFiles
  have hAnalysed : History Orderly unsaved [(["p"], some report)] analysed := by
    have hStep := History.step (.analyze "/p" [] false)
      (History.start : History Orderly unsaved [] unsaved) ⟨trivial, trivial, hHashes⟩
    rwa [hEffect] at hStep
  have hStraight : Cache.Straight analysed.tree "/p/gone" := by
    intro hFolder
    revert hFolder
    decide +kernel
  have hCleared := hAnalysed.step (.clear "/p/gone")
    ⟨trivial, ⟨hStraight, by decide +kernel⟩, trivial⟩
  have hPlace : analysed.locationOf "/p/gone" = ["p", "gone"] := by decide +kernel
  have hHome : (analysed.perform (.clear "/p/gone")).locationOf "/p" = ["p"] := by decide +kernel
  let session : Session := { isReady := true, bench := analysed.perform (.clear "/p/gone") }
  have hLatest : Latest ([(["p"], some report)] ++ (analysed.effect (.clear "/p/gone")).toList)
      (session.bench.locationOf "/p") report := by
    rw [hHome, effect, hPlace]
    exact ⟨[], [(["p", "gone"], none)], rfl, by simp⟩
  exact ⟨_, _, hCleared,
    (result_of_latest_analysis session blank_unsaved hCleared rfl "/p" true).1.2
      ⟨report, hLatest⟩⟩

/-- A clearing that goes astray leaves the saved document, and the result comes back from it. -/
theorem result_after_astray_clearing : ∃ log bench, History Fair unsaved log bench ∧
    (∀ report, ¬ Latest log (bench.locationOf "/p") report) ∧
    (Session.result { isReady := true, bench := bench } "/p" false).2.isOk = true := by
  have hAnalysed : History Fair unsaved _ analysed := .step (.analyze "/p" [] false) .start trivial
  refine ⟨_, _, hAnalysed.step (.clear "/p/gone/..") trivial, ?_, by decide +kernel⟩
  intro report hLatest
  have hPlace : analysed.locationOf "/p/gone/.." =
      (analysed.perform (.clear "/p/gone/..")).locationOf "/p" := by
    decide +kernel
  have hEffect : analysed.effect (.clear "/p/gone/..") =
      some (analysed.locationOf "/p/gone/..", none) := rfl
  rw [hEffect, Option.toList_some, latest_concat_iff, if_pos hPlace] at hLatest
  cases hLatest

end Workbench
end SensorFlow

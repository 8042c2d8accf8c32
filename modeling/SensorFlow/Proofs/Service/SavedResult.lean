import SensorFlow.Proofs.Service.Ending

/-!
# Analyses that may take the saved result

Whatever lies in the place of the saved document, an analysis that may use it succeeds if one that
may not does. There are three exceptions: a place that the system refuses to look up, a document
that is a JSON value but neither an object nor null, and a document with a fingerprint where the
files have none.
-/
namespace SensorFlow
set_option autoImplicit false

namespace Workbench

variable {bench : Workbench} {project : String} {exclude : List String}

theorem saved?_isOk_iff {inventory : Inventory}
    (hTaken : bench.inventory project exclude = .ok inventory) :
    (∃ saved, bench.saved? project exclude = .ok saved) ↔
      ∃ stale, Cache.isStale bench.scheme bench.nesting bench.tree project inventory.all =
        .ok stale := by
  rw [saved?_eq hTaken]
  cases hStale : Cache.isStale bench.scheme bench.nesting bench.tree project inventory.all with
  | error failure => simp
  | ok stale =>
    have hSeen := ((Cache.isStale_isOk_iff _ _).1 ⟨stale, hStale⟩).1
    cases stale with
    | true => simp
    | false => simp [Cache.load?, Cache.document?_eq, hSeen, bind, Except.bind, pure, Except.pure,
        Except.mapError, Except.map]

theorem analyze_saved_of_ok (hOk : (bench.analyze project exclude false).2.isOk = true)
    {saved : Option Report} (hSaved : bench.saved? project exclude = .ok saved) :
    (bench.analyze project exclude true).2.isOk = true := by
  have hFolder := (finds_of_analyze_isOk hOk).1
  cases saved with
  | none =>
    have hSame : bench.analyze project exclude true = bench.analyze project exclude false := by
      simp [analyze, hSaved]
    rwa [hSame]
  | some report =>
    simp [analyze, hFolder, hSaved, Except.isOk, Except.toBool]

theorem exists_saved_of_analyze (hOk : (bench.analyze project exclude true).2.isOk = true) :
    ∃ saved, bench.saved? project exclude = .ok saved := by
  cases hSaved : bench.saved? project exclude with
  | ok saved => exact ⟨saved, rfl⟩
  | error error =>
    rw [analyze] at hOk
    split at hOk
    · cases hOk
    · simp [hSaved, Except.isOk, Except.toBool] at hOk

/-- If an analysis of the files succeeds, one that may take the saved result does too, exactly
unless the document cannot be looked up or is foreign, or holds a fingerprint where the files have
none. Files without a fingerprint cannot be saved, so if the analysis saves its result, it is only
the document that counts. -/
theorem analyze_saved_isOk_iff (bench : Workbench) (project : String) (exclude : List String)
    (hOk : (bench.analyze project exclude false).2.isOk = true) :
    ((bench.analyze project exclude true).2.isOk = true ↔
      bench.tree.refusal? (Cache.documentPath project) = none ∧
      ¬ Cache.IsForeign bench.nesting bench.tree project ∧
      (Cache.IsPrinted bench.nesting bench.tree project →
        ∀ inventory, bench.inventory project exclude = .ok inventory →
          Fingerprint.Hashable bench.scheme inventory.all)) ∧
    (bench.settings.writeCache = true →
      ((bench.analyze project exclude true).2.isOk = true ↔
        bench.tree.refusal? (Cache.documentPath project) = none ∧
        ¬ Cache.IsForeign bench.nesting bench.tree project)) := by
  obtain ⟨_, inventory, report, hFinds, hHashable⟩ := finds_of_analyze_isOk hOk
  have hTakes : (bench.analyze project exclude true).2.isOk = true ↔
      bench.tree.refusal? (Cache.documentPath project) = none ∧
      ¬ Cache.IsForeign bench.nesting bench.tree project ∧
      (Cache.IsPrinted bench.nesting bench.tree project →
        Fingerprint.Hashable bench.scheme inventory.all) := by
    rw [← Cache.isStale_isOk_iff, ← saved?_isOk_iff hFinds.taken]
    exact ⟨exists_saved_of_analyze, fun ⟨_, hSaved⟩ => analyze_saved_of_ok hOk hSaved⟩
  constructor
  · simp [hTakes, hFinds.taken]
  · intro hEnabled
    simp [hTakes, hHashable hEnabled]

/-- A project of one source with something in the place of its document. -/
def withDocument (content : String) : Workbench where
  tree := {
    entries := [
      (["p"], .folder),
      (["p", "A.kt"], .file (Text.Utf8.encode "class A".toList)),
      (["p", ".sensedev"], .folder),
      (["p", ".sensedev", "cache"], .folder),
      (["p", ".sensedev", "cache", "analysis.json"], .file (Text.Utf8.encode content.toList))] }
  fresh := { node := fun _ => "", edge := fun _ => "", issue := fun _ => "" }

theorem analyze_saved_isOk_iff_outdated :
    let bench := withDocument "\x7b\"fingerprint\": \"0\"\x7d"
    Cache.IsPrinted bench.nesting bench.tree "/p" ∧
      (bench.analyze "/p" [] false).2.isOk = true ∧
      (bench.analyze "/p" [] true).2.isOk = true := by
  intro bench
  have hWritten : Cache.written? bench.nesting bench.tree "/p" =
      some (.obj [("fingerprint", .str "0")]) := by
    decide +kernel
  have hPrint : Cache.fingerprint? bench.nesting bench.tree "/p" = some (.str "0") := by
    rw [Cache.fingerprint?, hWritten]
    rfl
  have hOk : (bench.analyze "/p" [] false).2.isOk = true := by decide +kernel
  refine ⟨⟨_, hPrint, rfl⟩, hOk, ((analyze_saved_isOk_iff bench "/p" [] hOk).2 rfl).2 ⟨rfl, ?_⟩⟩
  rintro ⟨document, hForeign, hMembers⟩
  exact hMembers _ (Option.some.inj (hForeign.symm.trans hWritten))

/-- A document that is a list makes the analysis fail. -/
theorem analyze_saved_list :
    ((withDocument "[]").analyze "/p" [] false).2.isOk = true ∧
      ((withDocument "[]").analyze "/p" [] true).2.isOk = false := by
  decide +kernel

end Workbench
end SensorFlow

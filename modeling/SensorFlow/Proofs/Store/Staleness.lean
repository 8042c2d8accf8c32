import SensorFlow.Proofs.Store.Saving

/-!
# When a saved report is stale

The bytes behind a fingerprint are fields that end with zero bytes: for each file its path and its
content, and a content with zero bytes in it fills several fields. An unreadable file fills the
same fields as an empty one. So a fingerprint tells the fields, which is less than the files.
-/
namespace SensorFlow
open Text
set_option autoImplicit false

namespace Fingerprint

/-- The files of a list by path, each with its bytes unless it is unreadable. -/
def states (tree : FileTree) (paths : List String) : List (String × Option (List UInt8)) :=
  (sorted paths).map fun path => (path, tree.contentNamed? path)

/-- The fields that files fill, one after the other. -/
def fields (files : List (String × Option (List UInt8))) : List (List UInt8) :=
  files.flatMap fun file => Utf8.encode file.1.toList :: (file.2.getD []).splitOn 0

/-- What a file counts as if it has one field for its content. -/
def countsAs (file : String × Option (List UInt8)) : String × List UInt8 :=
  (file.1, file.2.getD [])

section Fields

variable {scheme : Scheme} {first second : FileTree} {paths others : List String}

theorem splitOn_record (tree : FileTree) {path : String} (hPath : 0 ∉ Utf8.encode path.toList)
    (more : List UInt8) :
    (record tree path ++ more).splitOn 0 =
      fields [(path, tree.contentNamed? path)] ++ more.splitOn 0 := by
  have hBytes : record tree path ++ more =
      Utf8.encode path.toList ++ 0 :: ((tree.contentNamed? path).getD [] ++ 0 :: more) := by
    simp [record]
  rw [hBytes, List.splitOn_append_cons_self, List.splitOn_append_cons_self,
    List.splitOn_eq_singleton hPath]
  simp [fields]

theorem splitOn_bytes (hPaths : Hashable scheme paths) (tree : FileTree) :
    (bytes tree paths).splitOn 0 = fields (states tree paths) ++ [[]] := by
  have hZero : ∀ path ∈ sorted paths, 0 ∉ Utf8.encode path.toList :=
    fun path hPath => hPaths.zero_notMem ((sorted_perm paths).mem_iff.1 hPath)
  rw [bytes, states]
  generalize sorted paths = files at hZero
  induction files with
  | nil => rfl
  | cons path files ih =>
    rw [List.flatMap_cons, splitOn_record tree (hZero path List.mem_cons_self),
      ih fun other hOther => hZero other (List.mem_cons_of_mem _ hOther)]
    simp [fields]

theorem bytes_eq_iff_fields (hPaths : Hashable scheme paths) (hOthers : Hashable scheme others) :
    bytes first paths = bytes second others ↔
      fields (states first paths) = fields (states second others) := by
  constructor
  · intro hSame
    apply List.append_cancel_right
    rw [← splitOn_bytes hPaths first, hSame, splitOn_bytes hOthers]
  · -- cutting at zero bytes loses nothing
    intro hSame
    calc bytes first paths
        = [0].intercalate ((bytes first paths).splitOn 0) := (List.intercalate_splitOn 0).symm
      _ = [0].intercalate ((bytes second others).splitOn 0) := by
        rw [splitOn_bytes hPaths, splitOn_bytes hOthers, hSame]
      _ = bytes second others := List.intercalate_splitOn 0

theorem stream_eq_iff_fields (hPaths : Hashable scheme paths) (hOthers : Hashable scheme others) :
    stream scheme first paths = stream scheme second others ↔
      fields (states first paths) = fields (states second others) := by
  rw [stream_of_hashable hPaths, stream_of_hashable hOthers, Except.ok.injEq,
    bytes_eq_iff_fields hPaths hOthers]

theorem fields_map_countsAs (files : List (String × Option (List UInt8))) :
    fields files = (files.map countsAs).flatMap fun file =>
      Utf8.encode file.1.toList :: file.2.splitOn 0 := by
  rw [fields, List.flatMap_map]
  rfl

/-- No file that is listed holds a zero byte. -/
def ContentsZeroFree (tree : FileTree) (paths : List String) : Prop :=
  ∀ path ∈ paths, 0 ∉ (tree.contentNamed? path).getD []

theorem stream_eq_iff_countsAs (hPaths : Hashable scheme paths) (hOthers : Hashable scheme others)
    (hFirst : ContentsZeroFree first paths) (hSecond : ContentsZeroFree second others) :
    stream scheme first paths = stream scheme second others ↔
      (states first paths).map countsAs = (states second others).map countsAs := by
  constructor
  · intro hSame
    rw [stream_of_hashable hPaths, stream_of_hashable hOthers, Except.ok.injEq] at hSame
    obtain ⟨hSorted, hContents⟩ := bytes_inj
      (fun path hPath => ⟨hPaths.zero_notMem hPath, hFirst path hPath⟩)
      (fun path hPath => ⟨hOthers.zero_notMem hPath, hSecond path hPath⟩) hSame
    simp only [states, List.map_map, ← hSorted]
    refine List.map_congr_left ?_
    intro path hPath
    exact congrArg (Prod.mk path) (hContents path ((sorted_perm paths).mem_iff.1 hPath))
  · intro hSame
    rw [stream_eq_iff_fields hPaths hOthers, fields_map_countsAs, hSame, ← fields_map_countsAs]

theorem stream_of_perm (scheme : Scheme) (tree : FileTree) {reordered : List String}
    (hPerm : reordered.Perm paths) : stream scheme tree reordered = stream scheme tree paths := by
  rw [stream, stream, bytes, bytes, Inventory.sorted_eq_of_perm hPerm]

end Fields

end Fingerprint

namespace Cache
open Fingerprint

/-- There is a fingerprint exactly if nothing is wrong with any path. It tells the fields that the
listed files fill, in whatever order they are listed. If there is no zero byte in the contents,
these are the paths and the contents, with unreadable files as empty ones. Unless two hashes are
the same, a saved report is stale exactly if the fields have changed. -/
theorem fingerprint_tells_fields (scheme : Scheme) (first second : FileTree)
    (paths others : List String) :
    ((∃ found, stream scheme first paths = .ok found) ↔ Hashable scheme paths) ∧
    (∀ reordered, reordered.Perm paths →
      stream scheme first reordered = stream scheme first paths) ∧
    (Hashable scheme paths → Hashable scheme others →
      (stream scheme first paths = stream scheme second others ↔
        fields (states first paths) = fields (states second others)) ∧
      (ContentsZeroFree first paths → ContentsZeroFree second others →
        (stream scheme first paths = stream scheme second others ↔
          (states first paths).map countsAs = (states second others).map countsAs))) ∧
    ∀ nesting project print, second.refusal? (documentPath project) = none →
      (∀ content, scheme.hash content ≠ []) → ofFiles scheme first paths = .ok print →
      fingerprint? nesting second project = some (.str print) →
      (¬ Hashable scheme others →
        ∃ error, isStale scheme nesting second project others = .error (.unhashable error)) ∧
      (Hashable scheme others →
        (scheme.hash (bytes first paths) = scheme.hash (bytes second others) →
          bytes first paths = bytes second others) →
        isStale scheme nesting second project others =
          .ok (decide (fields (states first paths) ≠ fields (states second others)))) := by
  refine ⟨?_, fun _ hPerm => stream_of_perm scheme first hPerm, fun hPaths hOthers =>
    ⟨stream_eq_iff_fields hPaths hOthers, stream_eq_iff_countsAs hPaths hOthers⟩, ?_⟩
  · simp [stream_eq_ok_iff]
  · intro nesting project print hSeen hDigest hPrint hSaved
    obtain ⟨hPaths, rfl⟩ := ofFiles_eq_ok_iff.1 hPrint
    rw [isStale_of_fingerprint hSeen hSaved (print_ne_empty (hDigest _))]
    constructor
    · intro hNot
      obtain ⟨error, hError⟩ := ofFiles_eq_error_iff.2 hNot
      exact ⟨error, by rw [fingerprint, hError]; rfl⟩
    · intro hOthers hHash
      have hSame : scheme.print (bytes first paths) = scheme.print (bytes second others) ↔
          fields (states first paths) = fields (states second others) := by
        rw [print_eq_iff, ← bytes_eq_iff_fields hPaths hOthers]
        exact ⟨hHash, congrArg scheme.hash⟩
      rw [fingerprint_eq_ok_iff.2 ⟨hOthers, rfl⟩]
      simp [Except.map, bne, beq_eq_decide, hSame]

/-- The files after a report without findings has been saved for some of them. -/
def savedFor (tree : FileTree) (files : List String) : FileTree :=
  ((save {} tree { success := true } "/p" (some files) 0).toOption.getD (tree, false)).1

theorem fingerprint_tells_fields_edited :
    let before : FileTree :=
      { entries := [(["p"], .folder), (["p", "A.kt"], .file (Utf8.encode "class A".toList))] }
    let edited := (savedFor before ["/p/A.kt"]).put ["p", "A.kt"]
      (.file (Utf8.encode "class B".toList))
    stream {} before ["/p/A.kt"] ≠ stream {} edited ["/p/A.kt"] ∧
      isStale {} Json.maxNesting edited "/p" ["/p/A.kt"] = .ok true := by
  intro before edited
  have hPaths : Hashable {} ["/p/A.kt"] := by decide
  have hBefore : ContentsZeroFree before ["/p/A.kt"] := by
    intro path hPath
    rw [List.mem_singleton.1 hPath]
    decide +kernel
  have hEdited : ContentsZeroFree edited ["/p/A.kt"] := by
    intro path hPath
    rw [List.mem_singleton.1 hPath]
    decide +kernel
  obtain ⟨_, _, hTells, hStale⟩ :=
    fingerprint_tells_fields {} before edited ["/p/A.kt"] ["/p/A.kt"]
  obtain ⟨hFields, hContents⟩ := hTells hPaths hPaths
  have hApart : stream {} before ["/p/A.kt"] ≠ stream {} edited ["/p/A.kt"] := by
    rw [ne_eq, hContents hBefore hEdited]
    decide +kernel
  refine ⟨hApart, ?_⟩
  rw [(hStale Json.maxNesting "/p" _ (by decide +kernel) Blake3.hash_ne_nil
    (ofFiles_eq_ok_iff.2 ⟨hPaths, rfl⟩) (by decide +kernel)).2 hPaths (by decide +kernel),
    decide_eq_true (mt hFields.2 hApart)]

/-- An empty file fills the fields of an unreadable one, so nobody sees it disappear. And a content
with zero bytes in it can fill the fields of two files. -/
theorem empty_file_disappears_unseen :
    let empty : FileTree := { entries := [(["p"], .folder), (["p", "A.kt"], .file [])] }
    let gone := (savedFor empty ["/p/A.kt"]).remove ["p", "A.kt"]
    let joined : FileTree :=
      { entries := [(["p"], .folder),
          (["p", "A.kt"], .file (97 :: 0 :: Utf8.encode "/p/B.kt".toList ++ [0, 98]))] }
    let parted : FileTree :=
      { entries := [(["p"], .folder), (["p", "A.kt"], .file [97]), (["p", "B.kt"], .file [98])] }
    (states empty ["/p/A.kt"] ≠ states gone ["/p/A.kt"] ∧
      stream {} empty ["/p/A.kt"] = stream {} gone ["/p/A.kt"] ∧
      isStale {} Json.maxNesting gone "/p" ["/p/A.kt"] = .ok false) ∧
    states joined ["/p/A.kt"] ≠ states parted ["/p/A.kt", "/p/B.kt"] ∧
      stream {} joined ["/p/A.kt"] = stream {} parted ["/p/A.kt", "/p/B.kt"] := by
  intro empty gone joined parted
  have hSorted : sorted ["/p/A.kt", "/p/B.kt"] = ["/p/A.kt", "/p/B.kt"] :=
    List.mergeSort_of_pairwise (by decide +kernel)
  refine ⟨⟨by decide +kernel, by decide +kernel, by decide +kernel⟩, ?_⟩
  rw [states, states, stream, stream, bytes, bytes, hSorted]
  exact ⟨by decide +kernel, by decide +kernel⟩

end Cache
end SensorFlow

import SensorFlow.Json.Parse
import SensorFlow.Proofs.Text.Utf8
import SensorFlow.Store.Fingerprint

/-!
# What a fingerprint tells

There is a fingerprint exactly if nothing is wrong with any of the paths. It spells the hash of a
stream of bytes, and tells hashes apart. If no content holds a zero byte, the stream tells the paths
and what each of the files holds.
-/
namespace SensorFlow
open Text
set_option autoImplicit false

theorem Blake3.hash_ne_nil (bytes : List UInt8) : hash bytes ≠ [] := by
  apply List.ne_nil_of_length_eq_add_one (n := 31)
  simp [hash, List.length_flatMap, wordBytes]

namespace Fingerprint

theorem hexValue?_hexPadded : ∀ byte : Fin 256,
    (hexPadded 2 byte).map Json.hexValue? = [some (byte.val / 16), some (byte.val % 16)] := by
  decide +kernel

theorem length_hexPadded (byte : UInt8) : (hexPadded 2 byte.toNat).length = 2 := by
  simpa using congrArg List.length (hexValue?_hexPadded ⟨byte.toNat, byte.toNat_lt⟩)

theorem hexPadded_inj {first second : UInt8}
    (hSame : hexPadded 2 first.toNat = hexPadded 2 second.toNat) : first = second := by
  have hFirst := hexValue?_hexPadded ⟨first.toNat, first.toNat_lt⟩
  have hSecond := hexValue?_hexPadded ⟨second.toNat, second.toNat_lt⟩
  simp only [hSame] at hFirst
  rw [hFirst] at hSecond
  simp only [List.cons.injEq, Option.some.injEq, and_true] at hSecond
  exact UInt8.toNat_inj.1 (by omega)

theorem flatMap_hexPadded_inj {first second : List UInt8}
    (hSame : (first.flatMap fun byte => hexPadded 2 byte.toNat) =
      second.flatMap fun byte => hexPadded 2 byte.toNat) : first = second := by
  have hEmpty {byte : UInt8} {rest : List Char} : [] ≠ hexPadded 2 byte.toNat ++ rest := by
    intro hNil
    have hLength := congrArg List.length hNil
    rw [List.length_append, length_hexPadded, List.length_nil] at hLength
    omega
  induction first generalizing second with
  | nil =>
    cases second with
    | nil => rfl
    | cons byte second => exact absurd hSame hEmpty
  | cons byte first ih =>
    cases second with
    | nil => exact absurd hSame.symm hEmpty
    | cons other second =>
      obtain ⟨hByte, hRest⟩ := List.append_inj hSame (by simp [length_hexPadded])
      rw [hexPadded_inj hByte, ih hRest]

section Scheme

variable {scheme : Scheme} {tree : FileTree} {paths : List String}

theorem print_eq_iff (first second : List UInt8) :
    scheme.print first = scheme.print second ↔ scheme.hash first = scheme.hash second := by
  constructor
  · intro hSame
    exact flatMap_hexPadded_inj (String.ofList_injective hSame)
  · intro hSame
    rw [Scheme.print, hSame, ← Scheme.print]

theorem print_ne_empty {bytes : List UInt8} (hDigest : scheme.hash bytes ≠ []) :
    scheme.print bytes ≠ "" :=
  fun hEmpty => hDigest (flatMap_hexPadded_inj (String.ofList_injective hEmpty))

/-- Nothing is wrong with the paths. -/
def Hashable (scheme : Scheme) (paths : List String) : Prop :=
  ∀ path ∈ paths, scheme.pathError? path = none

instance : Decidable (Hashable scheme paths) := inferInstanceAs (Decidable (∀ path ∈ paths, _))

theorem Hashable.zero_notMem (hPaths : Hashable scheme paths) {path : String}
    (hPath : path ∈ paths) : 0 ∉ Utf8.encode path.toList := by
  have hNone := hPaths path hPath
  rw [Scheme.pathError?] at hNone
  split at hNone
  · cases hNone
  · split at hNone
    · cases hNone
    · next hZero => exact Utf8.zero_notMem_encode fun hMem => hZero (List.contains_iff_mem.2 hMem)

theorem findSome?_eq_none_iff :
    (sorted paths).findSome? scheme.pathError? = none ↔ Hashable scheme paths := by
  rw [List.findSome?_eq_none_iff]
  exact forall_congr' fun path => by rw [(sorted_perm paths).mem_iff]

theorem stream_of_hashable (hPaths : Hashable scheme paths) (tree : FileTree) :
    stream scheme tree paths = .ok (bytes tree paths) := by
  rw [stream, findSome?_eq_none_iff.2 hPaths]

theorem stream_eq_ok_iff {found : List UInt8} :
    stream scheme tree paths = .ok found ↔ Hashable scheme paths ∧ bytes tree paths = found := by
  constructor
  · intro hStream
    rw [stream] at hStream
    split at hStream
    · cases hStream
    · next hNone => exact ⟨findSome?_eq_none_iff.1 hNone, Except.ok.inj hStream⟩
  · rintro ⟨hPaths, rfl⟩
    exact stream_of_hashable hPaths tree

theorem ofFiles_eq_ok_iff {print : String} :
    ofFiles scheme tree paths = .ok print ↔
      Hashable scheme paths ∧ scheme.print (bytes tree paths) = print := by
  rw [ofFiles]
  cases hStream : stream scheme tree paths with
  | error error =>
    have hNot : ¬ Hashable scheme paths := fun hPaths => by
      rw [stream_of_hashable hPaths] at hStream
      cases hStream
    simp [Except.map, hNot]
  | ok found =>
    obtain ⟨hPaths, rfl⟩ := stream_eq_ok_iff.1 hStream
    simp [Except.map, hPaths]

theorem ofFiles_eq_error_iff :
    (∃ error, ofFiles scheme tree paths = .error error) ↔ ¬ Hashable scheme paths := by
  constructor
  · rintro ⟨error, hError⟩ hPaths
    rw [ofFiles_eq_ok_iff.2 ⟨hPaths, rfl⟩] at hError
    cases hError
  · intro hNot
    cases hPrint : ofFiles scheme tree paths with
    | error error => exact ⟨error, rfl⟩
    | ok print => exact absurd (ofFiles_eq_ok_iff.1 hPrint).1 hNot

end Scheme

/-- What stands before the first zero is determined. -/
theorem cut_at_zero {before other after rest : List UInt8} (hBefore : 0 ∉ before)
    (hOther : 0 ∉ other) (hSame : before ++ 0 :: after = other ++ 0 :: rest) :
    before = other ∧ after = rest := by
  induction before generalizing other with
  | nil =>
    cases other with
    | nil => exact ⟨rfl, (List.cons.inj hSame).2⟩
    | cons byte other => exact absurd (List.cons.inj hSame).1 (List.ne_of_not_mem_cons hOther)
  | cons byte before ih =>
    cases other with
    | nil => exact absurd (List.cons.inj hSame).1.symm (List.ne_of_not_mem_cons hBefore)
    | cons otherByte other =>
      obtain ⟨rfl, hRest⟩ := List.cons.inj hSame
      obtain ⟨rfl, rfl⟩ := ih (List.not_mem_of_not_mem_cons hBefore)
        (List.not_mem_of_not_mem_cons hOther) hRest
      exact ⟨rfl, rfl⟩

/-- Neither the path nor the content of the file holds a zero byte. -/
structure ZeroFree (tree : FileTree) (path : String) : Prop where
  name : 0 ∉ Utf8.encode path.toList
  content : 0 ∉ (tree.contentNamed? path).getD []

theorem flatMap_record_inj {first second : FileTree} {paths others : List String}
    (hPaths : ∀ path ∈ paths, ZeroFree first path) (hOthers : ∀ path ∈ others, ZeroFree second path)
    (hSame : paths.flatMap (record first) = others.flatMap (record second)) :
    paths = others ∧ ∀ path ∈ paths,
      (first.contentNamed? path).getD [] = (second.contentNamed? path).getD [] := by
  induction paths generalizing others with
  | nil =>
    cases others with
    | nil => exact ⟨rfl, by simp⟩
    | cons other others => simp [record] at hSame
  | cons path paths ih =>
    cases others with
    | nil => simp [record] at hSame
    | cons other others =>
      have hPath := hPaths path List.mem_cons_self
      have hOther := hOthers other List.mem_cons_self
      simp only [List.flatMap_cons, record, List.append_assoc, List.singleton_append] at hSame
      obtain ⟨hName, hMore⟩ := cut_at_zero hPath.name hOther.name hSame
      obtain ⟨hContent, hRest⟩ := cut_at_zero hPath.content hOther.content hMore
      obtain rfl := String.toList_injective (Utf8.encode_injective hName)
      obtain ⟨rfl, hContents⟩ := ih (fun path hPath => hPaths path (List.mem_cons_of_mem _ hPath))
        (fun path hPath => hOthers path (List.mem_cons_of_mem _ hPath)) hRest
      refine ⟨rfl, ?_⟩
      intro file hFile
      rcases List.mem_cons.1 hFile with rfl | hFile
      · exact hContent
      · exact hContents file hFile

theorem bytes_inj {first second : FileTree} {paths others : List String}
    (hPaths : ∀ path ∈ paths, ZeroFree first path) (hOthers : ∀ path ∈ others, ZeroFree second path)
    (hSame : bytes first paths = bytes second others) :
    sorted paths = sorted others ∧ ∀ path ∈ paths,
      (first.contentNamed? path).getD [] = (second.contentNamed? path).getD [] := by
  have hMem (texts : List String) (text : String) : text ∈ sorted texts ↔ text ∈ texts :=
    (sorted_perm texts).mem_iff
  obtain ⟨hSorted, hContents⟩ := flatMap_record_inj
    (fun path hPath => hPaths path ((hMem _ _).1 hPath))
    (fun path hPath => hOthers path ((hMem _ _).1 hPath)) hSame
  exact ⟨hSorted, fun path hPath => hContents path ((hMem _ _).2 hPath)⟩

end Fingerprint
end SensorFlow

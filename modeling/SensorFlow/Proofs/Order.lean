import Mathlib.Data.List.Induction
import Mathlib.Data.List.Nodup
import Mathlib.Data.List.Perm.Basic
import Mathlib.Data.String.Basic
import SensorFlow.Text.Order

/-!
# Orders of lists

The two orders that the analysis settles things by: the order of first mention, and a stable order
by a key. A list in the order of a key is determined by what it holds for each key.
-/
namespace SensorFlow
set_option autoImplicit false

/-- Positions that are written alike are the same. -/
theorem repr_inj {first second : Nat} (hSame : first.repr = second.repr) : first = second := by
  rw [Nat.repr_eq_ofList_toDigits, Nat.repr_eq_ofList_toDigits, String.ofList_inj] at hSame
  rw [← Nat.ofDigitChars_ten_toDigits (n := first), hSame, Nat.ofDigitChars_ten_toDigits]

section FirstMention
variable {α : Type} [BEq α] [LawfulBEq α]

theorem eraseDups_concat (items : List α) (item : α) :
    (items ++ [item]).eraseDups =
      if item ∈ items then items.eraseDups else items.eraseDups ++ [item] := by
  rw [List.eraseDups_append]
  by_cases h : item ∈ items
  · simp [List.removeAll, h]
  · simp [List.removeAll, h, List.eraseDups_cons]

/-- Without repetitions, items stand in the order of their first mention. -/
theorem eraseDups_sorted (items : List α) :
    items.eraseDups.Pairwise fun a b => items.idxOf a < items.idxOf b := by
  induction items using List.reverseRecOn with
  | nil => exact List.Pairwise.nil
  | append_singleton items item ih =>
    have hEarlier : items.eraseDups.Pairwise fun a b =>
        (items ++ [item]).idxOf a < (items ++ [item]).idxOf b := by
      refine ih.imp_of_mem ?_
      intro a b hA hB hLess
      rw [List.idxOf_append_of_mem (List.mem_eraseDups.1 hA),
        List.idxOf_append_of_mem (List.mem_eraseDups.1 hB)]
      exact hLess
    rw [eraseDups_concat]
    split
    · exact hEarlier
    · rename_i hNew
      refine List.pairwise_append.2 ⟨hEarlier, List.pairwise_singleton _ _, ?_⟩
      intro a hA b hB
      have hMem := List.mem_eraseDups.1 hA
      rw [List.mem_singleton.1 hB, List.idxOf_append_of_mem hMem,
        List.idxOf_append_of_notMem hNew]
      exact Nat.lt_add_right _ (List.idxOf_lt_length_iff.2 hMem)

theorem eraseDups_nodup (items : List α) : items.eraseDups.Nodup :=
  (eraseDups_sorted items).imp fun hLess hSame => by simp [hSame] at hLess

theorem eraseDups_filter (items : List α) (p : α → Bool) :
    (items.filter p).eraseDups = items.eraseDups.filter p := by
  induction items using List.reverseRecOn with
  | nil => rfl
  | append_singleton items item ih =>
    rw [List.filter_append, eraseDups_concat]
    by_cases hItem : p item = true
    · rw [List.filter_cons_of_pos hItem, List.filter_nil, eraseDups_concat, ih]
      by_cases hOld : item ∈ items <;> simp [hOld, hItem]
    · rw [List.filter_cons_of_neg hItem, List.filter_nil, List.append_nil, ih]
      split <;> simp [hItem]

end FirstMention

section Stable
variable {α : Type}

/-- Two lists in the order of a key are equal if they are for each key by itself. -/
theorem eq_of_filter_key_eq {κ : Type} [LinearOrder κ] (key : α → κ) {a b : List α}
    (hA : a.Pairwise fun x y => key x ≤ key y) (hB : b.Pairwise fun x y => key x ≤ key y)
    (hSame : ∀ k, (a.filter fun x => key x = k) = b.filter fun x => key x = k) : a = b := by
  induction a generalizing b with
  | nil =>
    cases b with
    | nil => rfl
    | cons y b =>
      have hKey := hSame (key y)
      simp at hKey
  | cons x a ih =>
    have hX : x ∈ b := by
      have hMem : x ∈ (x :: a).filter fun other => key other = key x := by simp
      rw [hSame] at hMem
      exact List.mem_of_mem_filter hMem
    cases b with
    | nil => cases hX
    | cons y b =>
      have hY : y ∈ x :: a := by
        have hMem : y ∈ (y :: b).filter fun other => key other = key y := by simp
        rw [← hSame] at hMem
        exact List.mem_of_mem_filter hMem
      -- each head stands among the items of the other list, so the heads have the same key
      have hKey : key x = key y := by
        apply le_antisymm
        · rcases List.mem_cons.1 hY with rfl | hY
          · exact le_rfl
          · exact (List.pairwise_cons.1 hA).1 y hY
        · rcases List.mem_cons.1 hX with rfl | hX
          · exact le_rfl
          · exact (List.pairwise_cons.1 hB).1 x hX
      have hHeads := hSame (key x)
      rw [List.filter_cons_of_pos (by simp), List.filter_cons_of_pos (by simp [hKey])] at hHeads
      obtain ⟨rfl, _⟩ := List.cons.inj hHeads
      refine congrArg (x :: ·) (ih (List.pairwise_cons.1 hA).2 (List.pairwise_cons.1 hB).2 ?_)
      intro k
      have hRest := hSame k
      by_cases hK : key x = k
      · rw [List.filter_cons_of_pos (by simpa using hK),
          List.filter_cons_of_pos (by simpa using hK)] at hRest
        exact (List.cons.inj hRest).2
      · rwa [List.filter_cons_of_neg (by simpa using hK),
          List.filter_cons_of_neg (by simpa using hK)] at hRest

variable {κ : Type} [LinearOrder κ] (key : α → κ)

/-- Whether an item may stand before another one. -/
def keyLe (x y : α) : Bool := decide (key x ≤ key y)

theorem keyLe_trans (x y z : α) (hXY : keyLe key x y = true) (hYZ : keyLe key y z = true) :
    keyLe key x z = true := by
  rw [keyLe, decide_eq_true_eq] at *
  exact le_trans hXY hYZ

theorem keyLe_total (x y : α) : (keyLe key x y || keyLe key y x) = true := by
  simpa [keyLe] using le_total (key x) (key y)

theorem mergeSort_key_sorted (items : List α) :
    (items.mergeSort (keyLe key)).Pairwise fun x y => key x ≤ key y := by
  refine (List.pairwise_mergeSort (keyLe_trans key) (keyLe_total key) items).imp ?_
  intro x y hLe
  exact of_decide_eq_true hLe

/-- A stable sort leaves the items of each key as they stand. -/
theorem filter_mergeSort_key (items : List α) (k : κ) :
    ((items.mergeSort (keyLe key)).filter fun x => key x = k) =
      items.filter fun x => key x = k := by
  have hSorted : (items.filter fun x => key x = k).Pairwise fun x y => keyLe key x y = true := by
    refine List.pairwise_of_forall_mem_list ?_
    intro x hX y hY
    have hX : key x = k := by simpa using (List.mem_filter.1 hX).2
    have hY : key y = k := by simpa using (List.mem_filter.1 hY).2
    simp [keyLe, hX, hY]
  have hSublist := (List.sublist_mergeSort (keyLe_trans key) (keyLe_total key) hSorted
    List.filter_sublist).filter fun x => key x = k
  rw [List.filter_filter] at hSublist
  simp only [Bool.and_self] at hSublist
  exact (hSublist.eq_of_length ((items.mergeSort_perm (keyLe key)).filter _).length_eq.symm).symm

theorem mergeSort_filter_key (items : List α) (p : α → Bool) :
    (items.filter p).mergeSort (keyLe key) = (items.mergeSort (keyLe key)).filter p := by
  refine eq_of_filter_key_eq key (mergeSort_key_sorted key _)
    ((mergeSort_key_sorted key items).filter p) ?_
  intro k
  calc (((items.filter p).mergeSort (keyLe key)).filter fun x => key x = k)
      = (items.filter p).filter fun x => key x = k := filter_mergeSort_key key _ k
    _ = (items.filter fun x => key x = k).filter p := List.filter_comm ..
    _ = ((items.mergeSort (keyLe key)).filter fun x => key x = k).filter p := by
      rw [filter_mergeSort_key]
    _ = ((items.mergeSort (keyLe key)).filter p).filter fun x => key x = k := List.filter_comm ..

/-- Lists in the strict order of a key are equal if they have the same members. -/
theorem eq_of_key_sorted {a b : List α}
    (hA : a.Pairwise fun x y => key x < key y) (hB : b.Pairwise fun x y => key x < key y)
    (hSame : ∀ x, x ∈ a ↔ x ∈ b) : a = b := by
  have hNodup : ∀ {items : List α}, (items.Pairwise fun x y => key x < key y) → items.Nodup := by
    intro items hItems
    exact hItems.imp fun hLess hEq => hLess.ne (congrArg key hEq)
  have hPerm := (List.perm_ext_iff_of_nodup (hNodup hA) (hNodup hB)).2 hSame
  refine hPerm.eq_of_pairwise ?_ hA hB
  intro x y _ _ hXY hYX
  exact absurd hYX (lt_asymm hXY)

theorem eq_of_key_eq {items : List α} (hSorted : items.Pairwise fun x y => key x < key y) {x y : α}
    (hX : x ∈ items) (hY : y ∈ items) (hKey : key x = key y) : x = y := by
  have hKeys : (items.map key).Nodup := List.pairwise_map.2 (hSorted.imp ne_of_lt)
  exact List.inj_on_of_nodup_map hKeys hX hY hKey

/-- A sort puts a list into the only strict order of its key. -/
theorem mergeSort_eq_of_perm {items sorted : List α}
    (hPerm : items.Perm sorted) (hSorted : sorted.Pairwise fun x y => key x < key y) :
    items.mergeSort (keyLe key) = sorted := by
  have hSame := (items.mergeSort_perm (keyLe key)).trans hPerm
  refine hSame.eq_of_pairwise ?_ (mergeSort_key_sorted key items) (hSorted.imp le_of_lt)
  intro x y hX hY hXY hYX
  exact eq_of_key_eq key hSorted (hSame.mem_iff.1 hX) hY (le_antisymm hXY hYX)

end Stable
end SensorFlow

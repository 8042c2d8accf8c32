import SensorFlow.Proofs.Order
import SensorFlow.Symbol.CallTarget

/-!
# What a symbol table holds

A class is in the table if it is the last description of its qualified name, so the table has one
class for each name that is described, in the order of the names. Every call is resolved to a class
of the table.
-/
namespace SensorFlow.SymbolTable
open Text
set_option autoImplicit false

/-- No later description has the same qualified name. -/
def Survives (descriptions : List ClassSymbol) (c : ClassSymbol) : Prop :=
  ∃ before later, descriptions = before ++ c :: later ∧
    ∀ other ∈ later, other.qualifiedName ≠ c.qualifiedName

section Names
variable {descriptions : List ClassSymbol}

theorem mem_names {name : String} :
    name ∈ names descriptions ↔ ∃ c ∈ descriptions, c.qualifiedName = name := by
  rw [names, (sorted_perm _).mem_iff, List.mem_eraseDups, List.mem_map]

theorem names_sorted (descriptions : List ClassSymbol) :
    (names descriptions).Pairwise (· < ·) := by
  have hOrdered : (names descriptions).Pairwise (· ≤ ·) := mergeSort_key_sorted id _
  have hNodup : (names descriptions).Nodup :=
    (sorted_perm _).nodup_iff.2 (eraseDups_nodup _)
  exact hOrdered.imp₂ (fun _ _ hLe hNe => lt_of_le_of_ne hLe hNe) hNodup

theorem surviving?_eq_some_iff {name : String} {c : ClassSymbol} :
    surviving? descriptions name = some c ↔
      c.qualifiedName = name ∧ Survives descriptions c := by
  rw [surviving?, List.find?_eq_some_iff_append]
  constructor
  · rintro ⟨hName, later, before, hSplit, hLater⟩
    have hName : c.qualifiedName = name := by simpa using hName
    refine ⟨hName, before.reverse, later.reverse, ?_, ?_⟩
    · rw [← List.reverse_reverse descriptions, hSplit]
      simp
    · intro other hOther
      rw [hName]
      simpa using hLater other (List.mem_reverse.1 hOther)
  · rintro ⟨hName, before, later, rfl, hLater⟩
    refine ⟨by simpa using hName, later.reverse, before.reverse, by simp, ?_⟩
    intro other hOther
    have hNe := hLater other (List.mem_reverse.1 hOther)
    rw [hName] at hNe
    simpa using hNe

theorem surviving?_eq_getLast? (descriptions : List ClassSymbol) (name : String) :
    surviving? descriptions name = (descriptions.filter (·.qualifiedName = name)).getLast? := by
  rw [surviving?, ← List.head?_filter, List.filter_reverse, List.head?_reverse]
  rfl

theorem exists_surviving {name : String} (h : name ∈ names descriptions) :
    ∃ c, surviving? descriptions name = some c := by
  obtain ⟨c, hMem, hName⟩ := mem_names.1 h
  rw [← Option.isSome_iff_exists, surviving?, List.find?_isSome]
  exact ⟨c, List.mem_reverse.2 hMem, by simpa using hName⟩

theorem mem_classes_iff {c : ClassSymbol} :
    c ∈ (ofClasses descriptions).classes ↔ Survives descriptions c := by
  rw [ofClasses, List.mem_filterMap]
  constructor
  · rintro ⟨name, _, hSurvives⟩
    exact (surviving?_eq_some_iff.1 hSurvives).2
  · intro hSurvives
    refine ⟨c.qualifiedName, ?_, surviving?_eq_some_iff.2 ⟨rfl, hSurvives⟩⟩
    obtain ⟨before, later, rfl, _⟩ := hSurvives
    exact mem_names.2 ⟨c, by simp, rfl⟩

theorem map_qualifiedName_classes (descriptions : List ClassSymbol) :
    (ofClasses descriptions).classes.map (·.qualifiedName) = names descriptions := by
  have hName : ∀ name ∈ names descriptions,
      (surviving? descriptions name).map (·.qualifiedName) = some name := by
    intro name hMem
    obtain ⟨c, hSurvives⟩ := exists_surviving hMem
    rw [hSurvives, Option.map_some, (surviving?_eq_some_iff.1 hSurvives).1]
  rw [ofClasses, List.map_filterMap, List.filterMap_congr hName, List.filterMap_some]

theorem classes_sorted (descriptions : List ClassSymbol) :
    (ofClasses descriptions).classes.Pairwise fun a b => a.qualifiedName < b.qualifiedName := by
  have hNames := names_sorted descriptions
  rw [← map_qualifiedName_classes, List.pairwise_map] at hNames
  exact hNames

/-- A class of the table is known by its qualified name. -/
theorem eq_of_qualifiedName_eq {a b : ClassSymbol} (hA : a ∈ (ofClasses descriptions).classes)
    (hB : b ∈ (ofClasses descriptions).classes) (hName : a.qualifiedName = b.qualifiedName) :
    a = b := by
  have hA := surviving?_eq_some_iff.2 ⟨hName, mem_classes_iff.1 hA⟩
  have hB := surviving?_eq_some_iff.2 ⟨rfl, mem_classes_iff.1 hB⟩
  rw [hA] at hB
  exact Option.some.inj hB

end Names

section Receivers
variable {table : SymbolTable}

theorem mem_of_named? {name : String} {c : ClassSymbol} (h : table.named? name = some c) :
    c ∈ table.classes := by
  rw [named?] at h
  split at h
  · cases h
  · rcases Option.or_eq_some_iff.1 h with hFound | ⟨_, hFound⟩
    · exact List.mem_of_find?_eq_some hFound
    · exact List.mem_of_find?_eq_some hFound

theorem mem_of_resolve? {tier : Tier} {target : CallTarget} {caller c : ClassSymbol}
    (hCaller : caller ∈ table.classes) (h : tier.resolve? target caller table = some c) :
    c ∈ table.classes := by
  cases tier <;> cases hReceiver : target.receiver <;> simp only [Tier.resolve?, hReceiver] at h
  case ownMethod.none =>
    split at h
    · cases h
      exact hCaller
    · cases h
  case declaringClass.none => exact List.mem_of_find?_eq_some h
  case receiverClass.some => exact mem_of_named? h
  case receiverField.some =>
    obtain ⟨field, _, hField⟩ := Option.bind_eq_some_iff.1 h
    obtain ⟨name, _, hNamed⟩ := List.exists_of_findSome?_eq_some hField
    exact mem_of_named? hNamed
  case methodName.some => exact List.mem_of_find?_eq_some h
  all_goals cases h

theorem mem_of_receiver? {tiers : List Tier} {caller c : ClassSymbol} {target : String}
    (hCaller : caller ∈ table.classes) (h : table.receiver? tiers caller target = some c) :
    c ∈ table.classes := by
  obtain ⟨tier, _, hTier⟩ := List.exists_of_findSome?_eq_some h
  exact mem_of_resolve? hCaller hTier

end Receivers
end SensorFlow.SymbolTable

import Mathlib.Data.List.Forall2
import SensorFlow.Issue.Detection
import SensorFlow.Proofs.Symbol.Table
import SensorFlow.Proofs.Text.Scan

/-!
# What the rules on listeners report

A class that registers listeners and unregisters none is reported once, and so is each call text
that a class registers a listener with at least twice. Both rules go through the surviving classes
in the order of their names. The text of an unregistering call has that of a registering one in it,
so the first rule sets the two apart and the second one counts both.
-/
namespace SensorFlow
open Text
set_option autoImplicit false

def RegistersListener (call : String) : Prop :=
  Occurs "registerListener" call ∧ ¬ Occurs "unregisterListener" call

theorem mentionsRegistration_iff {call : String} :
    mentionsRegistration call = true ↔ Occurs "registerListener" call :=
  contains_iff_occurs

theorem unregisters_iff {call : String} :
    unregisters call = true ↔ Occurs "unregisterListener" call :=
  contains_iff_occurs

theorem registers_iff {call : String} : registers call = true ↔ RegistersListener call := by
  rw [registers, Bool.and_eq_true, mentionsRegistration_iff, Bool.not_eq_true', ← Bool.not_eq_true,
    unregisters_iff, RegistersListener]

namespace ClassSymbol

/-- The method makes a call of some kind, and no method above it does. -/
def FirstMaking (c : ClassSymbol) (kind : String → Prop) (method : MethodSymbol) : Prop :=
  (∃ call ∈ method.calls, kind call) ∧
    ∃ above below, c.methods = above ++ method :: below ∧
      ∀ earlier ∈ above, ∀ call ∈ earlier.calls, ¬ kind call

def ForgetsListener (c : ClassSymbol) : Prop :=
  (∃ call ∈ c.calls, RegistersListener call) ∧ ∀ call ∈ c.calls, ¬ Occurs "unregisterListener" call

def RepeatsListener (c : ClassSymbol) (call : String) : Prop :=
  Occurs "registerListener" call ∧ 2 ≤ c.calls.count call

theorem firstMaking_of_find? {c : ClassSymbol} {test : String → Bool} {kind : String → Prop}
    {method : MethodSymbol} (hTest : ∀ call, test call = true ↔ kind call)
    (hFound : c.methods.find? (fun method => method.calls.any test) = some method) :
    c.FirstMaking kind method := by
  obtain ⟨hMakes, above, below, hMethods, hAbove⟩ := List.find?_eq_some_iff_append.1 hFound
  refine ⟨?_, above, below, hMethods, ?_⟩
  · obtain ⟨call, hCall, hKind⟩ := List.any_eq_true.1 hMakes
    exact ⟨call, hCall, (hTest call).1 hKind⟩
  · intro earlier hEarlier call hCall hKind
    have hNone : earlier.calls.any test = false := by simpa using hAbove earlier hEarlier
    have hMade : earlier.calls.any test = true := List.any_eq_true.2 ⟨call, hCall, (hTest call).2 hKind⟩
    rw [hNone] at hMade
    cases hMade

end ClassSymbol

/-- The issue for a class that forgets a listener points at its first registering method. -/
structure ReportsForgotten (c : ClassSymbol) (issue : Issue) : Prop where
  kind : issue.kind = .unregisteredListener
  description :
    issue.description = "Sensor listener registered but never unregistered in " ++ c.name
  code : ∃ method, c.FirstMaking RegistersListener method ∧
    issue.code = [{ filePath := c.filePath, line := method.line }]

/-- The issue for a repeated call text tells how often it occurs and points at the method with its
first occurrence. -/
structure ReportsRepeated (item : ClassSymbol × String) (issue : Issue) : Prop where
  kind : issue.kind = .duplicateListener
  description : issue.description = toString (item.1.calls.count item.2) ++
    " identical listener registrations (" ++ item.2 ++ ") in " ++ item.1.name
  code : ∃ method, item.1.FirstMaking (· = item.2) method ∧
    issue.code = [{ filePath := item.1.filePath, line := method.line }]

/-- Classes come by their names, and the texts of one class by their first occurrence. -/
def StandsBefore (a b : ClassSymbol × String) : Prop :=
  a.1.qualifiedName < b.1.qualifiedName ∨
    a.1 = b.1 ∧ a.1.calls.idxOf a.2 < a.1.calls.idxOf b.2

/-- What a partial rule reports stands in the order of the items that it reports. -/
theorem forall₂_filterMap {α β : Type} {rule : α → Option β} {reports : α → β → Prop}
    {items : List α} (hReports : ∀ item ∈ items, ∀ issue, rule item = some issue → reports item issue) :
    List.Forall₂ reports (items.filter fun item => (rule item).isSome) (items.filterMap rule) := by
  induction items with
  | nil => exact .nil
  | cons item items ih =>
    have hLater := ih fun other hOther => hReports other (List.mem_cons_of_mem item hOther)
    cases hRule : rule item with
    | none => simpa [hRule] using hLater
    | some issue => simpa [hRule] using ⟨hReports item List.mem_cons_self issue hRule, hLater⟩

namespace Issue
variable {c : ClassSymbol}

section Forgotten
variable {g : Graph}

theorem unregisteredListener_isSome_iff :
    (unregisteredListener g c).isSome = true ↔ c.ForgetsListener := by
  have hRegisters : (c.methods.find? fun method => method.calls.any registers).isSome = true ↔
      ∃ call ∈ c.calls, RegistersListener call := by
    simp only [List.find?_isSome, List.any_eq_true, registers_iff, ClassSymbol.calls, List.mem_flatMap]
    constructor
    · rintro ⟨method, hMethod, call, hCall, hKind⟩
      exact ⟨call, ⟨method, hMethod, hCall⟩, hKind⟩
    · rintro ⟨call, ⟨method, hMethod, hCall⟩, hKind⟩
      exact ⟨method, hMethod, call, hCall, hKind⟩
  have hUnregisters : c.calls.any unregisters = false ↔
      ∀ call ∈ c.calls, ¬ Occurs "unregisterListener" call := by
    simp only [List.any_eq_false, unregisters_iff]
  rw [ClassSymbol.ForgetsListener, ← hRegisters, ← hUnregisters, unregisteredListener]
  cases c.methods.find? fun method => method.calls.any registers with
  | none => simp
  | some method => cases c.calls.any unregisters <;> simp

theorem reportsForgotten_of_unregisteredListener {issue : Issue}
    (hIssue : unregisteredListener g c = some issue) : ReportsForgotten c issue := by
  rw [unregisteredListener] at hIssue
  split at hIssue
  · cases hIssue
  · rename_i method hFound
    split at hIssue
    · cases hIssue
    · cases hIssue
      exact ⟨rfl, rfl, method, ClassSymbol.firstMaking_of_find? (fun _ => registers_iff) hFound, rfl⟩

end Forgotten

theorem map_fst_registrations (c : ClassSymbol) :
    (registrations c).map (·.1) = c.calls.filter mentionsRegistration := by
  simp [registrations, ClassSymbol.calls, List.map_flatMap, List.filter_flatMap, Function.comp_def]

section Repeated
variable {call : String}

theorem length_filter_registrations (hMention : mentionsRegistration call = true) :
    ((registrations c).filter (·.1 == call)).length = c.calls.count call := by
  rw [← List.count_filter hMention, ← map_fst_registrations, List.count_eq_length_filter,
    List.filter_map, List.length_map]
  rfl

theorem firstMaking_of_find?_registrations (hMention : mentionsRegistration call = true)
    {item : String × Int} (hFound : (registrations c).find? (·.1 == call) = some item) :
    ∃ method, c.FirstMaking (· = call) method ∧ item.2 = method.line := by
  rw [registrations, List.find?_flatMap] at hFound
  obtain ⟨above, method, below, hMethods, hMethod, hAbove⟩ := List.findSome?_eq_some_iff.1 hFound
  obtain ⟨text, hText, rfl⟩ := List.mem_map.1 (List.mem_of_find?_eq_some hMethod)
  obtain rfl : text = call := by simpa using List.find?_some hMethod
  refine ⟨method, ⟨⟨text, List.mem_of_mem_filter hText, rfl⟩, above, below, hMethods, ?_⟩, rfl⟩
  -- a method above that makes the call would have been found
  rintro earlier hEarlier _ hCall rfl
  have hNone := List.find?_eq_none.1 (hAbove earlier hEarlier)
  have hMade := List.mem_map_of_mem (f := fun call => (call, earlier.line))
    (List.mem_filter.2 ⟨hCall, hMention⟩)
  exact hNone _ hMade (beq_self_eq_true _)

theorem duplicateListener_isSome_iff (hMention : mentionsRegistration call = true) :
    (duplicateListener c call).isSome = true ↔ 2 ≤ c.calls.count call := by
  rw [← length_filter_registrations hMention, duplicateListener]
  rcases hItems : (registrations c).filter (·.1 == call) with _ | ⟨first, _ | ⟨second, more⟩⟩ <;>
    simp [hItems]

theorem reportsRepeated_of_duplicateListener {issue : Issue}
    (hMention : mentionsRegistration call = true)
    (hIssue : duplicateListener c call = some issue) : ReportsRepeated (c, call) issue := by
  have hCount := length_filter_registrations (c := c) hMention
  have hFirst := List.head?_filter (p := (·.1 == call)) (l := registrations c)
  rw [duplicateListener] at hIssue
  rcases hItems : (registrations c).filter (·.1 == call) with _ | ⟨⟨text, line⟩, _ | ⟨second, more⟩⟩
  · simp [hItems] at hIssue
  · simp [hItems] at hIssue
  · rw [hItems] at hIssue hCount hFirst
    obtain ⟨method, hMethod, hLine⟩ := firstMaking_of_find?_registrations hMention hFirst.symm
    cases hIssue
    refine ⟨rfl, ?_, method, hMethod, ?_⟩
    · rw [← hCount]
      rfl
    · rw [← hLine]

end Repeated
end Issue

/-- The registering call texts of the classes, each once for each class. -/
def registeringTexts (table : SymbolTable) : List (ClassSymbol × String) :=
  table.classes.flatMap fun c => (c.calls.filter mentionsRegistration).eraseDups.map fun call => (c, call)

theorem mem_registeringTexts_iff {table : SymbolTable} {item : ClassSymbol × String} :
    item ∈ registeringTexts table ↔
      item.1 ∈ table.classes ∧ item.2 ∈ item.1.calls ∧ mentionsRegistration item.2 = true := by
  obtain ⟨c, call⟩ := item
  simp only [registeringTexts, List.mem_flatMap, List.mem_map, List.mem_eraseDups, List.mem_filter]
  constructor
  · rintro ⟨c, hClass, call, hCall, hItem⟩
    cases hItem
    exact ⟨hClass, hCall⟩
  · rintro ⟨hClass, hCall⟩
    exact ⟨c, hClass, call, hCall, rfl⟩

theorem registeringTexts_sorted (descriptions : List ClassSymbol) :
    (registeringTexts (.ofClasses descriptions)).Pairwise StandsBefore := by
  refine List.pairwise_flatMap.2 ⟨?_, ?_⟩
  · intro c _
    rw [eraseDups_filter]
    refine List.pairwise_map.2 (((eraseDups_sorted c.calls).filter _).imp ?_)
    intro a b hLess
    exact .inr ⟨rfl, hLess⟩
  · refine (SymbolTable.classes_sorted descriptions).imp ?_
    intro a b hLess x hX y hY
    obtain ⟨_, _, rfl⟩ := List.mem_map.1 hX
    obtain ⟨_, _, rfl⟩ := List.mem_map.1 hY
    exact .inl hLess

theorem duplicateListeners_eq (table : SymbolTable) :
    duplicateListeners table =
      (registeringTexts table).filterMap fun item => Issue.duplicateListener item.1 item.2 := by
  simp only [duplicateListeners, registeringTexts, Issue.map_fst_registrations, List.filterMap_flatMap,
    List.filterMap_map]
  rfl

theorem listener_rules_report (descriptions : List ClassSymbol) (g : Graph) :
    (∃ forgetful : List ClassSymbol,
      forgetful.Pairwise (fun a b => a.qualifiedName < b.qualifiedName) ∧
      (∀ c, c ∈ forgetful ↔ SymbolTable.Survives descriptions c ∧ c.ForgetsListener) ∧
      List.Forall₂ ReportsForgotten forgetful (unregisteredListeners (.ofClasses descriptions) g)) ∧
    ∃ repeated : List (ClassSymbol × String),
      repeated.Pairwise StandsBefore ∧
      (∀ c call, (c, call) ∈ repeated ↔
        SymbolTable.Survives descriptions c ∧ c.RepeatsListener call) ∧
      List.Forall₂ ReportsRepeated repeated (duplicateListeners (.ofClasses descriptions)) := by
  refine ⟨⟨_, (SymbolTable.classes_sorted descriptions).filter _, ?_, forall₂_filterMap ?_⟩, ?_⟩
  · intro c
    rw [List.mem_filter, SymbolTable.mem_classes_iff, Issue.unregisteredListener_isSome_iff]
  · intro c _ issue hIssue
    exact Issue.reportsForgotten_of_unregisteredListener hIssue
  rw [duplicateListeners_eq]
  refine ⟨_, (registeringTexts_sorted descriptions).filter _, ?_, forall₂_filterMap ?_⟩
  · intro c call
    rw [List.mem_filter, mem_registeringTexts_iff, SymbolTable.mem_classes_iff]
    constructor
    · rintro ⟨⟨hClass, hCall, hMention⟩, hSome⟩
      exact ⟨hClass, mentionsRegistration_iff.1 hMention,
        (Issue.duplicateListener_isSome_iff hMention).1 hSome⟩
    · rintro ⟨hClass, hOccurs, hCount⟩
      have hMention := mentionsRegistration_iff.2 hOccurs
      have hCall : call ∈ c.calls := List.count_pos_iff.1 (by omega)
      exact ⟨⟨hClass, hCall, hMention⟩, (Issue.duplicateListener_isSome_iff hMention).2 hCount⟩
  · rintro ⟨c, call⟩ hItem issue hIssue
    obtain ⟨_, _, hMention⟩ := mem_registeringTexts_iff.1 hItem
    exact Issue.reportsRepeated_of_duplicateListener hMention hIssue

end SensorFlow

import SensorFlow.Proofs.Symbol.Table

/-!
# Which classes a call can be resolved to

A call is resolved through a few look-ups only: of the classes that declare its method, and of the
names that its receiver stands for. A class that none of them can find changes no answer, wherever
it stands among the descriptions and among the names.
-/
namespace SensorFlow
open Text
set_option autoImplicit false

def bareType (type : String) : List Char := trim (type.toList.filter (· != '?'))

/-- A piece between commas of what stands between the first `<` and the last `>` of a type. -/
def IsArgument (type piece : List Char) : Prop :=
  ∃ opened inner closed, type = opened ++ '<' :: (inner ++ '>' :: closed) ∧ '<' ∉ opened ∧
    '>' ∉ closed ∧ piece ∈ inner.splitOn ','

/-- The names that a receiver may stand for in a class: itself, the type of the field it names, and
the arguments of that type. -/
inductive ClassSymbol.StandsFor (caller : ClassSymbol) (receiver : String) : String → Prop
  | itself : caller.StandsFor receiver receiver
  | fieldType {field : FieldSymbol} (hField : caller.field? receiver = some field) :
      caller.StandsFor receiver (String.ofList (bareType field.type))
  | argument {field : FieldSymbol} {piece : List Char}
      (hField : caller.field? receiver = some field) (hPiece : IsArgument (bareType field.type) piece) :
      caller.StandsFor receiver (String.ofList (trim piece))

section TypeNames
variable {opened inner closed : List Char} {type name : String}

theorem takeWhile_ne_append {sep : Char} {front : List Char} (hFront : sep ∉ front)
    (back : List Char) : (front ++ sep :: back).takeWhile (· != sep) = front := by
  rw [List.takeWhile_append_of_pos]
  · simp
  · intro c hC
    simpa using ne_of_mem_of_not_mem hC hFront

theorem reverse_drop_dropWhile_ne {sep : Char} {back : List Char} (hBack : sep ∉ back)
    (front : List Char) :
    (((front ++ sep :: back).reverse.dropWhile (· != sep)).drop 1).reverse = front := by
  have hReverse : (front ++ sep :: back).reverse = back.reverse ++ sep :: front.reverse := by simp
  rw [hReverse, List.dropWhile_append_of_pos]
  · simp
  · intro c hC
    simpa using ne_of_mem_of_not_mem (List.mem_reverse.1 hC) hBack

theorem exists_last_of_mem {sep : Char} {text : List Char} (hMem : sep ∈ text) :
    ∃ front back, text = front ++ sep :: back ∧ sep ∉ back := by
  obtain ⟨back, front, hReverse, hBack⟩ := List.eq_append_cons_of_mem (List.mem_reverse.2 hMem)
  refine ⟨front.reverse, back.reverse, ?_, fun hIn => hBack (List.mem_reverse.1 hIn)⟩
  rw [← List.reverse_reverse text, hReverse]
  simp

/-- What stands behind the first `<` and before the last `>`. -/
def between (bare : List Char) : List Char :=
  ((bare.reverse.dropWhile (· != '>')).drop 1).reverse.drop
    ((bare.takeWhile (· != '<')).length + 1)

theorem typeNames_eq (type : String) :
    Tier.typeNames type = String.ofList (bareType type) ::
      if '<' ∈ bareType type ∧ '>' ∈ bareType type then
        ((between (bareType type)).splitOn ',').map fun piece => String.ofList (trim piece)
      else [] := by
  simp only [Tier.typeNames, List.map_cons, apply_ite (List.map String.ofList), List.map_map,
    List.map_nil, Bool.and_eq_true, List.contains_iff_mem]
  rfl

theorem between_eq (hOpened : '<' ∉ opened) (hClosed : '>' ∉ closed) :
    between (opened ++ '<' :: (inner ++ '>' :: closed)) = inner := by
  have hFront : opened ++ '<' :: (inner ++ '>' :: closed) =
      (opened ++ '<' :: inner) ++ '>' :: closed := by simp
  rw [between, takeWhile_ne_append hOpened, hFront, reverse_drop_dropWhile_ne hClosed]
  simp

/-- A `>` only before the first `<` leaves nothing between the two. -/
theorem between_eq_nil {rest : List Char} (hOpened : '<' ∉ opened) (hRest : '>' ∉ rest)
    (hMem : '>' ∈ opened) : between (opened ++ '<' :: rest) = [] := by
  obtain ⟨front, back, rfl, hBack⟩ := exists_last_of_mem hMem
  have hFront : (front ++ '>' :: back) ++ '<' :: rest = front ++ '>' :: (back ++ '<' :: rest) := by
    simp
  have hLater : '>' ∉ back ++ '<' :: rest := by simp [hBack, hRest]
  rw [between, takeWhile_ne_append hOpened, hFront, reverse_drop_dropWhile_ne hLater]
  apply List.drop_eq_nil_of_le
  simp only [List.length_append]
  omega

theorem mem_typeNames_of_isArgument {piece : List Char} (hPiece : IsArgument (bareType type) piece) :
    String.ofList (trim piece) ∈ Tier.typeNames type := by
  obtain ⟨opened, inner, closed, hType, hOpened, hClosed, hMem⟩ := hPiece
  rw [typeNames_eq, hType, if_pos (by simp), between_eq hOpened hClosed]
  exact List.mem_cons_of_mem _ (List.mem_map.2 ⟨piece, hMem, rfl⟩)

theorem ClassSymbol.StandsFor.mem_typeNames {caller : ClassSymbol} {receiver : String}
    {field : FieldSymbol} (hStands : caller.StandsFor receiver name)
    (hField : caller.field? receiver = some field) :
    name = receiver ∨ name ∈ Tier.typeNames field.type := by
  cases hStands with
  | itself => exact .inl rfl
  | fieldType hOther =>
    cases hField.symm.trans hOther
    rw [typeNames_eq]
    exact .inr List.mem_cons_self
  | argument hOther hPiece =>
    cases hField.symm.trans hOther
    exact .inr (mem_typeNames_of_isArgument hPiece)

/-- A type stands for its own text and its arguments; a type with the brackets the wrong way round
also for the empty name, which no class is found by. -/
theorem isArgument_of_mem_typeNames (hName : name ∈ Tier.typeNames type) :
    name = "" ∨ name = String.ofList (bareType type) ∨
      ∃ piece, IsArgument (bareType type) piece ∧ name = String.ofList (trim piece) := by
  rw [typeNames_eq] at hName
  rcases List.mem_cons.1 hName with hBare | hMore
  · exact .inr (.inl hBare)
  split at hMore
  · rename_i hBoth
    obtain ⟨piece, hPiece, rfl⟩ := List.mem_map.1 hMore
    obtain ⟨opened, rest, hType, hOpened⟩ := List.eq_append_cons_of_mem hBoth.1
    by_cases hRest : '>' ∈ rest
    · obtain ⟨inner, closed, rfl, hClosed⟩ := exists_last_of_mem hRest
      rw [hType, between_eq hOpened hClosed] at hPiece
      exact .inr (.inr ⟨piece, ⟨opened, inner, closed, hType, hOpened, hClosed, hPiece⟩, rfl⟩)
    · have hMem : '>' ∈ opened := by simpa [hType, hRest] using hBoth.2
      rw [hType, between_eq_nil hOpened hRest hMem, List.splitOn_nil, List.mem_singleton] at hPiece
      subst hPiece
      exact .inl rfl
  · cases hMore

end TypeNames

namespace SymbolTable

section Insertion
variable {before later : List ClassSymbol} {extra : ClassSymbol}

theorem surviving?_insert {name : String} (hName : extra.qualifiedName ≠ name) :
    surviving? (before ++ extra :: later) name = surviving? (before ++ later) name := by
  simp [surviving?, List.find?_append, hName]

theorem survives_iff_surviving? {descriptions : List ClassSymbol} {c : ClassSymbol} :
    Survives descriptions c ↔ surviving? descriptions c.qualifiedName = some c := by
  rw [surviving?_eq_some_iff]
  exact (and_iff_right rfl).symm

theorem survives_insert_iff {c : ClassSymbol} (hName : extra.qualifiedName ≠ c.qualifiedName) :
    Survives (before ++ extra :: later) c ↔ Survives (before ++ later) c := by
  rw [survives_iff_surviving?, surviving?_insert hName, ← survives_iff_surviving?]

variable (hFresh : ∀ c ∈ before ++ later, c.qualifiedName ≠ extra.qualifiedName)
include hFresh

theorem survives_insert : Survives (before ++ extra :: later) extra := by
  refine ⟨before, later, rfl, ?_⟩
  intro other hOther
  exact hFresh other (List.mem_append_right before hOther)

theorem ne_of_survives {c : ClassSymbol} (hClass : Survives (before ++ later) c) :
    extra.qualifiedName ≠ c.qualifiedName := by
  obtain ⟨front, back, hSplit, _⟩ := hClass
  have hMem : c ∈ before ++ later := by simp [hSplit]
  exact (hFresh c hMem).symm

/-- A class with a new name takes its place between the others and moves none of them. -/
theorem exists_classes_insert : ∃ front back,
    (ofClasses (before ++ later)).classes = front ++ back ∧
      (ofClasses (before ++ extra :: later)).classes = front ++ extra :: back := by
  obtain ⟨front, back, hLarge⟩ :=
    List.append_of_mem (mem_classes_iff.2 (survives_insert hFresh))
  have hSorted := classes_sorted (before ++ extra :: later)
  refine ⟨front, back, ?_, hLarge⟩
  rw [hLarge] at hSorted
  have hRest : (front ++ back).Sublist (front ++ extra :: back) :=
    (List.sublist_cons_self extra back).append_left front
  -- both lists are in the strict order of the names, so their members decide
  refine eq_of_key_sorted (·.qualifiedName) (classes_sorted _) (hSorted.sublist hRest) ?_
  intro c
  have hMem : c ∈ front ++ extra :: back ↔ Survives (before ++ extra :: later) c := by
    rw [← hLarge, mem_classes_iff]
  rw [mem_classes_iff]
  constructor
  · intro hClass
    have hName := ne_of_survives hFresh hClass
    have hLargeMem := hMem.2 ((survives_insert_iff hName).2 hClass)
    have hOther : c ≠ extra := fun hSame => hName (by rw [hSame])
    simpa [hOther] using hLargeMem
  · intro hClass
    obtain ⟨_, hBack, hFront⟩ := List.pairwise_append.1 hSorted
    have hName : extra.qualifiedName ≠ c.qualifiedName := by
      rcases List.mem_append.1 hClass with hClass | hClass
      · exact (hFront c hClass extra List.mem_cons_self).ne'
      · exact ((List.pairwise_cons.1 hBack).1 c hClass).ne
    exact (survives_insert_iff hName).1 (hMem.1 (hRest.mem hClass))

theorem find?_insert {test : ClassSymbol → Bool} (hExtra : test extra = false) :
    (ofClasses (before ++ extra :: later)).classes.find? test =
      (ofClasses (before ++ later)).classes.find? test := by
  obtain ⟨front, back, hSmall, hLarge⟩ := exists_classes_insert hFresh
  simp [hSmall, hLarge, List.find?_append, hExtra]

theorem named?_insert {name : String} (hName : extra.name ≠ name)
    (hQualified : extra.qualifiedName ≠ name) :
    (ofClasses (before ++ extra :: later)).named? name =
      (ofClasses (before ++ later)).named? name := by
  rw [named?, named?, get?, get?, find?_insert hFresh (by simpa using hQualified),
    find?_insert hFresh (by simpa using hName)]

theorem declaring?_insert {method : String} (hMethod : extra.hasMethod method = false) :
    (ofClasses (before ++ extra :: later)).declaring? method =
      (ofClasses (before ++ later)).declaring? method :=
  find?_insert hFresh hMethod

end Insertion

section Footprint
variable {table other : SymbolTable} {caller : ClassSymbol} {target : CallTarget}

/-- A tier asks a table for the classes that declare the method and for the names that the receiver
stands for, and for nothing else. -/
theorem resolve?_congr (tier : Tier)
    (hMethod : table.declaring? target.method = other.declaring? target.method)
    (hNames : ∀ receiver, target.receiver = some receiver → ∀ name, caller.StandsFor receiver name →
      table.named? name = other.named? name) :
    tier.resolve? target caller table = tier.resolve? target caller other := by
  cases tier <;> cases hReceiver : target.receiver <;> simp only [Tier.resolve?, hReceiver]
  case declaringClass.none => exact hMethod
  case receiverClass.some receiver => exact hNames receiver hReceiver receiver .itself
  case methodName.some => exact hMethod
  case receiverField.some receiver =>
    cases hField : caller.field? receiver with
    | none => rw [Option.bind_none, Option.bind_none]
    | some field =>
      rw [Option.bind_some, Option.bind_some, ← List.head?_filterMap, ← List.head?_filterMap]
      refine congrArg List.head? (List.filterMap_congr ?_)
      intro name hName
      rcases isArgument_of_mem_typeNames hName with rfl | rfl | ⟨piece, hPiece, rfl⟩
      · simp [named?]
      · exact hNames receiver hReceiver _ (.fieldType hField)
      · exact hNames receiver hReceiver _ (.argument hField hPiece)

end Footprint

/-- A further class that declares no method of the name called and is not called by a name that the
receiver stands for leaves every call as it is resolved; and a call is resolved to a class of the
table, with the further class and without it. -/
theorem call_resolution_local {before later : List ClassSymbol} {extra caller : ClassSymbol}
    (hCaller : caller ∈ (ofClasses (before ++ later)).classes)
    (hFresh : ∀ c ∈ before ++ later, c.qualifiedName ≠ extra.qualifiedName)
    (tiers : List Tier) (target : String) :
    (extra.hasMethod (CallTarget.ofString target).method = false →
      (∀ receiver, (CallTarget.ofString target).receiver = some receiver →
        ∀ name, caller.StandsFor receiver name →
          extra.name ≠ name ∧ extra.qualifiedName ≠ name) →
      (ofClasses (before ++ extra :: later)).receiver? tiers caller target =
        (ofClasses (before ++ later)).receiver? tiers caller target) ∧
    (∀ c, (ofClasses (before ++ later)).receiver? tiers caller target = some c →
      c ∈ (ofClasses (before ++ later)).classes) ∧
    (∀ c, (ofClasses (before ++ extra :: later)).receiver? tiers caller target = some c →
      c ∈ (ofClasses (before ++ extra :: later)).classes) := by
  refine ⟨?_, ?_, ?_⟩
  · intro hMethod hNames
    refine congrArg tiers.findSome? (funext fun tier => ?_)
    apply resolve?_congr tier (declaring?_insert hFresh hMethod)
    intro receiver hReceiver name hStands
    obtain ⟨hName, hQualified⟩ := hNames receiver hReceiver name hStands
    exact named?_insert hFresh hName hQualified
  · intro c hFound
    exact mem_of_receiver? hCaller hFound
  · intro c hFound
    have hClass := mem_classes_iff.1 hCaller
    have hStays := (survives_insert_iff (ne_of_survives hFresh hClass)).2 hClass
    exact mem_of_receiver? (mem_classes_iff.2 hStays) hFound

theorem call_resolution_local_argument :
    let held : FieldSymbol := .ofType "held" "Holder<Key?, Service>?" 2
    let screen : ClassSymbol :=
      { name := "Screen"
        qualifiedName := "app.Screen"
        filePath := "Screen.kt"
        packageName := "app"
        methods := [{ name := "run", qualifiedName := "app.Screen.run", returnType := "Unit" }]
        fields := [held] }
    let service : ClassSymbol :=
      { name := "Service"
        qualifiedName := "app.Service"
        filePath := "Service.kt"
        packageName := "app"
        methods := [{ name := "run", qualifiedName := "app.Service.run", returnType := "Unit" }] }
    let alarm : ClassSymbol :=
      { name := "Alarm"
        qualifiedName := "app.Alarm"
        filePath := "Alarm.kt"
        packageName := "app"
        methods := [{ name := "ring", qualifiedName := "app.Alarm.ring", returnType := "Unit" }]
        fields := [.ofType "held" "Service" 2] }
    screen ∈ (ofClasses ([screen] ++ [service])).classes ∧
      (ofClasses ([screen] ++ alarm :: [service])).receiver? Tier.all screen "held.run" =
        (ofClasses ([screen] ++ [service])).receiver? Tier.all screen "held.run" ∧
      (ofClasses ([screen] ++ [service])).receiver? Tier.all screen "held.run" = some service := by
  intro held screen service alarm
  have hNames : names ([screen] ++ [service]) = ["app.Screen", "app.Service"] :=
    List.mergeSort_of_pairwise (by decide +kernel)
  have hCaller : screen ∈ (ofClasses ([screen] ++ [service])).classes := by
    rewrite [ofClasses, hNames]
    decide +kernel
  have hFresh : ∀ c ∈ [screen] ++ [service], c.qualifiedName ≠ alarm.qualifiedName := by
    decide +kernel
  refine ⟨hCaller, (call_resolution_local hCaller hFresh Tier.all "held.run").1 ?_ ?_, ?_⟩
  · decide +kernel
  · intro receiver hReceiver name hStands
    obtain rfl : "held" = receiver := by
      have hHeld : (CallTarget.ofString "held.run").receiver = some "held" := by decide +kernel
      exact Option.some.inj (hHeld.symm.trans hReceiver)
    have hField : screen.field? "held" = some held := by decide +kernel
    have hApart : ∀ name ∈ "held" :: Tier.typeNames held.type,
        alarm.name ≠ name ∧ alarm.qualifiedName ≠ name := by decide +kernel
    exact hApart name (List.mem_cons.2 (hStands.mem_typeNames hField))
  · rewrite [ofClasses, hNames]
    decide +kernel

end SymbolTable
end SensorFlow

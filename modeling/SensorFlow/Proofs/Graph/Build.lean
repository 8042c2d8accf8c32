import SensorFlow.Graph.Build
import SensorFlow.Proofs.Symbol.Table

/-!
# The accounts of a graph

Every node and every edge of a built graph is accounted for: the nodes by the classes that survive,
their sensors by the entry points, and the edges by call sites and reactive fields. Edges are
counted on links first, where classes are known by name; the names of nodes keep them apart.
-/
namespace SensorFlow
set_option autoImplicit false

section Lists
variable {α β γ : Type}

theorem filter_mapIdx (f : Nat → α → β) (p : β → Bool) (q : α → Bool) (h : β → γ) (k : α → γ)
    (items : List α) (hKeep : ∀ pos, ∀ item ∈ items, p (f pos item) = q item)
    (hShow : ∀ pos item, h (f pos item) = k item) :
    ((items.mapIdx f).filter p).map h = (items.filter q).map k := by
  induction items generalizing f with
  | nil => rfl
  | cons item items ih =>
    have hRest := ih (fun pos => f (pos + 1))
      (fun pos other hOther => hKeep (pos + 1) other (List.mem_cons_of_mem item hOther))
      (fun pos other => hShow (pos + 1) other)
    have hHead := hKeep 0 item List.mem_cons_self
    rw [List.mapIdx_cons]
    cases hQ : q item with
    | true =>
      rw [List.filter_cons_of_pos (by rw [hHead, hQ]), List.filter_cons_of_pos hQ, List.map_cons,
        List.map_cons, hShow, hRest]
    | false =>
      rw [List.filter_cons_of_neg (by rw [hHead, hQ]; exact Bool.false_ne_true),
        List.filter_cons_of_neg (by rw [hQ]; exact Bool.false_ne_true), hRest]

theorem countP_mapIdx (f : Nat → α → β) (p : β → Bool) (q : α → Bool) (items : List α)
    (hKeep : ∀ pos, ∀ item ∈ items, p (f pos item) = q item) :
    (items.mapIdx f).countP p = items.countP q := by
  have hFilter := filter_mapIdx f p q (fun _ => ()) (fun _ => ()) items hKeep fun _ _ => rfl
  rw [List.countP_eq_length_filter, List.countP_eq_length_filter]
  simpa using congrArg List.length hFilter

theorem flatMap_eq_of_nodup {items : List α} {item : α} {f : α → List β} (hNodup : items.Nodup)
    (hMem : item ∈ items) (hOther : ∀ other ∈ items, other ≠ item → f other = []) :
    items.flatMap f = f item := by
  obtain ⟨before, later, rfl⟩ := List.append_of_mem hMem
  have hApart := List.nodup_append.1 hNodup
  have hBefore : before.flatMap f = [] := by
    refine List.flatMap_eq_nil_iff.2 ?_
    intro other hBefore
    exact hOther other (by simp [hBefore]) (hApart.2.2 other hBefore item (by simp))
  have hLater : later.flatMap f = [] := by
    refine List.flatMap_eq_nil_iff.2 ?_
    intro other hLater
    refine hOther other (by simp [hLater]) ?_
    rintro rfl
    exact (List.nodup_cons.1 hApart.2.1).1 hLater
  rw [List.flatMap_append, List.flatMap_cons, hBefore, hLater, List.nil_append, List.append_nil]

theorem flatMap_ite_singleton (p : α → Prop) [DecidablePred p] (f : α → β) (items : List α) :
    (items.flatMap fun item => if p item then [f item] else []) = (items.filter p).map f := by
  induction items with
  | nil => rfl
  | cons item items ih =>
    rw [List.flatMap_cons, ih]
    by_cases h : p item
    · simp [h]
    · simp [h]

end Lists

/-- The calls of a class with the methods that make them. -/
def ClassSymbol.callSites (c : ClassSymbol) : List (MethodSymbol × String) :=
  c.methods.flatMap fun method => method.calls.map fun call => (method, call)

namespace SymbolTable

section Nodes
variable {descriptions : List ClassSymbol}

theorem classes_nodup (descriptions : List ClassSymbol) : (ofClasses descriptions).classes.Nodup :=
  (classes_sorted descriptions).imp fun hLess hSame => by simp [hSame] at hLess

theorem nodeId_inj {a b : ClassSymbol} (hA : a ∈ (ofClasses descriptions).classes)
    (hB : b ∈ (ofClasses descriptions).classes) :
    (ofClasses descriptions).nodeId a.qualifiedName =
      (ofClasses descriptions).nodeId b.qualifiedName ↔ a.qualifiedName = b.qualifiedName := by
  constructor
  · intro hSame
    have hPos : (ofClasses descriptions).classes.findIdx (·.qualifiedName == a.qualifiedName) =
        (ofClasses descriptions).classes.findIdx (·.qualifiedName == b.qualifiedName) := by
      apply repr_inj
      simpa [nodeId] using hSame
    have hFoundA : (ofClasses descriptions).classes.findIdx
        (·.qualifiedName == a.qualifiedName) < (ofClasses descriptions).classes.length :=
      List.findIdx_lt_length_of_exists ⟨a, hA, by simp⟩
    have hFoundB : (ofClasses descriptions).classes.findIdx
        (·.qualifiedName == b.qualifiedName) < (ofClasses descriptions).classes.length :=
      List.findIdx_lt_length_of_exists ⟨b, hB, by simp⟩
    have hAt := List.findIdx_getElem (w := hFoundA)
    have hBt := List.findIdx_getElem (w := hFoundB)
    simp only [beq_iff_eq] at hAt hBt
    rw [← hAt, ← hBt]
    simp only [hPos]
  · intro hSame
    rw [hSame]

theorem nodeId_getElem (pos : Nat) (h : pos < (ofClasses descriptions).classes.length) :
    (ofClasses descriptions).nodeId (ofClasses descriptions).classes[pos].qualifiedName =
      s!"n{pos}" := by
  have hPos : (ofClasses descriptions).classes.findIdx
      (·.qualifiedName == (ofClasses descriptions).classes[pos].qualifiedName) = pos := by
    refine (List.findIdx_eq h).2 ⟨by simp, ?_⟩
    intro earlier hEarlier
    have hLess := List.pairwise_iff_getElem.1 (classes_sorted descriptions) earlier pos
      (hEarlier.trans h) h hEarlier
    simpa using hLess.ne
  rw [nodeId, hPos]

theorem graph_nodes (descriptions : List ClassSymbol) (entries : List EntryPoint) :
    ((ofClasses descriptions).graph entries).nodes =
      (ofClasses descriptions).classes.map fun c =>
        c.toNode ((ofClasses descriptions).nodeId c.qualifiedName)
          (sensorsOf entries c.qualifiedName) := by
  apply List.ext_getElem
  · simp [graph]
  · intro pos hNode hClass
    have hPos : pos < (ofClasses descriptions).classes.length := by simpa using hClass
    simp only [graph, List.getElem_mapIdx, List.getElem_map, nodeId_getElem pos hPos]

end Nodes

section Links
variable {table : SymbolTable}

def located (caller : ClassSymbol) (method : MethodSymbol) (call : String)
    (receiver : ClassSymbol) : Link where
  source := caller.qualifiedName
  target := receiver.qualifiedName
  kind := EdgeKind.ofCall (CallTarget.ofString call).method receiver.name
  location := some { filePath := caller.filePath, line := method.line }

def returned (caller receiver : ClassSymbol) : Link where
  source := receiver.qualifiedName
  target := caller.qualifiedName
  kind := .dataFlow

theorem linksOfCall_cases (table : SymbolTable) (caller : ClassSymbol) (method : MethodSymbol)
    (call : String) :
    (table.linksOfCall caller method call = [] ∧
      ∀ receiver, table.receiver? Tier.all caller call = some receiver →
        receiver.qualifiedName = caller.qualifiedName) ∨
    ∃ receiver, table.receiver? Tier.all caller call = some receiver ∧
      receiver.qualifiedName ≠ caller.qualifiedName ∧
      table.linksOfCall caller method call =
        located caller method call receiver ::
          if (located caller method call receiver).kind.answers then [returned caller receiver]
          else [] := by
  cases hReceiver : table.receiver? Tier.all caller call with
  | none => exact .inl ⟨by simp only [linksOfCall, hReceiver], by simp⟩
  | some receiver =>
    by_cases hSelf : receiver.qualifiedName = caller.qualifiedName
    · refine .inl ⟨by simp [linksOfCall, hReceiver, hSelf], ?_⟩
      intro other hOther
      cases hOther
      exact hSelf
    · refine .inr ⟨receiver, rfl, hSelf, ?_⟩
      by_cases hAnswers : (located caller method call receiver).kind.answers = true
      · rw [if_pos hAnswers]
        simp only [located] at hAnswers
        simp [linksOfCall, hReceiver, hSelf, hAnswers, located, returned]
      · rw [if_neg hAnswers]
        simp only [located] at hAnswers
        simp [linksOfCall, hReceiver, hSelf, hAnswers, located]

theorem ofCall_ne_dataFlow (method className : String) :
    EdgeKind.ofCall method className ≠ .dataFlow := by
  unfold EdgeKind.ofCall
  grind

theorem located_kind_ne_dataFlow (caller : ClassSymbol) (method : MethodSymbol) (call : String)
    (receiver : ClassSymbol) : (located caller method call receiver).kind ≠ .dataFlow := by
  simp only [located]
  exact ofCall_ne_dataFlow (CallTarget.ofString call).method receiver.name

theorem answers_iff {kind : EdgeKind} :
    kind.answers = true ↔ kind = .readsState ∨ kind = .usesSensorData := by
  cases kind <;> simp [EdgeKind.answers]

theorem callLinks_eq (table : SymbolTable) (caller : ClassSymbol) :
    table.callLinks caller =
      caller.callSites.flatMap fun site => table.linksOfCall caller site.1 site.2 := by
  simp [callLinks, ClassSymbol.callSites, List.flatMap_assoc, List.flatMap_map]

theorem mem_stateLinks {owner : ClassSymbol} {link : Link} (h : link ∈ table.stateLinks owner) :
    link.source = owner.qualifiedName ∧ link.kind = .writesState ∧ link.location = none ∧
      ∃ observer ∈ table.classes, observer.qualifiedName = link.target := by
  obtain ⟨_, _, h⟩ := List.mem_flatMap.1 h
  obtain ⟨observer, hObserver, rfl⟩ := List.mem_map.1 h
  exact ⟨rfl, rfl, rfl, observer, (List.mem_filter.1 hObserver).1, rfl⟩

theorem mem_callLinks {caller : ClassSymbol} {link : Link} (hCaller : caller ∈ table.classes)
    (h : link ∈ table.callLinks caller) :
    ∃ receiver ∈ table.classes, receiver.qualifiedName ≠ caller.qualifiedName ∧
      ((link.source = caller.qualifiedName ∧ link.target = receiver.qualifiedName ∧
          link.kind ≠ .dataFlow ∧ link.location.isSome = true) ∨
        (link.source = receiver.qualifiedName ∧ link.target = caller.qualifiedName ∧
          link.kind = .dataFlow ∧ link.location = none)) := by
  rw [callLinks_eq] at h
  obtain ⟨⟨method, call⟩, _, h⟩ := List.mem_flatMap.1 h
  rcases table.linksOfCall_cases caller method call with ⟨hLinks, _⟩ |
    ⟨receiver, hReceiver, hApart, hLinks⟩
  · rw [hLinks] at h
    cases h
  · rw [hLinks] at h
    refine ⟨receiver, mem_of_receiver? hCaller hReceiver, hApart, ?_⟩
    rcases List.mem_cons.1 h with rfl | h
    · exact .inl ⟨rfl, rfl, located_kind_ne_dataFlow caller method call receiver, rfl⟩
    · split at h
      · rw [List.mem_singleton.1 h]
        exact .inr ⟨rfl, rfl, rfl, rfl⟩
      · cases h

theorem mem_links {link : Link} (h : link ∈ table.links) :
    ∃ c ∈ table.classes, link ∈ table.callLinks c ∨ link ∈ table.stateLinks c := by
  obtain ⟨c, hC, h⟩ := List.mem_flatMap.1 h
  exact ⟨c, hC, List.mem_append.1 h⟩

theorem ends_of_mem_links {link : Link} (h : link ∈ table.links) :
    (∃ c ∈ table.classes, c.qualifiedName = link.source) ∧
      ∃ c ∈ table.classes, c.qualifiedName = link.target := by
  obtain ⟨c, hC, hCall | hState⟩ := mem_links h
  · obtain ⟨receiver, hReceiver, _, ⟨hSource, hTarget, _⟩ | ⟨hSource, hTarget, _⟩⟩ :=
      mem_callLinks hC hCall
    · exact ⟨⟨c, hC, hSource.symm⟩, receiver, hReceiver, hTarget.symm⟩
    · exact ⟨⟨receiver, hReceiver, hSource.symm⟩, c, hC, hTarget.symm⟩
  · obtain ⟨hSource, _, _, observer, hObserver, hTarget⟩ := mem_stateLinks hState
    exact ⟨⟨c, hC, hSource.symm⟩, observer, hObserver, hTarget⟩

end Links

section Located
variable {descriptions : List ClassSymbol} {a b : ClassSymbol}

theorem filter_stateLinks_located (table : SymbolTable) (owner a b : ClassSymbol) :
    ((table.stateLinks owner).filter fun link =>
      link.source = a.qualifiedName ∧ link.target = b.qualifiedName ∧
        link.location.isSome = true) = [] := by
  refine List.filter_eq_nil_iff.2 ?_
  intro link hLink
  simp [(mem_stateLinks hLink).2.2.1]

theorem filter_linksOfCall_located (hA : a ∈ (ofClasses descriptions).classes)
    (hB : b ∈ (ofClasses descriptions).classes) (hApart : a.qualifiedName ≠ b.qualifiedName)
    (method : MethodSymbol) (call : String) :
    (((ofClasses descriptions).linksOfCall a method call).filter fun link =>
        link.source = a.qualifiedName ∧ link.target = b.qualifiedName ∧
          link.location.isSome = true) =
      if (ofClasses descriptions).receiver? Tier.all a call = some b then
        [located a method call b]
      else [] := by
  rcases (ofClasses descriptions).linksOfCall_cases a method call with ⟨hLinks, hSelf⟩ |
    ⟨receiver, hReceiver, hOther, hLinks⟩
  · have hNever : (ofClasses descriptions).receiver? Tier.all a call ≠ some b := by
      intro hReceiver
      exact hApart (hSelf b hReceiver).symm
    rw [hLinks, if_neg hNever, List.filter_nil]
  · have hReturned : (if (located a method call receiver).kind.answers then [returned a receiver]
        else []).filter (fun link => link.source = a.qualifiedName ∧
          link.target = b.qualifiedName ∧ link.location.isSome = true) = [] := by
      split <;> simp [returned]
    rw [hLinks]
    by_cases hSame : receiver = b
    · subst hSame
      rw [List.filter_cons_of_pos (by simp [located]), hReturned, if_pos hReceiver]
    · have hName : receiver.qualifiedName ≠ b.qualifiedName := fun hName =>
        hSame (eq_of_qualifiedName_eq (mem_of_receiver? hA hReceiver) hB hName)
      have hNever : (ofClasses descriptions).receiver? Tier.all a call ≠ some b := by
        rw [hReceiver]
        simpa using hSame
      rw [List.filter_cons_of_neg (by simp [located, hName]), hReturned, if_neg hNever]

theorem filter_links_located (hA : a ∈ (ofClasses descriptions).classes)
    (hB : b ∈ (ofClasses descriptions).classes) (hApart : a.qualifiedName ≠ b.qualifiedName) :
    ((ofClasses descriptions).links.filter fun link =>
        link.source = a.qualifiedName ∧ link.target = b.qualifiedName ∧
          link.location.isSome = true) =
      (a.callSites.filter fun site =>
          (ofClasses descriptions).receiver? Tier.all a site.2 = some b).map fun site =>
        located a site.1 site.2 b := by
  rw [links, List.filter_flatMap, flatMap_eq_of_nodup (classes_nodup descriptions) hA,
    List.filter_append, filter_stateLinks_located, List.append_nil, callLinks_eq,
    List.filter_flatMap, ← flatMap_ite_singleton]
  · refine List.flatMap_congr ?_
    rintro ⟨method, call⟩ _
    exact filter_linksOfCall_located hA hB hApart method call
  · -- no other class has a located link that leaves `a`
    intro caller hCaller hOther
    rw [List.filter_append, filter_stateLinks_located, List.append_nil]
    refine List.filter_eq_nil_iff.2 ?_
    intro link hLink
    obtain ⟨_, _, _, ⟨hSource, _⟩ | ⟨_, _, _, hLocation⟩⟩ := mem_callLinks hCaller hLink
    · have hName : caller.qualifiedName ≠ a.qualifiedName := fun hName =>
        hOther (eq_of_qualifiedName_eq hCaller hA hName)
      simp [hSource, hName]
    · simp [hLocation]

end Located

section State
variable {descriptions : List ClassSymbol} {a b : ClassSymbol}

theorem filter_callLinks_state {table : SymbolTable} {caller : ClassSymbol}
    (hCaller : caller ∈ table.classes) (a b : ClassSymbol) :
    ((table.callLinks caller).filter fun link =>
      link.source = a.qualifiedName ∧ link.target = b.qualifiedName ∧
        link.kind = .writesState ∧ link.location = none) = [] := by
  refine List.filter_eq_nil_iff.2 ?_
  intro link hLink
  obtain ⟨_, _, _, ⟨_, _, _, hLocation⟩ | ⟨_, _, hKind, _⟩⟩ := mem_callLinks hCaller hLink
  · cases hNone : link.location with
    | none => simp [hNone] at hLocation
    | some _ => simp
  · simp [hKind]

theorem countP_observers (hB : b ∈ (ofClasses descriptions).classes) :
    ((ofClasses descriptions).observers.countP fun observer =>
      observer.qualifiedName = b.qualifiedName) = if b.observesState then 1 else 0 := by
  have hOnly : ∀ c ∈ (ofClasses descriptions).classes,
      (decide (c.qualifiedName = b.qualifiedName) && c.observesState) =
        (c == b && b.observesState) := by
    intro c hC
    by_cases hSame : c = b
    · simp [hSame]
    · have hName : c.qualifiedName ≠ b.qualifiedName := fun hName =>
        hSame (eq_of_qualifiedName_eq hC hB hName)
      simp [hSame, hName]
  calc
    _ = (ofClasses descriptions).classes.countP fun c =>
        decide (c.qualifiedName = b.qualifiedName) && c.observesState := List.countP_filter
    _ = (ofClasses descriptions).classes.countP fun c => c == b && b.observesState :=
        List.countP_congr fun c hC => by rw [hOnly c hC]
    _ = if b.observesState then 1 else 0 := by
        have hOnce := List.count_eq_one_of_mem (classes_nodup descriptions) hB
        rw [List.count] at hOnce
        cases b.observesState
        · simp
        · simpa using hOnce

theorem countP_stateLinks (a : ClassSymbol) (hB : b ∈ (ofClasses descriptions).classes) :
    (((ofClasses descriptions).stateLinks a).countP fun link =>
        link.source = a.qualifiedName ∧ link.target = b.qualifiedName ∧
          link.kind = .writesState ∧ link.location = none) =
      if b.observesState then a.reactiveFields.length else 0 := by
  have hField : (((ofClasses descriptions).observers.map fun observer =>
      ({ source := a.qualifiedName
         target := observer.qualifiedName
         kind := .writesState } : Link)).countP fun link =>
        link.source = a.qualifiedName ∧ link.target = b.qualifiedName ∧
          link.kind = .writesState ∧ link.location = none) =
      if b.observesState then 1 else 0 := by
    rw [List.countP_map, ← countP_observers hB]
    exact List.countP_congr fun observer _ => by simp
  rw [stateLinks, List.countP_flatMap]
  simp only [Function.comp_def, hField]
  cases b.observesState <;> simp

theorem countP_links_state (hA : a ∈ (ofClasses descriptions).classes)
    (hB : b ∈ (ofClasses descriptions).classes) :
    ((ofClasses descriptions).links.countP fun link =>
        link.source = a.qualifiedName ∧ link.target = b.qualifiedName ∧
          link.kind = .writesState ∧ link.location = none) =
      if b.observesState then a.reactiveFields.length else 0 := by
  rw [List.countP_eq_length_filter, links, List.filter_flatMap,
    flatMap_eq_of_nodup (classes_nodup descriptions) hA, List.filter_append,
    filter_callLinks_state hA, List.nil_append, ← List.countP_eq_length_filter,
    countP_stateLinks a hB]
  intro owner hOwner hOther
  rw [List.filter_append, filter_callLinks_state hOwner, List.nil_append]
  refine List.filter_eq_nil_iff.2 ?_
  intro link hLink
  have hName : owner.qualifiedName ≠ a.qualifiedName := fun hName =>
    hOther (eq_of_qualifiedName_eq hOwner hA hName)
  simp [(mem_stateLinks hLink).1, hName]

end State

section Returned
variable (table : SymbolTable) (a b : ClassSymbol)

theorem countP_linksOfCall_returned (caller : ClassSymbol) (method : MethodSymbol)
    (call : String) :
    ((table.linksOfCall caller method call).countP fun link =>
        link.source = b.qualifiedName ∧ link.target = a.qualifiedName ∧ link.kind = .dataFlow) =
      (table.linksOfCall caller method call).countP fun link =>
        link.source = a.qualifiedName ∧ link.target = b.qualifiedName ∧
          link.location.isSome = true ∧ (link.kind = .readsState ∨ link.kind = .usesSensorData) := by
  rcases table.linksOfCall_cases caller method call with ⟨hLinks, _⟩ | ⟨receiver, _, _, hLinks⟩
  · rw [hLinks, List.countP_nil, List.countP_nil]
  · -- the kind stays opaque: only whether it asks for data matters
    have hKind := located_kind_ne_dataFlow caller method call receiver
    have hSource : (located caller method call receiver).source = caller.qualifiedName := rfl
    have hTarget : (located caller method call receiver).target = receiver.qualifiedName := rfl
    have hPlace : (located caller method call receiver).location.isSome = true := rfl
    rw [hLinks, List.countP_cons, List.countP_cons]
    by_cases hAnswers : (located caller method call receiver).kind.answers = true
    · rw [if_pos hAnswers]
      rw [answers_iff] at hAnswers
      simp [hKind, hAnswers, hSource, hTarget, hPlace, returned, List.countP_cons, and_comm]
    · rw [if_neg hAnswers]
      rw [answers_iff] at hAnswers
      simp [hKind, hAnswers]

theorem countP_links_returned :
    (table.links.countP fun link =>
        link.source = b.qualifiedName ∧ link.target = a.qualifiedName ∧ link.kind = .dataFlow) =
      table.links.countP fun link =>
        link.source = a.qualifiedName ∧ link.target = b.qualifiedName ∧
          link.location.isSome = true ∧ (link.kind = .readsState ∨ link.kind = .usesSensorData) := by
  have hState (owner : ClassSymbol) :
      ((table.stateLinks owner).countP fun link =>
        link.source = b.qualifiedName ∧ link.target = a.qualifiedName ∧ link.kind = .dataFlow) =
      (table.stateLinks owner).countP fun link =>
        link.source = a.qualifiedName ∧ link.target = b.qualifiedName ∧
          link.location.isSome = true ∧
            (link.kind = .readsState ∨ link.kind = .usesSensorData) := by
    refine List.countP_congr ?_
    intro link hLink
    obtain ⟨_, hKind, _⟩ := mem_stateLinks hLink
    simp [hKind]
  rw [links, List.countP_flatMap, List.countP_flatMap]
  refine congrArg List.sum (List.map_congr_left ?_)
  intro c _
  simp only [Function.comp_apply]
  rw [List.countP_append, List.countP_append, hState, callLinks_eq, List.countP_flatMap,
    List.countP_flatMap]
  simp only [Function.comp_def, countP_linksOfCall_returned table a b]

end Returned
end SymbolTable

section Sensors
variable {entries : List EntryPoint} {className : String}

/-- The sensors that entry points give to a class, in their order. -/
def mentions (entries : List EntryPoint) (className : String) : List Sensor :=
  (entries.filter (·.className == className)).map (·.sensor)

theorem mem_sensorsOf {sensor : Sensor} :
    sensor ∈ sensorsOf entries className ↔ sensor ∈ mentions entries className :=
  List.mem_eraseDups

theorem sensorsOf_ne_nil_iff :
    sensorsOf entries className ≠ [] ↔ ∃ entry ∈ entries, entry.className = className := by
  constructor
  · intro hSome
    obtain ⟨sensor, hSensor⟩ := List.exists_mem_of_ne_nil _ hSome
    obtain ⟨entry, hEntry, _⟩ := List.mem_map.1 (mem_sensorsOf.1 hSensor)
    exact ⟨entry, (List.mem_filter.1 hEntry).1, by simpa using (List.mem_filter.1 hEntry).2⟩
  · rintro ⟨entry, hEntry, hName⟩
    refine List.ne_nil_of_mem (mem_sensorsOf.2 (List.mem_map.2 ⟨entry, ?_, rfl⟩))
    exact List.mem_filter.2 ⟨hEntry, by simpa using hName⟩

theorem nodeRole_eq_sensorSource_iff (c : ClassSymbol) (isSource : Bool) :
    c.nodeRole isSource = .sensorSource ↔ isSource = true := by
  unfold ClassSymbol.nodeRole
  grind

end Sensors

namespace Graph

structure StandsFor (g : Graph) (descriptions : List ClassSymbol) (node : Node)
    (c : ClassSymbol) : Prop where
  mem : node ∈ g.nodes
  survives : SymbolTable.Survives descriptions c
  name : node.qualifiedName = c.qualifiedName

/-- Everything in the graph is accounted for by class descriptions and entry points. Between two
nodes there is an edge with a location for each call site that resolves to the other class, one for
each reactive field to a class that observes state, and one back for each edge that reads. -/
structure Accounts (g : Graph) (descriptions : List ClassSymbol) (entries : List EntryPoint) :
    Prop where
  ids : (g.nodes.map (·.id)).Nodup
  names : ∀ name, name ∈ g.nodes.map (·.qualifiedName) ↔ name ∈ descriptions.map (·.qualifiedName)
  sorted : (g.nodes.map (·.qualifiedName)).Pairwise (· < ·)
  described : ∀ node ∈ g.nodes, ∃ c, g.StandsFor descriptions node c
  source_iff : ∀ node ∈ g.nodes, node.role = .sensorSource ↔ node.sensors ≠ []
  sensors_iff : ∀ node ∈ g.nodes,
    node.sensors ≠ [] ↔ ∃ entry ∈ entries, entry.className = node.qualifiedName
  sensors : ∀ node ∈ g.nodes, ∀ sensor,
    sensor ∈ node.sensors ↔ sensor ∈ mentions entries node.qualifiedName
  first_mention : ∀ node ∈ g.nodes, node.sensors.Pairwise fun s t =>
    (mentions entries node.qualifiedName).idxOf s < (mentions entries node.qualifiedName).idxOf t
  ends : ∀ edge ∈ g.edges,
    (∃ node ∈ g.nodes, node.id = edge.source) ∧ ∃ node ∈ g.nodes, node.id = edge.target
  kinds : ∀ edge ∈ g.edges,
    (edge.location.isSome = true ∧ edge.source ≠ edge.target ∧ edge.kind ≠ .dataFlow) ∨
      (edge.location = none ∧ (edge.kind = .writesState ∨ edge.kind = .dataFlow))
  located : ∀ {m n : Node} {a b : ClassSymbol}, g.StandsFor descriptions m a →
    g.StandsFor descriptions n b → a.qualifiedName ≠ b.qualifiedName →
    ((g.edges.filter fun edge =>
        edge.source = m.id ∧ edge.target = n.id ∧ edge.location.isSome = true).map fun edge =>
      (edge.kind, edge.location)) =
    (a.callSites.filter fun site =>
        (SymbolTable.ofClasses descriptions).receiver? Tier.all a site.2 = some b).map fun site =>
      (EdgeKind.ofCall (CallTarget.ofString site.2).method b.name,
        some { filePath := a.filePath, line := site.1.line })
  state : ∀ {m n : Node} {a b : ClassSymbol}, g.StandsFor descriptions m a →
    g.StandsFor descriptions n b →
    (g.edges.countP fun edge =>
      edge.source = m.id ∧ edge.target = n.id ∧ edge.kind = .writesState ∧ edge.location = none) =
    if b.isActivity || b.isFragment || b.isComposable || b.isViewModel then
      (a.fields.filter (·.isReactive)).length
    else 0
  returned : ∀ {m n : Node} {a b : ClassSymbol}, g.StandsFor descriptions m a →
    g.StandsFor descriptions n b →
    (g.edges.countP fun edge =>
      edge.source = n.id ∧ edge.target = m.id ∧ edge.kind = .dataFlow) =
    g.edges.countP fun edge =>
      edge.source = m.id ∧ edge.target = n.id ∧ edge.location.isSome = true ∧
        (edge.kind = .readsState ∨ edge.kind = .usesSensorData)

end Graph

section Assembly
variable {descriptions : List ClassSymbol} {entries : List EntryPoint}
open SymbolTable

theorem exists_class_of_mem_nodes {node : Node}
    (h : node ∈ ((ofClasses descriptions).graph entries).nodes) :
    ∃ c ∈ (ofClasses descriptions).classes,
      node = c.toNode ((ofClasses descriptions).nodeId c.qualifiedName)
        (sensorsOf entries c.qualifiedName) := by
  rw [graph_nodes] at h
  obtain ⟨c, hC, hNode⟩ := List.mem_map.1 h
  exact ⟨c, hC, hNode.symm⟩

theorem exists_node_of_mem_classes {c : ClassSymbol} (h : c ∈ (ofClasses descriptions).classes) :
    ∃ node ∈ ((ofClasses descriptions).graph entries).nodes,
      node.id = (ofClasses descriptions).nodeId c.qualifiedName := by
  rw [graph_nodes]
  exact ⟨_, List.mem_map.2 ⟨c, h, rfl⟩, rfl⟩

theorem Graph.StandsFor.mem_classes {node : Node} {c : ClassSymbol}
    (h : ((ofClasses descriptions).graph entries).StandsFor descriptions node c) :
    c ∈ (ofClasses descriptions).classes :=
  mem_classes_iff.2 h.survives

theorem Graph.StandsFor.id_eq {node : Node} {c : ClassSymbol}
    (h : ((ofClasses descriptions).graph entries).StandsFor descriptions node c) :
    node.id = (ofClasses descriptions).nodeId c.qualifiedName := by
  obtain ⟨other, _, hNode⟩ := exists_class_of_mem_nodes h.mem
  have hName : other.qualifiedName = c.qualifiedName := by
    rw [← h.name, hNode]
    rfl
  rw [hNode, ← hName]
  rfl

theorem exists_link_of_mem_edges {edge : Edge}
    (h : edge ∈ ((ofClasses descriptions).graph entries).edges) :
    ∃ link ∈ (ofClasses descriptions).links,
      edge.source = (ofClasses descriptions).nodeId link.source ∧
        edge.target = (ofClasses descriptions).nodeId link.target ∧
          edge.kind = link.kind ∧ edge.location = link.location := by
  obtain ⟨pos, hPos, rfl⟩ := List.mem_mapIdx.1 h
  exact ⟨_, List.getElem_mem hPos, rfl, rfl, rfl, rfl⟩

theorem joins_iff {m n : Node} {a b : ClassSymbol}
    (hM : ((ofClasses descriptions).graph entries).StandsFor descriptions m a)
    (hN : ((ofClasses descriptions).graph entries).StandsFor descriptions n b) {link : Link}
    (hLink : link ∈ (ofClasses descriptions).links) :
    ((ofClasses descriptions).nodeId link.source = m.id ↔ link.source = a.qualifiedName) ∧
      ((ofClasses descriptions).nodeId link.target = n.id ↔ link.target = b.qualifiedName) := by
  obtain ⟨⟨source, hSource, hSourceName⟩, target, hTarget, hTargetName⟩ := ends_of_mem_links hLink
  rw [hM.id_eq, hN.id_eq, ← hSourceName, ← hTargetName]
  exact ⟨nodeId_inj hSource hM.mem_classes, nodeId_inj hTarget hN.mem_classes⟩

theorem graph_names (descriptions : List ClassSymbol) (entries : List EntryPoint) :
    ((ofClasses descriptions).graph entries).nodes.map (·.qualifiedName) =
      SymbolTable.names descriptions := by
  rw [graph_nodes, List.map_map]
  exact map_qualifiedName_classes descriptions

theorem graph_ids_nodup (descriptions : List ClassSymbol) (entries : List EntryPoint) :
    (((ofClasses descriptions).graph entries).nodes.map (·.id)).Nodup := by
  rw [graph_nodes, List.map_map]
  refine List.pairwise_map.2 ((classes_sorted descriptions).imp_of_mem ?_)
  intro a b hA hB hLess hSame
  exact hLess.ne ((nodeId_inj hA hB).1 hSame)

theorem edge_cases {edge : Edge} (h : edge ∈ ((ofClasses descriptions).graph entries).edges) :
    (edge.location.isSome = true ∧ edge.source ≠ edge.target ∧ edge.kind ≠ .dataFlow) ∨
      (edge.location = none ∧ (edge.kind = .writesState ∨ edge.kind = .dataFlow)) := by
  obtain ⟨link, hLink, hSource, hTarget, hKind, hLocation⟩ := exists_link_of_mem_edges h
  rw [hSource, hTarget, hKind, hLocation]
  obtain ⟨c, hC, hCall | hState⟩ := mem_links hLink
  · obtain ⟨receiver, hReceiver, hApart, hCases⟩ := mem_callLinks hC hCall
    rcases hCases with ⟨hFrom, hTo, hNotBack, hPlace⟩ | ⟨_, _, hBack, hPlace⟩
    · refine .inl ⟨hPlace, ?_, hNotBack⟩
      rw [hFrom, hTo]
      exact fun hSame => hApart ((nodeId_inj hC hReceiver).1 hSame).symm
    · exact .inr ⟨hPlace, .inr hBack⟩
  · obtain ⟨_, hWrites, hPlace, _⟩ := mem_stateLinks hState
    exact .inr ⟨hPlace, .inl hWrites⟩

theorem filter_edges_located {m n : Node} {a b : ClassSymbol}
    (hM : ((ofClasses descriptions).graph entries).StandsFor descriptions m a)
    (hN : ((ofClasses descriptions).graph entries).StandsFor descriptions n b)
    (hApart : a.qualifiedName ≠ b.qualifiedName) :
    ((((ofClasses descriptions).graph entries).edges.filter fun edge =>
        edge.source = m.id ∧ edge.target = n.id ∧ edge.location.isSome = true).map fun edge =>
      (edge.kind, edge.location)) =
    (a.callSites.filter fun site =>
        (ofClasses descriptions).receiver? Tier.all a site.2 = some b).map fun site =>
      (EdgeKind.ofCall (CallTarget.ofString site.2).method b.name,
        some { filePath := a.filePath, line := site.1.line }) := by
  rw [graph, filter_mapIdx _ _ (fun link : Link => link.source = a.qualifiedName ∧
    link.target = b.qualifiedName ∧ link.location.isSome = true) _
    (fun link => (link.kind, link.location)),
    filter_links_located hM.mem_classes hN.mem_classes hApart, List.map_map]
  · refine List.map_congr_left ?_
    intro site _
    simp only [Function.comp_apply, located]
  · intro pos link hLink
    simp only [joins_iff hM hN hLink]
  · intro pos link
    rfl

theorem countP_edges_state {m n : Node} {a b : ClassSymbol}
    (hM : ((ofClasses descriptions).graph entries).StandsFor descriptions m a)
    (hN : ((ofClasses descriptions).graph entries).StandsFor descriptions n b) :
    (((ofClasses descriptions).graph entries).edges.countP fun edge =>
      edge.source = m.id ∧ edge.target = n.id ∧ edge.kind = .writesState ∧ edge.location = none) =
    if b.observesState then a.reactiveFields.length else 0 := by
  rw [← countP_links_state hM.mem_classes hN.mem_classes]
  refine countP_mapIdx _ _ _ _ ?_
  intro pos link hLink
  simp only [joins_iff hM hN hLink]

theorem countP_edges_returned {m n : Node} {a b : ClassSymbol}
    (hM : ((ofClasses descriptions).graph entries).StandsFor descriptions m a)
    (hN : ((ofClasses descriptions).graph entries).StandsFor descriptions n b) :
    (((ofClasses descriptions).graph entries).edges.countP fun edge =>
      edge.source = n.id ∧ edge.target = m.id ∧ edge.kind = .dataFlow) =
    ((ofClasses descriptions).graph entries).edges.countP fun edge =>
      edge.source = m.id ∧ edge.target = n.id ∧ edge.location.isSome = true ∧
        (edge.kind = .readsState ∨ edge.kind = .usesSensorData) := by
  rw [graph, countP_mapIdx _ _ (fun link : Link => link.source = b.qualifiedName ∧
    link.target = a.qualifiedName ∧ link.kind = .dataFlow), countP_links_returned]
  · refine (countP_mapIdx _ _ _ _ ?_).symm
    intro pos link hLink
    simp only [joins_iff hM hN hLink]
  · intro pos link hLink
    simp only [joins_iff hN hM hLink]

theorem graph_accounts (descriptions : List ClassSymbol) (entries : List EntryPoint) :
    ((ofClasses descriptions).graph entries).Accounts descriptions entries where
  ids := graph_ids_nodup descriptions entries
  names name := by rw [graph_names, mem_names, List.mem_map]
  sorted := by
    rw [graph_names]
    exact names_sorted descriptions
  described node hNode := by
    obtain ⟨c, hC, hEq⟩ := exists_class_of_mem_nodes hNode
    refine ⟨c, hNode, mem_classes_iff.1 hC, ?_⟩
    rw [hEq]
    rfl
  source_iff node hNode := by
    obtain ⟨c, _, rfl⟩ := exists_class_of_mem_nodes hNode
    exact (nodeRole_eq_sensorSource_iff c _).trans (by simp [ClassSymbol.toNode])
  sensors_iff node hNode := by
    obtain ⟨c, _, rfl⟩ := exists_class_of_mem_nodes hNode
    exact sensorsOf_ne_nil_iff
  sensors node hNode sensor := by
    obtain ⟨c, _, rfl⟩ := exists_class_of_mem_nodes hNode
    exact mem_sensorsOf
  first_mention node hNode := by
    obtain ⟨c, _, rfl⟩ := exists_class_of_mem_nodes hNode
    exact eraseDups_sorted (mentions entries c.qualifiedName)
  ends edge hEdge := by
    obtain ⟨link, hLink, hSource, hTarget, _⟩ := exists_link_of_mem_edges hEdge
    obtain ⟨⟨a, hA, hAName⟩, b, hB, hBName⟩ := ends_of_mem_links hLink
    rw [hSource, hTarget, ← hAName, ← hBName]
    exact ⟨exists_node_of_mem_classes hA, exists_node_of_mem_classes hB⟩
  kinds _ hEdge := edge_cases hEdge
  located hM hN hApart := filter_edges_located hM hN hApart
  state hM hN := countP_edges_state hM hN
  returned hM hN := countP_edges_returned hM hN

end Assembly
end SensorFlow

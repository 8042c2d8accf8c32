import Mathlib.Data.List.FinRange
import SensorFlow.Graph.Flow

/-!
# Routes through a graph

A route names its edges by their positions in the edge list, so that parallel edges give different
routes and routes are ordered like the edge list. The routes that a search looks at are those that
never return, leave a node of the user interface at no point and reach nodes only; they are listed
here in lexicographic order, and exactly once each.
-/
namespace SensorFlow.Graph
set_option autoImplicit false

abbrev Route (g : Graph) := List (Fin g.edges.length)

def edgeAt (g : Graph) (pos : Fin g.edges.length) : Edge := g.edges.get pos

def targets (g : Graph) (route : g.Route) : List String :=
  route.map fun pos => (g.edgeAt pos).target

/-- The first edge leaves `start`, and each later one leaves where the one before it ends. -/
def Joins (g : Graph) : String → g.Route → Prop
  | _, [] => True
  | start, pos :: more => (g.edgeAt pos).source = start ∧ g.Joins (g.edgeAt pos).target more

def endOf (g : Graph) : String → g.Route → String
  | start, [] => start
  | _, pos :: more => g.endOf (g.edgeAt pos).target more

def IsShown (g : Graph) (id : String) : Prop := ∃ node, g.node? id = some node ∧ node.role = .ui

def IsInner (g : Graph) (id : String) : Prop := ∃ node, g.node? id = some node ∧ node.role ≠ .ui

/-- A route from `start` along edges that data moves along, which passes no identifier twice. -/
structure Carries (g : Graph) (start : String) (route : g.Route) : Prop where
  joins : g.Joins start route
  kinds : ∀ pos ∈ route,
    (g.edgeAt pos).kind ∈ [EdgeKind.calls, .writesState, .usesSensorData, .dataFlow]
  simple : (start :: g.targets route).Nodup

/-- The routes from `start` that reach the user interface, and only with their last edge. -/
structure Arrives (g : Graph) (start : String) (route : g.Route) : Prop
    extends g.Carries start route where
  nonempty : route ≠ []
  inner : ∀ id ∈ (g.targets route).dropLast, g.IsInner id
  shown : g.IsShown (g.endOf start route)

/-- The routes from `start` that stay outside the user interface. -/
structure Roams (g : Graph) (start : String) (route : g.Route) : Prop
    extends g.Carries start route where
  inner : ∀ id ∈ g.targets route, g.IsInner id

def exits (g : Graph) (id : String) : List (Fin g.edges.length) :=
  (List.finRange g.edges.length).filter fun pos => (g.edgeAt pos).source == id

theorem mem_exits {g : Graph} {id : String} {pos : Fin g.edges.length} :
    pos ∈ g.exits id ↔ (g.edgeAt pos).source = id := by
  simp [exits]

theorem exits_sorted (g : Graph) (id : String) : (g.exits id).Pairwise (· < ·) :=
  (List.pairwise_lt_finRange _).filter _

theorem map_edgeAt_exits (g : Graph) (id : String) : (g.exits id).map g.edgeAt = g.outgoing id := by
  have hAll : (List.finRange g.edges.length).map g.edgeAt = g.edges := List.map_get_finRange g.edges
  conv_rhs => rw [outgoing, ← hAll, List.filter_map]
  rfl

theorem path_induction {g : Graph} {P : List String → String → Prop}
    (hStep : ∀ path last,
      (∀ edge node, g.next? path edge = some node → P (path ++ [node.id]) node.id) → P path last)
    (path : List String) (last : String) : P path last := by
  -- each edge taken leaves fewer nodes unvisited
  apply hStep
  intro edge node hNext
  exact path_induction hStep (path ++ [node.id]) node.id
termination_by (g.unvisited path).length
decreasing_by exact unvisited_lt_of_next? hNext

/-- The routes that a search looks at below a path that ends in `last`. -/
def explored (g : Graph) (path : List String) (last : String) : List g.Route :=
  [] :: (g.exits last).flatMap fun pos =>
    match hNext : g.next? path (g.edgeAt pos) with
    | none => []
    | some node =>
      have := unvisited_lt_of_next? hNext
      if node.role = .ui then [[pos]]
      else (explored g (path ++ [node.id]) node.id).map (pos :: ·)
termination_by (g.unvisited path).length

def exploredVia (g : Graph) (path : List String) (pos : Fin g.edges.length) : List g.Route :=
  match g.next? path (g.edgeAt pos) with
  | none => []
  | some node =>
    if node.role = .ui then [[pos]]
    else (g.explored (path ++ [node.id]) node.id).map (pos :: ·)

theorem explored_eq (g : Graph) (path : List String) (last : String) :
    g.explored path last = [] :: (g.exits last).flatMap (g.exploredVia path) := by
  rw [explored]
  congr 2
  funext pos
  rw [exploredVia]
  split <;> simp_all

theorem exists_cons_of_mem_exploredVia {g : Graph} {path : List String} {pos : Fin g.edges.length}
    {route : g.Route} (h : route ∈ g.exploredVia path pos) : ∃ more, route = pos :: more := by
  rw [exploredVia] at h
  split at h
  · cases h
  · split at h
    · exact ⟨[], List.mem_singleton.1 h⟩
    · obtain ⟨more, _, hRoute⟩ := List.mem_map.1 h
      exact ⟨more, hRoute.symm⟩

theorem explored_sorted (g : Graph) (path : List String) (last : String) :
    (g.explored path last).Pairwise (· < ·) := by
  induction path, last using g.path_induction with
  | hStep path last ih =>
    rw [explored_eq]
    refine List.pairwise_cons.2 ⟨?_, List.pairwise_flatMap.2 ⟨?_, ?_⟩⟩
    · intro route hRoute
      obtain ⟨pos, _, hVia⟩ := List.mem_flatMap.1 hRoute
      obtain ⟨more, rfl⟩ := exists_cons_of_mem_exploredVia hVia
      exact List.nil_lt_cons pos more
    · intro pos _
      rw [exploredVia]
      split
      · exact List.Pairwise.nil
      · rename_i node hNext
        split
        · exact List.pairwise_singleton _ _
        · -- below one edge the order is that of the rest of the routes
          refine List.pairwise_map.2 ((ih _ node hNext).imp ?_)
          intro a b hLess
          exact List.cons_lt_cons_iff.2 (.inr ⟨rfl, hLess⟩)
    · refine (g.exits_sorted last).imp ?_
      intro pos other hLess a hA b hB
      obtain ⟨_, rfl⟩ := exists_cons_of_mem_exploredVia hA
      obtain ⟨_, rfl⟩ := exists_cons_of_mem_exploredVia hB
      exact List.cons_lt_cons_iff.2 (.inl hLess)

theorem carriesData_iff {kind : EdgeKind} :
    kind.carriesData = true ↔ kind ∈ [EdgeKind.calls, .writesState, .usesSensorData, .dataFlow] := by
  cases kind <;> simp [EdgeKind.carriesData]

theorem nil_mem_explored (g : Graph) (path : List String) (last : String) :
    [] ∈ g.explored path last := by
  rw [explored_eq]
  exact List.mem_cons_self

theorem cons_mem_explored_iff {g : Graph} {path : List String} {last : String}
    {pos : Fin g.edges.length} {more : g.Route} :
    pos :: more ∈ g.explored path last ↔
      (g.edgeAt pos).source = last ∧ ∃ node, g.next? path (g.edgeAt pos) = some node ∧
        (node.role = .ui → more = []) ∧ more ∈ g.explored (path ++ [node.id]) node.id := by
  have hVia : pos :: more ∈ g.explored path last ↔
      (g.edgeAt pos).source = last ∧ pos :: more ∈ g.exploredVia path pos := by
    rw [explored_eq, List.mem_cons, List.mem_flatMap]
    constructor
    · rintro (h | ⟨other, hExit, h⟩)
      · cases h
      · obtain ⟨_, hRoute⟩ := exists_cons_of_mem_exploredVia h
        cases hRoute
        exact ⟨mem_exits.1 hExit, h⟩
    · rintro ⟨hSource, h⟩
      exact .inr ⟨pos, mem_exits.2 hSource, h⟩
  rw [hVia]
  apply and_congr_right
  intro _
  rw [exploredVia]
  cases hNext : g.next? path (g.edgeAt pos) with
  | none => simp
  | some node =>
    by_cases hShown : node.role = .ui
    · constructor
      · intro h
        have hMore : more = [] := by simpa [hShown] using h
        exact ⟨node, rfl, fun _ => hMore, hMore ▸ nil_mem_explored g _ _⟩
      · rintro ⟨other, hOther, hMore, _⟩
        cases hOther
        simp [hShown, hMore hShown]
    · simp [hShown]

theorem mem_explored_iff {g : Graph} {path : List String} {last : String} {route : g.Route}
    (hPath : path.Nodup) :
    route ∈ g.explored path last ↔
      g.Joins last route ∧ (∀ pos ∈ route, (g.edgeAt pos).kind.carriesData = true) ∧
        (path ++ g.targets route).Nodup ∧ (∀ id ∈ (g.targets route).dropLast, g.IsInner id) ∧
        ∀ id ∈ g.targets route, ∃ node, g.node? id = some node := by
  induction route generalizing path last with
  | nil => simp [nil_mem_explored, Joins, targets, hPath]
  | cons pos more ih =>
    rw [cons_mem_explored_iff]
    constructor
    · rintro ⟨hSource, node, hNext, hEnds, hMore⟩
      obtain ⟨hKind, hFresh, hNode⟩ := next?_eq_some_iff.1 hNext
      obtain ⟨_, hId⟩ := node?_eq_some hNode
      rw [hId] at hMore
      have hLonger : (path ++ [(g.edgeAt pos).target]).Nodup := by
        simpa [List.nodup_append] using ⟨hPath, fun id hMem => (ne_of_mem_of_not_mem hMem hFresh)⟩
      obtain ⟨hJoins, hKinds, hSimple, hInner, hNodes⟩ := (ih hLonger).1 hMore
      refine ⟨⟨hSource, hJoins⟩, ?_, ?_, ?_, ?_⟩
      · exact List.forall_mem_cons.2 ⟨hKind, hKinds⟩
      · simpa [targets] using hSimple
      · -- a shown node ends its route, so one that has a successor is inner
        cases more with
        | nil => simp [targets]
        | cons next rest =>
          have hRole : node.role ≠ .ui := fun hShown => by cases hEnds hShown
          exact List.forall_mem_cons.2 ⟨⟨node, hNode, hRole⟩, hInner⟩
      · exact List.forall_mem_cons.2 ⟨⟨node, hNode⟩, hNodes⟩
    · rintro ⟨⟨hSource, hJoins⟩, hKinds, hSimple, hInner, hNodes⟩
      obtain ⟨hKind, hKinds⟩ := List.forall_mem_cons.1 hKinds
      obtain ⟨⟨node, hNode⟩, hNodes⟩ := List.forall_mem_cons.1 hNodes
      have hSimple : ((path ++ [(g.edgeAt pos).target]) ++ g.targets more).Nodup := by
        simpa [targets] using hSimple
      have hLonger := hSimple.of_append_left
      have hFresh : (g.edgeAt pos).target ∉ path := fun hMem =>
        (List.nodup_append.1 hLonger).2.2 _ hMem _ List.mem_cons_self rfl
      refine ⟨hSource, node, next?_eq_some_iff.2 ⟨hKind, hFresh, hNode⟩, ?_, ?_⟩
      · intro hShown
        cases more with
        | nil => rfl
        | cons next rest =>
          obtain ⟨other, hOther, hRole⟩ := (List.forall_mem_cons.1 hInner).1
          rw [hNode] at hOther
          cases hOther
          exact absurd hShown hRole
      · rw [(node?_eq_some hNode).2]
        refine (ih hLonger).2 ⟨hJoins, hKinds, hSimple, ?_, hNodes⟩
        cases more with
        | nil => simp [targets]
        | cons next rest => exact (List.forall_mem_cons.1 hInner).2

/-- Whether a route ends in the user interface; the empty route has not moved yet. -/
def isArrival (g : Graph) (start : String) (route : g.Route) : Bool :=
  !route.isEmpty && (g.node? (g.endOf start route)).any (·.role == .ui)

theorem isArrival_eq_true_iff {g : Graph} {start : String} {route : g.Route} :
    g.isArrival start route = true ↔ route ≠ [] ∧ g.IsShown (g.endOf start route) := by
  cases hNode : g.node? (g.endOf start route) <;> simp [isArrival, IsShown, hNode]

theorem targets_eq_concat {g : Graph} {route : g.Route} (start : String) (h : route ≠ []) :
    g.targets route = (g.targets route).dropLast ++ [g.endOf start route] := by
  induction route generalizing start with
  | nil => exact absurd rfl h
  | cons pos more ih =>
    cases more with
    | nil => rfl
    | cons next rest =>
      have hRest := ih (g.edgeAt pos).target (List.cons_ne_nil next rest)
      exact congrArg ((g.edgeAt pos).target :: ·) hRest

theorem mem_explored_start_iff {g : Graph} {start : String} {route : g.Route} :
    route ∈ g.explored [start] start ↔
      g.Carries start route ∧ (∀ id ∈ (g.targets route).dropLast, g.IsInner id) ∧
        ∀ id ∈ g.targets route, ∃ node, g.node? id = some node := by
  rw [mem_explored_iff (List.nodup_singleton start)]
  constructor
  · rintro ⟨hJoins, hKinds, hSimple, hInner, hNodes⟩
    exact ⟨⟨hJoins, fun pos hPos => carriesData_iff.1 (hKinds pos hPos), hSimple⟩, hInner, hNodes⟩
  · rintro ⟨⟨hJoins, hKinds, hSimple⟩, hInner, hNodes⟩
    exact ⟨hJoins, fun pos hPos => carriesData_iff.2 (hKinds pos hPos), hSimple, hInner, hNodes⟩

theorem arrives_iff {g : Graph} {start : String} {route : g.Route} :
    g.Arrives start route ↔
      route ∈ g.explored [start] start ∧ g.isArrival start route = true := by
  rw [mem_explored_start_iff, isArrival_eq_true_iff]
  constructor
  · rintro ⟨hCarries, hNonempty, hInner, hShown⟩
    refine ⟨⟨hCarries, hInner, ?_⟩, hNonempty, hShown⟩
    rw [targets_eq_concat start hNonempty]
    intro id hId
    rcases List.mem_append.1 hId with hId | hId
    · obtain ⟨node, hNode, _⟩ := hInner id hId
      exact ⟨node, hNode⟩
    · obtain ⟨node, hNode, _⟩ := hShown
      exact ⟨node, List.mem_singleton.1 hId ▸ hNode⟩
  · rintro ⟨⟨hCarries, hInner, _⟩, hNonempty, hShown⟩
    exact ⟨hCarries, hNonempty, hInner, hShown⟩

theorem roams_iff {g : Graph} {start : String} {route : g.Route} :
    g.Roams start route ↔
      route ∈ g.explored [start] start ∧ g.isArrival start route = false := by
  rw [mem_explored_start_iff, ← Bool.not_eq_true, isArrival_eq_true_iff]
  constructor
  · rintro ⟨hCarries, hInner⟩
    refine ⟨⟨hCarries, fun id hId => hInner id (List.dropLast_subset _ hId), ?_⟩, ?_⟩
    · intro id hId
      obtain ⟨node, hNode, _⟩ := hInner id hId
      exact ⟨node, hNode⟩
    · rintro ⟨hNonempty, node, hNode, hShown⟩
      have hEnd : g.endOf start route ∈ g.targets route := by
        rw [targets_eq_concat start hNonempty]
        exact List.mem_append_right _ List.mem_cons_self
      obtain ⟨other, hOther, hRole⟩ := hInner _ hEnd
      rw [hNode] at hOther
      cases hOther
      exact hRole hShown
  · rintro ⟨⟨hCarries, hInner, hNodes⟩, hOpen⟩
    refine ⟨hCarries, ?_⟩
    by_cases hEmpty : route = []
    · simp [hEmpty, targets]
    · have hConcat := targets_eq_concat start hEmpty
      rw [hConcat] at hNodes ⊢
      intro id hId
      rcases List.mem_append.1 hId with hId | hId
      · exact hInner id hId
      · obtain ⟨node, hNode⟩ := hNodes id (List.mem_append_right _ hId)
        rw [List.mem_singleton.1 hId] at hNode ⊢
        exact ⟨node, hNode, fun hShown => hOpen ⟨hEmpty, node, hNode, hShown⟩⟩

theorem isArrival_cons {g : Graph} {start : String} {pos : Fin g.edges.length} {more : g.Route}
    {node : Node} (hNode : g.node? (g.edgeAt pos).target = some node) (hInner : node.role ≠ .ui) :
    g.isArrival start (pos :: more) = g.isArrival (g.edgeAt pos).target more := by
  cases more with
  | nil => simp [isArrival, endOf, hNode, hInner]
  | cons next rest => rfl

end SensorFlow.Graph

import Mathlib.Algebra.BigOperators.Group.Finset.Basic
import Mathlib.Algebra.GroupWithZero.Nat
import SensorFlow.Proofs.Graph.Route

/-!
# What a search for flows does

One equation says all of a search: it checks once per step counted, and then it has found the
routes that arrive, in their order. What holds for one step is shown for the number of steps left
and for the paths still to be found; the whole search follows by induction on the steps left.
-/
namespace SensorFlow
set_option autoImplicit false

section Times
variable {m : Type → Type} [Monad m] {α β : Type}

def times (act : m Unit) : Nat → m Unit
  | 0 => pure ()
  | n + 1 => do
    act
    times act n

variable [LawfulMonad m]

theorem times_add (act : m Unit) (a b : Nat) :
    times act (a + b) = times act a >>= fun _ => times act b := by
  induction a with
  | zero => simp [times]
  | succ a ih => simp [Nat.succ_add, times, ih]

theorem foldlM_times (act : m Unit) (cost : α → Nat) (yield : α → List β)
    (body : List β → α → m (List β)) (items : List α) (found : List β)
    (hBody : ∀ item ∈ items, ∀ found,
      body found item = times act (cost item) >>= fun _ => pure (found ++ yield item)) :
    items.foldlM body found =
      times act (items.map cost).sum >>= fun _ => pure (found ++ items.flatMap yield) := by
  induction items generalizing found with
  | nil => simp [times]
  | cons item items ih =>
    have hLater := fun other hOther => hBody other (List.mem_cons_of_mem item hOther)
    simp [hBody item List.mem_cons_self, ih _ hLater, times_add]

end Times

namespace Graph

/-- The paths that extend `path`, which ends in `last`, to the user interface. -/
def arrivals (g : Graph) (path : List String) (last : String) : List (List String) :=
  ((g.explored path last).filter (g.isArrival last)).map fun route => path ++ g.targets route

def edgePaths (g : Graph) (path : List String) (edge : Edge) : List (List String) :=
  match g.next? path edge with
  | none => []
  | some node =>
    if node.role = .ui then [path ++ [node.id]] else g.arrivals (path ++ [node.id]) node.id

/-- The paths that a search will still find from a frame. -/
def framePaths (g : Graph) (frame : Frame) : List (List String) :=
  frame.pending.flatMap (g.edgePaths frame.path)

theorem arrivals_via (g : Graph) (path : List String) (last : String) (pos : Fin g.edges.length) :
    (((g.exploredVia path pos).filter (g.isArrival last)).map fun route => path ++ g.targets route) =
      g.edgePaths path (g.edgeAt pos) := by
  rw [exploredVia, edgePaths]
  cases hNext : g.next? path (g.edgeAt pos) with
  | none => rfl
  | some node =>
    obtain ⟨_, _, hNode⟩ := next?_eq_some_iff.1 hNext
    obtain ⟨_, hId⟩ := node?_eq_some hNode
    by_cases hShown : node.role = .ui
    · have hArrival : g.isArrival last [pos] = true :=
        isArrival_eq_true_iff.2 ⟨List.cons_ne_nil pos [], node, hNode, hShown⟩
      simp [hShown, hArrival, targets, hId]
    · have hRest : g.isArrival last ∘ (pos :: ·) = g.isArrival node.id := by
        funext more
        rw [hId]
        exact isArrival_cons hNode hShown
      simp [hShown, List.filter_map, hRest, arrivals, targets, hId, Function.comp_def]

theorem arrivals_eq (g : Graph) (path : List String) (last : String) :
    g.arrivals path last = g.framePaths (g.frameAt path last) := by
  have hStart : g.isArrival last [] = false := rfl
  rw [arrivals, explored_eq, List.filter_cons_of_neg (by simp [hStart]), List.filter_flatMap,
    List.map_flatMap, framePaths, frameAt, ← map_edgeAt_exits, List.flatMap_map]
  simp only [arrivals_via]

theorem framePaths_step (g : Graph) (frame : Frame) (older : List Frame) :
    (g.step frame older).1.toList ++ (g.step frame older).2.flatMap g.framePaths =
      (frame :: older).flatMap g.framePaths := by
  obtain ⟨path, pending⟩ := frame
  cases pending with
  | nil => simp [step, framePaths]
  | cons edge pending =>
    cases hNext : g.next? path edge with
    | none => simp [step, framePaths, edgePaths, hNext]
    | some node =>
      by_cases hShown : node.role = .ui
      · simp [step, framePaths, edgePaths, hNext, hShown]
      · simp [step, framePaths, edgePaths, hNext, hShown, arrivals_eq]

section Search
variable {m : Type → Type} [Monad m] [LawfulMonad m]

theorem search_eq (check : m Unit) (g : Graph) (found : List (List String)) (frames : List Frame) :
    g.search check found frames =
      times check (g.stackSteps frames) >>= fun _ =>
        pure (found.reverse ++ frames.flatMap g.framePaths) := by
  cases frames with
  | nil => simp [search, stackSteps, times]
  | cons frame older =>
    -- one step pays one check, and what it finds and leaves adds up to what was left before
    have hSteps := stackSteps_step g frame older
    rw [search, search_eq check g _ (g.step frame older).2, ← hSteps, times]
    have hPaths := framePaths_step g frame older
    have hFound : ((g.step frame older).1.toList ++ found).reverse =
        found.reverse ++ (g.step frame older).1.toList := by
      cases (g.step frame older).1 <;> simp
    simp [hFound, ← hPaths]
termination_by g.stackSteps frames

theorem pathsFrom_eq (check : m Unit) (g : Graph) (start : Node) (hRole : start.role ≠ .ui) :
    g.pathsFrom check start =
      times check (g.stepsFrom [start.id] start.id) >>= fun _ =>
        pure (g.arrivals [start.id] start.id) := by
  have hElse : (start.role == .ui) = false := by simpa using hRole
  rw [pathsFrom, hElse, stepsFrom_eq, arrivals_eq]
  simp [search_eq, stackSteps]

end Search

def flowSteps (g : Graph) : Nat :=
  (g.searches.map fun search => g.stepsFrom [search.1.id] search.1.id).sum

theorem role_of_mem_searches {g : Graph} {search : Node × Sensor} (h : search ∈ g.searches) :
    search.1.role = .sensorSource := by
  obtain ⟨source, hSource, hSearch⟩ := List.mem_flatMap.1 h
  obtain ⟨sensor, _, rfl⟩ := List.mem_map.1 hSearch
  simpa [nodesOf] using (List.mem_filter.1 hSource).2

theorem flowsWith_eq {m : Type → Type} [Monad m] [LawfulMonad m] (check : m Unit) (g : Graph) :
    g.flowsWith check = times check g.flowSteps >>= fun _ =>
      pure (g.searches.flatMap fun search =>
        (g.arrivals [search.1.id] search.1.id).map (Flow.along search.2)) := by
  rw [flowsWith, flowSteps, foldlM_times check (fun search => g.stepsFrom [search.1.id] search.1.id)
    (fun search => (g.arrivals [search.1.id] search.1.id).map (Flow.along search.2)), List.nil_append]
  intro search hSearch found
  have hRole : search.1.role ≠ .ui := by
    rw [role_of_mem_searches hSearch]
    decide
  simp [pathsFrom_eq check g search.1 hRole]

theorem times_pure (n : Nat) : times (pure () : Id Unit) n = pure () := by
  induction n with
  | zero => rfl
  | succ n ih => exact ih

theorem flows_eq (g : Graph) :
    g.flows = g.searches.flatMap fun search =>
      (g.arrivals [search.1.id] search.1.id).map (Flow.along search.2) := by
  rw [flows, flowsWith_eq, times_pure]
  rfl

theorem flowsWith_eq_flows {m : Type → Type} [Monad m] [LawfulMonad m] (check : m Unit)
    (g : Graph) : g.flowsWith check = times check g.flowSteps >>= fun _ => pure g.flows := by
  rw [flowsWith_eq, flows_eq]

/-- The flows are the routes that arrive: by source, by sensor, and then in lexicographic order of
the positions of their edges, one flow for each route. -/
theorem flows_eq_arriving_routes (g : Graph) :
    ∃ routes : String → List g.Route,
      (∀ start, (routes start).Pairwise (· < ·)) ∧
      (∀ start route, route ∈ routes start ↔ g.Arrives start route) ∧
      g.flows = (g.nodesOf .sensorSource).flatMap fun source =>
        source.sensors.flatMap fun sensor =>
          (routes source.id).map fun route =>
            { sensor := sensor
              path := source.id :: g.targets route
              confidence := Flow.trust (source.id :: g.targets route).length } := by
  refine ⟨fun start => (g.explored [start] start).filter (g.isArrival start), ?_, ?_, ?_⟩
  · intro start
    exact (g.explored_sorted [start] start).filter _
  · intro start route
    rw [arrives_iff, List.mem_filter]
  · rw [flows_eq, searches, List.flatMap_assoc]
    simp [List.flatMap_map, arrivals, Flow.along, Function.comp_def]

section Roaming
variable (g : Graph)

theorem total_eq_sum (counts : List Nat) : total counts = counts.sum := rfl

/-- What a search spends at the end of a route: a step for every edge there, and one to turn back. -/
def stay (start : String) (route : g.Route) : Nat := 1 + (g.outgoing (g.endOf start route)).length

def staySum (start : String) (routes : List g.Route) : Nat :=
  ((routes.filter fun route => !g.isArrival start route).map (g.stay start)).sum

theorem staySum_flatMap {α : Type} (start : String) (items : List α) (routes : α → List g.Route) :
    g.staySum start (items.flatMap routes) =
      (items.map fun item => g.staySum start (routes item)).sum := by
  induction items with
  | nil => rfl
  | cons item items ih =>
    rw [List.map_cons, List.sum_cons, ← ih]
    simp [staySum]

theorem edgeSteps_eq_staySum (path : List String) (last : String) (pos : Fin g.edges.length)
    (hLonger : ∀ node, g.next? path (g.edgeAt pos) = some node →
      g.stepsFrom (path ++ [node.id]) node.id =
        g.staySum node.id (g.explored (path ++ [node.id]) node.id)) :
    g.edgeSteps path (g.edgeAt pos) = g.staySum last (g.exploredVia path pos) + 1 := by
  rw [edgeSteps, exploredVia]
  cases hNext : g.next? path (g.edgeAt pos) with
  | none => rfl
  | some node =>
    obtain ⟨_, _, hNode⟩ := next?_eq_some_iff.1 hNext
    obtain ⟨_, hId⟩ := node?_eq_some hNode
    by_cases hShown : node.role = .ui
    · have hArrival : g.isArrival last [pos] = true :=
        isArrival_eq_true_iff.2 ⟨List.cons_ne_nil pos [], node, hNode, hShown⟩
      simp [hShown, staySum, hArrival]
    · -- beyond an inner node both the ends of routes and what is spent there stay the same
      have hRest : (fun more => !g.isArrival last (pos :: more)) =
          fun more => !g.isArrival node.id more := by
        funext more
        rw [isArrival_cons hNode hShown, hId]
      have hStay : (fun more => g.stay last (pos :: more)) = g.stay node.id := by
        funext more
        rw [stay, stay, endOf, hId]
      simp [hShown, hLonger node hNext, staySum, List.filter_map, Function.comp_def, hRest, hStay]

theorem stepsFrom_eq_staySum (path : List String) (last : String) :
    g.stepsFrom path last = g.staySum last (g.explored path last) := by
  induction path, last using g.path_induction with
  | hStep path last ih =>
    have hEdge (pos : Fin g.edges.length) : g.edgeSteps path (g.edgeAt pos) =
        g.staySum last (g.exploredVia path pos) + 1 :=
      g.edgeSteps_eq_staySum path last pos fun node hNext => ih (g.edgeAt pos) node hNext
    have hExits : ((g.outgoing last).map (g.edgeSteps path)).sum =
        ((g.exits last).map fun pos => g.staySum last (g.exploredVia path pos)).sum +
          (g.outgoing last).length := by
      rw [← map_edgeAt_exits, List.map_map, List.length_map]
      simp [Function.comp_def, hEdge, List.sum_map_add]
    have hStart : g.staySum last (g.explored path last) = g.stay last [] +
        g.staySum last ((g.exits last).flatMap (g.exploredVia path)) := by
      simp [explored_eq, staySum, isArrival]
    rw [hStart, staySum_flatMap, stepsFrom_eq, frameSteps, frameAt, total_eq_sum, hExits, stay, endOf]
    omega

theorem exists_roams :
    ∃ roams : String → Finset g.Route,
      (∀ start route, route ∈ roams start ↔ g.Roams start route) ∧
      g.flowSteps = ((g.nodesOf .sensorSource).map fun source =>
        (source.sensors.map fun _ =>
          ∑ route ∈ roams source.id,
            (1 + (g.outgoing (g.endOf source.id route)).length)).sum).sum := by
  refine ⟨fun start =>
    ((g.explored [start] start).filter fun route => !g.isArrival start route).toFinset, ?_, ?_⟩
  · intro start route
    rw [roams_iff, List.mem_toFinset, List.mem_filter, Bool.not_eq_true']
  · have hSum (start : String) : g.stepsFrom [start] start =
        ∑ route ∈ ((g.explored [start] start).filter fun route =>
          !g.isArrival start route).toFinset, g.stay start route := by
      have hNodup : (g.explored [start] start).Nodup :=
        (g.explored_sorted [start] start).imp fun hLess => ne_of_lt hLess
      rw [List.sum_toFinset _ (hNodup.filter _), stepsFrom_eq_staySum, staySum]
    simp [flowSteps, searches, List.flatMap, List.sum_flatten, Function.comp_def, hSum, stay]

end Roaming
end Graph
end SensorFlow

import SensorFlow.Graph.Basic
import SensorFlow.Number.Binary

/-!
# Flows of sensor data

A flow is a simple path from a sensor source along data-carrying edges that stops at the first
node of the user interface. The paths are searched depth first, in the order of the edge list, so
parallel edges give equal paths. A search is a sequence of steps on a stack of frames; whoever runs
it may interrupt it before any step.
-/
namespace SensorFlow
set_option autoImplicit false

/-- Whether data moves along edges of this kind. -/
def EdgeKind.carriesData : EdgeKind → Bool
  | .calls => true
  | .writesState => true
  | .usesSensorData => true
  | .dataFlow => true
  | .readsState => false
  | .lifecycleLink => false

/-- Shorter paths are trusted more. -/
def Flow.trust (length : Int) : Rat :=
  if length ≤ 2 then 1
  else if length = 3 then Number.nearest (9 / 10)
  else if length = 4 then Number.nearest (7 / 10)
  else Number.nearest (1 / 2)

def Flow.along (sensor : Sensor) (path : List String) : Flow where
  sensor := sensor
  path := path
  confidence := Flow.trust path.length

namespace Graph

/-- The nodes that are not on a path. -/
def unvisited (g : Graph) (path : List String) : List Node :=
  g.nodes.filter fun node => !path.contains node.id

/-- The node that an edge takes the data on a path to. An edge that carries no data, leads back to
the path or names no node takes it nowhere. -/
def next? (g : Graph) (path : List String) (edge : Edge) : Option Node :=
  if edge.kind.carriesData && !path.contains edge.target then g.node? edge.target else none

theorem node?_eq_some {g : Graph} {id : String} {node : Node} (h : g.node? id = some node) :
    node ∈ g.nodes ∧ node.id = id := by
  unfold node? at h
  exact ⟨by simpa using List.mem_of_find?_eq_some h, by simpa using List.find?_some h⟩

theorem next?_eq_some_iff {g : Graph} {path : List String} {edge : Edge} {node : Node} :
    g.next? path edge = some node ↔
      edge.kind.carriesData = true ∧ edge.target ∉ path ∧ g.node? edge.target = some node := by
  simp [next?, and_assoc]

theorem unvisited_lt_of_next? {g : Graph} {path : List String} {edge : Edge} {node : Node}
    (hNext : g.next? path edge = some node) :
    (g.unvisited (path ++ [node.id])).length < (g.unvisited path).length := by
  obtain ⟨_, hFresh, hNode⟩ := next?_eq_some_iff.1 hNext
  obtain ⟨hMem, hId⟩ := node?_eq_some hNode
  have hFilter : g.unvisited (path ++ [node.id]) =
      (g.unvisited path).filter fun other => !decide (other.id = node.id) := by
    simp [unvisited, List.filter_filter, Bool.and_comm]
  rw [hFilter]
  apply List.length_filter_lt_length_iff_exists.2
  exact ⟨node, by simp [unvisited, hMem, hId, hFresh], by simp⟩

def total (counts : List Nat) : Nat := counts.foldr (· + ·) 0

@[simp] theorem total_nil : total [] = 0 := rfl

@[simp] theorem total_cons (count : Nat) (counts : List Nat) :
    total (count :: counts) = count + total counts := rfl

/-- The number of steps that a search spends on a path that ends in `last`: one for every edge
there, one to turn back, and those spent on the longer paths. -/
def stepsFrom (g : Graph) (path : List String) (last : String) : Nat :=
  total ((g.outgoing last).map fun edge =>
    match hNext : g.next? path edge with
    | none => 1
    | some node =>
      have := unvisited_lt_of_next? hNext
      if node.role == .ui then 1 else stepsFrom g (path ++ [node.id]) node.id + 1) + 1
termination_by (g.unvisited path).length

/-- A path under search and the edges at its end that are still to be looked at. -/
structure Frame where
  path : List String
  pending : List Edge
  deriving Repr, DecidableEq

/-- The frame of a path that ends in `last`, with all edges there to be looked at. -/
def frameAt (g : Graph) (path : List String) (last : String) : Frame :=
  { path := path, pending := g.outgoing last }

/-- One step of a search: the newest path is given up if no edge is left at its end, else one edge
is looked at. The answer is the path that the step completes, if any, and the frames left, the
newest first. -/
def step (g : Graph) (frame : Frame) (older : List Frame) : Option (List String) × List Frame :=
  match frame.pending with
  | [] => (none, older)
  | edge :: pending =>
    let left : List Frame := { frame with pending := pending } :: older
    match g.next? frame.path edge with
    | none => (none, left)
    | some node =>
      let longer := frame.path ++ [node.id]
      if node.role == .ui then (some longer, left)
      else (none, g.frameAt longer node.id :: left)

/-- The number of steps that an edge at the end of a path takes. -/
def edgeSteps (g : Graph) (path : List String) (edge : Edge) : Nat :=
  match g.next? path edge with
  | none => 1
  | some node => if node.role == .ui then 1 else g.stepsFrom (path ++ [node.id]) node.id + 1

def frameSteps (g : Graph) (frame : Frame) : Nat :=
  total (frame.pending.map (g.edgeSteps frame.path)) + 1

def stackSteps (g : Graph) (frames : List Frame) : Nat := total (frames.map g.frameSteps)

theorem stepsFrom_eq (g : Graph) (path : List String) (last : String) :
    g.stepsFrom path last = g.frameSteps (g.frameAt path last) := by
  rw [stepsFrom, frameSteps, frameAt]
  congr 3
  funext edge
  rw [edgeSteps]
  split <;> simp_all

/-- Every step of a search is one of the steps counted. -/
theorem stackSteps_step (g : Graph) (frame : Frame) (older : List Frame) :
    g.stackSteps (g.step frame older).2 + 1 = g.stackSteps (frame :: older) := by
  obtain ⟨path, pending⟩ := frame
  cases pending with
  | nil => simp [step, stackSteps, frameSteps, Nat.add_comm]
  | cons edge pending =>
    cases hNext : g.next? path edge with
    | none =>
      simp [step, stackSteps, frameSteps, edgeSteps, hNext]
      omega
    | some node =>
      by_cases hShown : node.role = .ui
      · simp [step, stackSteps, frameSteps, edgeSteps, hNext, hShown]
        omega
      · simp [step, stackSteps, frameSteps, edgeSteps, hNext, hShown, stepsFrom_eq]
        omega

section Search
variable {m : Type → Type} [Monad m]

/-- Searches on until no frame is left. `check` is done before every step, and the paths found are
kept latest first. -/
@[specialize]
def search (check : m Unit) (g : Graph) (found : List (List String)) :
    List Frame → m (List (List String))
  | [] => pure found.reverse
  | frame :: older => do
    check
    search check g ((g.step frame older).1.toList ++ found) (g.step frame older).2
termination_by frames => g.stackSteps frames
decreasing_by
  have := stackSteps_step g frame older
  omega

/-- The simple paths from a node to the user interface, depth first. -/
@[specialize]
def pathsFrom (check : m Unit) (g : Graph) (start : Node) : m (List (List String)) :=
  if start.role == .ui then pure [[start.id]]
  else g.search check [] [g.frameAt [start.id] start.id]

end Search

/-- A search is made for each sensor of each source. -/
def searches (g : Graph) : List (Node × Sensor) :=
  (g.nodesOf .sensorSource).flatMap fun source => source.sensors.map fun sensor => (source, sensor)

/-- The flows by source, sensor and path, with a check before every step of every search. -/
@[specialize]
def flowsWith {m : Type → Type} [Monad m] (check : m Unit) (g : Graph) : m (List Flow) :=
  g.searches.foldlM (fun found (source, sensor) => do
    let paths ← g.pathsFrom check source
    return found ++ paths.map (Flow.along sensor)) []

/-- The flows found by searches that nothing interrupts. -/
def flows (g : Graph) : List Flow := Id.run (g.flowsWith (pure ()))

end Graph
end SensorFlow

import SensorFlow.Proofs.Graph.Search
import SensorFlow.Proofs.Issue.Pairs

/-!
# Flows and issues agree

The flows come from a search along paths, the issues from reachability and from single edges. On
every graph they tell the same story: a network or storage class on a flow is reported as a leak
from the source of the flow, and a flow of one edge is reported as work on the main thread.
-/
namespace SensorFlow
set_option autoImplicit false

variable {g : Graph}

theorem mem_privacyLeaks_iff {issue : Issue} :
    issue ∈ privacyLeaks g ↔
      ∃ source ∈ g.nodesOf .sensorSource, ∃ sink ∈ g.nodes, sink.isSink = true ∧
        Relation.ReflTransGen g.Linked source.id sink.id ∧ issue = .privacyLeak source sink := by
  rw [privacyLeaks_eq, Graph.leakingPairs, mem_map_relatedPairs_iff]
  simp only [List.mem_filter, and_assoc]

theorem mem_mainThreadSensors_iff {issue : Issue} :
    issue ∈ mainThreadSensors g ↔
      ∃ source ∈ g.nodesOf .sensorSource, ∃ shown ∈ g.nodesOf .ui,
        g.Linked source.id shown.id ∧ issue = .mainThread source shown := by
  rw [mainThreadSensors_eq, Graph.shownPairs, mem_map_relatedPairs_iff]

namespace Graph

theorem linked_edgeAt (pos : Fin g.edges.length) :
    g.Linked (g.edgeAt pos).source (g.edgeAt pos).target :=
  ⟨g.edgeAt pos, List.get_mem _ _, rfl, rfl⟩

theorem reached_of_mem_targets {start id : String} {route : g.Route} (hJoins : g.Joins start route)
    (hId : id ∈ g.targets route) : Relation.ReflTransGen g.Linked start id := by
  induction route generalizing start with
  | nil => cases hId
  | cons pos more ih =>
    obtain ⟨rfl, hMore⟩ := hJoins
    rcases List.mem_cons.1 hId with rfl | hLater
    · exact .single (linked_edgeAt pos)
    · exact .head (linked_edgeAt pos) (ih hMore hLater)

theorem exists_arrives_of_mem_flows {flow : Flow} (hFlow : flow ∈ g.flows) :
    ∃ source ∈ g.nodesOf .sensorSource, ∃ route : g.Route,
      g.Arrives source.id route ∧ flow.path = source.id :: g.targets route := by
  rw [flows_eq] at hFlow
  obtain ⟨⟨source, sensor⟩, hSearch, hFound⟩ := List.mem_flatMap.1 hFlow
  obtain ⟨_, hArrival, rfl⟩ := List.mem_map.1 hFound
  obtain ⟨route, hRoute, rfl⟩ := List.mem_map.1 hArrival
  obtain ⟨other, hOther, hPair⟩ := List.mem_flatMap.1 hSearch
  obtain ⟨_, _, hSame⟩ := List.mem_map.1 hPair
  obtain ⟨rfl, _⟩ := Prod.mk.inj hSame
  exact ⟨other, hOther, route, arrives_iff.2 (List.mem_filter.1 hRoute), rfl⟩

theorem mem_nodesOf_of_isShown {id : String} (hShown : g.IsShown id) :
    ∃ shown ∈ g.nodesOf .ui, shown.id = id := by
  obtain ⟨shown, hNode, hRole⟩ := hShown
  obtain ⟨hMem, hId⟩ := node?_eq_some hNode
  exact ⟨shown, List.mem_filter.2 ⟨hMem, by simp [hRole]⟩, hId⟩

end Graph

/-- On every graph, with cycles, identifiers without nodes and repeated identifiers: whatever lies
on a flow and has a node with the name of a sink is reported as a leak from the start of the flow,
and a flow with two identifiers is reported as work on the main thread. -/
theorem flows_raise_issues (g : Graph) (flow : Flow) (hFlow : flow ∈ g.flows) :
    (∀ id ∈ flow.path, (∃ node ∈ g.nodes, node.id = id ∧ node.isSink = true) →
      ∃ issue ∈ privacyLeaks g, ∃ start, flow.path.head? = some start ∧
        issue.nodes = [start, id]) ∧
    (flow.path.length = 2 → ∃ issue ∈ mainThreadSensors g, issue.nodes = flow.path) := by
  obtain ⟨source, hSource, route, hArrives, hPath⟩ := Graph.exists_arrives_of_mem_flows hFlow
  rw [hPath]
  constructor
  · rintro id hId ⟨sink, hSink, rfl, hName⟩
    have hReached : Relation.ReflTransGen g.Linked source.id sink.id := by
      rcases List.mem_cons.1 hId with hStart | hLater
      · rw [hStart]
      · exact Graph.reached_of_mem_targets hArrives.joins hLater
    exact ⟨.privacyLeak source sink,
      mem_privacyLeaks_iff.2 ⟨source, hSource, sink, hSink, hName, hReached, rfl⟩,
      source.id, rfl, rfl⟩
  · intro hLength
    -- two identifiers are one edge, and it ends where the route arrives
    obtain ⟨pos, rfl⟩ : ∃ pos, route = [pos] := by
      apply List.length_eq_one_iff.1
      simpa [Graph.targets] using hLength
    obtain ⟨shown, hShown, hId⟩ := Graph.mem_nodesOf_of_isShown hArrives.shown
    have hLink : g.Linked source.id shown.id := by
      rw [hId, ← hArrives.joins.1]
      exact Graph.linked_edgeAt pos
    refine ⟨.mainThread source shown,
      mem_mainThreadSensors_iff.2 ⟨source, hSource, shown, hShown, hLink, rfl⟩, ?_⟩
    simpa [Issue.mainThread, Graph.targets, Graph.endOf] using hId

/-- A source with an edge to a screen and to itself; an identifier is used twice and another has no
node. -/
def looped : Graph where
  nodes := [
    { id := "s", name := "Tracker", role := .sensorSource, filePath := "T.kt",
      sensors := [.location] },
    { id := "u", name := "HttpScreen", role := .logic, filePath := "H.kt" },
    { id := "u", name := "Screen", role := .ui, filePath := "S.kt" }]
  edges := [
    { id := "e0", source := "s", target := "s", kind := .calls },
    { id := "e1", source := "s", target := "gone", kind := .calls },
    { id := "e2", source := "s", target := "u", kind := .dataFlow },
    { id := "e3", source := "u", target := "s", kind := .calls }]

theorem flows_raise_issues_looped : ∃ flow ∈ looped.flows, flow.path = ["s", "u"] ∧
    (∃ issue ∈ privacyLeaks looped, issue.nodes = ["s", "u"]) ∧
    ∃ issue ∈ mainThreadSensors looped, issue.nodes = ["s", "u"] := by
  have hFlow : { sensor := .location, path := ["s", "u"], confidence := 1 } ∈ looped.flows := by
    decide +kernel
  have hSink : ∃ node ∈ looped.nodes, node.id = "u" ∧ node.isSink = true := by decide +kernel
  obtain ⟨hLeaks, hMain⟩ := flows_raise_issues looped _ hFlow
  obtain ⟨issue, hIssue, start, hStart, hNodes⟩ := hLeaks "u" (by simp) hSink
  obtain rfl : start = "s" := (Option.some.inj hStart).symm
  exact ⟨_, hFlow, rfl, ⟨issue, hIssue, hNodes⟩, hMain rfl⟩

end SensorFlow

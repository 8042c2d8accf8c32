import Mathlib.Data.List.InsertIdx
import SensorFlow.Proofs.Graph.Search
import SensorFlow.Proofs.Issue.Pairs

/-!
# More edges, no fewer findings

A graph that has the edges of another one and more, with the same nodes, keeps what the other one
shows: its flows, its leaks and its work on the main thread are found again, in the same order, with
new ones between them. A search visits every simple path, so a new edge hides no path behind a node
that was reached another way.
-/
namespace SensorFlow
open scoped List
set_option autoImplicit false

namespace Graph

/-- The nodes of `larger` are those of `g`, and its edges are those of `g` in their order with
others between them. -/
structure Extends (larger g : Graph) : Prop where
  nodes : larger.nodes = g.nodes
  edges : g.edges <+ larger.edges

def withEdge (g : Graph) (pos : Nat) (edge : Edge) : Graph :=
  { g with edges := g.edges.insertIdx pos edge }

theorem withEdge_extends (g : Graph) (pos : Nat) (edge : Edge) :
    (g.withEdge pos edge).Extends g where
  nodes := rfl
  edges := List.sublist_insertIdx g.edges pos edge

namespace Extends
variable {g larger : Graph}

theorem outgoing_sublist (hExt : larger.Extends g) (id : String) :
    g.outgoing id <+ larger.outgoing id :=
  hExt.edges.filter _

theorem next?_eq (hExt : larger.Extends g) (path : List String) (edge : Edge) :
    larger.next? path edge = g.next? path edge := by
  rw [next?, next?, node?, node?, hExt.nodes]

theorem nodesOf_eq (hExt : larger.Extends g) (role : NodeRole) :
    larger.nodesOf role = g.nodesOf role := by
  rw [nodesOf, nodesOf, hExt.nodes]

theorem edgePaths_sublist (hExt : larger.Extends g) {path : List String} {edge : Edge}
    (hLonger : ∀ node, g.next? path edge = some node →
      g.arrivals (path ++ [node.id]) node.id <+ larger.arrivals (path ++ [node.id]) node.id) :
    g.edgePaths path edge <+ larger.edgePaths path edge := by
  rw [edgePaths, edgePaths, hExt.next?_eq]
  cases hNext : g.next? path edge with
  | none => exact List.Sublist.refl []
  | some node =>
    by_cases hShown : node.role = .ui
    · simp [hShown]
    · simpa [hShown] using hLonger node hNext

theorem arrivals_sublist (hExt : larger.Extends g) (path : List String) (last : String) :
    g.arrivals path last <+ larger.arrivals path last := by
  induction path, last using g.path_induction with
  | hStep path last ih =>
    rw [arrivals_eq, arrivals_eq]
    -- first more is found behind the old edges, then the new edges add paths between
    calc (g.outgoing last).flatMap (g.edgePaths path)
      _ <+ (g.outgoing last).flatMap (larger.edgePaths path) := by
        refine List.Sublist.flatMap_right _ fun edge _ => ?_
        exact hExt.edgePaths_sublist (ih edge)
      _ <+ (larger.outgoing last).flatMap (larger.edgePaths path) :=
        (hExt.outgoing_sublist last).flatMap _

theorem flows_sublist (hExt : larger.Extends g) : g.flows <+ larger.flows := by
  have hSearches : larger.searches = g.searches := by rw [searches, searches, hExt.nodesOf_eq]
  rw [flows_eq, flows_eq, hSearches]
  refine List.Sublist.flatMap_right _ fun search _ => ?_
  exact (hExt.arrivals_sublist _ _).map _

theorem linked (hExt : larger.Extends g) {source target : String} (hLink : g.Linked source target) :
    larger.Linked source target := by
  obtain ⟨edge, hEdge, hEnds⟩ := hLink
  exact ⟨edge, hExt.edges.mem hEdge, hEnds⟩

theorem reached (hExt : larger.Extends g) {source target : String}
    (hReached : Relation.ReflTransGen g.Linked source target) :
    Relation.ReflTransGen larger.Linked source target :=
  Relation.ReflTransGen.mono (fun _ _ hLink => hExt.linked hLink) _ _ hReached

end Extends
end Graph

theorem relatedPairs_sublist {narrow wide : String → String → Prop} [DecidableRel narrow]
    [DecidableRel wide] (hWide : ∀ first second, narrow first second → wide first second)
    (firsts seconds : List Node) :
    relatedPairs firsts seconds narrow <+ relatedPairs firsts seconds wide := by
  apply List.monotone_filter_right
  intro pair hPair
  exact decide_eq_true (hWide _ _ (of_decide_eq_true hPair))

namespace Graph.Extends
variable {g larger : Graph}

theorem privacyLeaks_sublist (hExt : larger.Extends g) : privacyLeaks g <+ privacyLeaks larger := by
  rw [privacyLeaks_eq, privacyLeaks_eq, leakingPairs, leakingPairs, hExt.nodesOf_eq, hExt.nodes]
  exact (relatedPairs_sublist (fun _ _ => hExt.reached) _ _).map _

theorem mainThreadSensors_sublist (hExt : larger.Extends g) :
    mainThreadSensors g <+ mainThreadSensors larger := by
  rw [mainThreadSensors_eq, mainThreadSensors_eq, shownPairs, shownPairs, hExt.nodesOf_eq,
    hExt.nodesOf_eq]
  exact (relatedPairs_sublist (fun _ _ => hExt.linked) _ _).map _

end Graph.Extends

/-- An edge put anywhere into the edge list takes no finding away and moves none. -/
theorem findings_kept_by_new_edge (g : Graph) (pos : Nat) (edge : Edge) :
    g.flows <+ (g.withEdge pos edge).flows ∧
    (privacyLeaks g).map (·.nodes) <+ (privacyLeaks (g.withEdge pos edge)).map (·.nodes) ∧
    (mainThreadSensors g).map (·.nodes) <+
      (mainThreadSensors (g.withEdge pos edge)).map (·.nodes) := by
  have hExt := g.withEdge_extends pos edge
  exact ⟨hExt.flows_sublist, hExt.privacyLeaks_sublist.map _, hExt.mainThreadSensors_sublist.map _⟩

end SensorFlow

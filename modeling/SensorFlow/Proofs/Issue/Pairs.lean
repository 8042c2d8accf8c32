import Mathlib.Data.List.ProdSigma
import SensorFlow.Issue.Detection
import SensorFlow.Proofs.Graph.Reach

/-!
# What the rules on the graph report

Both rules on the graph look at a sensor source and at one other node, and report the two if their
identifiers are related: for leaks by a chain of edges of any kind, for the main thread by one edge.
Every such pair is reported once, however many chains or parallel edges relate it, and the pairs
come in the order of the nodes. Nodes that share an identifier are different members of pairs.
-/
namespace SensorFlow
set_option autoImplicit false

/-- The pairs of a first and a second node, by the first and then by the second, whose identifiers
are related. -/
def relatedPairs (firsts seconds : List Node) (related : String → String → Prop)
    [DecidableRel related] : List (Node × Node) :=
  (firsts ×ˢ seconds).filter fun pair => related pair.1.id pair.2.id

theorem flatMap_eq_relatedPairs {related : String → String → Prop} [DecidableRel related]
    {α : Type} (firsts seconds : List Node) (test : Node → Node → Bool) (report : Node → Node → α)
    (hTest : ∀ first second, test first second = true ↔ related first.id second.id) :
    (firsts.flatMap fun first => (seconds.filter (test first)).map (report first)) =
      (relatedPairs firsts seconds related).map fun pair => report pair.1 pair.2 := by
  have hSame : test = fun first second => decide (related first.id second.id) := by
    funext first second
    exact Bool.eq_iff_iff.2 ((hTest first second).trans decide_eq_true_iff.symm)
  have hProduct : firsts ×ˢ seconds = firsts.flatMap fun first => seconds.map (first, ·) := rfl
  rw [hSame, relatedPairs, hProduct]
  simp [List.filter_flatMap, List.map_flatMap, List.filter_map, Function.comp_def]

theorem mem_map_relatedPairs_iff {related : String → String → Prop} [DecidableRel related]
    {α : Type} {firsts seconds : List Node} {report : Node → Node → α} {item : α} :
    item ∈ ((relatedPairs firsts seconds related).map fun pair => report pair.1 pair.2) ↔
      ∃ first ∈ firsts, ∃ second ∈ seconds,
        related first.id second.id ∧ item = report first second := by
  simp only [relatedPairs, List.mem_map, List.mem_filter, decide_eq_true_iff]
  constructor
  · rintro ⟨⟨first, second⟩, ⟨hPair, hRelated⟩, rfl⟩
    obtain ⟨hFirst, hSecond⟩ := List.mem_product.1 hPair
    exact ⟨first, hFirst, second, hSecond, hRelated, rfl⟩
  · rintro ⟨first, hFirst, second, hSecond, hRelated, rfl⟩
    exact ⟨(first, second), ⟨List.mem_product.2 ⟨hFirst, hSecond⟩, hRelated⟩, rfl⟩

namespace Graph

instance decidableLinked (g : Graph) : DecidableRel g.Linked := fun source target =>
  inferInstanceAs (Decidable (∃ edge ∈ g.edges, edge.source = source ∧ edge.target = target))

instance decidableReached (g : Graph) : DecidableRel (Relation.ReflTransGen g.Linked) :=
  fun _ _ => decidable_of_iff _ mem_reachable_iff

/-- A source and a node named like a sink that some chain of edges leads to. -/
def leakingPairs (g : Graph) : List (Node × Node) :=
  relatedPairs (g.nodesOf .sensorSource) (g.nodes.filter (·.isSink))
    (Relation.ReflTransGen g.Linked)

/-- A source and a node of the user interface that some edge leads to. -/
def shownPairs (g : Graph) : List (Node × Node) :=
  relatedPairs (g.nodesOf .sensorSource) (g.nodesOf .ui) g.Linked

end Graph

theorem privacyLeaks_eq (g : Graph) :
    privacyLeaks g = g.leakingPairs.map fun pair => .privacyLeak pair.1 pair.2 := by
  apply flatMap_eq_relatedPairs
  intro source sink
  rw [List.contains_iff_mem, Graph.mem_reachable_iff]

theorem mainThreadSensors_eq (g : Graph) :
    mainThreadSensors g = g.shownPairs.map fun pair => .mainThread pair.1 pair.2 := by
  apply flatMap_eq_relatedPairs
  intro source shown
  rw [List.contains_iff_mem, Graph.linked_iff_mem_outgoing]

theorem graph_rules_report_pairs (g : Graph) :
    privacyLeaks g = (g.leakingPairs.map fun pair => .privacyLeak pair.1 pair.2) ∧
    (privacyLeaks g).map (·.nodes) = (g.leakingPairs.map fun pair => [pair.1.id, pair.2.id]) ∧
    mainThreadSensors g = (g.shownPairs.map fun pair => .mainThread pair.1 pair.2) ∧
    (mainThreadSensors g).map (·.nodes) = (g.shownPairs.map fun pair => [pair.1.id, pair.2.id]) := by
  refine ⟨privacyLeaks_eq g, ?_, mainThreadSensors_eq g, ?_⟩
  · rw [privacyLeaks_eq, List.map_map]
    rfl
  · rw [mainThreadSensors_eq, List.map_map]
    rfl

end SensorFlow

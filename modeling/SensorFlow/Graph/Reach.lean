import SensorFlow.Graph.Basic

/-!
# Reachability

Everything that can be reached along edges of any kind, identifiers without a node included.
-/
namespace SensorFlow
set_option autoImplicit false

namespace Graph

/-- The targets of edges from `id` that are not seen yet, each once. -/
def fresh (g : Graph) (seen : List String) (id : String) : List String :=
  ((g.outgoing id).map (·.target)).eraseDups.filter fun target => !seen.contains target

/-- The edges whose target is not seen yet. -/
def unseen (g : Graph) (seen : List String) : List Edge :=
  g.edges.filter fun edge => !seen.contains edge.target

theorem mem_fresh {g : Graph} {seen : List String} {id target : String}
    (h : target ∈ g.fresh seen id) :
    (∃ edge ∈ g.edges, edge.target = target) ∧ target ∉ seen := by
  simp only [fresh, List.mem_filter, List.mem_eraseDups, List.mem_map, outgoing] at h
  obtain ⟨⟨edge, ⟨hEdge, _⟩, hTarget⟩, hSeen⟩ := h
  exact ⟨⟨edge, hEdge, hTarget⟩, by simpa using hSeen⟩

theorem unseen_append_lt {g : Graph} {seen found : List String} {id target : String}
    (hFresh : target ∈ g.fresh seen id) (hFound : target ∈ found) :
    (g.unseen (seen ++ found)).length < (g.unseen seen).length := by
  obtain ⟨⟨edge, hEdge, hTarget⟩, hSeen⟩ := mem_fresh hFresh
  have hFilter : g.unseen (seen ++ found) =
      (g.unseen seen).filter fun edge => !found.contains edge.target := by
    simp [unseen, List.filter_filter, Bool.and_comm]
  rw [hFilter]
  apply List.length_filter_lt_length_iff_exists.2
  refine ⟨edge, ?_, ?_⟩
  · simp [unseen, hEdge, hTarget, hSeen]
  · simp [hTarget, hFound]

/-- Closes the identifiers seen under edges that leave the pending ones. -/
def close (g : Graph) (seen : List String) : List String → List String
  | [] => seen
  | id :: pending =>
    match hFresh : g.fresh seen id with
    | [] => close g seen pending
    | target :: more =>
      have : (g.unseen (seen ++ target :: more)).length < (g.unseen seen).length :=
        unseen_append_lt (hFresh ▸ List.mem_cons_self) List.mem_cons_self
      close g (seen ++ target :: more) (pending ++ target :: more)
termination_by pending => ((g.unseen seen).length, pending.length)

def reachable (g : Graph) (id : String) : List String := g.close [id] [id]

end Graph
end SensorFlow

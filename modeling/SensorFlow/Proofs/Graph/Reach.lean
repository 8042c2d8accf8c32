import Mathlib.Logic.Relation
import Mathlib.Tactic.ByContra
import SensorFlow.Graph.Reach

/-!
# What can be reached

The identifiers found from a start are exactly those that a chain of edges leads to, over edges of
every kind and whether or not the identifiers have nodes. The search never forgets what it has
seen, and once nothing is pending the identifiers seen are closed under edges.
-/
namespace SensorFlow.Graph
set_option autoImplicit false

def Linked (g : Graph) (source target : String) : Prop :=
  ∃ edge ∈ g.edges, edge.source = source ∧ edge.target = target

theorem linked_iff_mem_outgoing {g : Graph} {source target : String} :
    g.Linked source target ↔ target ∈ (g.outgoing source).map (·.target) := by
  simp [Linked, outgoing, and_assoc]

theorem mem_fresh_iff {g : Graph} {seen : List String} {source target : String} :
    target ∈ g.fresh seen source ↔ g.Linked source target ∧ target ∉ seen := by
  simp [fresh, linked_iff_mem_outgoing]

variable {g : Graph} {seen pending : List String}

theorem mem_close_of_mem {id : String} (hSeen : id ∈ seen) : id ∈ g.close seen pending := by
  fun_induction g.close seen pending with
  | case1 seen => exact hSeen
  | case2 seen source pending _ ih => exact ih hSeen
  | case3 seen source pending target more _ _ ih => exact ih (List.mem_append_left _ hSeen)

theorem reached_of_mem_close {start : String}
    (hSeen : ∀ id ∈ seen, Relation.ReflTransGen g.Linked start id) (hPending : pending ⊆ seen) :
    ∀ id ∈ g.close seen pending, Relation.ReflTransGen g.Linked start id := by
  fun_induction g.close seen pending with
  | case1 seen => exact hSeen
  | case2 seen source pending _ ih => exact ih hSeen (List.subset_of_cons_subset hPending)
  | case3 seen source pending target more hFresh _ ih =>
    apply ih
    · intro id hId
      rcases List.mem_append.1 hId with hOld | hNew
      · exact hSeen id hOld
      · obtain ⟨hLink, _⟩ := mem_fresh_iff.1 (hFresh ▸ hNew)
        exact (hSeen source (hPending List.mem_cons_self)).tail hLink
    · intro id hId
      rcases List.mem_append.1 hId with hOld | hNew
      · exact List.mem_append_left _ (hPending (List.mem_cons_of_mem source hOld))
      · exact List.mem_append_right _ hNew

/-- Every identifier seen is pending, or the edges that leave it lead to identifiers seen. -/
def Settled (g : Graph) (seen pending : List String) : Prop :=
  ∀ source ∈ seen, source ∈ pending ∨ ∀ target, g.Linked source target → target ∈ seen

theorem close_settled (hSettled : g.Settled seen pending) :
    g.Settled (g.close seen pending) [] := by
  fun_induction g.close seen pending with
  | case1 seen => exact hSettled
  | case2 seen current pending hFresh ih =>
    -- nothing new leaves the current identifier, so it need not be pending any more
    apply ih
    intro source hSource
    rcases hSettled source hSource with hPending | hClosed
    · rcases List.mem_cons.1 hPending with rfl | hLater
      · refine .inr fun target hLink => ?_
        by_contra hUnseen
        have hNew := mem_fresh_iff.2 ⟨hLink, hUnseen⟩
        rw [hFresh] at hNew
        cases hNew
      · exact .inl hLater
    · exact .inr hClosed
  | case3 seen current pending target more hFresh _ ih =>
    apply ih
    intro source hSource
    rcases List.mem_append.1 hSource with hOld | hNew
    · rcases hSettled source hOld with hPending | hClosed
      · rcases List.mem_cons.1 hPending with rfl | hLater
        · refine .inr fun other hLink => ?_
          by_cases hSeen : other ∈ seen
          · exact List.mem_append_left _ hSeen
          · exact List.mem_append_right _ (hFresh ▸ mem_fresh_iff.2 ⟨hLink, hSeen⟩)
        · exact .inl (List.mem_append_left _ hLater)
      · exact .inr fun other hLink => List.mem_append_left _ (hClosed other hLink)
    · exact .inl (List.mem_append_right _ hNew)

theorem mem_reachable_iff {start id : String} :
    id ∈ g.reachable start ↔ Relation.ReflTransGen g.Linked start id := by
  constructor
  · intro hFound
    refine reached_of_mem_close ?_ (List.Subset.refl _) id hFound
    intro seen hSeen
    rw [List.mem_singleton.1 hSeen]
  · intro hReached
    have hSettled : g.Settled (g.reachable start) [] :=
      close_settled fun source hSource => .inl hSource
    induction hReached with
    | refl => exact mem_close_of_mem List.mem_cons_self
    | tail _ hLink ih =>
      rcases hSettled _ ih with hPending | hClosed
      · cases hPending
      · exact hClosed _ hLink

end SensorFlow.Graph

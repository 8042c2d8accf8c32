import Mathlib.Algebra.Order.Ring.Rat
import SensorFlow.Proofs.Order
import SensorFlow.Proofs.Report.RoundTrip
import SensorFlow.Service.Session

/-!
# The flows in an answer

All answers about the flows of a report are cut from one ranking of them, by confidence and then as
they are stored: a filter takes flows out of it, and a limit cuts it off behind so many of them.
-/
namespace SensorFlow
open Text
set_option autoImplicit false

namespace Query

/-- The stored flows, the most trusted first, and equally trusted ones in their stored order. -/
structure Ranked (stored ranked : List Flow) : Prop where
  perm : ranked.Perm stored
  sorted : ranked.Pairwise fun a b => b.confidence ≤ a.confidence
  stable : ∀ level, (ranked.filter (·.confidence = level)) = stored.filter (·.confidence = level)

def passes (wanted : Option Sensor) (least : Rat) (flow : Flow) : Bool :=
  (wanted = none ∨ wanted = some flow.sensor) ∧ least ≤ flow.confidence

/-- The filter is absent, or it names a sensor in some letter case. -/
inductive Asks : Option String → Option Sensor → Prop where
  | absent : Asks none none
  | empty : Asks (some "") none
  | named {name : String} {sensor : Sensor} (hName : upper name = sensor.label) :
      Asks (some name) (some sensor)

theorem byConfidence_eq (flows : List Flow) :
    byConfidence flows = flows.mergeSort (keyLe fun flow => -flow.confidence) := by
  rw [byConfidence]
  congr 1
  funext a b
  simp [keyLe]

theorem ranked_byConfidence (flows : List Flow) : Ranked flows (byConfidence flows) where
  perm := List.mergeSort_perm _ _
  sorted := by
    rw [byConfidence_eq]
    refine (mergeSort_key_sorted _ flows).imp ?_
    intro a b hLe
    exact neg_le_neg_iff.1 hLe
  stable level := by
    have hKey := filter_mergeSort_key (fun flow : Flow => -flow.confidence) flows (-level)
    simpa [← byConfidence_eq] using hKey

theorem Ranked.length_filter {stored ranked : List Flow} (hRanked : Ranked stored ranked)
    (p : Flow → Bool) : (ranked.filter p).length = stored.countP p := by
  rw [← List.countP_eq_length_filter]
  exact hRanked.perm.countP_eq p

theorem byConfidence_selectFlows (flows : List Flow) (wanted : Option Sensor) (least : Rat) :
    byConfidence (selectFlows flows wanted least) =
      (byConfidence flows).filter (passes wanted least) := by
  have hSelect : selectFlows flows wanted least = flows.filter (passes wanted least) := by
    refine List.filter_congr ?_
    intro flow _
    cases wanted <;> simp [passes, beq_eq_decide]
  rw [hSelect, byConfidence_eq, byConfidence_eq, mergeSort_filter_key]

theorem wanted?_of_asks {filter : Option String} {wanted : Option Sensor}
    (hAsks : Asks filter wanted) : wanted? Sensor.ofJson filter = .ok wanted := by
  cases hAsks with
  | absent => rfl
  | empty => rfl
  | @named name sensor hName =>
    have hNonempty : name ≠ "" := by
      rintro rfl
      revert hName
      cases sensor <;> decide
    simp [wanted?, Option.filter, hNonempty, hName, Sensor.ofJson_label, Except.map]

/-- The limit leaves none of so many flows out. -/
def Admits (limit : Option Int) (count : Nat) : Prop := ∀ most, limit = some most → count ≤ most

theorem limited_of_admits {α : Type} {items : List α} {limit : Option Int}
    (hAdmits : Admits limit items.length) : limited items limit = items := by
  cases limit with
  | none => rfl
  | some most =>
    have hCount := hAdmits most rfl
    rw [limited, if_pos (by omega), List.take_of_length_le (by omega)]

theorem limited_natCast {α : Type} (items : List α) (limit : Nat) :
    limited items (some (limit : Int)) = items.take (min limit items.length) := by
  rw [limited, if_pos (Int.natCast_nonneg limit), Int.toNat_natCast, ← List.take_eq_take_min]

theorem flows_of_asks {sensor : Option String} {wanted : Option Sensor} (hAsks : Asks sensor wanted)
    (report : Report) (g : Graph) (least : Rat) (limit : Option Int) :
    flows report g sensor least limit = .ok [
      ("total_flows", .int (report.flows.countP (passes wanted least))),
      ("flows", .arr ((limited ((byConfidence report.flows).filter (passes wanted least)) limit).map
        (flowToJson g)))] := by
  simp only [flows, wanted?_of_asks hAsks, byConfidence_selectFlows,
    (ranked_byConfidence report.flows).length_filter]

end Query

namespace Session
open Query

/-- The session is asked about this report, which has this graph. -/
structure Serves (session : Session) (project : String) (report : Report) (g : Graph) : Prop where
  ready : session.isReady = true
  loaded : (session.bench.loaded? project).2 = .ok (some report)
  graph : report.graph = some g

def flowsOf (session : Session) (project : String) (sensor : Option String) (least : Rat)
    (limit : Option Int) : Reply :=
  (session.ask project fun report g => Query.flows report g sensor least limit).2

theorem flowsOf_eq {session : Session} {project : String} {report : Report} {g : Graph}
    (hServes : Serves session project report g) (sensor : Option String) (least : Rat)
    (limit : Option Int) :
    session.flowsOf project sensor least limit = Query.flows report g sensor least limit := by
  obtain ⟨hReady, hLoaded, hGraph⟩ := hServes
  simp only [flowsOf, ask, request, hReady, if_true, hLoaded]
  cases report
  cases hGraph
  rfl

/-- All answers about flows are cut from one ranking, which is the answer without filters and
limit. The total counts the stored flows that pass the filters, and the list shows the first ones
of the ranking that do, each by its sensor, its confidence and the names on its path. -/
theorem flows_cut_from_ranking {session : Session} {project : String} {report : Report} {g : Graph}
    (hServes : Serves session project report g) :
    let shown : Flow → Json := fun flow => .obj [
      ("sensor_type", .str flow.sensor.label),
      ("confidence", .float flow.confidence),
      ("path", Json.strings (flow.path.map g.nameOf))]
    ∃ ranked, Ranked report.flows ranked ∧
      (∀ sensor least limit, Asks sensor none → (∀ flow ∈ report.flows, least ≤ flow.confidence) →
        Admits limit report.flows.length →
        session.flowsOf project sensor least limit = .ok [
          ("total_flows", .int report.flows.length),
          ("flows", .arr (ranked.map shown))]) ∧
      ∀ sensor wanted, Asks sensor wanted → ∀ (least : Rat) (limit : Nat),
        let total := report.flows.countP (passes wanted least)
        session.flowsOf project sensor least (some limit) = .ok [
          ("total_flows", .int total),
          ("flows", .arr (((ranked.filter (passes wanted least)).take (min limit total)).map
            shown))] := by
  intro shown
  have hRanked := ranked_byConfidence report.flows
  refine ⟨byConfidence report.flows, hRanked, ?_, ?_⟩
  · intro sensor least limit hAsks hLeast hLimit
    have hPasses : ∀ flow ∈ report.flows, passes none least flow = true := by
      intro flow hFlow
      simpa [passes] using hLeast flow hFlow
    have hAll : (byConfidence report.flows).filter (passes none least) =
        byConfidence report.flows :=
      List.filter_eq_self.2 fun flow hFlow => hPasses flow (hRanked.perm.mem_iff.1 hFlow)
    rw [flowsOf_eq hServes, flows_of_asks hAsks, hAll, List.countP_eq_length.2 hPasses,
      limited_of_admits (by rwa [hRanked.perm.length_eq])]
    rfl
  · intro sensor wanted hAsks least limit total
    rw [flowsOf_eq hServes, flows_of_asks hAsks, limited_natCast, hRanked.length_filter]
    rfl

theorem flows_cut_from_ranking_light :
    let dim : Flow := { sensor := .light, path := ["a"], confidence := 1 / 2 }
    let place : Flow := { sensor := .location, path := ["b"], confidence := 9 / 10 }
    let bright : Flow := { sensor := .light, path := ["c"], confidence := 9 / 10 }
    let report : Report :=
      { success := true, graph := some {}, flows := [dim, place, bright] }
    let session : Session :=
      { isReady := true
        bench := {
          tree := {}
          results := [(["p"], report)]
          fresh := { node := fun _ => "", edge := fun _ => "", issue := fun _ => "" } } }
    let shown : Flow → Json := fun flow => .obj [
      ("sensor_type", .str flow.sensor.label),
      ("confidence", .float flow.confidence),
      ("path", Json.strings (flow.path.map ({} : Graph).nameOf))]
    Serves session "/p" report {} ∧
      ∃ ranked, Ranked report.flows ranked ∧
        session.flowsOf "/p" none 0 none = .ok [
          ("total_flows", .int 3), ("flows", .arr (ranked.map shown))] ∧
        session.flowsOf "/p" (some "light") (1 / 2) (some (1 : Nat)) = .ok [
          ("total_flows", .int 2),
          ("flows", .arr (((ranked.filter (passes (some .light) (1 / 2))).take 1).map shown))] := by
  intro dim place bright report session shown
  have hServes : Serves session "/p" report {} := by
    refine ⟨rfl, ?_, rfl⟩
    have hResult : session.bench.result? "/p" = some report := by decide +kernel
    simp only [Workbench.loaded?, hResult]
    rfl
  obtain ⟨ranked, hRanked, hAll, hSome⟩ := flows_cut_from_ranking hServes
  refine ⟨hServes, ranked, hRanked, ?_, ?_⟩
  · exact hAll none 0 none .absent (by decide +kernel) (by rintro most ⟨⟩)
  · have hTotal : report.flows.countP (passes (some .light) (1 / 2)) = 2 := by decide +kernel
    have hLight := hSome (some "light") (some .light) (.named (by decide +kernel)) (1 / 2) 1
    simp only [hTotal] at hLight
    exact hLight

end Session
end SensorFlow

import SensorFlow.Service.Error
import SensorFlow.Text.CaseMap

/-!
# Questions about a report

Read-only views of the graph, the flows and the issues of a report. Nodes are shown by name.
-/
namespace SensorFlow
open Text
set_option autoImplicit false

namespace Report

/-- The counters of a report. -/
def summary (report : Report) : List (String × Json) :=
  let count (length : Graph → Nat) : Json := .int ((report.graph.map length).getD 0)
  [("project_path", Json.optional report.projectPath),
    ("total_files", .int report.totalFiles),
    ("total_classes", .int report.totalClasses),
    ("sensor_count", .int report.sensorCount),
    ("nodes", count (·.nodes.length)),
    ("edges", count (·.edges.length)),
    ("flows", .int report.flows.length),
    ("issues", .int report.issues.length)]

end Report

/-- How often each label occurs, in the order of first occurrence. -/
def tally (labels : List String) : Json :=
  .obj (labels.eraseDups.map fun label => (label, .int (labels.count label)))

namespace Graph

/-- The name of a node; an identifier without a node stands for itself. -/
def nameOf (g : Graph) (id : String) : String := ((g.node? id).map (·.name)).getD id

end Graph

namespace Query

def overview (report : Report) (g : Graph) : List (String × Json) :=
  [("project_path", Json.optional report.projectPath),
    ("total_files", .int report.totalFiles),
    ("total_classes", .int report.totalClasses),
    ("sensor_count", .int report.sensorCount),
    ("nodes_by_type", tally (g.nodes.map (·.role.label))),
    ("edges_by_type", tally (g.edges.map (·.kind.label))),
    ("flows_by_sensor", tally (report.flows.map (·.sensor.label))),
    ("issues_by_severity", tally (report.issues.map (·.severity.label)))]

/-- The alternative that a filter names in any letter case; an empty filter names none. -/
def wanted? {α : Type} (read : Json → Json.Decoded α) (filter : Option String) :
    Json.Decoded (Option α) :=
  match filter.filter (· != "") with
  | none => .ok none
  | some name => (read (.str (upper name))).map some

/-- The flows of a sensor, or of all, with at least some confidence. -/
def selectFlows (flows : List Flow) (sensor : Option Sensor) (least : Rat) : List Flow :=
  flows.filter fun flow => sensor.all (· == flow.sensor) && decide (least ≤ flow.confidence)

/-- The most trusted flows first, in their order otherwise. -/
def byConfidence (flows : List Flow) : List Flow :=
  flows.mergeSort fun a b => decide (b.confidence ≤ a.confidence)

/-- The first `limit` items; a negative limit leaves out as many at the end. -/
def limited {α : Type} (items : List α) (limit : Option Int) : List α :=
  match limit with
  | none => items
  | some limit =>
    if 0 ≤ limit then items.take limit.toNat else items.take (items.length - (-limit).toNat)

def flowToJson (g : Graph) (flow : Flow) : Json :=
  .obj [
    ("sensor_type", .str flow.sensor.label),
    ("confidence", .float flow.confidence),
    ("path", Json.strings (flow.path.map g.nameOf))]

def flows (report : Report) (g : Graph) (sensor : Option String) (least : Rat)
    (limit : Option Int) : Reply :=
  match wanted? Sensor.ofJson sensor with
  | .error _ => .error (.unknownSensor (sensor.getD ""))
  | .ok wanted =>
    let selected := byConfidence (selectFlows report.flows wanted least)
    .ok [
      ("total_flows", .int selected.length),
      ("flows", .arr ((limited selected limit).map (flowToJson g)))]

def issueToJson (g : Graph) (issue : Issue) : Json :=
  let names := ("nodes", Json.strings (issue.nodes.map g.nameOf))
  match issue.toJson with
  | .obj members => .obj (members ++ [names])
  | other => other

def issues (report : Report) (g : Graph) (severity kind : Option String) : Reply := do
  let filters : Json.Decoded (Option Severity × Option IssueKind) := do
    let severity ← wanted? Severity.ofJson severity
    let kind ← wanted? IssueKind.ofJson kind
    return (severity, kind)
  match filters with
  | .error error => .error (.badFilter error)
  | .ok (severity, kind) =>
    let selected := report.issues.filter fun issue =>
      severity.all (· == issue.severity) && kind.all (· == issue.kind)
    .ok [
      ("total_issues", .int selected.length),
      ("issues", .arr (selected.map (issueToJson g)))]

/-- An edge seen from one of its ends. -/
def edgeToJson (g : Graph) (side farEnd : String) (edge : Edge) : Json :=
  .obj [
    ("type", .str edge.kind.label),
    (side, .str (g.nameOf farEnd)),
    ("location", (edge.location.map SourceLocation.toJson).getD .null)]

def node (g : Graph) (name : String) : Reply :=
  match g.nodeNamed? name with
  | none => .error (.nodeMissing name)
  | some node =>
    .ok [
      ("node", node.toJson),
      ("outgoing", .arr ((g.outgoing node.id).map fun edge => edgeToJson g "to" edge.target edge)),
      ("incoming", .arr ((g.incoming node.id).map fun edge =>
        edgeToJson g "from" edge.source edge))]

end Query
end SensorFlow

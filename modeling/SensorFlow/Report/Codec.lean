import SensorFlow.Report.Basic
import SensorFlow.Symbol.Codec

/-!
# Graphs, issues and reports as JSON

A node, edge or issue without an identifier gets a new one; `fresh` names the ones at each position
of a list. Members are read with the types that they are written with: a document in which a member
has another type, such as a count with a fraction, is refused, and no member is taken over unread.
-/
namespace SensorFlow
open Json
set_option autoImplicit false

/-- New identifiers by position in the list of nodes, edges and issues. -/
structure FreshIds where
  node : Nat → String
  edge : Nat → String
  issue : Nat → String

/-- Reads a list whose items are told their positions. -/
def asIndexed {α : Type} (read : Nat → Json → Decoded α) : Json → Decoded (List α)
  | .arr items => (items.zipIdx).mapM fun item => read item.2 item.1
  | _ => .error .wrongShape

def NodeFacts.toJson (f : NodeFacts) : Json :=
  .obj [
    ("has_lifecycle", .bool f.hasLifecycle),
    ("thread_hint", .str f.threadHint.label),
    ("state_exposure", strings f.stateExposure)]

def NodeFacts.ofJson (json : Json) : Decoded NodeFacts := do
  let members ← asObject json
  return {
    threadHint := ← defaulted members "thread_hint" .unknown
      (asLabel "ThreadHint" ThreadHint.all ThreadHint.label)
    hasLifecycle := ← defaulted members "has_lifecycle" false asBool
    stateExposure := ← defaulted members "state_exposure" [] (asList asString) }

def NodeRole.ofJson (json : Json) : Decoded NodeRole := asLabel "NodeType" all label json

def Node.toJson (n : Node) : Json :=
  .obj [
    ("id", .str n.id),
    ("name", .str n.name),
    ("qualified_name", .str n.qualifiedName),
    ("type", .str n.role.label),
    ("file_path", .str n.filePath),
    ("methods", strings n.methods),
    ("sensor_types", strings (n.sensors.map Sensor.label)),
    ("metadata", n.facts.toJson)]

def Node.ofJson (fresh : String) (json : Json) : Decoded Node := do
  let members ← asObject json
  let role ← (deciding members "type") >>= NodeRole.ofJson
  let sensors ← defaulted members "sensor_types" [] (asList Sensor.ofJson)
  let facts ← defaulted members "metadata" {} NodeFacts.ofJson
  return {
    id := ← defaulted members "id" fresh asString
    name := ← required members "name" asString
    role := role
    filePath := ← required members "file_path" asString
    qualifiedName := ← defaulted members "qualified_name" "" asString
    methods := ← defaulted members "methods" [] (asList asString)
    sensors := sensors
    facts := facts }

def SourceLocation.toJson (l : SourceLocation) : Json :=
  .obj [("file_path", .str l.filePath), ("line_number", .int l.line)]

def SourceLocation.ofJson (json : Json) : Decoded SourceLocation := do
  let members ← asObject json
  return {
    filePath := ← required members "file_path" asString
    line := ← required members "line_number" asInt }

/-- A part that is absent if the value stands for nothing. -/
def asPart {α : Type} (read : Json → Decoded α) (json : Json) : Decoded (Option α) :=
  if json.isEmpty then .ok none else (read json).map some

def EdgeKind.ofJson (json : Json) : Decoded EdgeKind := asLabel "EdgeType" all label json

def Edge.toJson (e : Edge) : Json :=
  .obj [
    ("id", .str e.id),
    ("from_id", .str e.source),
    ("to_id", .str e.target),
    ("type", .str e.kind.label),
    ("source_location", (e.location.map SourceLocation.toJson).getD .null)]

def Edge.ofJson (fresh : String) (json : Json) : Decoded Edge := do
  let members ← asObject json
  let kind ← (deciding members "type") >>= EdgeKind.ofJson
  let location ← defaulted members "source_location" none (asPart SourceLocation.ofJson)
  return {
    id := ← defaulted members "id" fresh asString
    source := ← required members "from_id" asString
    target := ← required members "to_id" asString
    kind := kind
    location := location }

def Graph.toJson (g : Graph) : Json :=
  .obj [("nodes", .arr (g.nodes.map Node.toJson)), ("edges", .arr (g.edges.map Edge.toJson))]

def Graph.ofJson (fresh : FreshIds) (json : Json) : Decoded Graph := do
  let members ← asObject json
  return {
    nodes := ← defaulted members "nodes" [] (asIndexed fun i => Node.ofJson (fresh.node i))
    edges := ← defaulted members "edges" [] (asIndexed fun i => Edge.ofJson (fresh.edge i)) }

def Flow.toJson (f : Flow) : Json :=
  .obj [
    ("sensor_type", .str f.sensor.label),
    ("path", strings f.path),
    ("confidence", .float f.confidence)]

def Flow.ofJson (json : Json) : Decoded Flow := do
  let members ← asObject json
  let sensor ← (deciding members "sensor_type") >>= Sensor.ofJson
  return {
    sensor := sensor
    path := ← required members "path" (asList asString)
    confidence := ← defaulted members "confidence" 1 asNumber }

def Issue.toJson (i : Issue) : Json :=
  .obj [
    ("id", .str i.id),
    ("type", .str i.kind.label),
    ("severity", .str i.severity.label),
    ("description", .str i.description),
    ("recommendation", .str i.recommendation),
    ("node_refs", strings i.nodes),
    ("code_refs", .arr (i.code.map SourceLocation.toJson))]

def Severity.ofJson (json : Json) : Decoded Severity := asLabel "Severity" all label json

def IssueKind.ofJson (json : Json) : Decoded IssueKind := asLabel "IssueType" all label json

def Issue.ofJson (fresh : String) (json : Json) : Decoded Issue := do
  let members ← asObject json
  let kind ← (deciding members "type") >>= IssueKind.ofJson
  let severity ← (deciding members "severity") >>= Severity.ofJson
  let code ← defaulted members "code_refs" [] (asList SourceLocation.ofJson)
  return {
    id := ← defaulted members "id" fresh asString
    kind := kind
    severity := severity
    description := ← required members "description" asString
    recommendation := ← required members "recommendation" asString
    nodes := ← defaulted members "node_refs" [] (asList asString)
    code := code }

def Report.toJson (r : Report) : Json :=
  .obj [
    ("success", .bool r.success),
    ("project_path", optional r.projectPath),
    ("graph", (r.graph.map Graph.toJson).getD .null),
    ("flows", .arr (r.flows.map Flow.toJson)),
    ("issues", .arr (r.issues.map Issue.toJson)),
    ("total_files", .int r.totalFiles),
    ("total_classes", .int r.totalClasses),
    ("sensor_count", .int r.sensorCount),
    ("error_message", optional r.errorMessage)]

def Report.ofJson (fresh : FreshIds) (json : Json) : Decoded Report := do
  let members ← asObject json
  let graph ← defaulted members "graph" none (asPart (Graph.ofJson fresh))
  let flows ← defaulted members "flows" [] (asList Flow.ofJson)
  let issues ← defaulted members "issues" [] (asIndexed fun i => Issue.ofJson (fresh.issue i))
  return {
    success := ← required members "success" asBool
    projectPath := ← defaulted members "project_path" none (asOptional asString)
    graph := graph
    flows := flows
    issues := issues
    totalFiles := ← defaulted members "total_files" 0 asInt
    totalClasses := ← defaulted members "total_classes" 0 asInt
    sensorCount := ← defaulted members "sensor_count" 0 asInt
    errorMessage := ← defaulted members "error_message" none (asOptional asString) }

end SensorFlow

import SensorFlow.Graph.Reach
import SensorFlow.Issue.Basic
import SensorFlow.Symbol.Table
import SensorFlow.Text.CaseMap

/-!
# Detecting issues

Four rules, reported in this order: listeners that are never unregistered, sensor data handled on
the main thread, listeners registered twice, and sensor data that may reach the network or storage.
Issues are named by their position.
-/
namespace SensorFlow
open Text
set_option autoImplicit false

def mentionsRegistration (call : String) : Bool := contains call "registerListener"

def unregisters (call : String) : Bool := contains call "unregisterListener"

def registers (call : String) : Bool := mentionsRegistration call && !unregisters call

/-- Words in the name of network and storage classes. -/
def sinkWords : List String := ["http", "retrofit", "database", "room", "sharedpreferences", "file"]

def Node.isSink (node : Node) : Bool := sinkWords.any (contains (lower node.name))

/-- The last node with that qualified name; the empty name has none. -/
def Graph.nodeOfClass? (g : Graph) (className : String) : Option Node :=
  if className.isEmpty then none
  else g.nodes.reverse.find? (·.qualifiedName == className)

namespace Issue

def unregisteredListener (g : Graph) (c : ClassSymbol) : Option Issue :=
  match c.methods.find? fun method => method.calls.any registers with
  | none => none
  | some method =>
    if c.calls.any unregisters then none
    else some
      { id := ""
        kind := .unregisteredListener
        severity := .high
        description := "Sensor listener registered but never unregistered in " ++ c.name
        recommendation := "Add unregisterListener() in onPause() or onDestroy() to avoid battery drain"
        nodes := (g.nodeOfClass? c.qualifiedName).toList.map (·.id)
        code := [{ filePath := c.filePath, line := method.line }] }

def mainThread (source shown : Node) : Issue where
  id := ""
  kind := .mainThreadSensor
  severity := .medium
  description := "Sensor data from " ++ source.name ++
    " processed directly on the main thread in " ++ shown.name
  recommendation := "Move sensor data processing to a background thread or use coroutines"
  nodes := [source.id, shown.id]

/-- Each registering call of a class with the line of the method that makes it. -/
def registrations (c : ClassSymbol) : List (String × Int) :=
  c.methods.flatMap fun method =>
    (method.calls.filter mentionsRegistration).map fun call => (call, method.line)

def duplicateListener (c : ClassSymbol) (call : String) : Option Issue :=
  match (registrations c).filter (·.1 == call) with
  | (_, line) :: _ :: more => some
    { id := ""
      kind := .duplicateListener
      severity := .medium
      description := toString (more.length + 2) ++ " identical listener registrations (" ++ call ++
        ") in " ++ c.name
      recommendation := "Ensure each sensor listener is registered only once"
      code := [{ filePath := c.filePath, line := line }] }
  | _ => none

def privacyLeak (source sink : Node) : Issue where
  id := ""
  kind := .privacyLeak
  severity := .high
  description := "Potential privacy leak: sensor data from " ++ source.name ++ " may flow to " ++
    sink.name
  recommendation := "Obtain user consent before transmitting or storing sensor data"
  nodes := [source.id, sink.id]

end Issue

def unregisteredListeners (table : SymbolTable) (g : Graph) : List Issue :=
  table.classes.filterMap (Issue.unregisteredListener g)

/-- An edge from a source to the user interface is taken as work on the main thread. -/
def mainThreadSensors (g : Graph) : List Issue :=
  (g.nodesOf .sensorSource).flatMap fun source =>
    let targets := (g.outgoing source.id).map (·.target)
    ((g.nodesOf .ui).filter fun shown => targets.contains shown.id).map (Issue.mainThread source)

/-- The registering calls that a class makes at least twice, by their first occurrence. -/
def duplicateListeners (table : SymbolTable) : List Issue :=
  table.classes.flatMap fun c =>
    ((Issue.registrations c).map (·.1)).eraseDups.filterMap (Issue.duplicateListener c)

def privacyLeaks (g : Graph) : List Issue :=
  (g.nodesOf .sensorSource).flatMap fun source =>
    let reached := g.reachable source.id
    ((g.nodes.filter (·.isSink)).filter fun sink => reached.contains sink.id).map
      (Issue.privacyLeak source)

/-- All issues, rule by rule. -/
def issues (table : SymbolTable) (g : Graph) : List Issue :=
  (unregisteredListeners table g ++ mainThreadSensors g ++ duplicateListeners table ++
    privacyLeaks g).mapIdx fun pos issue => { issue with id := s!"i{pos}" }

end SensorFlow

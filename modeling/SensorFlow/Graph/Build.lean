import SensorFlow.Graph.Basic
import SensorFlow.Symbol.CallTarget
import SensorFlow.Text.CaseMap

/-!
# Building the graph

Each class of the symbol table becomes a node. A call that is resolved to another class becomes an
edge whose kind follows from the name of the method, and reactive state is taken to reach every
class that owns or shows state. Nodes and edges are named by their position.
-/
namespace SensorFlow
open Text
set_option autoImplicit false

namespace EdgeKind

/-- The methods that hand a value to reactive state. -/
def stateWriters : List String := ["postValue", "setValue", "emit", "tryEmit"]

/-- The kind of an edge for a call of `method` on a class. -/
def ofCall (method className : String) : EdgeKind :=
  let lowered := lower method
  if contains lowered "registerlistener" || contains lowered "listening" then usesSensorData
  else if contains (lower className) "sensor" &&
      (contains method "get" || contains method "read") then usesSensorData
  else if startsWith "set".toList method.toList || contains method "update" ||
      stateWriters.contains method then writesState
  else if startsWith "get".toList method.toList || contains method "observe" ||
      contains method "collect" then readsState
  else calls

/-- Whether data also comes back along a call of this kind. -/
def answers : EdgeKind → Bool
  | readsState => true
  | usesSensorData => true
  | _ => false

end EdgeKind

namespace ClassSymbol

def isShown (c : ClassSymbol) : Bool := c.isActivity || c.isFragment || c.isComposable

/-- Whether reactive state is taken to reach the class. -/
def observesState (c : ClassSymbol) : Bool := c.isShown || c.isViewModel

def nodeRole (c : ClassSymbol) (isSource : Bool) : NodeRole :=
  if isSource then .sensorSource
  else if c.isViewModel then .viewModel
  else if c.isShown then .ui
  else if ["repository", "manager"].any (contains (lower c.name)) then .logic
  else .generic

/-- Texts of calls that move work off the main thread. -/
def backgroundMarks : List String := ["withContext", "Executor", "Thread", "HandlerThread"]

def threadHint (c : ClassSymbol) : ThreadHint :=
  if c.isShown then .main
  else if c.calls.any fun call => backgroundMarks.any (contains call) then .background
  else .unknown

def reactiveFields (c : ClassSymbol) : List FieldSymbol := c.fields.filter (·.isReactive)

def toNode (c : ClassSymbol) (id : String) (sensors : List Sensor) : Node where
  id := id
  name := c.name
  role := c.nodeRole (!sensors.isEmpty)
  filePath := c.filePath
  qualifiedName := c.qualifiedName
  methods := c.methods.map (·.qualifiedName)
  sensors := sensors
  facts :=
    { hasLifecycle := c.isActivity || c.isFragment
      threadHint := c.threadHint
      stateExposure := c.reactiveFields.map (·.type) }

end ClassSymbol

/-- The sensors that entry points give to a class, each once, in the order of first mention. -/
def sensorsOf (entries : List EntryPoint) (className : String) : List Sensor :=
  ((entries.filter (·.className == className)).map (·.sensor)).eraseDups

/-- An edge between classes, before it is named. -/
structure Link where
  source : String
  target : String
  kind : EdgeKind
  location : Option SourceLocation := none
  deriving Repr, DecidableEq

namespace SymbolTable

/-- The links of one call: the call itself, and for a reading call the data coming back. -/
def linksOfCall (table : SymbolTable) (caller : ClassSymbol) (method : MethodSymbol)
    (call : String) : List Link :=
  match table.receiver? Tier.all caller call with
  | none => []
  | some receiver =>
    if receiver.qualifiedName == caller.qualifiedName then []
    else
      let kind := EdgeKind.ofCall (CallTarget.ofString call).method receiver.name
      let located : Link :=
        { source := caller.qualifiedName
          target := receiver.qualifiedName
          kind := kind
          location := some { filePath := caller.filePath, line := method.line } }
      let returned : Link :=
        { source := receiver.qualifiedName
          target := caller.qualifiedName
          kind := .dataFlow }
      if kind.answers then [located, returned] else [located]

def callLinks (table : SymbolTable) (caller : ClassSymbol) : List Link :=
  caller.methods.flatMap fun method => method.calls.flatMap (table.linksOfCall caller method)

def observers (table : SymbolTable) : List ClassSymbol := table.classes.filter (·.observesState)

/-- Every reactive field reaches every observer, the owner included. -/
def stateLinks (table : SymbolTable) (owner : ClassSymbol) : List Link :=
  owner.reactiveFields.flatMap fun _ =>
    table.observers.map fun observer =>
      { source := owner.qualifiedName, target := observer.qualifiedName, kind := .writesState }

def links (table : SymbolTable) : List Link :=
  table.classes.flatMap fun c => table.callLinks c ++ table.stateLinks c

/-- The name of the node of a class: its position among the classes. -/
def nodeId (table : SymbolTable) (className : String) : String :=
  s!"n{table.classes.findIdx (·.qualifiedName == className)}"

/-- The graph of the classes with the sensors that the entry points give them. -/
def graph (table : SymbolTable) (entries : List EntryPoint) : Graph where
  nodes := table.classes.mapIdx fun pos c =>
    c.toNode s!"n{pos}" (sensorsOf entries c.qualifiedName)
  edges := table.links.mapIdx fun pos link =>
    { id := s!"e{pos}"
      source := table.nodeId link.source
      target := table.nodeId link.target
      kind := link.kind
      location := link.location }

end SymbolTable
end SensorFlow

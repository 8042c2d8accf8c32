import SensorFlow.Sensor

/-!
# The component graph

One node per class and typed edges between them, referenced by identifiers. Node and edge lists
are arbitrary: identifiers may repeat, and an edge may name a node that is not there.
-/
namespace SensorFlow
set_option autoImplicit false

/-- The part that a class plays. -/
inductive NodeRole where
  | sensorSource
  | logic
  | viewModel
  | ui
  | generic
  deriving Repr, DecidableEq

namespace NodeRole

def all : List NodeRole := [sensorSource, logic, viewModel, ui, generic]

def label : NodeRole → String
  | sensorSource => "SENSOR_SOURCE"
  | logic => "LOGIC"
  | viewModel => "VIEWMODEL"
  | ui => "UI"
  | generic => "GENERIC"

end NodeRole

/-- Where a class is likely to run. -/
inductive ThreadHint where
  | main
  | background
  | unknown
  deriving Repr, DecidableEq

namespace ThreadHint

def all : List ThreadHint := [main, background, unknown]

def label : ThreadHint → String
  | main => "MAIN"
  | background => "BACKGROUND"
  | unknown => "UNKNOWN"

end ThreadHint

inductive EdgeKind where
  | calls
  | readsState
  | writesState
  | usesSensorData
  | lifecycleLink
  | dataFlow
  deriving Repr, DecidableEq

namespace EdgeKind

def all : List EdgeKind := [calls, readsState, writesState, usesSensorData, lifecycleLink, dataFlow]

def label : EdgeKind → String
  | calls => "CALLS"
  | readsState => "READS_STATE"
  | writesState => "WRITES_STATE"
  | usesSensorData => "USES_SENSOR_DATA"
  | lifecycleLink => "LIFECYCLE_LINK"
  | dataFlow => "DATA_FLOW"

end EdgeKind

/-- Facts about the class behind a node. -/
structure NodeFacts where
  hasLifecycle : Bool := false
  threadHint : ThreadHint := .unknown
  /-- The types of reactive fields. -/
  stateExposure : List String := []
  deriving Repr, DecidableEq

structure Node where
  id : String
  name : String
  role : NodeRole
  filePath : String
  qualifiedName : String := ""
  methods : List String := []
  sensors : List Sensor := []
  facts : NodeFacts := {}
  deriving Repr, DecidableEq

structure SourceLocation where
  filePath : String
  line : Int
  deriving Repr, DecidableEq

structure Edge where
  id : String
  source : String
  target : String
  kind : EdgeKind
  location : Option SourceLocation := none
  deriving Repr, DecidableEq

structure Graph where
  nodes : List Node := []
  edges : List Edge := []
  deriving Repr, DecidableEq

namespace Graph

/-- The node with an identifier; of several the last one counts. -/
def node? (g : Graph) (id : String) : Option Node := g.nodes.reverse.find? (·.id == id)

/-- The edges that leave an identifier, in the order of the edge list. -/
def outgoing (g : Graph) (id : String) : List Edge := g.edges.filter (·.source == id)

def incoming (g : Graph) (id : String) : List Edge := g.edges.filter (·.target == id)

/-- The first node with that qualified name, else the first with that simple name. -/
def nodeNamed? (g : Graph) (name : String) : Option Node :=
  (g.nodes.find? (·.qualifiedName == name)).or (g.nodes.find? (·.name == name))

def nodesOf (g : Graph) (role : NodeRole) : List Node := g.nodes.filter (·.role == role)

end Graph

/-- A way that data of one sensor takes from its source to a user interface. -/
structure Flow where
  sensor : Sensor
  path : List String
  confidence : Rat := 1
  deriving Repr, DecidableEq

end SensorFlow

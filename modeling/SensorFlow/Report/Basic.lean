import SensorFlow.Issue.Basic

/-!
# Reports

The outcome of one analysis run: either a failure with its message, or the graph with the flows,
the issues and the counters.
-/
namespace SensorFlow
set_option autoImplicit false

structure Report where
  success : Bool
  projectPath : Option String := none
  graph : Option Graph := none
  flows : List Flow := []
  issues : List Issue := []
  totalFiles : Int := 0
  totalClasses : Int := 0
  sensorCount : Int := 0
  errorMessage : Option String := none
  deriving Repr, DecidableEq

def Report.failure (message : String) (projectPath : Option String) : Report :=
  { success := false, projectPath := projectPath, errorMessage := some message }

/-- A checkpoint of a run. -/
structure Progress where
  fraction : Rat
  message : String
  deriving Repr, DecidableEq

end SensorFlow

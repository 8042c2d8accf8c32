import SensorFlow.Graph.Basic

/-!
# Issues

A finding of the analysis, with pointers into the graph and the sources.
-/
namespace SensorFlow
set_option autoImplicit false

inductive IssueKind where
  | unregisteredListener
  | mainThreadSensor
  | overSampling
  | duplicateListener
  | missingPermission
  | privacyLeak
  deriving Repr, DecidableEq

namespace IssueKind

def all : List IssueKind :=
  [unregisteredListener, mainThreadSensor, overSampling, duplicateListener, missingPermission,
    privacyLeak]

def label : IssueKind → String
  | unregisteredListener => "UNREGISTERED_LISTENER"
  | mainThreadSensor => "MAIN_THREAD_SENSOR"
  | overSampling => "OVER_SAMPLING"
  | duplicateListener => "DUPLICATE_LISTENER"
  | missingPermission => "MISSING_PERMISSION"
  | privacyLeak => "PRIVACY_LEAK"

end IssueKind

inductive Severity where
  | low
  | medium
  | high
  deriving Repr, DecidableEq

namespace Severity

def all : List Severity := [low, medium, high]

def label : Severity → String
  | low => "LOW"
  | medium => "MEDIUM"
  | high => "HIGH"

end Severity

structure Issue where
  id : String
  kind : IssueKind
  severity : Severity
  description : String
  recommendation : String
  nodes : List String := []
  code : List SourceLocation := []
  deriving Repr, DecidableEq

end SensorFlow

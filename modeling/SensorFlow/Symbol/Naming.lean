import SensorFlow.Text.CaseMap
import SensorFlow.Text.Scan

/-!
# Names of classes and call targets

A call on a sensor or location manager, and every listener registration, is written with the name
of the framework class, so that it is recognised whatever the variable is called.
-/
namespace SensorFlow
open Text
set_option autoImplicit false

def sensorManager : String := "android.hardware.SensorManager"

def locationManager : String := "android.location.LocationManager"

def qualifiedName (scope name : String) : String :=
  if scope.isEmpty then name else scope ++ "." ++ name

/-- The call target for `method` called on `receiver`; no receiver is the empty text. -/
def callTarget (receiver method : String) : String :=
  let lowered := lower receiver
  if receiver == "SensorManager" || contains lowered "sensormanager" then
    sensorManager ++ "." ++ method
  else if receiver == "LocationManager" || contains lowered "locationmanager" then
    locationManager ++ "." ++ method
  else if contains (lower method) "registerlistener" then
    sensorManager ++ "." ++ method
  else qualifiedName receiver method

end SensorFlow

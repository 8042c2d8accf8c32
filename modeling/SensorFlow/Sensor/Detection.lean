import SensorFlow.Sensor
import SensorFlow.Symbol.Basic
import SensorFlow.Text.CaseMap

/-!
# Where sensor data enters

A method is an entry point by its name, if the framework calls it with sensor data, and once more
for every call in it that acquires a sensor.
-/
namespace SensorFlow
open Text
set_option autoImplicit false

namespace Sensor

/-- Words of a registration that tell the sensor; the first one found counts. -/
def keywords : List (String × Sensor) :=
  [("ACCELEROMETER", accelerometer), ("GYROSCOPE", gyroscope), ("LIGHT", light),
    ("PROXIMITY", proximity), ("MAGNETIC", magnetometer), ("STEP", stepCounter)]

/-- The sensor that a registration names, in any letter case. -/
def ofRegistration (call : String) : Sensor :=
  let raised := upper call
  match keywords.find? fun entry => contains raised entry.1 with
  | some (_, sensor) => sensor
  | none => other

/-- The sensor behind a method that the framework calls back. -/
def ofCallback? (method : String) : Option Sensor :=
  let lowered := lower method
  if method == "onSensorChanged" then some other
  else if ["onlocationchanged", "onlocationresult"].any (contains lowered) then some location
  else if ["oncameraframe", "onpreviewframe", "onimageavailable"].any (contains lowered) then
    some camera
  else none

/-- The sensor that a call acquires. -/
def ofCall? (call : String) : Option Sensor :=
  if contains call "registerListener" && contains call "Sensor" then some (ofRegistration call)
  else if contains call "AudioRecord" || contains call "MediaRecorder" then some microphone
  else none

end Sensor

namespace ClassSymbol

def entryPoint (c : ClassSymbol) (method : MethodSymbol) (sensor : Sensor) : EntryPoint where
  className := c.qualifiedName
  methodName := method.qualifiedName
  sensor := sensor
  filePath := c.filePath
  line := method.line

/-- The entry points of a class by method, the callback before the calls. -/
def entryPoints (c : ClassSymbol) : List EntryPoint :=
  c.methods.flatMap fun method =>
    ((Sensor.ofCallback? method.name).toList ++ method.calls.filterMap Sensor.ofCall?).map
      (c.entryPoint method)

end ClassSymbol

def entryPoints (classes : List ClassSymbol) : List EntryPoint :=
  classes.flatMap ClassSymbol.entryPoints

end SensorFlow

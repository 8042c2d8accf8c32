/-!
# Sensors

The kinds of sensing that the analysis tells apart, and the methods through which sensor data
enters a project.
-/
namespace SensorFlow
set_option autoImplicit false

inductive Sensor where
  | accelerometer
  | gyroscope
  | magnetometer
  | light
  | proximity
  | location
  | camera
  | microphone
  | stepCounter
  | other
  deriving Repr, DecidableEq

namespace Sensor

def all : List Sensor :=
  [accelerometer, gyroscope, magnetometer, light, proximity, location, camera, microphone,
    stepCounter, other]

def label : Sensor → String
  | accelerometer => "ACCELEROMETER"
  | gyroscope => "GYROSCOPE"
  | magnetometer => "MAGNETOMETER"
  | light => "LIGHT"
  | proximity => "PROXIMITY"
  | location => "LOCATION"
  | camera => "CAMERA"
  | microphone => "MICROPHONE"
  | stepCounter => "STEP_COUNTER"
  | other => "OTHER"

end Sensor

/-- A method that receives or acquires sensor data. -/
structure EntryPoint where
  className : String
  methodName : String
  sensor : Sensor
  filePath : String
  line : Int
  deriving Repr, DecidableEq

end SensorFlow

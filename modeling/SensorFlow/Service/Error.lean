import SensorFlow.File.Inventory
import SensorFlow.Json.Decode
import SensorFlow.Store.Cache

/-!
# What a request can fail with
-/
namespace SensorFlow
set_option autoImplicit false

inductive ServiceError where
  | notInitialized
  | projectMissing (path : String)
  | fileMissing (path : String)
  | unsupportedFile (path : String)
  | noAnalysis (project : String)
  | cacheNotCleared (project : String)
  | jobMissing (id : String)
  | jobNotActive (id : String)
  | unknownSensor (name : String)
  | nodeMissing (name : String)
  | cancelled
  /-- A filter names no alternative. -/
  | badFilter (error : DecodeError)
  | inventory (error : InventoryError)
  /-- A saved document is in the way of an answer. -/
  | document (failure : Cache.Failure)
  /-- An analysis ended with this message. -/
  | analysis (message : String)
  deriving Repr, DecidableEq

namespace ServiceError

def message : ServiceError → String
  | notInitialized => "Server not initialized"
  | projectMissing path => "Project path does not exist: " ++ path
  | fileMissing path => "File not found: " ++ path
  | unsupportedFile path => "Unsupported file type: " ++ path
  | noAnalysis project => "No analysis available for " ++ project
  | cacheNotCleared project => "Could not clear cache for " ++ project
  | jobMissing id => "Job not found: " ++ id
  | jobNotActive id => "Job " ++ id ++ " not found or already finished"
  | unknownSensor name => "Unknown sensor type: " ++ name
  | nodeMissing name => "Node not found: " ++ name
  | cancelled => "Analysis cancelled"
  | badFilter error => error.message
  | inventory error => error.message
  | document failure => failure.message
  | analysis message => message

def toJson (error : ServiceError) : Json :=
  .obj [("success", .bool false), ("error", .str error.message)]

end ServiceError

/-- The answer to a request: the members of a success, or what went wrong. -/
abbrev Reply := Except ServiceError (List (String × Json))

def Reply.toJson : Reply → Json
  | .ok members => .obj (("success", .bool true) :: members)
  | .error error => error.toJson

end SensorFlow

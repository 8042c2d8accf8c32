import SensorFlow.Json.Basic
import SensorFlow.Text.CaseMap
import SensorFlow.Text.Integer
import SensorFlow.Text.Printable

/-!
# Settings

The settings of the analyser come from environment variables, each with a default.
-/
namespace SensorFlow
open Text
set_option autoImplicit false

abbrev Environment := List (String × String)

structure Settings where
  workspacePath : String := "/workspace"
  parseWorkers : Int := 1
  followIgnoreRules : Bool := true
  excludePatterns : List String := []
  writeCache : Bool := true
  deriving Repr, DecidableEq

/-- A variable that should hold a whole number holds something else. -/
structure SettingsError where
  value : String
  deriving Repr, DecidableEq

/-- Long values are cut off in the message. -/
def SettingsError.message (error : SettingsError) : String :=
  "invalid literal for int() with base 10: " ++
    String.ofList ((quoted error.value).toList.take 200)

namespace Settings

def isTrue (value : String) : Bool := lower value == "true"

/-- The parts between commas, trimmed; blank ones are left out. -/
def patterns (value : String) : List String :=
  ((value.toList.splitOn ',').map fun part => String.ofList (trim part)).filter (· != "")

def ofEnvironment (env : Environment) : Except SettingsError Settings := do
  let value (name default : String) : String := (env.lookup name).getD default
  let workers := value "PARSE_WORKERS" "1"
  match integer? workers with
  | none => .error { value := workers }
  | some parseWorkers =>
    return {
      workspacePath := value "WORKSPACE_PATH" "/workspace"
      parseWorkers := parseWorkers
      followIgnoreRules := isTrue (value "FOLLOW_GITIGNORE" "true")
      excludePatterns := patterns (value "EXCLUDE_PATTERNS" "")
      writeCache := isTrue (value "WRITE_CACHE" "true") }

def toJson (settings : Settings) : Json :=
  .obj [
    ("workspace_path", .str settings.workspacePath),
    ("parse_workers", .int settings.parseWorkers),
    ("follow_gitignore", .bool settings.followIgnoreRules),
    ("exclude_patterns", Json.strings settings.excludePatterns),
    ("write_cache", .bool settings.writeCache)]

end Settings
end SensorFlow

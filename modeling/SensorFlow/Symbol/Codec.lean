import SensorFlow.Json.Decode
import SensorFlow.Sensor
import SensorFlow.Symbol.Basic

/-!
# Symbols as JSON
-/
namespace SensorFlow
open Json
set_option autoImplicit false

def Parameter.toJson (p : Parameter) : Json :=
  .obj [("name", .str p.name), ("type", .str p.type)]

def Parameter.ofJson (json : Json) : Decoded Parameter := do
  let members ← asObject json
  return {
    name := ← required members "name" asString
    type := ← required members "type" asString }

def MethodSymbol.toJson (m : MethodSymbol) : Json :=
  .obj [
    ("name", .str m.name),
    ("qualified_name", .str m.qualifiedName),
    ("return_type", .str m.returnType),
    ("line_number", .int m.line),
    ("parameters", .arr (m.parameters.map Parameter.toJson)),
    ("calls_to", strings m.calls),
    ("annotations", strings m.annotations)]

def MethodSymbol.ofJson (json : Json) : Decoded MethodSymbol := do
  let members ← asObject json
  let parameters ← defaulted members "parameters" [] (asList Parameter.ofJson)
  return {
    name := ← required members "name" asString
    qualifiedName := ← required members "qualified_name" asString
    returnType := ← required members "return_type" asString
    line := ← defaulted members "line_number" 0 asInt
    parameters := parameters
    calls := ← defaulted members "calls_to" [] (asList asString)
    annotations := ← defaulted members "annotations" [] (asList asString) }

def FieldSymbol.toJson (f : FieldSymbol) : Json :=
  .obj [
    ("name", .str f.name),
    ("type", .str f.type),
    ("is_live_data", .bool f.isLiveData),
    ("is_state_flow", .bool f.isStateFlow),
    ("is_flow", .bool f.isFlow),
    ("line_number", .int f.line)]

def FieldSymbol.ofJson (json : Json) : Decoded FieldSymbol := do
  let members ← asObject json
  return {
    name := ← required members "name" asString
    type := ← required members "type" asString
    isLiveData := ← defaulted members "is_live_data" false asBool
    isStateFlow := ← defaulted members "is_state_flow" false asBool
    isFlow := ← defaulted members "is_flow" false asBool
    line := ← defaulted members "line_number" 0 asInt }

def ClassSymbol.toJson (c : ClassSymbol) : Json :=
  .obj [
    ("name", .str c.name),
    ("qualified_name", .str c.qualifiedName),
    ("file_path", .str c.filePath),
    ("package_name", .str c.packageName),
    ("super_class", optional c.superClass),
    ("interfaces", strings c.interfaces),
    ("methods", .arr (c.methods.map MethodSymbol.toJson)),
    ("fields", .arr (c.fields.map FieldSymbol.toJson)),
    ("is_activity", .bool c.isActivity),
    ("is_fragment", .bool c.isFragment),
    ("is_view_model", .bool c.isViewModel),
    ("is_composable", .bool c.isComposable)]

def ClassSymbol.ofJson (json : Json) : Decoded ClassSymbol := do
  let members ← asObject json
  let methods ← defaulted members "methods" [] (asList MethodSymbol.ofJson)
  let fields ← defaulted members "fields" [] (asList FieldSymbol.ofJson)
  return {
    name := ← required members "name" asString
    qualifiedName := ← required members "qualified_name" asString
    filePath := ← required members "file_path" asString
    packageName := ← required members "package_name" asString
    superClass := ← defaulted members "super_class" none (asOptional asString)
    interfaces := ← defaulted members "interfaces" [] (asList asString)
    methods := methods
    fields := fields
    isActivity := ← defaulted members "is_activity" false asBool
    isFragment := ← defaulted members "is_fragment" false asBool
    isViewModel := ← defaulted members "is_view_model" false asBool
    isComposable := ← defaulted members "is_composable" false asBool }

def Sensor.ofJson (json : Json) : Decoded Sensor := asLabel "SensorType" all label json

def EntryPoint.toJson (e : EntryPoint) : Json :=
  .obj [
    ("class_qualified_name", .str e.className),
    ("method_qualified_name", .str e.methodName),
    ("sensor_type", .str e.sensor.label),
    ("file_path", .str e.filePath),
    ("line_number", .int e.line)]

def EntryPoint.ofJson (json : Json) : Decoded EntryPoint := do
  let members ← asObject json
  let sensor ← (deciding members "sensor_type") >>= Sensor.ofJson
  return {
    className := ← required members "class_qualified_name" asString
    methodName := ← required members "method_qualified_name" asString
    sensor := sensor
    filePath := ← required members "file_path" asString
    line := ← required members "line_number" asInt }

end SensorFlow

import SensorFlow.File.Path
import SensorFlow.Json.Decode
import SensorFlow.Text.CaseMap

/-!
# Source languages

How a source language is recognised by file extensions and how its classes are found. Languages
come from a configuration; of two that claim one extension the later one has it.
-/
namespace SensorFlow
open Json Text
set_option autoImplicit false

structure Language where
  name : String
  /-- In lower case, with their dots. -/
  extensions : List String
  extraction : String := "pattern"
  /-- The kinds of syntax tree nodes that play each role. -/
  nodeKinds : List (String × List String) := []
  deriving Repr, DecidableEq

namespace Language

def usesSyntaxTree (language : Language) : Bool := language.extraction == "tree_sitter"

def kindsOf (language : Language) (role : String) : List String :=
  (language.nodeKinds.lookup role).getD []

def kotlin : Language := { name := "kotlin", extensions := [".kt"] }

def java : Language where
  name := "java"
  extensions := [".java"]
  extraction := "tree_sitter"
  nodeKinds :=
    [("package", ["package_declaration"]),
      ("class", ["class_declaration", "interface_declaration"]),
      ("method", ["method_declaration"]),
      ("field", ["field_declaration"]),
      ("call", ["method_invocation"]),
      ("creation", ["object_creation_expression"])]

/-- The items that a list, the characters that a text and the keys that an object stands for. -/
def asItems : Json → Decoded (List Json)
  | .arr items => .ok items
  | .str text => .ok (text.toList.map fun c => .str c.toString)
  | .obj members => .ok ((members.map (·.1)).eraseDups.map .str)
  | _ => .error .wrongShape

def asExtension : Json → Decoded String
  | .str text => .ok (lower text)
  | _ => .error .notAnObject

/-- Reads the description of a language; only its extensions are required. -/
def ofJson (name : String) (json : Json) : Decoded Language :=
  match json with
  | .obj members => do
    let extensions ← (deciding members "extensions") >>= asItems
    return {
      name := name
      extensions := ← extensions.mapM asExtension
      extraction := ← defaulted members "extraction" "pattern" asString
      nodeKinds := ← defaulted members "node_types" [] fun kinds => do
        (← asObject kinds).mapM fun (role, names) => do
          return (role, ← (← asItems names).mapM asString) }
  | _ => .error .wrongShape

end Language

structure LanguageRegistry where
  languages : List Language
  deriving Repr, DecidableEq

namespace LanguageRegistry

def standard : LanguageRegistry := { languages := [Language.kotlin, Language.java] }

def ofJson (json : Json) : Decoded LanguageRegistry := do
  let members ← asObject json
  let names := (members.map (·.1)).eraseDups
  return {
    languages := ← names.mapM fun name =>
      Language.ofJson name ((member? name members).getD .null) }

def get? (registry : LanguageRegistry) (name : String) : Option Language :=
  registry.languages.find? (·.name == name)

/-- The language that the extension of a path tells. -/
def detect? (registry : LanguageRegistry) (path : Path) : Option Language :=
  let extension := lower path.suffix
  registry.languages.reverse.find? (·.extensions.contains extension)

end LanguageRegistry
end SensorFlow

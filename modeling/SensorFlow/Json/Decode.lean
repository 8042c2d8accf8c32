import SensorFlow.Json.Render

/-!
# Reading typed values off JSON

What can be wrong with a document, and the readers for its members. Members that nobody asks for
are ignored, so a document may hold more than its reader knows.
-/
namespace SensorFlow
open Text
set_option autoImplicit false

inductive DecodeError where
  /-- A key that decides how to read the rest is absent. -/
  | missingKey (key : String)
  /-- A value is none of the named alternatives. -/
  | notOneOf (shown kind : String)
  /-- A required member is absent. -/
  | missingMember
  /-- A value has the wrong shape. -/
  | wrongShape
  /-- An object is needed to look members up. -/
  | notAnObject
  deriving Repr, DecidableEq

def DecodeError.message : DecodeError → String
  | .missingKey key => quoted key
  | .notOneOf shown kind => shown ++ " is not a valid " ++ kind
  | .missingMember => "required member missing"
  | .wrongShape => "unexpected shape"
  | .notAnObject => "object expected"

namespace Json

abbrev Decoded (α : Type) := Except DecodeError α

mutual
/-- A value as messages show it. -/
def shown : Json → String
  | .null => "None"
  | .bool value => if value then "True" else "False"
  | .int value => toString value
  | .float value => renderFloat value
  | .nonFinite .undefined => "nan"
  | .nonFinite .infinity => "inf"
  | .nonFinite .minusInfinity => "-inf"
  | .str value => quoted value
  | .arr items => "[" ++ shownItems items ++ "]"
  | .obj members => "\x7b" ++ shownMembers members ++ "\x7d"

def shownItems : List Json → String
  | [] => ""
  | [item] => shown item
  | item :: rest => shown item ++ ", " ++ shownItems rest

def shownMembers : List (String × Json) → String
  | [] => ""
  | [(key, value)] => quoted key ++ ": " ++ shown value
  | (key, value) :: rest => quoted key ++ ": " ++ shown value ++ ", " ++ shownMembers rest
end

def asString : Json → Decoded String
  | .str value => .ok value
  | _ => .error .wrongShape

def asInt : Json → Decoded Int
  | .int value => .ok value
  | _ => .error .wrongShape

def asBool : Json → Decoded Bool
  | .bool value => .ok value
  | _ => .error .wrongShape

/-- A measured number, also one written as a whole number. -/
def asNumber : Json → Decoded Rat
  | .int value => .ok value
  | .float value => .ok value
  | _ => .error .wrongShape

def asOptional {α : Type} (read : Json → Decoded α) : Json → Decoded (Option α)
  | .null => .ok none
  | value => (read value).map some

def asList {α : Type} (read : Json → Decoded α) : Json → Decoded (List α)
  | .arr items => items.mapM read
  | _ => .error .wrongShape

/-- The members of an object. -/
def asObject : Json → Decoded (List (String × Json))
  | .obj members => .ok members
  | _ => .error .notAnObject

/-- One of the alternatives, found by its label. -/
def asLabel {α : Type} (kind : String) (all : List α) (label : α → String) (value : Json) :
    Decoded α :=
  match value with
  | .str text =>
    match all.find? fun a => label a == text with
    | some a => .ok a
    | none => .error (.notOneOf (quoted text) kind)
  | value => .error (.notOneOf (shown value) kind)

/-- A member without which the rest cannot be read. -/
def deciding (members : List (String × Json)) (key : String) : Decoded Json :=
  match member? key members with
  | some value => .ok value
  | none => .error (.missingKey key)

def required {α : Type} (members : List (String × Json)) (key : String)
    (read : Json → Decoded α) : Decoded α :=
  match member? key members with
  | some value => read value
  | none => .error .missingMember

def defaulted {α : Type} (members : List (String × Json)) (key : String) (default : α)
    (read : Json → Decoded α) : Decoded α :=
  match member? key members with
  | some value => read value
  | none => .ok default

end Json
end SensorFlow

import SensorFlow.Json.Render

/-!
# JSON over several lines

Every item and member stands on a line of its own, two blanks further in than the brackets around
it. Only printable ASCII is written as it is.
-/
namespace SensorFlow.Json
open Text
set_option autoImplicit false

/-- The escape of a UTF-16 unit. -/
def escapedUnit (unit : Nat) : List Char := '\\' :: 'u' :: hexPadded 4 unit

/-- The character, or its escape; beyond the basic plane that is a pair of surrogates. -/
def escapedAscii (c : Char) : List Char :=
  if c == '"' then ['\\', '"']
  else if c == '\\' then ['\\', '\\']
  else if c == '\n' then ['\\', 'n']
  else if c == '\r' then ['\\', 'r']
  else if c == '\t' then ['\\', 't']
  else if c.toNat == 0x08 then ['\\', 'b']
  else if c.toNat == 0x0c then ['\\', 'f']
  else if ' ' ≤ c && c ≤ '~' then [c]
  else if c.toNat < 0x10000 then escapedUnit c.toNat
  else
    let offset := c.toNat - 0x10000
    escapedUnit (0xd800 + offset / 0x400) ++ escapedUnit (0xdc00 + offset % 0x400)

def indentString (text : String) : String :=
  String.ofList ('"' :: text.toList.flatMap escapedAscii ++ ['"'])

/-- A line break and the blanks of a depth. -/
def newLine (depth : Nat) : String := "\n" ++ String.ofList (List.replicate (2 * depth) ' ')

mutual
/-- A value whose brackets stand at the given depth. -/
def indentFrom (depth : Nat) : Json → String
  | .arr (item :: rest) => "[" ++ indentItems depth (item :: rest) ++ newLine depth ++ "]"
  | .obj (member :: rest) =>
    "\x7b" ++ indentMembers depth (member :: rest) ++ newLine depth ++ "\x7d"
  | .str value => indentString value
  | other => other.render

def indentItems (depth : Nat) : List Json → String
  | [] => ""
  | [item] => newLine (depth + 1) ++ indentFrom (depth + 1) item
  | item :: rest =>
    newLine (depth + 1) ++ indentFrom (depth + 1) item ++ "," ++ indentItems depth rest

def indentMembers (depth : Nat) : List (String × Json) → String
  | [] => ""
  | [(key, value)] =>
    newLine (depth + 1) ++ indentString key ++ ": " ++ indentFrom (depth + 1) value
  | (key, value) :: rest =>
    newLine (depth + 1) ++ indentString key ++ ": " ++ indentFrom (depth + 1) value ++ "," ++
      indentMembers depth rest
end

/-- The text of a value over several lines. -/
def indent (value : Json) : String := indentFrom 0 value

end SensorFlow.Json

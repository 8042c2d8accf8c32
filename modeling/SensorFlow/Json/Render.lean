import SensorFlow.Json.Basic
import SensorFlow.Number.Binary
import SensorFlow.Text.Printable

/-!
# Writing JSON

One line without blanks. A floating-point number is written with the fewest digits that read back,
and always with a point or an exponent, so that it stays apart from a whole number.
-/
namespace SensorFlow.Json
open Text
set_option autoImplicit false

def escaped (c : Char) : List Char :=
  if c == '"' then ['\\', '"']
  else if c == '\\' then ['\\', '\\']
  else if c.toNat < 0x20 then '\\' :: 'u' :: hexPadded 4 c.toNat
  else [c]

def spellString (text : String) : List Char := '"' :: text.toList.flatMap escaped ++ ['"']

/-- Positional notation for a leading digit from the fourth place behind the point to the
sixteenth before it, an exponent elsewhere. -/
def renderDecimal (d : Number.Decimal) : String :=
  let digits := Nat.toDigits 10 d.digits
  let lead : Int := d.place + digits.length - 1
  if -4 ≤ lead && lead < 16 then
    if 0 ≤ d.place then String.ofList (digits ++ List.replicate d.place.toNat '0') ++ ".0"
    else
      let places := (-d.place).toNat
      let padded := List.replicate (places + 1 - digits.length) '0' ++ digits
      String.ofList (padded.take (padded.length - places)) ++ "." ++
        String.ofList (padded.drop (padded.length - places))
  else
    let mantissa :=
      match digits with
      | [] => "0"
      | [c] => String.ofList [c]
      | c :: rest => String.ofList (c :: '.' :: rest)
    mantissa ++ "e" ++ (if lead < 0 then "-" else "+") ++
      (if lead.natAbs < 10 then "0" else "") ++ toString lead.natAbs

/-- The digits without zeros at the end. -/
def trimZeros (d : Number.Decimal) : Number.Decimal :=
  let digits := (Nat.toDigits 10 d.digits).reverse
  let zeros := min (digits.takeWhile (· == '0')).length (digits.length - 1)
  ⟨d.digits / Nat.pow 10 zeros, d.place + zeros⟩

def renderFloat (x : Rat) : String :=
  if x.num = 0 then "0.0"
  else
    let text := renderDecimal (trimZeros (Number.shortest (if x < 0 then -x else x)))
    if x < 0 then "-" ++ text else text

mutual
def spell : Json → List Char
  | .null => "null".toList
  | .bool value => (if value then "true" else "false").toList
  | .int value => (toString value).toList
  | .float value => (renderFloat value).toList
  | .nonFinite value => value.word.toList
  | .str value => spellString value
  | .arr items => '[' :: spellItems items ++ [']']
  | .obj members => '\x7b' :: spellMembers members ++ ['\x7d']

def spellItems : List Json → List Char
  | [] => []
  | [item] => spell item
  | item :: rest => spell item ++ ',' :: spellItems rest

def spellMembers : List (String × Json) → List Char
  | [] => []
  | [(key, value)] => spellString key ++ ':' :: spell value
  | (key, value) :: rest => spellString key ++ ':' :: spell value ++ ',' :: spellMembers rest
end

/-- The text of a value on one line. -/
def render (value : Json) : String := String.ofList (spell value)

end SensorFlow.Json

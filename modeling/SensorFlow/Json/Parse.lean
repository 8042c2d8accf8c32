import SensorFlow.Json.Basic
import SensorFlow.Number.Binary
import SensorFlow.Text.Scan

/-!
# Reading JSON

A reader for one JSON text. Control characters inside strings, superfluous commas, anything behind
the value and values that are nested too deep are refused. Escapes that pair up to a character
beyond the basic plane become that character; a lone half becomes the replacement character.
-/
namespace SensorFlow.Json
open Text
set_option autoImplicit false

def isJsonBlank (c : Char) : Bool := c == ' ' || c == '\t' || c == '\n' || c == '\r'

def skip (text : List Char) : List Char := text.dropWhile isJsonBlank

def hexValue? (c : Char) : Option Nat :=
  if '0' ≤ c && c ≤ '9' then some (c.toNat - '0'.toNat)
  else if 'a' ≤ c && c ≤ 'f' then some (c.toNat - 'a'.toNat + 10)
  else if 'A' ≤ c && c ≤ 'F' then some (c.toNat - 'A'.toNat + 10)
  else none

/-- Four hexadecimal digits. -/
def readUnit? (text : List Char) : Option (Nat × List Char) :=
  match text with
  | a :: b :: c :: d :: rest => do
    let a ← hexValue? a
    let b ← hexValue? b
    let c ← hexValue? c
    let d ← hexValue? d
    some (((a * 16 + b) * 16 + c) * 16 + d, rest)
  | _ => none

def isHighHalf (n : Nat) : Bool := 0xD800 ≤ n && n ≤ 0xDBFF

def isLowHalf (n : Nat) : Bool := 0xDC00 ≤ n && n ≤ 0xDFFF

def isHalf (n : Nat) : Bool := isHighHalf n || isLowHalf n

def charOfUnit (n : Nat) : Char := if isHalf n then '�' else Char.ofNat n

/-- The low half that follows a high half as an escape of its own. -/
def readLowHalf? (text : List Char) : Option (Nat × List Char) := do
  let (low, rest) ← (after? ['\\', 'u'] text).bind readUnit?
  if isLowHalf low then some (low, rest) else none

/-- A character written behind `\u`. -/
def readEscapedUnit? (text : List Char) : Option (Char × List Char) := do
  let (unit, rest) ← readUnit? text
  if isHighHalf unit then
    match readLowHalf? rest with
    | some (low, rest) =>
      some (Char.ofNat (0x10000 + (unit - 0xD800) * 0x400 + (low - 0xDC00)), rest)
    | none => some (charOfUnit unit, rest)
  else some (charOfUnit unit, rest)

/-- A character written behind a backslash. -/
def readEscape? (text : List Char) : Option (Char × List Char) :=
  match text with
  | '"' :: rest => some ('"', rest)
  | '\\' :: rest => some ('\\', rest)
  | '/' :: rest => some ('/', rest)
  | 'b' :: rest => some ('\x08', rest)
  | 'f' :: rest => some ('\x0c', rest)
  | 'n' :: rest => some ('\n', rest)
  | 'r' :: rest => some ('\r', rest)
  | 't' :: rest => some ('\t', rest)
  | 'u' :: rest => readEscapedUnit? rest
  | _ => none

/-- The rest of a string behind its opening quote; `taken` is what has been read, last character
first. -/
def readString (fuel : Nat) (taken : List Char) (text : List Char) :
    Option (String × List Char) :=
  match fuel, text with
  | 0, _ => none
  | _ + 1, [] => none
  | fuel + 1, c :: rest =>
    if c == '"' then some (String.ofList taken.reverse, rest)
    else if c == '\\' then
      match readEscape? rest with
      | some (c, rest) => readString fuel (c :: taken) rest
      | none => none
    else if c.toNat < 0x20 then none
    else readString fuel (c :: taken) rest

def digitsValue (digits : List Char) : Nat :=
  digits.foldl (fun n c => n * 10 + (c.toNat - '0'.toNat)) 0

/-- The digits of a whole number, without superfluous zeros. -/
def readWhole? (text : List Char) : Option (List Char × List Char) :=
  match text with
  | '0' :: rest => some (['0'], rest)
  | _ =>
    match text.span (·.isDigit) with
    | ([], _) => none
    | (digits, rest) => some (digits, rest)

/-- The digits behind a point. -/
def readFraction? (text : List Char) : Option (List Char × List Char) :=
  match text with
  | '.' :: rest =>
    match rest.span (·.isDigit) with
    | ([], _) => none
    | (digits, rest) => some (digits, rest)
  | _ => none

/-- The exponent behind `e`. -/
def readExponent? (text : List Char) : Option (Int × List Char) :=
  match text with
  | c :: rest =>
    if c == 'e' || c == 'E' then
      let sign : Int := if rest.head? == some '-' then -1 else 1
      let rest := if rest.head? == some '-' || rest.head? == some '+' then rest.tail else rest
      match rest.span (·.isDigit) with
      | ([], _) => none
      | (digits, rest) => some (sign * digitsValue digits, rest)
    else none
  | [] => none

/-- A whole number with more digits is refused. -/
def maxDigits : Nat := 4300

def readNumber? (text : List Char) : Option (Json × List Char) := do
  let negative := text.head? == some '-'
  let (whole, rest) ← readWhole? (if negative then text.tail else text)
  let sign : Int := if negative then -1 else 1
  let fraction := readFraction? rest
  let rest := (fraction.map (·.2)).getD rest
  let exponent := readExponent? rest
  let rest := (exponent.map (·.2)).getD rest
  if fraction.isNone && exponent.isNone then
    if maxDigits < whole.length then none else some (.int (sign * digitsValue whole), rest)
  else
    let digits := (fraction.map (·.1)).getD []
    let place := (exponent.map (·.1)).getD 0 - digits.length
    let magnitude := Number.scale 10 (digitsValue (whole ++ digits)) place
    some (.float (Number.nearest (sign * magnitude)), rest)

/-- The words that stand for values. -/
def literals : List (String × Json) :=
  [("null", .null), ("true", .bool true), ("false", .bool false)] ++
    NonFinite.all.map fun value => (value.word, .nonFinite value)

def readLiteral? (text : List Char) : Option (Json × List Char) :=
  literals.findSome? fun (word, value) => (after? word.toList text).map fun rest => (value, rest)

mutual
def readValue (fuel : Nat) (text : List Char) : Option (Json × List Char) :=
  match fuel with
  | 0 => none
  | fuel + 1 =>
    match skip text with
    | '"' :: rest => (readString (rest.length + 1) [] rest).map fun r => (.str r.1, r.2)
    | '[' :: rest =>
      match skip rest with
      | ']' :: rest => some (.arr [], rest)
      | _ => (readItems fuel [] rest).map fun r => (.arr r.1, r.2)
    | '{' :: rest =>
      match skip rest with
      | '}' :: rest => some (.obj [], rest)
      | _ => (readMembers fuel [] rest).map fun r => (.obj r.1, r.2)
    | rest => (readLiteral? rest).or (readNumber? rest)

def readItems (fuel : Nat) (taken : List Json) (text : List Char) :
    Option (List Json × List Char) :=
  match fuel with
  | 0 => none
  | fuel + 1 =>
    match readValue fuel text with
    | none => none
    | some (value, rest) =>
      match skip rest with
      | ',' :: rest => readItems fuel (value :: taken) rest
      | ']' :: rest => some ((value :: taken).reverse, rest)
      | _ => none

def readMembers (fuel : Nat) (taken : List (String × Json)) (text : List Char) :
    Option (List (String × Json) × List Char) :=
  match fuel with
  | 0 => none
  | fuel + 1 =>
    match skip text with
    | '"' :: rest =>
      match readString (rest.length + 1) [] rest with
      | none => none
      | some (key, rest) =>
        match skip rest with
        | ':' :: rest =>
          match readValue fuel rest with
          | none => none
          | some (value, rest) =>
            match skip rest with
            | ',' :: rest => readMembers fuel ((key, value) :: taken) rest
            | '}' :: rest => some (((key, value) :: taken).reverse, rest)
            | _ => none
        | _ => none
    | _ => none
end

/-- The value that a text holds, if it holds one and nothing else. The value may be nested as deep
as `nesting`. -/
def read? (nesting : Nat) (text : List Char) : Option Json := do
  let (value, rest) ← readValue (2 * text.length + 2) text
  if (skip rest).isEmpty && value.depth ≤ nesting then some value else none

/-- Deeper values do not fit on the stack of a worker. -/
def maxNesting : Nat := 986

def parse? (text : String) : Option Json := read? maxNesting text.toList

end SensorFlow.Json

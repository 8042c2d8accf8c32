/-!
# UTF-8

Bytes are read one at a time. A byte that does not continue the character begun so far starts
afresh, so every maximal piece of an invalid sequence counts once.
-/
namespace SensorFlow.Text.Utf8
set_option autoImplicit false

/-- A character begun: the bits so far, the bytes still owed, and the range of the next one. -/
structure Begun where
  bits : Nat
  owed : Nat
  low : Nat := 0x80
  high : Nat := 0xBF
  deriving Repr, DecidableEq

/-- What the first byte of a character begins; `none` for a byte that begins nothing. -/
def start? (byte : Nat) : Option Begun :=
  if byte < 0x80 then some { bits := byte, owed := 0 }
  else if byte < 0xC2 then none
  else if byte < 0xE0 then some { bits := byte - 0xC0, owed := 1 }
  else if byte < 0xF0 then
    some {
      bits := byte - 0xE0
      owed := 2
      low := if byte = 0xE0 then 0xA0 else 0x80
      high := if byte = 0xED then 0x9F else 0xBF }
  else if byte < 0xF5 then
    some {
      bits := byte - 0xF0
      owed := 3
      low := if byte = 0xF0 then 0x90 else 0x80
      high := if byte = 0xF4 then 0x8F else 0xBF }
  else none

/-- The characters read, with `none` for every invalid piece, and what is begun after them. -/
def begin (byte : Nat) : List (Option Char) × Option Begun :=
  match start? byte with
  | none => ([none], none)
  | some begun =>
    if begun.owed = 0 then ([some (Char.ofNat begun.bits)], none) else ([], some begun)

def step (begun : Option Begun) (byte : Nat) : List (Option Char) × Option Begun :=
  match begun with
  | none => begin byte
  | some p =>
    if p.low ≤ byte && byte ≤ p.high then
      let bits := p.bits * 64 + (byte - 0x80)
      if p.owed ≤ 1 then ([some (Char.ofNat bits)], none)
      else ([], some { bits := bits, owed := p.owed - 1 })
    else
      let (units, next) := begin byte
      (none :: units, next)

def unitsFrom (begun : Option Begun) : List UInt8 → List (Option Char)
  | [] => if begun.isSome then [none] else []
  | byte :: bytes =>
    let (units, next) := step begun byte.toNat
    units ++ unitsFrom next bytes

/-- The text of the bytes, with a replacement character for every invalid piece. -/
def decodeLossy (bytes : List UInt8) : List Char :=
  (unitsFrom none bytes).map fun unit => unit.getD (Char.ofNat 0xFFFD)

/-- The text of the bytes, if they are valid. -/
def decode? (bytes : List UInt8) : Option (List Char) := (unitsFrom none bytes).mapM id

def encode (text : List Char) : List UInt8 := text.flatMap String.utf8EncodeChar

end Utf8

/-- Every kind of line end becomes a line feed. -/
def foldLineEnds : List Char → List Char
  | [] => []
  | '\r' :: '\n' :: rest => '\n' :: foldLineEnds rest
  | c :: rest => (if c = '\r' then '\n' else c) :: foldLineEnds rest

end SensorFlow.Text

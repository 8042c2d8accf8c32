import SensorFlow.Text.Blank
import SensorFlow.Text.Digit

/-!
# Whole numbers in text

Decimal digits of any script, with single underscores between them, a sign in front and blanks
around. The separators of records and units do not count as blanks here.
-/
namespace SensorFlow.Text
set_option autoImplicit false

def isPadding (c : Char) : Bool := isBlank c && !(0x1C ≤ c.toNat && c.toNat ≤ 0x1F)

/-- Reads digits behind a first digit; `value` is what was read so far. -/
def digitsFrom (value : Nat) : List Char → Option Nat
  | [] => some value
  | '_' :: c :: rest => (decimalValue? c).bind fun digit => digitsFrom (value * 10 + digit) rest
  | c :: rest => (decimalValue? c).bind fun digit => digitsFrom (value * 10 + digit) rest

def digits? : List Char → Option Nat
  | [] => none
  | c :: rest => (decimalValue? c).bind fun digit => digitsFrom digit rest

def integer? (text : String) : Option Int :=
  match ((text.toList.dropWhile isPadding).reverse.dropWhile isPadding).reverse with
  | '+' :: rest => (digits? rest).map Int.ofNat
  | '-' :: rest => (digits? rest).map fun value => -(value : Int)
  | rest => (digits? rest).map Int.ofNat

end SensorFlow.Text

/-!
# Blank characters

White space is a fixed set of characters, the same for splitting, trimming and skipping. The
zero-width space and the byte order mark are not in it.
-/
namespace SensorFlow.Text
set_option autoImplicit false

def isBlank (c : Char) : Bool :=
  let n := c.toNat
  (Nat.ble 0x09 n && Nat.ble n 0x0D) || (Nat.ble 0x1C n && Nat.ble n 0x20) || n == 0x85 ||
    n == 0xA0 || n == 0x1680 || (Nat.ble 0x2000 n && Nat.ble n 0x200A) || n == 0x2028 ||
    n == 0x2029 || n == 0x202F || n == 0x205F || n == 0x3000

/-- The text without the blanks at both ends. -/
def trim (text : List Char) : List Char :=
  ((text.dropWhile isBlank).reverse.dropWhile isBlank).reverse

/-- Cut before every blank: `current` holds the unfinished part, last character first. -/
def partsFrom (current : List Char) : List Char → List (List Char)
  | [] => if current.isEmpty then [] else [current.reverse]
  | c :: rest =>
    if !isBlank c then partsFrom (c :: current) rest
    else if current.isEmpty then partsFrom [] rest
    else current.reverse :: partsFrom [] rest

/-- The runs of characters between blanks. -/
def parts (text : List Char) : List (List Char) := partsFrom [] text

/-- The text with every run of blanks replaced by one space and none at the ends. -/
def squeeze (text : List Char) : List Char := [' '].intercalate (parts text)

end SensorFlow.Text

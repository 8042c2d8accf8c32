import SensorFlow.Symbol.Naming
import SensorFlow.Text.Digit

/-!
# Call targets in a Kotlin body

Every opening bracket that follows a name is a call: `receiver.name(`, with a safe or asserted
dot too, or a bare `name(`. A brace counts as a bracket because a lambda may be the only argument.
-/
namespace SensorFlow.Kotlin
open Text
set_option autoImplicit false

/-- Words that precede a bracket without being called. -/
def reservedWords : List (List Char) :=
  ["if", "when", "while", "for", "return", "val", "var", "fun", "class", "catch", "try", "else",
    "do", "object", "init", "throw", "super", "this", "in", "is", "as", "constructor"].map
    String.toList

/-- The bracket that opens the arguments of a call, behind any blanks. -/
def readOpening (text : List Char) : Option (List Char) :=
  match text.dropWhile isBlank with
  | '(' :: rest => some rest
  | '{' :: rest => some rest
  | _ => none

/-- A plain, safe or asserted dot. -/
def readDot (text : List Char) : Option (List Char) :=
  match text with
  | '.' :: rest => some rest
  | '?' :: '.' :: rest => some rest
  | '!' :: '!' :: '.' :: rest => some rest
  | _ => none

/-- A receiver and a method called on it. -/
def readReceiverCall : Reader (List Char × List Char) := fun before text => do
  if !atWordStart before then none
  let (receiver, rest) ← readWord? text
  let (method, rest) ← (readDot rest).bind readWord?
  let rest ← readOpening rest
  some ((receiver, method), rest)

/-- A name called without a receiver; behind `.`, `@` or `:` it is none. -/
def readBareCall : Reader (List Char) := fun before text => do
  if before.head?.any fun c => isWord c || c == '.' || c == '@' || c == ':' then none
  let (name, rest) ← readWord? text
  let rest ← readOpening rest
  some (name, rest)

def isCallable (name : List Char) : Bool :=
  !reservedWords.contains name && !name.head?.any isDigit

/-- The targets of all calls in a body, with their offsets, in source order. -/
def locatedCalls (body : List Char) : List (Nat × String) :=
  let received := (findAll readReceiverCall body).map fun hit =>
    let (receiver, method) := hit.value
    let receiver := if receiver == "this".toList then [] else receiver
    (hit.start, callTarget (String.ofList receiver) (String.ofList method))
  let bare := ((findAll readBareCall body).filter fun hit => isCallable hit.value).map fun hit =>
    (hit.start, String.ofList hit.value)
  (received ++ bare).mergeSort fun a b => a.1 ≤ b.1

def calls (body : List Char) : List String := (locatedCalls body).map (·.2)

end SensorFlow.Kotlin

import SensorFlow.Text.Scan

/-!
# Brackets

Matching and splitting by bracket depth. A `>` behind a `-` is the head of an arrow and closes
nothing.
-/
namespace SensorFlow.Source
open SensorFlow.Text
set_option autoImplicit false

/-- The position at which the depth returns to zero by a closing bracket. `before` is the
preceding character and `pos` the position of the first character of the text. -/
def closingFrom (opening closing : Char) (before : Option Char) (depth : Int) (pos : Nat) :
    List Char → Option Nat
  | [] => none
  | c :: rest =>
    if c = opening then closingFrom opening closing (some c) (depth + 1) (pos + 1) rest
    else if c = closing ∧ ¬(c = '>' ∧ before = some '-') then
      if depth = 1 then some pos
      else closingFrom opening closing (some c) (depth - 1) (pos + 1) rest
    else closingFrom opening closing (some c) depth (pos + 1) rest

/-- The position of the bracket that closes the one at `start`. -/
def closing? (text : List Char) (start : Nat) (opening closing : Char) : Option Nat :=
  closingFrom opening closing (if start = 0 then none else text[start - 1]?) 0 start
    (text.drop start)

def opensGroup (c : Char) : Bool := c == '(' || c == '<' || c == '[' || c == '{'

def closesGroup (before : Option Char) (c : Char) : Bool :=
  c == ')' || c == ']' || c == '}' || (c == '>' && before != some '-')

/-- The depth behind `c`; closing brackets without an opening one count for nothing. -/
def depthAfter (before : Option Char) (c : Char) (depth : Nat) : Nat :=
  if opensGroup c then depth + 1 else if closesGroup before c then depth - 1 else depth

/-- Cuts at the separators outside brackets: `current` holds the unfinished part, last character
first. -/
def cutTopLevel (separates : Char → Bool) (before : Option Char) (depth : Nat)
    (current : List Char) : List Char → List (List Char)
  | [] => [current.reverse]
  | c :: rest =>
    let depth := depthAfter before c depth
    if separates c && depth == 0 then
      current.reverse :: cutTopLevel separates (some c) depth [] rest
    else cutTopLevel separates (some c) depth (c :: current) rest

/-- The trimmed parts between separators outside all brackets; blank parts are dropped. -/
def splitTopLevel (separates : Char → Bool) (text : List Char) : List (List Char) :=
  ((cutTopLevel separates none 0 [] text).map trim).filter (!·.isEmpty)

/-- The trimmed, non-blank parts between commas outside all brackets. -/
def commaParts (text : List Char) : List (List Char) := splitTopLevel (· == ',') text

/-- The brace depth behind `c`. -/
def braceDepthAfter (c : Char) (depth : Nat) : Nat :=
  if c = '{' then depth + 1 else if c = '}' then depth - 1 else depth

/-- The brace depth before the character at `pos`. -/
def braceDepth (text : List Char) (pos : Nat) : Nat :=
  (text.take pos).foldl (fun depth c => braceDepthAfter c depth) 0

/-- The line of a position, counted from one. -/
def lineOf (text : List Char) (pos : Nat) : Nat := (text.take pos).count '\n' + 1

end SensorFlow.Source

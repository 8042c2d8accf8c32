import SensorFlow.Text.Alphanumeric
import SensorFlow.Text.Blank

/-!
# Scanning a text from left to right

A reader looks at the text from one position on, with the characters before it at hand, and
answers what it recognised together with the rest. `findAll` tries a reader at every position
from the left; after a hit it goes on behind it, so hits never overlap.
-/
namespace SensorFlow.Text
set_option autoImplicit false

/-- The rest of the text behind a literal beginning. -/
def after? : List Char → List Char → Option (List Char)
  | [], text => some text
  | _ :: _, [] => none
  | p :: ps, c :: cs => if p == c then after? ps cs else none

theorem after?_eq_some_iff (word text rest : List Char) :
    after? word text = some rest ↔ text = word ++ rest := by
  induction word generalizing text with
  | nil => simp [after?, eq_comm]
  | cons p ps ih =>
    cases text with
    | nil => simp [after?]
    | cons c cs =>
      by_cases h : p = c
      · simp [after?, h, ih]
      · simp [after?, h, Ne.symm h]

def startsWith (word text : List Char) : Bool := (after? word text).isSome

/-- Whether `word` occurs somewhere in the text. -/
def hasInfix (word : List Char) : List Char → Bool
  | [] => word.isEmpty
  | c :: cs => startsWith word (c :: cs) || hasInfix word cs

def contains (text word : String) : Bool := hasInfix word.toList text.toList

/-- The characters from `first` up to, not including, `last`. -/
def slice (text : List Char) (first last : Nat) : List Char := (text.drop first).take (last - first)

/-- The first position from `pos` on that holds no blank. -/
def skipBlanks (text : List Char) (pos : Nat) : Nat :=
  pos + ((text.drop pos).takeWhile isBlank).length

/-- One recognised stretch of text. -/
structure Hit (α : Type) where
  start : Nat
  stop : Nat
  value : α
  deriving Repr, DecidableEq

/-- Reads one construct at the head of `rest`; `before` is what precedes it, nearest first. -/
abbrev Reader (α : Type) := (before rest : List Char) → Option (α × List Char)

/-- Hits from the left; the next `skip` characters belong to the last hit. -/
def findFrom {α : Type} (read : Reader α) (before : List Char) (pos skip : Nat) :
    List Char → List (Hit α)
  | [] => []
  | c :: cs =>
    match skip with
    | skip + 1 => findFrom read (c :: before) (pos + 1) skip cs
    | 0 =>
      match read before (c :: cs) with
      | none => findFrom read (c :: before) (pos + 1) 0 cs
      | some (value, rest) =>
        let size := (c :: cs).length - rest.length
        ⟨pos, pos + size, value⟩ :: findFrom read (c :: before) (pos + 1) (size - 1) cs

def findAll {α : Type} (read : Reader α) (text : List Char) : List (Hit α) :=
  findFrom read [] 0 0 text

/-- All hits that lie between `first` and `last`; the text is cut at `last`, while what precedes
`first` is still seen as context. -/
def findBetween {α : Type} (read : Reader α) (text : List Char) (first last : Nat) :
    List (Hit α) :=
  findFrom read (text.take first).reverse first 0 (slice text first last)

def find? {α : Type} (read : Reader α) (text : List Char) : Option (Hit α) :=
  (findAll read text).head?

/-- The text without the stretches that `read` recognises. -/
def erase {α : Type} (read : Reader α) (before : List Char) (skip : Nat) :
    List Char → List Char
  | [] => []
  | c :: cs =>
    match skip with
    | skip + 1 => erase read (c :: before) skip cs
    | 0 =>
      match read before (c :: cs) with
      | none => c :: erase read (c :: before) 0 cs
      | some (_, rest) => erase read (c :: before) ((c :: cs).length - rest.length - 1) cs

/-- A run of word characters and what follows it, unless the run is empty. -/
def readWord? (text : List Char) : Option (List Char × List Char) :=
  match text.span isWord with
  | ([], _) => none
  | (word, rest) => some (word, rest)

/-- Whether a word that starts here would be cut off from no longer one. -/
def atWordStart (before : List Char) : Bool := !before.head?.any isWord

/-- Blanks, at least one, and what follows them. -/
def readBlanks? (text : List Char) : Option (List Char) :=
  match text with
  | c :: cs => if isBlank c then some (cs.dropWhile isBlank) else none
  | [] => none

end SensorFlow.Text

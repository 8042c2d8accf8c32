import SensorFlow.File.CharClass
import SensorFlow.File.Path

/-!
# Wildcard patterns for paths

A pattern is matched component by component. A relative pattern is compared with the end of the
path, an absolute one with the whole path; the root counts as a component.
-/
namespace SensorFlow.Glob
set_option autoImplicit false

inductive Piece where
  /-- Any run of characters. -/
  | run
  | oneOf (charClass : CharClass)
  | exactly (c : Char)
  deriving Repr, DecidableEq

/-- Cuts the content of a class at the hyphens that make ranges. A hyphen makes a range if there
is a character before it that is no end of a range already. -/
def chunks (chunk : List Char) (least : Nat) : List Char → List (List Char)
  | [] => if chunk.isEmpty then [] else [chunk.reverse]
  | c :: rest =>
    if c = '-' && chunk.length ≥ least then
      if rest.isEmpty then [('-' :: chunk).reverse] else chunk.reverse :: chunks [] 2 rest
    else chunks (c :: chunk) least rest

/-- Joins chunks whose range would be empty, without its ends. -/
def dropEmptyRanges : List (List Char) → List (List Char)
  | [] => []
  | chunk :: rest =>
    match chunk.getLast?, dropEmptyRanges rest with
    | some low, (high :: next) :: more =>
      if high.toNat < low.toNat then (chunk.dropLast ++ next) :: more
      else chunk :: (high :: next) :: more
    | _, joined => chunk :: joined

/-- The ranges between neighbouring chunks. -/
def rangesOf : List (List Char) → List (Char × Char)
  | chunk :: next :: rest =>
    match chunk.getLast?, next.head? with
    | some low, some high => (low, high) :: rangesOf (next :: rest)
    | _, _ => rangesOf (next :: rest)
  | _ => []

def classOf (content : List Char) : CharClass :=
  let least := if content.head? == some '!' then 2 else 1
  match dropEmptyRanges (chunks [] least content) with
  | ('!' :: first) :: rest =>
    { negated := true, singles := first ++ rest.flatten, ranges := rangesOf (first :: rest) }
  | all => { singles := all.flatten, ranges := rangesOf all }

def pieces : List Char → List Piece
  | [] => []
  | c :: rest =>
    if c = '*' then .run :: pieces rest
    else if c = '?' then .oneOf { negated := true } :: pieces rest
    else if c = '[' then
      match h : CharClass.split? rest with
      | none => .exactly '[' :: pieces rest
      | some (content, behind) =>
        have := CharClass.split?_length h
        .oneOf (classOf content) :: pieces behind
    else .exactly c :: pieces rest
termination_by text => text.length

/-- Tries `rest` on a text and on every end of it. -/
def onSomeEnd (rest : List Char → Bool) : List Char → Bool
  | [] => rest []
  | c :: cs => rest (c :: cs) || onSomeEnd rest cs

def piecesMatch : List Piece → List Char → Bool
  | [], text => text.isEmpty
  | .run :: rest, text => onSomeEnd (piecesMatch rest) text
  | .oneOf charClass :: rest, c :: cs => charClass.contains c && piecesMatch rest cs
  | .exactly e :: rest, c :: cs => e == c && piecesMatch rest cs
  | _ :: _, [] => false

def componentMatches (pattern name : String) : Bool :=
  piecesMatch (pieces pattern.toList) name.toList

/-- The components of a path with its root in front. -/
def components (path : Path) : List String :=
  if path.isAbsolute then path.root :: path.parts else path.parts

/-- Whether a path matches a pattern; `none` if the pattern has no component. -/
def matches? (pattern path : Path) : Option Bool :=
  let wanted := components pattern
  let given := components path
  if wanted.isEmpty then none
  else if pattern.isAbsolute then
    some (pattern.root == path.root && wanted.length == given.length &&
      ((wanted.drop 1).zip (given.drop 1)).all fun (p, name) => componentMatches p name)
  else
    some (decide (wanted.length ≤ given.length) &&
      (wanted.reverse.zip given.reverse).all fun (p, name) => componentMatches p name)

end SensorFlow.Glob

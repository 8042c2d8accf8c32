import SensorFlow.File.CharClass
import SensorFlow.Text.Blank
import SensorFlow.Text.Utf8

/-!
# Ignore rules

One rule a line, matched against the path of a file relative to the folder of the rules. Rules say
which files are ignored and, negated, which are not; the last rule that matches decides. A line
that cannot be read makes all the rules void, while a defect inside a class of characters is only
noticed when its rule is tried.
-/
namespace SensorFlow.Ignore
open Text
set_option autoImplicit false

inductive Piece where
  /-- Any run of characters within a component. -/
  | run
  /-- Any run of components, or nothing. -/
  | folders
  /-- Anything at all. -/
  | anything
  | oneOf (charClass : CharClass)
  | exactly (c : Char)
  deriving Repr, DecidableEq

structure Rule where
  negated : Bool
  /-- The rule is written with a slash at its end, so it names folders. -/
  foldersOnly : Bool
  /-- The rule starts at the folder of the rules, not at any component. -/
  anchored : Bool
  pieces : List Piece
  /-- What is wrong with a class of characters in the rule. -/
  defect : Option String := none
  deriving Repr, DecidableEq

/-- Several stars behind a character other than a slash are one star. -/
def joinStarsAfter : List Char → List Char
  | [] => []
  | c :: rest =>
    if c != '/' && rest.take 2 == ['*', '*'] then
      c :: '*' :: joinStarsAfter (rest.dropWhile (· == '*'))
    else c :: joinStarsAfter rest
termination_by text => text.length
decreasing_by
  · have := (List.dropWhile_sublist (l := rest) (· == '*')).length_le
    simp only [List.length_cons]
    omega
  · simp

/-- Two stars before a character other than a slash are one star. -/
def joinStarsBefore : List Char → List Char
  | '*' :: '*' :: c :: rest =>
    if c = '/' then '*' :: '*' :: '/' :: joinStarsBefore rest
    else '*' :: c :: joinStarsBefore rest
  | c :: rest => c :: joinStarsBefore rest
  | [] => []

/-- Drops trailing spaces of a reversed pattern. A backslash keeps the space behind it, and with
it the spaces before that one; the first two characters are never looked at. -/
def trimSpaces (strip : Bool) (kept : List Char) : List Char → List Char
  | ' ' :: '\\' :: c :: before => trimSpaces false (' ' :: kept) (c :: before)
  | ' ' :: c :: d :: before =>
    trimSpaces strip (if strip then kept else ' ' :: kept) (c :: d :: before)
  | before => before.reverse ++ kept

/-- How a character of a class is shown in the compiled rule. -/
def classToken (c : Char) : String := if c = '\\' then "\\\\" else c.toString

/-- Characters that are escaped in the compiled rule. -/
def isSpecial (c : Char) : Bool := "()[]\x7b\x7d?*+-|^$\\.&~# \t\n\r\x0b\x0c".toList.contains c

/-- Reads the content of a class from its tokens; `offset` is where the next token stands. -/
def readClass (offset : Nat) (found : CharClass) : List (Char × String) → Except String CharClass
  | (low, lowToken) :: ('-', _) :: (high, highToken) :: rest =>
    if high.toNat < low.toNat then
      .error s!"bad character range {lowToken}-{highToken} at position {offset}"
    else
      readClass (offset + lowToken.length + 1 + highToken.length)
        { found with ranges := found.ranges ++ [(low, high)] } rest
  | (c, token) :: rest =>
    readClass (offset + token.length) { found with singles := found.singles ++ [c] } rest
  | [] => .ok found

/-- A class at an offset of the compiled rule, with the width of its text there; `none` if nothing
is left of it. Slashes do not count. -/
def classOf (offset : Nat) (content : List Char) : Option (Nat × Except String CharClass) :=
  let tokens := (content.filter (· != '/')).map fun c => (c, classToken c)
  let width := (tokens.flatMap fun (_, token) => token.toList).length
  match tokens with
  | [] => none
  | [('!', _)] => some (width + 2, .error s!"unterminated character set at position {offset}")
  | ('!', _) :: rest => some (width + 2, readClass (offset + 2) { negated := true } rest)
  | ('^', _) :: rest => some (width + 3, readClass (offset + 1) {} (('^', "\\^") :: rest))
  | all => some (width + 2, readClass (offset + 1) {} all)

/-- The pieces of a pattern and the first defect; `none` if a class is empty. -/
def compile? (offset : Nat) : List Char → Option (List Piece × Option String)
  | [] => some ([], none)
  | '*' :: '*' :: '/' :: rest => add .folders (compile? (offset + 8) rest)
  | '*' :: '*' :: rest => add .anything (compile? (offset + 2) rest)
  | '*' :: rest => add .run (compile? (offset + 5) rest)
  | '?' :: rest =>
    add (.oneOf { negated := true, singles := ['/'] }) (compile? (offset + 4) rest)
  | '/' :: rest => add (.exactly '/') (compile? (offset + 3) rest)
  | c :: rest =>
    if c = '[' then
      match h : CharClass.split? rest with
      | none => add (.exactly '[') (compile? (offset + 2) rest)
      | some (content, behind) =>
        have := CharClass.split?_length h
        match classOf offset content with
        | none => none
        | some (width, .ok found) => add (.oneOf found) (compile? (offset + width) behind)
        | some (width, .error defect) =>
          (compile? (offset + width) behind).map fun (pieces, _) => (pieces, some defect)
    else add (.exactly c) (compile? (offset + if isSpecial c then 2 else 1) rest)
termination_by text => text.length
where
  add (piece : Piece) : Option (List Piece × Option String) → Option (List Piece × Option String)
    | none => none
    | some (pieces, defect) => some (piece :: pieces, defect)

/-- Reads one line. The outer `none` is a line that cannot be read, the inner one a line without a
rule. -/
def rule? (line : List Char) : Option (Option Rule) :=
  if (trim line).isEmpty || line.head? == some '#' then some none
  else
    let negated := line.head? == some '!'
    let written := joinStarsBefore (joinStarsAfter (if negated then line.drop 1 else line))
    if (written.reverse.dropWhile isBlank) == ['/'] then some none
    else do
      let foldersOnly := (← written.getLast?) == '/'
      let inner := if written.head? == some '/' then written.drop 1 else written
      let anywhere := inner.take 2 == ['*', '*']
      let inner := if anywhere then inner.drop 2 else inner
      let inner := if (← inner.head?) == '/' then inner.drop 1 else inner
      let inner := if (← inner.getLast?) == '/' then inner.dropLast else inner
      let inner ←
        match inner with
        | [] | ['\\'] => none
        | '\\' :: c :: rest => some (if c = '#' || c = '!' then c :: rest else '\\' :: c :: rest)
        | other => some other
      let anchored := written.dropLast.contains '/' && !anywhere
      let (pieces, defect) ← compile? (if anchored then 1 else 7) (trimSpaces true [] inner.reverse)
      return some
        { negated := negated
          foldersOnly := foldersOnly
          anchored := anchored
          pieces := pieces
          defect := defect }

/-- The rules of a file; `none` if they are void. -/
def rules? (content : List UInt8) : Option (List Rule) := do
  let text ← Utf8.decode? content
  let rules ← ((foldLineEnds text).splitOn '\n').mapM rule?
  return rules.filterMap id

/-- Tries `rest` behind every run of allowed characters. -/
def behindRun (allowed : Char → Bool) (rest : List Char → Bool) : List Char → Bool
  | [] => rest []
  | c :: cs => rest (c :: cs) || (allowed c && behindRun allowed rest cs)

def piecesMatch (ending : List Char → Bool) : List Piece → List Char → Bool
  | [], text => ending text
  | .run :: pieces, text => behindRun (· != '/') (piecesMatch ending pieces) text
  | .anything :: pieces, text => behindRun (· != '\n') (piecesMatch ending pieces) text
  | .folders :: pieces, text =>
    piecesMatch ending pieces text ||
      behindRun (· != '\n')
        (fun tail => tail.head? == some '/' && piecesMatch ending pieces (tail.drop 1)) text
  | .oneOf charClass :: pieces, c :: cs => charClass.contains c && piecesMatch ending pieces cs
  | .exactly e :: pieces, c :: cs => e == c && piecesMatch ending pieces cs
  | _ :: _, [] => false

namespace Rule

/-- What may follow the text that the pieces match. A negated rule for folders only accepts a
path that ends in a slash. -/
def endsAt (rule : Rule) (rest : List Char) : Bool :=
  if !rule.foldersOnly then rest.isEmpty
  else if rule.negated then rest == ['/']
  else rest.isEmpty || rest.head? == some '/'

/-- The text itself and what follows each of its slashes. -/
def starts : List Char → List (List Char)
  | [] => []
  | c :: cs => if c = '/' then cs :: starts cs else starts cs

def accepts (rule : Rule) (path : List Char) : Bool :=
  let origins := if rule.anchored then [path] else path :: starts path
  origins.any (piecesMatch rule.endsAt rule.pieces)

/-- Whether the rule matches a path; a defective rule cannot be tried. -/
def tries (rule : Rule) (path : List Char) : Except String Bool :=
  match rule.defect with
  | some defect => .error defect
  | none => .ok (rule.accepts path)

end Rule

/-- The first rule of a list that matches. -/
def firstMatch? (path : List Char) : List Rule → Except String (Option Rule)
  | [] => .ok none
  | rule :: rules =>
    match rule.tries path with
    | .error defect => .error defect
    | .ok true => .ok (some rule)
    | .ok false => firstMatch? path rules

/-- Whether the rules ignore a path. Without a negated rule it does not matter which rule matches,
and they are tried from the first on. -/
def ignores (rules : List Rule) (path : List Char) : Except String Bool :=
  let ordered := if rules.any (·.negated) then rules.reverse else rules
  (firstMatch? path ordered).map fun found =>
    match found with
    | some rule => !rule.negated
    | none => false

end SensorFlow.Ignore

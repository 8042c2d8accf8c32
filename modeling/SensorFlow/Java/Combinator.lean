import SensorFlow.Java.Token
import SensorFlow.Java.Tree

/-!
# Rules of a grammar

A rule reads the head of a token list and answers the trees it built together with the rest.
Choice tries the second rule where the first one fails. Repetition stops at a step without
progress, so every rule ends.
-/
namespace SensorFlow.Java
set_option autoImplicit false

def Rule := List Token → Option (List Tree × List Token)

namespace Rule

def andThen (p : Rule) (q : Unit → Rule) : Rule := fun tokens =>
  match p tokens with
  | none => none
  | some (first, rest) =>
    match q () rest with
    | none => none
    | some (second, rest) => some (first ++ second, rest)

def orElse (p : Rule) (q : Unit → Rule) : Rule := fun tokens =>
  match p tokens with
  | some result => some result
  | none => q () tokens

instance : AndThen Rule := ⟨andThen⟩

instance : OrElse Rule := ⟨orElse⟩

def nothing : Rule := fun tokens => some ([], tokens)

def failure : Rule := fun _ => none

def opt (p : Rule) : Rule := p.orElse fun _ => nothing

/-- The trees of a rule that is repeated as long as it makes progress. -/
def manyFrom (p : Rule) (tokens : List Token) : List Tree × List Token :=
  match p tokens with
  | none => ([], tokens)
  | some (first, rest) =>
    if _h : rest.length < tokens.length then
      let (others, rest) := manyFrom p rest
      (first ++ others, rest)
    else (first, rest)
termination_by tokens.length

def many (p : Rule) : Rule := fun tokens => some (manyFrom p tokens)

def many1 (p : Rule) : Rule := p.andThen fun _ => many p

/-- Replaces what has been built, as long as `step` goes on with it. -/
def extend (step : List Tree → Rule) (built : List Tree) (tokens : List Token) :
    List Tree × List Token :=
  match step built tokens with
  | none => (built, tokens)
  | some (built, rest) =>
    if _h : rest.length < tokens.length then extend step built rest else (built, rest)
termination_by tokens.length

/-- A rule and what extends it to the right. -/
def chain (p : Rule) (step : List Tree → Rule) : Rule := fun tokens =>
  match p tokens with
  | none => none
  | some (built, rest) => some (extend step built rest)

/-- Puts trees that have been built before the trees of a rule. -/
def after (built : List Tree) (p : Rule) : Rule := fun tokens =>
  (p tokens).map fun r => (built ++ r.1, r.2)

/-- The rule, if the condition holds of what has been built. -/
def given (condition : Bool) (p : Rule) : Rule := if condition then p else failure

/-- The rule, if the next tokens look as they should. -/
def ahead (looks : List Token → Bool) (p : Rule) : Rule := fun tokens =>
  if looks tokens then p tokens else none

/-- One node around all trees of a rule, from the first to the last of them. -/
def node (kind : String) (p : Rule) : Rule := fun tokens =>
  (p tokens).map fun (children, rest) =>
    let first := (children.head?.map Tree.head).getD { kind := kind }
    let last := (children.getLast?.map Tree.head).getD { kind := kind }
    ([.node { kind := kind, start := first.start, stop := last.stop, row := first.row } children],
      rest)

/-- Marks the trees of a rule with the part they play. -/
def part (name : String) (p : Rule) : Rule := fun tokens =>
  (p tokens).map fun (trees, rest) => (trees.map (Tree.withPart name), rest)

def leaf (kind : String) (named : Bool) (token : Token) : Tree :=
  .node ⟨kind, none, named, token.start, token.stop, token.row, token.text⟩ []

/-- One token that passes a test, as a leaf of the given kind. -/
def one (passes : Token → Bool) (kind : Token → String) (named : Bool) : Rule := fun tokens =>
  match tokens with
  | [] => none
  | token :: rest => if passes token then some ([leaf (kind token) named token], rest) else none

def isPlain (token : Token) : Bool :=
  match token.kind with
  | .literal _ => false
  | _ => true

/-- A mark or keyword, spelled as given. -/
def mark (text : String) : Rule :=
  one (fun token => isPlain token && token.text == text) (fun _ => text) false

/-- One of several marks or keywords. -/
def anyMark (texts : List String) : Rule :=
  one (fun token => isPlain token && texts.contains token.text) (·.text) false

/-- A keyword that is a node of its own. -/
def keyword (text kind : String) : Rule :=
  one (fun token => isPlain token && token.text == text) (fun _ => kind) true

/-- The rule between braces. -/
def braced (p : Rule) : Rule := mark "\x7b" >> p >> mark "\x7d"

/-- The rule between parentheses. -/
def parens (p : Rule) : Rule := mark "(" >> p >> mark ")"

/-- The rule, and after each separator again. -/
def sepBy1 (separator : String) (p : Rule) : Rule :=
  p.andThen fun _ => many ((mark separator).andThen fun _ => p)

def sepBy (separator : String) (p : Rule) : Rule := opt (sepBy1 separator p)

end Rule

def isMark (text : String) (token : Token) : Bool := Rule.isPlain token && token.text == text

def nextIs (text : String) (tokens : List Token) : Bool := tokens.head?.any (isMark text)

end SensorFlow.Java

import SensorFlow.Java.Grammar.Declaration

/-!
# Parsing Java

Closes the recursion of the grammar, within a depth that the number of tokens bounds, and puts the
comments into the tree: a comment belongs to the smallest node that it lies inside of.
-/
namespace SensorFlow.Java
open Rule
set_option autoImplicit false

/-- The rule of each form, with the rules that it calls. -/
def ruleOf (self : Form → Rule) : Form → Rule
  | .type => annotatedType self
  | .plainType => plainType self
  | .typeArgument => typeArgument self
  | .annotated => annotated self
  | .elementValue => elementValue self
  | .expression lambdas => expression self lambdas
  | .binary level lambdas => binary self level lambdas
  | .unary lambdas => unary self lambdas (switchContents self)
  | .initializer => initializer self
  | .recordPattern => recordPattern self
  | .block => block self
  | .statement => statement self
  | .classBody => classBody self
  | .typeDeclaration => typeDeclaration self

/-- The rules, calling each other at most `depth` deep. -/
def rules : (depth : Nat) → Form → Rule
  | 0, _ => failure
  | depth + 1, form => ruleOf (rules depth) form

mutual
/-- Gives a node its text and the comments inside of it, which come in source order. -/
def complete (source : Array Char) (comments : List Tree) : Tree → Tree
  | .node head [] => .node head comments
  | .node head (first :: others) =>
    .node { head with text := String.ofList (source.extract head.start head.stop).toList }
      (completeAll source comments (first :: others))

def completeAll (source : Array Char) (comments : List Tree) : List Tree → List Tree
  | [] => comments
  | t :: ts =>
    let (before, others) := comments.span fun c => c.head.start < t.head.start
    let (inside, behind) := others.span fun c => c.head.start < t.head.stop
    before ++ complete source inside t :: completeAll source behind ts
end

def tokensOf (lexemes : List Lexeme) : List Token :=
  lexemes.filterMap fun
    | .token token => some token
    | .comment .. => none

def commentsOf (lexemes : List Lexeme) : List Tree :=
  lexemes.filterMap fun
    | .token _ => none
    | .comment kind text start stop row => some (.node ⟨kind, none, true, start, stop, row, text⟩ [])

/-- The syntax tree of a source that the grammar covers as a whole. -/
def parse? (source : List Char) : Option Tree := do
  let lexemes ← lexemes? source
  let tokens := tokensOf lexemes
  match program (rules (32 * (tokens.length + 1))) tokens with
  | some ([root], []) => some (complete source.toArray (commentsOf lexemes) root)
  | _ => none

end SensorFlow.Java

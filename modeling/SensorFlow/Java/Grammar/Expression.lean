import SensorFlow.Java.Grammar.Name

/-!
# Expressions of Java

Binary operators bind by levels, from `||` at 4 to `*` at 13; a rule for a level reads everything
that binds at least as tightly.
-/
namespace SensorFlow.Java
open Rule
set_option autoImplicit false

variable (self : Form → Rule)

def literal : Rule :=
  one (fun token => match token.kind with | .literal _ => true | _ => false)
    (fun token => match token.kind with | .literal kind => kind | _ => "") true
  <|> keyword "true" "true" <|> keyword "false" "false" <|> keyword "null" "null_literal"

def argumentList : Rule :=
  node "argument_list" (parens (sepBy "," (self (.expression true))))

def parenthesized : Rule :=
  node "parenthesized_expression" (parens (self (.expression true)))

def arrayInitializer : Rule :=
  node "array_initializer" (braced (sepBy "," (self .initializer) >> opt (mark ",")))

def initializer : Rule := arrayInitializer self <|> self (.expression true)

def dimensionsWithSize : Rule :=
  node "dimensions_expr" (annotations self >> mark "[" >> self (.expression true) >> mark "]")

/-- What follows `new` when an object is created. -/
def objectCreation : Rule :=
  mark "new" >>
    ((annotations self >> part "type_arguments" (typeArguments self) >> annotations self)
      <|> annotations self) >>
    part "type" (simpleType self) >> part "arguments" (argumentList self) >> opt (self .classBody)

def arrayCreation : Rule :=
  node "array_creation_expression" (mark "new" >> annotations self >>
    part "type" (simpleType self) >>
    ((part "dimensions" (many1 (dimensionsWithSize self)) >>
        opt (part "dimensions" (dimensions self)))
      <|> (part "dimensions" (dimensions self) >> part "value" (arrayInitializer self))))

def creation : Rule :=
  arrayCreation self <|> node "object_creation_expression" (objectCreation self)

/-- A class literal, or a method reference on a type that is no expression. -/
def typeExpression : Rule :=
  ahead (fun tokens => tokens.head?.any fun t => t.kind == .word)
    (node "class_literal" (self .plainType >> mark "." >> mark "class")
      <|> node "method_reference" (chainedType >> mark "::" >> opt (typeArguments self) >>
        (mark "new" <|> identifier)))
where
  chainedType : Rule := fun tokens =>
    match self .plainType tokens with
    | some (built, rest) =>
      if hasKind ["generic_type", "array_type", "integral_type", "floating_point_type",
          "boolean_type", "void_type"] built then some (built, rest) else none
    | none => none

def calledName : Rule :=
  node "method_invocation" (part "name" identifier >> part "arguments" (argumentList self))

def primaryStart : Rule :=
  literal <|> typeExpression self <|> calledName self <|> identifier <|>
    keyword "this" "this" <|> keyword "super" "super" <|> parenthesized self <|> creation self

/-- What may follow a primary expression: members, calls, indices and references. -/
def primaryStep (built : List Tree) : Rule :=
  let object := part "object" (after built nothing)
  node "method_invocation" (object >> mark "." >> opt (keyword "super" "super" >> mark ".") >>
      part "type_arguments" (opt (typeArguments self)) >> part "name" identifier >>
      part "arguments" (argumentList self))
    <|> node "field_access" (object >> opt (mark "." >> keyword "super" "super") >> mark "." >>
      part "field" (identifier <|> keyword "this" "this"))
    <|> node "object_creation_expression" (after built (mark "." >> objectCreation self))
    <|> node "array_access" (part "array" (after built nothing) >> mark "[" >>
      part "index" (self (.expression true)) >> mark "]")
    <|> node "method_reference" (after built (opt (mark "." >> keyword "super" "super") >>
      mark "::" >> opt (typeArguments self) >> (mark "new" <|> identifier)))
    <|> node "template_expression" (part "template_processor" (after built nothing) >> mark "." >>
      part "template_argument" (one (·.kind == .literal "string_literal")
        (fun _ => "string_literal") true))

def primary : Rule := chain (primaryStart self) (primaryStep self)

/-- The offset of a parenthesis that closes the one the tokens start with. -/
def closingIndex (depth pos : Nat) : List Token → Option Nat
  | [] => none
  | token :: rest =>
    if isMark "(" token then closingIndex (depth + 1) (pos + 1) rest
    else if isMark ")" token then
      if depth ≤ 1 then some pos else closingIndex (depth - 1) (pos + 1) rest
    else closingIndex depth (pos + 1) rest

/-- Whether the tokens start with the parameters of a lambda expression. -/
def startsLambda (tokens : List Token) : Bool :=
  match tokens with
  | first :: rest =>
    if isName first then nextIs "->" rest
    else if isMark "(" first then
      (closingIndex 0 0 tokens).any fun close => nextIs "->" (tokens.drop (close + 1))
    else false
  | [] => false

def variableDeclaratorId : Rule :=
  part "name" variableName >> part "dimensions" (opt (dimensions self))

def variableDeclarator : Rule :=
  node "variable_declarator" (variableDeclaratorId self >>
    opt (mark "=" >> part "value" (self .initializer)))

def formalParameter : Rule :=
  node "formal_parameter" (opt (modifiers self) >> part "type" (self .plainType) >>
    variableDeclaratorId self)

def spreadParameter : Rule :=
  node "spread_parameter" (opt (modifiers self) >> self .plainType >> mark "..." >>
    annotations self >> variableDeclarator self)

def receiverParameter : Rule :=
  node "receiver_parameter" (annotations self >> self .plainType >>
    many (identifier >> mark ".") >> keyword "this" "this")

def parameter : Rule := receiverParameter self <|> spreadParameter self <|> formalParameter self

def formalParameters : Rule :=
  node "formal_parameters" (parens (sepBy "," (parameter self)))

def inferredParameters : Rule :=
  node "inferred_parameters" (parens (sepBy1 "," identifier))

def lambda : Rule :=
  node "lambda_expression"
    (part "parameters" (identifier <|> inferredParameters <|> formalParameters self) >>
      mark "->" >> part "body" (self .block <|> self (.expression true)))

/-- Tokens that an operand of a cast to a class type may start with. -/
def startsOperand (tokens : List Token) : Bool :=
  match tokens.head? with
  | none => false
  | some token =>
    match token.kind with
    | .literal _ => true
    | .word => token.text != "instanceof"
    | .mark => ["(", "!", "~", "@"].contains token.text

def castValue (lambdas : Bool) : Rule :=
  given lambdas (ahead startsLambda (lambda self)) <|> self (.unary lambdas)

/-- A cast. A sign behind a class type in parentheses is an operator between two operands. -/
def cast (lambdas : Bool) : Rule :=
  node "cast_expression"
    ((mark "(" >> part "type" primitiveType >> mark ")" >> part "value" (castValue self lambdas))
      <|> (mark "(" >> sepBy1 "&" (part "type" (self .type)) >> mark ")" >>
        ahead startsOperand (part "value" (castValue self lambdas))))

def switchLabelled (labels : Rule) : Rule :=
  node "switch_expression" (mark "switch" >> part "condition" (parenthesized self) >>
    part "body" (node "switch_block" (braced labels)))

/-- A prefixed or postfixed expression. -/
def unary (lambdas : Bool) (labels : Rule) : Rule :=
  node "unary_expression" (part "operator" (anyMark ["+", "-", "!", "~"]) >>
      part "operand" (self (.unary lambdas)))
    <|> node "update_expression" (anyMark ["++", "--"] >> self (.unary lambdas))
    <|> cast self lambdas
    <|> switchLabelled self labels
    <|> chain (primary self) fun built =>
      node "update_expression" (after built (anyMark ["++", "--"]))

/-- The operator that the tokens start with, its level and the rest. A shift to the right is
several tokens without blanks between them. -/
def operator? (tokens : List Token) : Option (Token × Nat × List Token) :=
  match tokens with
  | [] => none
  | token :: rest =>
    if !isPlain token then none
    else if token.text == ">" then
      match rest with
      | second :: third :: others =>
        if isMark ">" second && token.stop == second.start then
          if isMark ">" third && second.stop == third.start then
            checked (others) ⟨.mark, ">>>", token.start, third.stop, token.row⟩ 11
          else checked (third :: others) ⟨.mark, ">>", token.start, second.stop, token.row⟩ 11
        else if isMark "=" second && token.stop == second.start then
          some (⟨.mark, ">=", token.start, second.stop, token.row⟩, 10, third :: others)
        else some (token, 10, rest)
      | _ => some (token, 10, rest)
    else (levels.lookup token.text).map fun level => (token, level, rest)
where
  levels : List (String × Nat) :=
    [("||", 4), ("&&", 5), ("|", 6), ("^", 7), ("&", 8), ("==", 9), ("!=", 9), ("<", 10),
      ("<=", 10), ("<<", 11), ("+", 12), ("-", 12), ("*", 13), ("/", 13), ("%", 13)]
  checked (rest : List Token) (token : Token) (level : Nat) : Option (Token × Nat × List Token) :=
    match rest with
    | next :: _ =>
      if isMark "=" next && token.stop == next.start then none else some (token, level, rest)
    | [] => some (token, level, rest)

/-- A tested type with the name it is bound to, or a record pattern. -/
def tested : Rule :=
  part "pattern" (self .recordPattern) <|>
    (part "right" (self .type) >> opt (part "name" identifier))

/-- An operator of at least the given level and its right operand. -/
def operation (level : Nat) (lambdas : Bool) (built : List Tree) : Rule := fun tokens =>
  match operator? tokens with
  | some (token, found, rest) =>
    if level ≤ found then
      node "binary_expression"
        (part "left" (after built nothing) >>
          part "operator" (after [leaf token.text false token] nothing) >>
          part "right" (self (.binary (found + 1) lambdas))) rest
    else none
  | none => none

def binaryStep (level : Nat) (lambdas : Bool) (built : List Tree) : Rule :=
  given (level ≤ 10) (node "instanceof_expression"
      (part "left" (after built nothing) >> mark "instanceof" >> opt (mark "final") >>
        tested self))
    <|> operation self level lambdas built

def binary (level : Nat) (lambdas : Bool) : Rule :=
  chain (self (.unary lambdas)) (binaryStep self level lambdas)

/-- The assignment that the tokens start with; a shifting one is several tokens. -/
def assignment : Rule := fun tokens =>
  match tokens with
  | a :: b :: c :: d :: rest =>
    if isMark ">" a && isMark ">" b && a.stop == b.start then
      if isMark "=" c && b.stop == c.start then
        some ([leaf ">>=" false { a with text := ">>=", stop := c.stop }], d :: rest)
      else if isMark ">" c && isMark "=" d && b.stop == c.start && c.stop == d.start then
        some ([leaf ">>>=" false { a with text := ">>>=", stop := d.stop }], rest)
      else none
    else plain tokens
  | _ => plain tokens
where
  plain : Rule :=
    anyMark ["=", "+=", "-=", "*=", "/=", "%=", "&=", "|=", "^=", "<<="]

/-- What may follow an operand: an assignment to it, or the branches of a condition. -/
def expressionStep (lambdas : Bool) (built : List Tree) : Rule :=
  given (hasKind ["identifier", "field_access", "array_access"] built)
      (node "assignment_expression" (part "left" (after built nothing) >>
        part "operator" assignment >> part "right" (self (.expression lambdas))))
    <|> node "ternary_expression" (part "condition" (after built nothing) >> mark "?" >>
      part "consequence" (self (.expression true)) >> mark ":" >>
      part "alternative" (self (.expression lambdas)))

def expression (lambdas : Bool) : Rule :=
  given lambdas (ahead startsLambda (lambda self)) <|>
    chain (self (.binary 4 lambdas)) (expressionStep self lambdas)

end SensorFlow.Java

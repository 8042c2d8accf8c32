import SensorFlow.Java.Grammar.Expression

/-!
# Statements of Java
-/
namespace SensorFlow.Java
open Rule
set_option autoImplicit false

variable (self : Form → Rule)

def block : Rule := node "block" (braced (many (self .statement)))

def variableDeclarators : Rule := sepBy1 "," (part "declarator" (variableDeclarator self))

def localVariables : Rule :=
  node "local_variable_declaration" (opt (modifiers self) >> part "type" (self .plainType) >>
    variableDeclarators self >> mark ";")

def expressionStatement : Rule :=
  node "expression_statement" (self (.expression true) >> mark ";")

def recordPatternComponent : Rule :=
  self .recordPattern <|> node "record_pattern_component"
    ((self .plainType >> identifier) <|> keyword "_" "underscore_pattern")

def recordPattern : Rule :=
  node "record_pattern" (typeName >>
    node "record_pattern_body" (parens (sepBy "," (recordPatternComponent self))))
where
  typeName : Rule :=
    chain identifier fun built =>
      given (!hasKind ["generic_type"] built) (node "generic_type" (after
        (built.map fun t => .node { t.head with kind := "type_identifier" } t.children)
        (typeArguments self)))

/-- A type and the name that is bound to a value of it; a guard is not such a name. -/
def typePattern : Rule :=
  node "type_pattern" (self .plainType >>
    ahead (fun tokens => !nextIs "when" tokens || endsLabel tokens.tail) identifier)
where
  endsLabel (tokens : List Token) : Bool :=
    nextIs "->" tokens || nextIs ":" tokens || nextIs "when" tokens

def pattern : Rule := node "pattern" (self .recordPattern <|> typePattern self)

def guard : Rule := node "guard" (mark "when" >> self (.expression false))

def switchLabel : Rule :=
  node "switch_label"
    (mark "case" >>
        (pattern self <|> sepBy1 "," (self (.expression false) <|> mark "default")) >>
        opt (guard self))
    <|> node "switch_label" (mark "default")

def switchGroup : Rule :=
  node "switch_block_statement_group"
    (many1 (switchLabel self >> mark ":") >> many (self .statement))

def throwStatement : Rule :=
  node "throw_statement" (mark "throw" >> self (.expression true) >> mark ";")

def switchRule : Rule :=
  node "switch_rule" (switchLabel self >> mark "->" >>
    (self .block <|> throwStatement self <|> expressionStatement self))

/-- The contents of a switch: rules with arrows, or groups with colons. -/
def switchContents : Rule := many1 (switchRule self) <|> many (switchGroup self)

def labeledStatement : Rule :=
  node "labeled_statement" (identifier >> mark ":" >> self .statement)

def assertStatement : Rule :=
  node "assert_statement" (mark "assert" >> self (.expression true) >>
    opt (mark ":" >> self (.expression true)) >> mark ";")

def ifStatement : Rule :=
  node "if_statement" (mark "if" >> part "condition" (parenthesized self) >>
    part "consequence" (self .statement) >>
    opt (mark "else" >> part "alternative" (self .statement)))

def whileStatement : Rule :=
  node "while_statement" (mark "while" >> part "condition" (parenthesized self) >>
    part "body" (self .statement))

def doStatement : Rule :=
  node "do_statement" (mark "do" >> part "body" (self .statement) >> mark "while" >>
    part "condition" (parenthesized self) >> mark ";")

def jumpStatement : Rule :=
  node "break_statement" (mark "break" >> opt identifier >> mark ";")
    <|> node "continue_statement" (mark "continue" >> opt identifier >> mark ";")
    <|> node "return_statement" (mark "return" >> opt (self (.expression true)) >> mark ";")
    <|> node "yield_statement" (mark "yield" >> self (.expression true) >> mark ";")

def enhancedFor : Rule :=
  node "enhanced_for_statement" (mark "for" >> mark "(" >> opt (modifiers self) >>
    part "type" (self .plainType) >> variableDeclaratorId self >> mark ":" >>
    part "value" (self (.expression true)) >> mark ")" >> part "body" (self .statement))

def forStatement : Rule :=
  node "for_statement" (mark "for" >> mark "(" >>
    (part "init" (localVariables self) <|>
      (sepBy "," (part "init" (self (.expression true))) >> mark ";")) >>
    part "condition" (opt (self (.expression true))) >> mark ";" >>
    sepBy "," (part "update" (self (.expression true))) >> mark ")" >>
    part "body" (self .statement))

def synchronizedStatement : Rule :=
  node "synchronized_statement" (mark "synchronized" >> parenthesized self >>
    part "body" (self .block))

def catchClause : Rule :=
  node "catch_clause" (mark "catch" >> mark "(" >>
    node "catch_formal_parameter" (opt (modifiers self) >>
      node "catch_type" (sepBy1 "|" (self .plainType)) >> variableDeclaratorId self) >>
    mark ")" >> part "body" (self .block))

def finallyClause : Rule := node "finally_clause" (mark "finally" >> self .block)

def resource : Rule :=
  node "resource"
    ((opt (modifiers self) >> part "type" (self .plainType) >> variableDeclaratorId self >>
        mark "=" >> part "value" (self (.expression true)))
      <|> primary self)

def tryStatement : Rule :=
  node "try_with_resources_statement" (mark "try" >>
      part "resources" (node "resource_specification"
        (parens (sepBy1 ";" (resource self) >> opt (mark ";")))) >>
      part "body" (self .block) >> many (catchClause self) >> opt (finallyClause self))
    <|> node "try_statement" (mark "try" >> part "body" (self .block) >>
      many (catchClause self) >> opt (finallyClause self))

/-- A statement that is no declaration. -/
def plainStatement : Rule :=
  self .block <|> mark ";" <|> ifStatement self <|> enhancedFor self <|> forStatement self <|>
    whileStatement self <|> doStatement self <|> jumpStatement self <|>
    switchLabelled self (switchContents self) <|> tryStatement self <|>
    synchronizedStatement self <|> throwStatement self <|> assertStatement self <|>
    localVariables self <|> labeledStatement self <|> expressionStatement self

end SensorFlow.Java

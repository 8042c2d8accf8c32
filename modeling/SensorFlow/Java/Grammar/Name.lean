import SensorFlow.Java.Combinator

/-!
# Names, types and annotations of Java

The grammar is open: rules refer to each other through `self`, which answers the rule for a form.
Closing the recursion is left to the parser.
-/
namespace SensorFlow.Java
open Rule
set_option autoImplicit false

/-- The forms through which rules call each other. -/
inductive Form where
  | type
  | plainType
  | typeArgument
  | annotated
  | elementValue
  /-- An expression; in a case label an arrow belongs to the label and makes no lambda. -/
  | expression (lambdas : Bool)
  | binary (level : Nat) (lambdas : Bool)
  | unary (lambdas : Bool)
  | initializer
  | recordPattern
  | block
  | statement
  | classBody
  | typeDeclaration
  deriving Repr, DecidableEq

/-- Words that are never names. -/
def keywords : List String :=
  ["abstract", "assert", "boolean", "break", "byte", "case", "catch", "char", "class", "continue",
    "default", "do", "double", "else", "enum", "extends", "final", "finally", "float", "for", "if",
    "implements", "import", "instanceof", "int", "interface", "long", "native", "new", "package",
    "private", "protected", "public", "return", "short", "static", "strictfp", "super", "switch",
    "synchronized", "this", "throw", "throws", "transient", "try", "void", "volatile", "while",
    "true", "false", "null"]

def isName (token : Token) : Bool := token.kind == .word && !keywords.contains token.text

def identifier : Rule := one isName (fun _ => "identifier") true

def typeIdentifier : Rule := one isName (fun _ => "type_identifier") true

/-- A name of a variable, where an underscore stands for none. -/
def variableName : Rule :=
  keyword "_" "underscore_pattern" <|> identifier

/-- A name, maybe with dots. -/
def dottedName : Rule :=
  chain identifier fun built =>
    node "scoped_identifier" (part "scope" (after built nothing) >> mark "." >>
      part "name" identifier)

variable (self : Form → Rule)

def annotations : Rule := many (self .annotated)

def typeArguments : Rule :=
  node "type_arguments" (mark "<" >> sepBy "," (self .typeArgument) >> mark ">")

/-- A type argument: a wildcard with its bound, or a type. -/
def typeArgument : Rule :=
  node "wildcard" (annotations self >> mark "?" >>
    opt ((mark "extends" >> self .type) <|> (keyword "super" "super" >> self .type)))
    <|> self .type

def primitiveType : Rule :=
  keyword "void" "void_type" <|> keyword "boolean" "boolean_type" <|>
    node "integral_type" (anyMark ["byte", "short", "int", "long", "char"]) <|>
    node "floating_point_type" (anyMark ["float", "double"])

def hasKind (kinds : List String) (built : List Tree) : Bool :=
  built.head?.any fun t => kinds.contains t.kind

/-- A class type, with type arguments and qualifying dots. -/
def classType : Rule :=
  chain typeIdentifier fun built =>
    given (!hasKind ["generic_type"] built)
      (node "generic_type" (after built (typeArguments self)))
    <|> node "scoped_type_identifier"
      (after built (mark "." >> annotations self >> typeIdentifier))

def simpleType : Rule := primitiveType <|> classType self

def dimensions : Rule :=
  node "dimensions" (many1 (annotations self >> mark "[" >> mark "]"))

/-- A type without annotations before it. -/
def plainType : Rule :=
  chain (simpleType self) fun built =>
    given (!hasKind ["array_type"] built)
      (node "array_type" (part "element" (after built nothing) >>
        part "dimensions" (dimensions self)))

def annotatedType : Rule :=
  ahead (nextIs "@") (node "annotated_type" (many1 (self .annotated) >> self .plainType))
    <|> self .plainType

def elementValues : Rule :=
  node "element_value_array_initializer"
    (braced (sepBy "," (self .elementValue) >> opt (mark ",")))

def elementValue : Rule :=
  elementValues self <|> self .annotated <|> self (.expression true)

def elementPair : Rule :=
  node "element_value_pair"
    (part "key" identifier >> mark "=" >> part "value" (self .elementValue))

def annotationArguments : Rule :=
  node "annotation_argument_list" (mark "(" >>
    ((sepBy "," (elementPair self) >> mark ")") <|> (self .elementValue >> mark ")")))

/-- An annotation; `@interface` starts a declaration instead. -/
def annotated : Rule :=
  ahead (fun tokens => nextIs "@" tokens && !nextIs "interface" tokens.tail)
    (node "annotation" (mark "@" >> part "name" dottedName >>
        part "arguments" (annotationArguments self))
      <|> node "marker_annotation" (mark "@" >> part "name" dottedName))

def modifierWords : List String :=
  ["public", "protected", "private", "abstract", "static", "final", "strictfp", "default",
    "synchronized", "native", "transient", "volatile"]

/-- Words that `sealed` may stand before when it is a modifier. -/
def sealable : List String := ["class", "interface"] ++ modifierWords

/-- The three tokens of `non-sealed`, written without blanks. -/
def nonSealed : Rule := fun tokens =>
  match tokens with
  | first :: dash :: last :: rest =>
    if isMark "non" first && isMark "-" dash && isMark "sealed" last &&
        first.stop == dash.start && dash.stop == last.start then
      let whole := { first with text := "non-sealed", stop := last.stop }
      some ([leaf "non-sealed" false whole], rest)
    else none
  | _ => none

def modifier : Rule :=
  self .annotated <|> anyMark modifierWords <|> nonSealed <|>
    ahead (fun tokens => tokens.tail.head?.any fun t => sealable.contains t.text) (mark "sealed")

def modifiers : Rule := node "modifiers" (many1 (modifier self))

end SensorFlow.Java

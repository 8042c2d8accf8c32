import SensorFlow.Java.Grammar.Statement

/-!
# Declarations of Java
-/
namespace SensorFlow.Java
open Rule
set_option autoImplicit false

variable (self : Form → Rule)

def typeParameter : Rule :=
  node "type_parameter" (annotations self >> typeIdentifier >>
    opt (node "type_bound" (mark "extends" >> sepBy1 "&" (self .type))))

def typeParameters : Rule :=
  node "type_parameters" (mark "<" >> sepBy1 "," (typeParameter self) >> mark ">")

def typeList : Rule := node "type_list" (sepBy1 "," (self .type))

def superclass : Rule := node "superclass" (mark "extends" >> self .type)

def superInterfaces : Rule := node "super_interfaces" (mark "implements" >> typeList self)

def extendsInterfaces : Rule := node "extends_interfaces" (mark "extends" >> typeList self)

def permits : Rule := node "permits" (mark "permits" >> typeList self)

def classDeclaration : Rule :=
  node "class_declaration" (opt (modifiers self) >> mark "class" >> part "name" identifier >>
    opt (part "type_parameters" (typeParameters self)) >>
    opt (part "superclass" (superclass self)) >>
    opt (part "interfaces" (superInterfaces self)) >> opt (part "permits" (permits self)) >>
    part "body" (self .classBody))

def recordDeclaration : Rule :=
  node "record_declaration" (opt (modifiers self) >> mark "record" >> part "name" identifier >>
    opt (part "type_parameters" (typeParameters self)) >>
    part "parameters" (formalParameters self) >>
    opt (part "interfaces" (superInterfaces self)) >> part "body" (self .classBody))

def throwsClause : Rule := node "throws" (mark "throws" >> sepBy1 "," (self .type))

def methodDeclaration : Rule :=
  node "method_declaration" (opt (modifiers self) >>
    opt (part "type_parameters" (typeParameters self) >> annotations self) >>
    part "type" (self .plainType) >> part "name" identifier >>
    part "parameters" (formalParameters self) >> part "dimensions" (opt (dimensions self)) >>
    opt (throwsClause self) >> (part "body" (self .block) <|> mark ";"))

/-- A call of another constructor as the first statement of a constructor. -/
def constructorCall : Rule :=
  node "explicit_constructor_invocation"
    (((part "type_arguments" (opt (typeArguments self)) >>
          part "constructor" (keyword "this" "this" <|> keyword "super" "super"))
        <|> (part "object" (primary self) >> mark "." >>
          part "type_arguments" (opt (typeArguments self)) >>
          part "constructor" (keyword "super" "super"))) >>
      part "arguments" (argumentList self) >> mark ";")

def constructorDeclaration : Rule :=
  node "constructor_declaration" (opt (modifiers self) >>
    part "type_parameters" (opt (typeParameters self)) >> part "name" identifier >>
    part "parameters" (formalParameters self) >> opt (throwsClause self) >>
    part "body" (node "constructor_body"
      (braced (opt (constructorCall self) >> many (self .statement)))))

def compactConstructor : Rule :=
  node "compact_constructor_declaration" (opt (modifiers self) >> part "name" identifier >>
    part "body" (self .block))

def variablesNode (kind : String) : Rule :=
  node kind (opt (modifiers self) >> part "type" (self .plainType) >>
    variableDeclarators self >> mark ";")

def staticInitializer : Rule := node "static_initializer" (mark "static" >> self .block)

def enumConstant : Rule :=
  node "enum_constant" (opt (modifiers self) >> part "name" identifier >>
    part "arguments" (opt (argumentList self)) >> part "body" (opt (self .classBody)))

def classMember : Rule :=
  staticInitializer self <|> self .block <|> mark ";" <|> self .typeDeclaration <|>
    methodDeclaration self <|> constructorDeclaration self <|> compactConstructor self <|>
    variablesNode self "field_declaration"

def classBody : Rule := node "class_body" (braced (many (classMember self)))

def enumDeclaration : Rule :=
  node "enum_declaration" (opt (modifiers self) >> mark "enum" >> part "name" identifier >>
    opt (part "interfaces" (superInterfaces self)) >>
    part "body" (node "enum_body" (braced (sepBy "," (enumConstant self) >> opt (mark ",") >>
      opt (node "enum_body_declarations" (mark ";" >> many (classMember self)))))))

/-- The mark `@interface`, written without a blank. -/
def annotationMark : Rule := fun tokens =>
  match tokens with
  | sign :: word :: rest =>
    if isMark "@" sign && isMark "interface" word && sign.stop == word.start then
      some ([leaf "@interface" false { sign with text := "@interface", stop := word.stop }], rest)
    else none
  | _ => none

def annotationElement : Rule :=
  node "annotation_type_element_declaration" (opt (modifiers self) >>
    part "type" (self .plainType) >> part "name" identifier >> mark "(" >> mark ")" >>
    part "dimensions" (opt (dimensions self)) >>
    opt (mark "default" >> part "value" (self .elementValue)) >> mark ";")

def annotationDeclaration : Rule :=
  node "annotation_type_declaration" (opt (modifiers self) >> annotationMark >>
    part "name" identifier >> part "body" (node "annotation_type_body" (braced (many
      (self .typeDeclaration <|> annotationElement self <|>
        variablesNode self "constant_declaration" <|> mark ";")))))

def interfaceDeclaration : Rule :=
  node "interface_declaration" (opt (modifiers self) >> mark "interface" >>
    part "name" identifier >> part "type_parameters" (opt (typeParameters self)) >>
    opt (extendsInterfaces self) >> opt (part "permits" (permits self)) >>
    part "body" (node "interface_body" (braced (many
      (self .typeDeclaration <|> methodDeclaration self <|>
        variablesNode self "constant_declaration" <|> mark ";")))))

def typeDeclaration : Rule :=
  classDeclaration self <|> recordDeclaration self <|> interfaceDeclaration self <|>
    annotationDeclaration self <|> enumDeclaration self

def importDeclaration : Rule :=
  node "import_declaration" (mark "import" >> opt (mark "static") >> dottedName >>
    opt (mark "." >> keyword "*" "asterisk") >> mark ";")

def packageDeclaration : Rule :=
  node "package_declaration" (annotations self >> mark "package" >> dottedName >> mark ";")

def moduleNames (kind word name link others : String) : Rule :=
  node kind (mark word >> part name dottedName >>
    opt (mark link >> sepBy1 "," (part others dottedName)) >> mark ";")

def moduleDirective : Rule :=
  node "requires_module_directive" (mark "requires" >>
      many (part "modifiers" (requiresModifier)) >> part "module" dottedName >> mark ";")
    <|> moduleNames "exports_module_directive" "exports" "package" "to" "modules"
    <|> moduleNames "opens_module_directive" "opens" "package" "to" "modules"
    <|> node "uses_module_directive" (mark "uses" >> part "type" dottedName >> mark ";")
    <|> moduleNames "provides_module_directive" "provides" "provided" "with" "provider"
where
  requiresModifier : Rule :=
    ahead (fun tokens => !nextIs ";" tokens.tail && !nextIs "." tokens.tail)
      (node "requires_modifier" (anyMark ["transitive", "static"]))

def moduleDeclaration : Rule :=
  node "module_declaration" (annotations self >> opt (mark "open") >> mark "module" >>
    part "name" dottedName >> part "body" (node "module_body" (braced (many moduleDirective))))

def statement : Rule := self .typeDeclaration <|> plainStatement self

/-- A whole source: declarations, and statements and methods outside of classes. -/
def program : Rule :=
  node "program" (many (packageDeclaration self <|> importDeclaration <|>
    moduleDeclaration self <|> self .typeDeclaration <|> methodDeclaration self <|>
    self .statement))

end SensorFlow.Java

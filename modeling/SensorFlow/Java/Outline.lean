import SensorFlow.Java.Parse
import SensorFlow.Symbol.Basic
import SensorFlow.Symbol.Naming

/-!
# Classes of a Java source

Classes are read off a syntax tree whose node kinds have configurable meanings. A method belongs
to the class around it, also from the body of an anonymous class; a call belongs to the nearest
method around it. Neither crosses the declaration of a named type.
-/
namespace SensorFlow.Java
open Text
set_option autoImplicit false

/-- Which kinds of nodes play which role. -/
structure NodeKinds where
  packages : List String := ["package_declaration"]
  classes : List String := ["class_declaration", "interface_declaration"]
  methods : List String := ["method_declaration"]
  fields : List String := ["field_declaration"]
  calls : List String := ["method_invocation"]
  creations : List String := ["object_creation_expression"]
  deriving Repr, DecidableEq

/-- The kinds named for each role by a configuration; a role without kinds keeps its usual ones. -/
def NodeKinds.configured (kindsOf : String → List String) : NodeKinds :=
  let usual : NodeKinds := {}
  let choose (role : String) (default : List String) : List String :=
    if (kindsOf role).isEmpty then default else kindsOf role
  { packages := choose "package" usual.packages
    classes := choose "class" usual.classes
    methods := choose "method" usual.methods
    fields := choose "field" usual.fields
    calls := choose "call" usual.calls
    creations := choose "creation" usual.creations }

/-- Declarations of named types, which keep what is in them to themselves. -/
def isTypeBoundary (kind : String) : Bool :=
  ["class_declaration", "interface_declaration", "enum_declaration",
    "record_declaration"].contains kind

def textOf (t : Option Tree) : String := (t.map Tree.text).getD ""

/-- The text of a type; type arguments at its end are left out. -/
def typeName (t : Tree) : String :=
  if t.kind == "generic_type" then textOf (t.namedChildren.head?.or (some t)) else t.text

def packageName (kinds : NodeKinds) (root : Tree) : String :=
  let names := (root.children.filter fun t => kinds.packages.contains t.kind).flatMap fun t =>
    t.namedChildren.filter fun part => part.kind == "scoped_identifier" || part.kind == "identifier"
  textOf names.head?

/-- The method and field declarations of a class body, those of anonymous classes included, with
whether they stand in the body itself. -/
def members (body : Tree) : List (Bool × Tree) :=
  Tree.visit (fun item => isTypeBoundary item.2.kind)
    (fun item =>
      if item.2.kind == "method_declaration" || item.2.kind == "field_declaration" then [item]
      else [])
    [] (body.children.map (true, ·))

/-- The target of a call. A receiver other than a name or a field of `this` gives no hint. -/
def invocationTarget? (t : Tree) : Option String := do
  let name ← t.part? "name"
  match t.part? "object" with
  | none => some name.text
  | some receiver =>
    if receiver.kind == "this" then some name.text
    else if receiver.kind == "identifier" then some (callTarget receiver.text name.text)
    else
      let field :=
        if receiver.kind == "field_access" &&
            (receiver.part? "object").any (fun o => o.kind == "this") then
          receiver.part? "field"
        else none
      some (callTarget (textOf field) name.text)

/-- The call that a node itself makes. -/
def ownCall (kinds : NodeKinds) (t : Tree) : List String :=
  let target :=
    if kinds.calls.contains t.kind then invocationTarget? t
    else if kinds.creations.contains t.kind then (t.part? "type").map typeName
    else none
  (target.filter (· != "")).toList

/-- The calls of a method body in source order, each before those in its receiver and arguments.
Methods in the body keep theirs. -/
def bodyCalls (kinds : NodeKinds) (body : Tree) : List String :=
  Tree.visit
    (fun item => (!item.1 && item.2.kind == "method_declaration") || isTypeBoundary item.2.kind)
    (fun item => ownCall kinds item.2) [] [(true, body)]

/-- The part of a dotted name behind the last dot. -/
def lastName (name : String) : String :=
  String.ofList (name.toList.reverse.takeWhile (· != '.')).reverse

def annotationNames (t : Tree) : List String :=
  ((t.children.filter (·.kind == "modifiers")).flatMap Tree.namedChildren).filterMap fun m =>
    if m.kind == "marker_annotation" || m.kind == "annotation" then
      some (lastName (textOf (m.part? "name")))
    else none

def parameter? (t : Tree) : Option Parameter :=
  if t.kind == "formal_parameter" then
    (t.part? "name").map fun name => ⟨name.text, textOf (t.part? "type")⟩
  else if t.kind == "spread_parameter" then do
    let declarator ← t.namedChildren.find? (·.kind == "variable_declarator")
    let name ← declarator.part? "name"
    let type := t.namedChildren.find? fun c =>
      c.kind != "modifiers" && c.kind != "variable_declarator"
    some ⟨name.text, textOf type⟩
  else none

def method? (kinds : NodeKinds) (owner : String) (t : Tree) : Option MethodSymbol :=
  (t.part? "name").map fun name =>
    let type := textOf (t.part? "type")
    { name := name.text
      qualifiedName := owner ++ "." ++ name.text
      returnType := if type == "" then "void" else type
      line := t.row + 1
      parameters := ((t.part? "parameters").map fun ps => ps.namedChildren.filterMap parameter?).getD []
      calls := ((t.part? "body").map (bodyCalls kinds)).getD []
      annotations := annotationNames t }

def fieldsOf (t : Tree) : List FieldSymbol :=
  let type := textOf (t.part? "type")
  (t.namedChildren.filter (·.kind == "variable_declarator")).filterMap fun declarator =>
    (declarator.part? "name").map fun name => .ofType name.text type (declarator.row + 1)

def interfacesOf (t : Tree) : List String :=
  let clauses := t.children.filter fun c =>
    c.kind == "super_interfaces" || c.kind == "extends_interfaces"
  let lists := (clauses.flatMap Tree.namedChildren).filter (·.kind == "type_list")
  (lists.flatMap Tree.namedChildren).map typeName

def superclassOf (t : Tree) : Option String := do
  let clause ← t.part? "superclass"
  (clause.namedChildren.head?).map typeName

def classOf (kinds : NodeKinds) (path scope : String) (t : Tree) (name : String) : ClassSymbol :=
  let qualified := qualifiedName scope name
  let found := ((t.part? "body").map members).getD []
  let methods := found.filterMap fun m =>
    if kinds.methods.contains m.2.kind then method? kinds qualified m.2 else none
  let fields := found.flatMap fun m =>
    if !kinds.methods.contains m.2.kind && kinds.fields.contains m.2.kind && m.1 then fieldsOf m.2
    else []
  ClassSymbol.withRoles {
    name := name
    qualifiedName := qualified
    filePath := path
    packageName := scope
    superClass := superclassOf t
    interfaces := interfacesOf t
    methods := methods
    fields := fields
    isComposable := methods.any fun m => m.annotations.contains "Composable" }

/-- The classes of a syntax tree, in source order. -/
def treeClasses (kinds : NodeKinds) (path : String) (root : Tree) : List ClassSymbol :=
  let scope := packageName kinds root
  (root.preorder.filter fun t => kinds.classes.contains t.kind).filterMap fun t =>
    (t.part? "name").map fun name => classOf kinds path scope t name.text

/-- The classes of a source that is stored under `path`; a text that is no Java has none. -/
def classes (kinds : NodeKinds) (source : List Char) (path : String) : List ClassSymbol :=
  ((parse? source).map (treeClasses kinds path)).getD []

end SensorFlow.Java

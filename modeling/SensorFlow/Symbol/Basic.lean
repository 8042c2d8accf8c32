import SensorFlow.Text.Scan

/-!
# Symbols of a project

What the analysis knows of the sources: classes with their methods, fields and call targets. The
shape is the same whatever language a class was written in.
-/
namespace SensorFlow
open Text
set_option autoImplicit false

structure Parameter where
  name : String
  type : String
  deriving Repr, DecidableEq

structure MethodSymbol where
  name : String
  qualifiedName : String
  returnType : String
  line : Int := 0
  parameters : List Parameter := []
  /-- Call targets in source order, a bare name or `receiver.name`; repeated calls are kept. -/
  calls : List String := []
  annotations : List String := []
  deriving Repr, DecidableEq

structure FieldSymbol where
  name : String
  type : String
  isLiveData : Bool := false
  isStateFlow : Bool := false
  isFlow : Bool := false
  line : Int := 0
  deriving Repr, DecidableEq

/-- A field whose reactive marks are read off the text of its type. -/
def FieldSymbol.ofType (name type : String) (line : Int) : FieldSymbol where
  name := name
  type := type
  isLiveData := contains type "LiveData"
  isStateFlow := contains type "StateFlow"
  isFlow := contains type "Flow"
  line := line

def FieldSymbol.isReactive (field : FieldSymbol) : Bool :=
  field.isLiveData || field.isStateFlow || field.isFlow

structure ClassSymbol where
  name : String
  qualifiedName : String
  filePath : String
  packageName : String
  superClass : Option String := none
  interfaces : List String := []
  methods : List MethodSymbol := []
  fields : List FieldSymbol := []
  isActivity : Bool := false
  isFragment : Bool := false
  isViewModel : Bool := false
  isComposable : Bool := false
  deriving Repr, DecidableEq

namespace ClassSymbol

def hasMethod (c : ClassSymbol) (name : String) : Bool := c.methods.any (·.name == name)

def field? (c : ClassSymbol) (name : String) : Option FieldSymbol :=
  c.fields.find? (·.name == name)

/-- Call targets of every method, in declaration order. -/
def calls (c : ClassSymbol) : List String := c.methods.flatMap (·.calls)

/-- Marks the framework roles that the name of the superclass gives away. -/
def withRoles (c : ClassSymbol) : ClassSymbol :=
  let parent := c.superClass.getD ""
  { c with
    isActivity := contains parent "Activity"
    isFragment := contains parent "Fragment"
    isViewModel := contains parent "ViewModel" }

end ClassSymbol
end SensorFlow

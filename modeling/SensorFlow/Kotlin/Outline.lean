import SensorFlow.File.Path
import SensorFlow.Kotlin.Call
import SensorFlow.Kotlin.Field
import SensorFlow.Kotlin.Function
import SensorFlow.Source.Masking

/-!
# Classes of a Kotlin source

One class per located declaration, in source order. A function belongs to the innermost
declaration whose body it starts in; the functions outside all bodies form the facade class of the
file.
-/
namespace SensorFlow.Kotlin
open Text Source
set_option autoImplicit false

/-- A package clause at the start of a line. -/
def readPackage : Reader (List Char) := fun before text => do
  if before.head?.any (· != '\n') then none
  let rest ← (after? "package".toList (text.dropWhile isBlank)).bind readBlanks?
  let (name, rest) := rest.span fun c => isWord c || c == '.'
  if name.isEmpty then none else some (name, rest)

def packageName (text : List Char) : List Char :=
  ((find? readPackage text).map (·.value)).getD []

/-- Of the declarations whose bodies cover an offset, the one that starts last. -/
def innermost? (all : List Declaration) (pos : Nat) : Option Declaration :=
  all.foldl (fun best d =>
    if d.bodyCovers pos && best.all (·.start < d.start) then some d else best) none

/-- The functions that belong to `d`. -/
def ownFunctions (ds : List Declaration) (fs : List Function) (d : Declaration) : List Function :=
  fs.filter fun f => (innermost? ds f.start).any (·.start == d.start)

/-- The functions outside the bodies of all declarations. -/
def topLevelFunctions (ds : List Declaration) (fs : List Function) : List Function :=
  fs.filter fun f => (innermost? ds f.start).isNone

def methodOf (text : List Char) (all : List Function) (owner : String) (f : Function) :
    MethodSymbol where
  name := String.ofList f.name
  qualifiedName := owner ++ "." ++ String.ofList f.name
  returnType := String.ofList f.returnType
  line := f.line
  parameters := (parameters f.params).map fun p => ⟨String.ofList p.1, String.ofList p.2⟩
  calls := calls (ownBody text all f)
  annotations := f.annotations.map String.ofList

def composable : String := "Composable"

def isComposableMethod (m : MethodSymbol) : Bool := m.annotations.contains composable

/-- A `fun` of the given name, without receiver or type parameters. -/
def readFunctionNamed (name : List Char) : Reader Unit := fun before text => do
  if !atWordStart before then none
  let rest ← (after? "fun".toList text).bind readBlanks?
  let rest ← after? name rest
  let rest ← after? ['('] (rest.dropWhile isBlank)
  some ((), rest)

/-- Whether the text has a composable annotation and a function named like the declaration. -/
def hasComposableNamed (text name : List Char) : Bool :=
  hasInfix "@Composable".toList text && (find? (readFunctionNamed name) text).isSome

def classOf (text : List Char) (path : String) (ds : List Declaration) (fs : List Function)
    (d : Declaration) : ClassSymbol :=
  let scope := String.ofList (packageName text)
  let name := String.ofList d.name
  let qualified := qualifiedName scope name
  let methods := (ownFunctions ds fs d).map (methodOf text fs qualified)
  let (parent, interfaces) := inherited d.inheritance
  ClassSymbol.withRoles {
    name := name
    qualifiedName := qualified
    filePath := path
    packageName := scope
    superClass := parent.map String.ofList
    interfaces := interfaces.map String.ofList
    methods := methods
    fields := bodyFields text ds d ++ constructorFields d
    isComposable := hasComposableNamed text d.name || methods.any isComposableMethod }

/-- The name of the class that holds the top-level functions of a file. -/
def facadeName (path : String) : String :=
  match (Path.ofString path).stem.toList with
  | [] => "Kt"
  | c :: rest => String.ofList (upperChar c ++ rest) ++ "Kt"

def facadeOf (text : List Char) (path : String) (fs topLevel : List Function) : ClassSymbol :=
  let scope := String.ofList (packageName text)
  let name := facadeName path
  let qualified := qualifiedName scope name
  let methods := topLevel.map (methodOf text fs qualified)
  { name := name
    qualifiedName := qualified
    filePath := path
    packageName := scope
    methods := methods
    isComposable := methods.any isComposableMethod }

/-- The classes of a source that is stored under `path`. -/
def classes (source : List Char) (path : String) : List ClassSymbol :=
  let text := mask source
  let ds := declarations text
  let fs := functions text
  let topLevel := topLevelFunctions ds fs
  ds.map (classOf text path ds fs) ++
    (if topLevel.isEmpty then [] else [facadeOf text path fs topLevel])

end SensorFlow.Kotlin

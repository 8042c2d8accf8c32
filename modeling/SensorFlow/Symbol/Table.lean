import SensorFlow.Symbol.Basic
import SensorFlow.Text.Order

/-!
# The symbol table

All classes of a project by qualified name. Of several descriptions of one qualified name the last
one survives; the surviving classes are kept in the order of their qualified names, which settles
every loose look-up.
-/
namespace SensorFlow
open Text
set_option autoImplicit false

structure SymbolTable where
  /-- The surviving classes, strictly increasing by qualified name. -/
  classes : List ClassSymbol := []
  /-- For every description, in the order given, its file and its qualified name. -/
  declared : List (String × String) := []
  deriving Repr, DecidableEq

namespace SymbolTable

/-- The last description of a qualified name. -/
def surviving? (descriptions : List ClassSymbol) (name : String) : Option ClassSymbol :=
  descriptions.reverse.find? (·.qualifiedName == name)

/-- The qualified names that occur, each once, in increasing order. -/
def names (descriptions : List ClassSymbol) : List String :=
  sorted (descriptions.map (·.qualifiedName)).eraseDups

def ofClasses (descriptions : List ClassSymbol) : SymbolTable where
  classes := (names descriptions).filterMap (surviving? descriptions)
  declared := descriptions.map fun c => (c.filePath, c.qualifiedName)

def size (table : SymbolTable) : Nat := table.classes.length

def get? (table : SymbolTable) (name : String) : Option ClassSymbol :=
  table.classes.find? (·.qualifiedName == name)

/-- The class with that qualified name, else the first one with that simple name. -/
def named? (table : SymbolTable) (name : String) : Option ClassSymbol :=
  if name.isEmpty then none
  else (table.get? name).or (table.classes.find? (·.name == name))

/-- The first class that declares a method of that name. -/
def declaring? (table : SymbolTable) (method : String) : Option ClassSymbol :=
  table.classes.find? (·.hasMethod method)

/-- The files that hold a description, each once, in the order of their first one. -/
def files (table : SymbolTable) : List String := (table.declared.map (·.1)).eraseDups

/-- The qualified names described in a file, once per description. -/
def namesIn (table : SymbolTable) (path : String) : List String :=
  table.declared.filterMap fun (file, name) => if file == path then some name else none

/-- For each name described in a file the surviving class of that name. -/
def classesIn (table : SymbolTable) (path : String) : List ClassSymbol :=
  (table.namesIn path).filterMap table.get?

end SymbolTable
end SensorFlow

import SensorFlow.Kotlin.Declaration
import SensorFlow.Symbol.Basic

/-!
# Fields of Kotlin declarations

A property with a written type in the body of a declaration, or a constructor parameter marked
`val` or `var`.
-/
namespace SensorFlow.Kotlin
open Text Source
set_option autoImplicit false

def propertyWords : List (List Char) := ["val".toList, "var".toList]

/-- The word `val` or `var` at the start of a word, and what follows. -/
def readPropertyWord (before text : List Char) : Option (List Char) :=
  if atWordStart before then propertyWords.findSome? (after? · text) else none

/-- A property word, the name behind it and the text behind the colon. -/
def readProperty (before text : List Char) : Option (List Char × List Char) := do
  let rest ← (readPropertyWord before text).bind readBlanks?
  let (name, rest) ← readWord? rest
  let rest ← after? [':'] (rest.dropWhile isBlank)
  some (name, rest)

/-- Characters of a type without brackets other than angle brackets. -/
def isTypeChar (c : Char) : Bool :=
  isWord c || isBlank c || c == '<' || c == '>' || c == '?' || c == '.' || c == ','

/-- What ends the type of a property: `=`, `by` or the end of the line. -/
def readTypeEnd (text : List Char) : Option (List Char) :=
  let rest := text.dropWhile isBlank
  match after? ['='] rest with
  | some rest => some rest
  | none =>
    let delegated := (readBlanks? text).bind (after? "by".toList) |>.filter (!·.head?.any isWord)
    match delegated with
    | some rest => some rest
    | none => if text.isEmpty || text.head? == some '\n' then some text else none

/-- The shortest non-empty type that an end follows; `taken` is what has been read of it, last
character first. -/
def readTypeUntilEnd (taken : List Char) : List Char → Option (List Char × List Char)
  | [] => none
  | c :: rest =>
    if !isTypeChar c then none
    else
      match readTypeEnd rest with
      | some behind => some ((c :: taken).reverse, behind)
      | none => readTypeUntilEnd (c :: taken) rest

/-- The type behind a colon. Leading blanks are left out of it, unless nothing else of a type
stands there: then as few of them as possible are given back to it. -/
def readPropertyType (text : List Char) : Option (List Char × List Char) :=
  let blanks := (text.takeWhile isBlank).length
  (List.range (blanks + 1)).reverse.findSome? fun skipped =>
    readTypeUntilEnd [] (text.drop skipped)

/-- A property with its written type. -/
def readTypedProperty : Reader (List Char × List Char) := fun before text => do
  let (name, rest) ← readProperty before text
  let (type, rest) ← readPropertyType rest
  some ((name, type), rest)

def fieldOf (name type : List Char) (line : Nat) : FieldSymbol :=
  .ofType (String.ofList name) (String.ofList type) line

/-- The declarations that start within the body of `d`. -/
def nestedIn (all : List Declaration) (d : Declaration) : List Declaration :=
  match d.body? with
  | none => []
  | some body =>
    all.filter fun e => e.start != d.start && body.first + 1 ≤ e.start && e.start ≤ body.last

/-- The properties at the top of a declaration's body, outside the declarations nested in it. -/
def bodyFields (text : List Char) (all : List Declaration) (d : Declaration) :
    List FieldSymbol :=
  match d.body? with
  | none => []
  | some body =>
    let nested := nestedIn all d
    let depth := braceDepth text (body.first + 1)
    let hits := (findBetween readTypedProperty text (body.first + 1) body.last).filter fun hit =>
      braceDepth text hit.start == depth && !nested.any (·.covers hit.start)
    hits.map fun hit => fieldOf hit.value.1 (squeeze hit.value.2) (lineOf text hit.start)

/-- A constructor parameter that is a property; its type goes on to a default value. -/
def readConstructorProperty : Reader (List Char × List Char) := fun before text => do
  let (name, rest) ← readProperty before text
  if rest.isEmpty then none
  some ((name, squeeze ((rest.dropWhile isBlank).takeWhile (· != '='))), [])

/-- The properties among the constructor parameters. -/
def constructorFields (d : Declaration) : List FieldSymbol :=
  (commaParts d.constructorParams).filterMap fun part =>
    (find? readConstructorProperty part).map fun hit =>
      fieldOf hit.value.1 hit.value.2 d.line

end SensorFlow.Kotlin

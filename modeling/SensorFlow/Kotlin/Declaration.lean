import SensorFlow.Source.Brackets

/-!
# Located declarations of a Kotlin source

The headers of classes, objects and interfaces in a masked text, each with its constructor
parameters, its inheritance clause and the span of its body. Positions are offsets in the text.
-/
namespace SensorFlow.Kotlin
open Text Source
set_option autoImplicit false

/-- The offsets of the brackets around a body, or of the `=` and the end of an expression. -/
structure Span where
  first : Nat
  last : Nat
  deriving Repr, DecidableEq

structure Declaration where
  name : List Char
  start : Nat
  line : Nat
  constructorParams : List Char
  inheritance : List Char
  body? : Option Span
  deriving Repr, DecidableEq

namespace Declaration

/-- The last offset of the declaration; one without a body is a single offset. -/
def stop (d : Declaration) : Nat := (d.body?.map (·.last)).getD d.start

def covers (d : Declaration) (pos : Nat) : Bool := d.start ≤ pos && pos ≤ d.stop

/-- Whether an offset lies behind the opening brace of the body and not behind the closing one. -/
def bodyCovers (d : Declaration) (pos : Nat) : Bool :=
  match d.body? with
  | none => false
  | some body => body.first < pos && pos ≤ body.last

end Declaration

def declarationWords : List (List Char) :=
  ["class".toList, "object".toList, "interface".toList]

/-- Words that follow `class`, `object` or `interface` without being declared by them. -/
def undeclaredNames : List (List Char) :=
  ["fun".toList, "val".toList, "var".toList, "by".toList, "constructor".toList]

/-- A declaring word and the name behind it on the same line; a class reference `::class` is
none. -/
def readDeclared : Reader (List Char) := fun before text => do
  if startsWith [':', ':'] before || !atWordStart before then none
  let rest ← declarationWords.findSome? (after? · text)
  match rest with
  | c :: _ =>
    if c == ' ' || c == '\t' then
      readWord? (rest.dropWhile fun c => c == ' ' || c == '\t')
    else none
  | [] => none

def visibilityWords : List (List Char) :=
  ["private".toList, "internal".toList, "protected".toList, "public".toList]

/-- The word `constructor`, maybe with a visibility, and the blanks behind it. -/
def readConstructorWord (text : List Char) : Option (List Char) :=
  let rest :=
    ((visibilityWords.findSome? (after? · text)).bind readBlanks?).getD text
  ((after? "constructor".toList rest).or (after? "constructor".toList text)).map
    (·.dropWhile isBlank)

/-- An argument list that ends at the first closing parenthesis. -/
def readFlatArguments (text : List Char) : List Char :=
  match text with
  | '(' :: rest =>
    match rest.dropWhile (· != ')') with
    | ')' :: rest => rest
    | _ => text
  | _ => text

/-- The first position inside `word` at which the constructor word is read, from the back. -/
def readRunOn (word rest : List Char) : Option (List Char) :=
  ((List.range word.length).reverse.filter (· != 0)).findSome? fun n =>
    readConstructorWord (word.drop n ++ rest)

/-- Annotations followed by the constructor word; the last annotation may run into it. -/
def readConstructorIntro (fuel : Nat) (text : List Char) : Option (List Char) :=
  match fuel, text with
  | 0, _ => none
  | fuel + 1, '@' :: annotated =>
    match readWord? annotated with
    | none => none
    | some (word, rest) =>
      (readConstructorIntro fuel ((readFlatArguments rest).dropWhile isBlank)).or
        (readRunOn word rest)
  | _ + 1, text => readConstructorWord text

/-- The offset of the constructor's parenthesis, if annotations, a visibility or the word
`constructor` stand before it. -/
def constructorStart? (text : List Char) (pos : Nat) : Option Nat := do
  let rest := text.drop pos
  let params ← readConstructorIntro (rest.length + 1) rest
  if params.head? == some '(' then some (text.length - params.length) else none

/-- Reads a type-like clause up to a stop outside round and angle brackets. `taken` is the
clause read so far, last character first; `stops` sees it together with the rest. -/
def readClause (stops : (taken rest : List Char) → Bool) (depth : Nat) (taken : List Char) :
    List Char → List Char
  | [] => taken
  | c :: rest =>
    if c == '(' || c == '<' then readClause stops (depth + 1) (c :: taken) rest
    else if c == ')' || (c == '>' && taken.head? != some '-') then
      readClause stops (depth - 1) (c :: taken) rest
    else if depth == 0 && stops taken (c :: rest) then taken
    else readClause stops depth (c :: taken) rest

/-- An inheritance clause ends at the body, or at a line break behind a complete entry unless
the body opens next. -/
def endsInheritance (taken rest : List Char) : Bool :=
  rest.head? == some '{' ||
    (rest.head? == some '\n' &&
      (taken.dropWhile isBlank).head?.any (· != ',') &&
      (rest.dropWhile isBlank).head? != some '{')

/-- The text before the first ` where `. -/
def beforeWhere : List Char → List Char
  | [] => []
  | c :: rest => if startsWith " where ".toList (c :: rest) then [] else c :: beforeWhere rest

/-- The span of a braced body that opens at `pos`; an unclosed one reaches to the last character. -/
def bracedBody? (text : List Char) (pos : Nat) : Option Span :=
  if text[pos]? = some '{' then
    some ⟨pos, (closing? text pos '{' '}').getD (text.length - 1)⟩
  else none

/-- Skips a bracketed group that opens at `pos` and the blanks behind it; the first answer is the
offset of the closing bracket. -/
def skipGroup? (text : List Char) (pos : Nat) (opening closing : Char) :
    Option (Option Nat × Nat) :=
  if text[pos]? = some opening then
    (closing? text pos opening closing).map fun close => (some close, skipBlanks text (close + 1))
  else some (none, pos)

/-- Completes the header whose declared name has been read. -/
def declaration? (text : List Char) (hit : Hit (List Char)) : Option Declaration := do
  let (_, pos) ← skipGroup? text (skipBlanks text hit.stop) '<' '>'
  let pos := (constructorStart? text pos).getD pos
  let (close, next) ← skipGroup? text pos '(' ')'
  let params := (close.map (slice text (pos + 1))).getD []
  let clause :=
    if text[next]? = some ':' then (readClause endsInheritance 0 [] (text.drop (next + 1))).reverse
    else []
  let stop := if text[next]? = some ':' then next + 1 + clause.length else next
  some {
    name := hit.value
    start := hit.start
    line := lineOf text hit.start
    constructorParams := params
    inheritance := beforeWhere (squeeze clause)
    body? := bracedBody? text (skipBlanks text stop) }

/-- All declarations of a masked text, in source order. -/
def declarations (text : List Char) : List Declaration :=
  ((findAll readDeclared text).filter fun hit => !undeclaredNames.contains hit.value).filterMap
    (declaration? text)

/-- The superclass and the interfaces named by an inheritance clause, without arguments. -/
def inherited (clause : List Char) : Option (List Char) × List (List Char) :=
  let names := (commaParts clause).map fun part =>
    trim (part.takeWhile fun c => c != '(' && c != '<')
  match names.filter (!·.isEmpty) with
  | [] => (none, [])
  | first :: others => (some first, others)

end SensorFlow.Kotlin

import SensorFlow.Kotlin.Declaration

/-!
# Located functions of a Kotlin source

The `fun` headers of a masked text with their parameters, return types, annotations and bodies.
The own body of a function is its body with the functions nested in it blanked out, so that a call
is reported by the innermost function around it.
-/
namespace SensorFlow.Kotlin
open Text Source
set_option autoImplicit false

structure Function where
  name : List Char
  start : Nat
  line : Nat
  params : List Char
  returnType : List Char
  body? : Option Span
  annotations : List (List Char)
  deriving Repr, DecidableEq

/-- An angle-bracketed list that ends at the first `>`. -/
def readFlatTypes (text : List Char) : Option (List Char) :=
  match text with
  | '<' :: rest =>
    match rest.dropWhile (· != '>') with
    | '>' :: rest => some rest
    | _ => none
  | _ => none

/-- A function name and the parenthesis behind it. -/
def readCalledName (text : List Char) : Option (List Char × List Char) := do
  let (name, rest) ← readWord? text
  let params ← after? ['('] (rest.dropWhile isBlank)
  some (name, params)

/-- The name behind the last dot of a dotted name, which must not start with that dot. -/
def readMember (dotted : List Char) (rest : List Char) : Option (List Char × List Char) :=
  let name := (dotted.reverse.takeWhile (· != '.')).reverse
  if name.length + 1 < dotted.length then readCalledName (name ++ rest) else none

/-- A receiver type with its dot, and the name behind it. Type arguments or a `?` may stand only
behind the whole dotted name of the receiver. -/
def readReceived (text : List Char) : Option (List Char × List Char) :=
  let (dotted, rest) := text.span fun c => isWord c || c == '.'
  let behind := (readFlatTypes rest).getD rest
  let behind := (after? ['?'] behind).getD behind
  let direct := if dotted.isEmpty then none else (after? ['.'] behind).bind readCalledName
  direct.or (readMember dotted rest)

/-- A `fun` header up to the parenthesis of its parameters. -/
def readFunction : Reader (List Char) := fun before text => do
  if !atWordStart before then none
  let rest ← (after? "fun".toList text).bind readBlanks?
  let rest ← if rest.head? == some '<' then (readFlatTypes rest).map (·.dropWhile isBlank)
    else some rest
  (readReceived rest).or (readCalledName rest)

def endsReturnType (_ rest : List Char) : Bool :=
  rest.head?.any fun c => c == '{' || c == '=' || c == '\n'

/-- The end of an expression body: the first line break outside all brackets, or the offset before
the bracket that closes the surroundings. -/
def expressionEnd (depth pos : Nat) : List Char → Nat
  | [] => pos - 1
  | c :: rest =>
    if c == '(' || c == '{' || c == '[' then expressionEnd (depth + 1) (pos + 1) rest
    else if c == ')' || c == '}' || c == ']' then
      if depth == 0 then pos - 1 else expressionEnd (depth - 1) (pos + 1) rest
    else if c == '\n' && depth == 0 then pos
    else expressionEnd depth (pos + 1) rest

def functionBody? (text : List Char) (pos : Nat) : Option Span :=
  if text[pos]? = some '=' then some ⟨pos, expressionEnd 0 (pos + 1) (text.drop (pos + 1))⟩
  else bracedBody? text pos

/-- An annotation that is not part of a longer word. -/
def readAnnotated : Reader (List Char) := fun before text => do
  if before.head?.any fun c => isWord c || c == '@' then none
  (after? ['@'] text).bind readWord?

def annotationNames (text : List Char) : List (List Char) :=
  (findAll readAnnotated text).map (·.value)

/-- The annotations on the line of an offset before it, and on the lines above it that are blank
or start with an annotation. -/
def annotationsBefore (text : List Char) (pos : Nat) : List (List Char) :=
  match ((text.take pos).splitOn '\n').reverse with
  | [] => []
  | last :: above =>
    let annotated := (above.map trim).takeWhile fun line =>
      line.head?.all (· == '@')
    (last :: annotated).reverse.flatMap annotationNames

/-- Completes the function whose header has been read up to its parenthesis. -/
def function? (text : List Char) (hit : Hit (List Char)) : Option Function := do
  let opened := hit.stop - 1
  let close ← closing? text opened '(' ')'
  let next := skipBlanks text (close + 1)
  let typed := text[next]? = some ':'
  let type := if typed then (readClause endsReturnType 0 [] (text.drop (next + 1))).reverse else []
  let next := if typed then skipBlanks text (next + 1 + type.length) else next
  let type := squeeze type
  some {
    name := hit.value
    start := hit.start
    line := lineOf text hit.start
    params := slice text (opened + 1) close
    returnType := if type.isEmpty then "Unit".toList else type
    body? := functionBody? text next
    annotations := annotationsBefore text hit.start }

/-- All functions of a masked text, in source order. -/
def functions (text : List Char) : List Function :=
  (findAll readFunction text).filterMap (function? text)

/-- Whether the function lies within the offsets, its body included. -/
def Function.within (f : Function) (first last : Nat) : Bool :=
  match f.body? with
  | none => false
  | some body => first ≤ f.start && body.last ≤ last

/-- The offsets from the `fun` of a function to the end of its body. -/
def Function.covers (f : Function) (pos : Nat) : Bool :=
  match f.body? with
  | none => false
  | some body => f.start ≤ pos && pos ≤ body.last

/-- Blanks every character at an offset from `pos` on that `hidden` holds of. -/
def hide (hidden : Nat → Bool) (pos : Nat) : List Char → List Char
  | [] => []
  | c :: rest => (if c != '\n' && hidden pos then ' ' else c) :: hide hidden (pos + 1) rest

/-- The body of `f` with the functions nested in it blanked out. -/
def ownBody (text : List Char) (all : List Function) (f : Function) : List Char :=
  match f.body? with
  | none => []
  | some body =>
    let first := body.first + 1
    let nested := all.filter fun g => g.start != f.start && g.within first body.last
    hide (fun pos => nested.any (·.covers pos)) first (slice text first body.last)

def parameterWords : List (List Char) :=
  ["vararg".toList, "noinline".toList, "crossinline".toList, "val".toList, "var".toList]

/-- A whole word that says how a parameter is passed or stored. -/
def readParameterWord : Reader Unit := fun before text => do
  if !atWordStart before then none
  let (word, rest) ← readWord? text
  if parameterWords.contains word then some ((), rest) else none

/-- A name, a colon and the text of a type, which a default value may follow. -/
def readTyped (text : List Char) : Option (List Char × List Char) := do
  let (name, rest) ← readWord? text
  let rest ← after? [':'] (rest.dropWhile isBlank)
  if rest.isEmpty then none
  some (name, squeeze ((rest.dropWhile isBlank).takeWhile (· != '=')))

/-- Names and types of a parameter list. -/
def parameters (params : List Char) : List (List Char × List Char) :=
  (commaParts params).filterMap fun part =>
    let bare := erase readAnnotated [] 0 part
    readTyped (trim (erase readParameterWord [] 0 bare))

end SensorFlow.Kotlin

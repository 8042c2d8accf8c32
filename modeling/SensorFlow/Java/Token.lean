import SensorFlow.Text.Scan

/-!
# Tokens of a Java source

Words, literals and marks with their offsets and rows, and beside them the comments. A `>` is
always a token of its own, since only the grammar knows whether two of them shift or close type
arguments.
-/
namespace SensorFlow.Java
open Text
set_option autoImplicit false

inductive TokenKind where
  | word
  | literal (kind : String)
  | mark
  deriving Repr, DecidableEq

structure Token where
  kind : TokenKind
  text : String
  start : Nat
  stop : Nat
  row : Nat
  deriving Repr, DecidableEq

/-- A token, or a comment, which the grammar does not see. -/
inductive Lexeme where
  | token (token : Token)
  | comment (kind : String) (text : String) (start stop row : Nat)
  deriving Repr, DecidableEq

def isSpace (c : Char) : Bool := ('\t' ≤ c && c ≤ '\r') || c == ' '

/-- Beyond ASCII only names are made of other characters than those in literals and comments. -/
def isNameStart (c : Char) : Bool := c.isAlpha || c == '_' || c == '$' || 0x80 ≤ c.toNat

def isNameChar (c : Char) : Bool := isNameStart c || c.isDigit

/-- Marks of several characters, longer ones before their beginnings. -/
def longMarks : List String :=
  ["...", "<<=", "->", "::", "++", "--", "&&", "||", "==", "!=", "<=", "<<", "+=", "-=", "*=",
    "/=", "%=", "&=", "|=", "^="]

def singleMarks : List Char :=
  ['(', ')', '{', '}', '[', ']', '<', '>', ';', ',', '.', '@', '=', '+', '-', '*', '/', '%', '&',
    '|', '^', '!', '~', '?', ':']

/-- The characters up to the closing quote, which a backslash may hide. -/
def readQuoted (close : List Char) : (taken text : List Char) → Option (List Char × List Char)
  | _, [] => none
  | taken, '\\' :: c :: rest => readQuoted close (c :: '\\' :: taken) rest
  | taken, c :: rest =>
    match after? close (c :: rest) with
    | some behind => some ((close.reverse ++ taken).reverse, behind)
    | none => readQuoted close (c :: taken) rest

/-- The characters of a block comment up to its end. -/
def readBlockComment : (taken text : List Char) → Option (List Char × List Char)
  | taken, '*' :: '/' :: rest => some (('/' :: '*' :: taken).reverse, rest)
  | taken, c :: rest => readBlockComment (c :: taken) rest
  | _, [] => none

/-- The characters of a number: letters, digits, underscores and points, and a sign behind the
mark of an exponent. -/
def readDigits (hex : Bool) : (taken text : List Char) → List Char × List Char
  | taken, [] => (taken.reverse, [])
  | taken, c :: rest =>
    let exponent := taken.head?.any fun d =>
      if hex then d == 'p' || d == 'P' else d == 'e' || d == 'E'
    if c.isAlphanum || c == '_' || c == '.' || ((c == '+' || c == '-') && exponent) then
      readDigits hex (c :: taken) rest
    else (taken.reverse, c :: rest)

def isHex (text : List Char) : Bool :=
  startsWith ['0', 'x'] text || startsWith ['0', 'X'] text

def numberKind (text : List Char) : String :=
  if isHex text then
    if text.any fun c => c == '.' || c == 'p' || c == 'P' then "hex_floating_point_literal"
    else "hex_integer_literal"
  else if startsWith ['0', 'b'] text || startsWith ['0', 'B'] text then "binary_integer_literal"
  else if text.any fun c => ['.', 'e', 'E', 'f', 'F', 'd', 'D'].contains c then
    "decimal_floating_point_literal"
  else
    match text with
    | '0' :: c :: _ => if c.isDigit || c == '_' then "octal_integer_literal"
      else "decimal_integer_literal"
    | _ => "decimal_integer_literal"

/-- The first token or comment of a text that starts with neither space nor nothing: its
characters, the rest, and what it is. -/
def readLexeme (text : List Char) : Option (List Char × List Char × (TokenKind ⊕ String)) :=
  match text with
  | '/' :: '/' :: _ =>
    let (body, rest) := text.span (· != '\n')
    some (body, rest, .inr "line_comment")
  | '/' :: '*' :: rest =>
    (readBlockComment ['*', '/'] rest).map fun r => (r.1, r.2, .inr "block_comment")
  | '"' :: '"' :: '"' :: rest =>
    (readQuoted ['"', '"', '"'] ['"', '"', '"'] rest).map fun r =>
      (r.1, r.2, .inl (.literal "string_literal"))
  | '"' :: rest =>
    (readQuoted ['"'] ['"'] rest).map fun r => (r.1, r.2, .inl (.literal "string_literal"))
  | '\'' :: rest =>
    (readQuoted ['\''] ['\''] rest).map fun r => (r.1, r.2, .inl (.literal "character_literal"))
  | c :: rest =>
    if isNameStart c then
      let (word, rest) := text.span isNameChar
      some (word, rest, .inl .word)
    else if c.isDigit || (c == '.' && rest.head?.any Char.isDigit) then
      let (digits, rest) := readDigits (isHex text) [] text
      some (digits, rest, .inl (.literal (numberKind digits)))
    else
      match longMarks.findSome? fun mark => (after? mark.toList text).map fun r => (mark, r) with
      | some (mark, rest) => some (mark.toList, rest, .inl .mark)
      | none => if singleMarks.contains c then some ([c], rest, .inl .mark) else none
  | [] => none

/-- All tokens and comments from an offset and row on; none if some character fits nowhere. -/
def scan (fuel pos row : Nat) (text : List Char) : Option (List Lexeme) :=
  match fuel, text with
  | _, [] => some []
  | 0, _ => none
  | fuel + 1, c :: rest =>
    if isSpace c then scan fuel (pos + 1) (if c == '\n' then row + 1 else row) rest
    else do
      let (chars, rest, kind) ← readLexeme (c :: rest)
      let stop := pos + chars.length
      let shown := String.ofList chars
      let first :=
        match kind with
        | .inl kind => Lexeme.token ⟨kind, shown, pos, stop, row⟩
        | .inr kind => Lexeme.comment kind shown pos stop row
      let others ← scan fuel stop (row + chars.count '\n') rest
      some (first :: others)

/-- The lexemes of a source; a byte order mark at its start is passed over. -/
def lexemes? (source : List Char) : Option (List Lexeme) :=
  match source with
  | '\ufeff' :: rest => scan (rest.length + 1) 1 0 rest
  | _ => scan (source.length + 1) 0 0 source

end SensorFlow.Java

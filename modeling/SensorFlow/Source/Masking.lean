/-!
# Masking comments and literals

Comments and the contents of string and character literals are replaced by spaces, so that
brackets and keywords inside them are not taken for code. Offsets and line breaks stay where they
are, and so do the quotes around a literal.
-/
namespace SensorFlow.Source
set_option autoImplicit false

/-- What the scan is inside of. -/
inductive Region where
  | code
  | lineComment
  | blockComment
  | rawString
  | quoted (quote : Char)
  deriving Repr, DecidableEq

/-- A masked character: a space, unless it ends a line. -/
def blank (c : Char) : Char := if c = '\n' then '\n' else ' '

/-- Masks the rest of a text, given the region that the scan is in.

A literal between single quotes or plain double quotes ends with its line, and a backslash
in it takes the next character along. -/
def maskFrom : Region → List Char → List Char
  | _, [] => []
  | .code, '/' :: '/' :: rest => ' ' :: ' ' :: maskFrom .lineComment rest
  | .code, '/' :: '*' :: rest => ' ' :: ' ' :: maskFrom .blockComment rest
  | .code, '"' :: '"' :: '"' :: rest => '"' :: '"' :: '"' :: maskFrom .rawString rest
  | .code, c :: rest =>
    c :: maskFrom (if c = '"' ∨ c = '\'' then .quoted c else .code) rest
  | .lineComment, c :: rest =>
    blank c :: maskFrom (if c = '\n' then .code else .lineComment) rest
  | .blockComment, '*' :: '/' :: rest => ' ' :: ' ' :: maskFrom .code rest
  | .blockComment, c :: rest => blank c :: maskFrom .blockComment rest
  | .rawString, '"' :: '"' :: '"' :: rest => '"' :: '"' :: '"' :: maskFrom .code rest
  | .rawString, c :: rest => blank c :: maskFrom .rawString rest
  | .quoted _, ['\\'] => [' ']
  | .quoted q, '\\' :: c :: rest => ' ' :: blank c :: maskFrom (.quoted q) rest
  | .quoted q, c :: rest =>
    if c = q ∨ c = '\n' then c :: maskFrom .code rest
    else ' ' :: maskFrom (.quoted q) rest

/-- The text with comments and the contents of literals blanked out. -/
def mask (text : List Char) : List Char := maskFrom .code text

end SensorFlow.Source

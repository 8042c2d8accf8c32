/-!
# Paths

A path is a root and the components between slashes. Empty components and single dots vanish when
a path is read, double dots stay.
-/
namespace SensorFlow
set_option autoImplicit false

structure Path where
  /-- Empty for a relative path; two leading slashes are a root of their own. -/
  root : String := ""
  parts : List String := []
  deriving Repr, DecidableEq

namespace Path

def ofString (text : String) : Path :=
  let chars := text.toList
  let root :=
    match chars with
    | '/' :: '/' :: '/' :: _ => "/"
    | '/' :: '/' :: _ => "//"
    | '/' :: _ => "/"
    | _ => ""
  let parts := (chars.splitOn '/').map String.ofList
  { root := root, parts := parts.filter fun part => part != "" && part != "." }

def toString (path : Path) : String :=
  if path.root.isEmpty && path.parts.isEmpty then "."
  else path.root ++ "/".intercalate path.parts

def isAbsolute (path : Path) : Bool := !path.root.isEmpty

/-- The path `inner` as seen from `path`; an absolute one stands for itself. -/
def join (path inner : Path) : Path :=
  if inner.isAbsolute then inner else { path with parts := path.parts ++ inner.parts }

/-- The last component; empty if there is none. -/
def name (path : Path) : String := path.parts.getLast?.getD ""

/-- The characters of a file name before and behind its last dot, unless the dot is the first or
last character. -/
def splitName (name : List Char) : List Char × List Char :=
  let ending := (name.reverse.takeWhile (· != '.')).reverse
  let size := name.length - ending.length
  if ending.isEmpty || size ≤ 1 then (name, []) else (name.take (size - 1), name.drop (size - 1))

/-- The last component from its last dot on. -/
def suffix (path : Path) : String := String.ofList (splitName path.name.toList).2

/-- The last component up to its last dot. -/
def stem (path : Path) : String := String.ofList (splitName path.name.toList).1

end Path
end SensorFlow

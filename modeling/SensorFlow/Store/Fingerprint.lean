import SensorFlow.Digest.Blake3
import SensorFlow.File.Tree
import SensorFlow.Text.Order
import SensorFlow.Text.Printable
import SensorFlow.Text.Utf8

/-!
# Fingerprints of files

A hash over the sorted paths and the contents of files. A file that cannot be read counts with its
path alone. There is no fingerprint if one of the paths cannot be hashed or opened at all: if a
name in it is no text, or if it has a zero character in it.
-/
namespace SensorFlow.Fingerprint
open Text
set_option autoImplicit false

structure Scheme where
  hash : List UInt8 → List UInt8 := Blake3.hash
  /-- The complaint about a path that stands for one with a name that is no text. -/
  complaint? : String → Option String := fun _ => none

/-- What keeps a path out of a fingerprint. -/
inductive PathError where
  | notText (complaint : String)
  | zeroInside
  deriving Repr, DecidableEq

def PathError.message : PathError → String
  | .notText complaint => complaint
  | .zeroInside => "embedded null byte"

def Scheme.pathError? (scheme : Scheme) (path : String) : Option PathError :=
  match scheme.complaint? path with
  | some complaint => some (.notText complaint)
  | none => if path.toList.contains '\x00' then some .zeroInside else none

/-- What one file contributes: its path and its content, each closed by a zero byte. -/
def record (tree : FileTree) (path : String) : List UInt8 :=
  Utf8.encode path.toList ++ [0] ++ (tree.contentNamed? path).getD [] ++ [0]

def bytes (tree : FileTree) (paths : List String) : List UInt8 :=
  (sorted paths).flatMap (record tree)

/-- The bytes that are hashed; the first path that is in the way stops it. -/
def stream (scheme : Scheme) (tree : FileTree) (paths : List String) :
    Except PathError (List UInt8) :=
  match (sorted paths).findSome? scheme.pathError? with
  | some error => .error error
  | none => .ok (bytes tree paths)

def Scheme.print (scheme : Scheme) (bytes : List UInt8) : String :=
  String.ofList ((scheme.hash bytes).flatMap fun byte => hexPadded 2 byte.toNat)

def ofFiles (scheme : Scheme) (tree : FileTree) (paths : List String) : Except PathError String :=
  (stream scheme tree paths).map scheme.print

end SensorFlow.Fingerprint

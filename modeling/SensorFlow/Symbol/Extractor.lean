import SensorFlow.File.Tree
import SensorFlow.Java.Outline
import SensorFlow.Kotlin.Outline
import SensorFlow.Language
import SensorFlow.Text.Order
import SensorFlow.Text.Utf8

/-!
# Extracting symbols from files

Each language has an extractor from source text to classes. Kotlin and Java have one from the
start; others may be registered, also in their place.
-/
namespace SensorFlow
open Text
set_option autoImplicit false

/-- The text of a source file: invalid bytes are replaced and line ends folded. -/
def FileTree.sourceText? (tree : FileTree) (path : String) : Option (List Char) :=
  (tree.content? (Path.ofString path)).map fun content =>
    foldLineEnds (Utf8.decodeLossy content)

structure Extractor where
  language : String
  /-- The classes of a source text stored under a path, or `none` if it cannot be read. -/
  classes? : (source : List Char) → (path : String) → Option (List ClassSymbol)

namespace Extractor

def kotlin : Extractor where
  language := "kotlin"
  classes? source path := some (Kotlin.classes source path)

def java : Extractor where
  language := "java"
  classes? source path :=
    some (Java.classes (Java.NodeKinds.configured Language.java.kindsOf) source path)

def standard : List Extractor := [kotlin, java]

/-- The classes of a file. A file that cannot be opened or read has none. -/
def extract (extractor : Extractor) (tree : FileTree) (path : String) : List ClassSymbol :=
  ((tree.sourceText? path).bind fun source => extractor.classes? source path).getD []

end Extractor

/-- The extractors by language; the latest registration of a language counts. -/
structure ExtractorRegistry where
  registered : List (String × Extractor) := []

namespace ExtractorRegistry

def register (registry : ExtractorRegistry) (language : String) (extractor : Extractor) :
    ExtractorRegistry :=
  { registered := (language, extractor) :: registry.registered }

def get? (registry : ExtractorRegistry) (language : String) : Option Extractor :=
  (registry.registered.lookup language).or
    (Extractor.standard.find? fun extractor => extractor.language == language)

def languages (registry : ExtractorRegistry) : List String :=
  sorted ((Extractor.standard.map (·.language)) ++ registry.registered.map (·.1)).eraseDups

end ExtractorRegistry
end SensorFlow

import SensorFlow.Service.Error
import SensorFlow.Symbol.Codec
import SensorFlow.Symbol.Extractor

/-!
# The symbols of one file
-/
namespace SensorFlow
set_option autoImplicit false

/-- Lists the classes of a file, all of them or those of one simple name. -/
def listSymbols (languages : LanguageRegistry) (extractors : ExtractorRegistry) (tree : FileTree)
    (path : String) (className : Option String) : Reply :=
  if !tree.isFile (Path.ofString path) then .error (.fileMissing path)
  else
    match languages.detect? (Path.ofString path) with
    | none => .error (.unsupportedFile path)
    | some language =>
      match extractors.get? language.name with
      | none => .error (.unsupportedFile path)
      | some extractor =>
        let wanted := className.filter (· != "")
        let classes := (extractor.extract tree path).filter fun c =>
          wanted.all fun name => c.name == name
        .ok [
          ("file_path", .str path),
          ("language", .str language.name),
          ("extraction", .str language.extraction),
          ("filter", Json.optional className),
          ("total_classes", .int classes.length),
          ("total_methods", .int (classes.flatMap (·.methods)).length),
          ("classes", .arr (classes.map ClassSymbol.toJson))]

end SensorFlow

import SensorFlow.Json.Parse
import SensorFlow.Report.Codec
import SensorFlow.Store.Fingerprint

/-!
# Saved reports

A project keeps its latest report in a document below its folder, together with the fingerprint of
the analysed files. The document may be missing, foreign or damaged, and the system may refuse to
look it up.
-/
namespace SensorFlow.Cache
open Text
set_option autoImplicit false

def folder (project : String) : Path :=
  (Path.ofString project).join { parts := [".sensedev", "cache"] }

def documentName : String := "analysis.json"

def documentPath (project : String) : Path := (folder project).join { parts := [documentName] }

/-- The version of the document format. -/
def formatVersion : Int := 1

/-- The document for a report; `savedAt` is the time in seconds. -/
def document (report : Report) (savedAt : Rat) (fingerprint : Option String) : Json :=
  let members :=
    match report.toJson with
    | .obj members => members
    | _ => []
  .obj (members ++ [
    ("format_version", .int formatVersion),
    ("saved_at", .float savedAt),
    ("fingerprint", Json.optional fingerprint)])

/-- The kind of a value that is no object, as the message about it says. -/
def kindName : Json → String
  | .null => "NoneType"
  | .bool _ => "bool"
  | .int _ => "int"
  | .float _ => "float"
  | .nonFinite _ => "float"
  | .str _ => "str"
  | .arr _ => "list"
  | .obj _ => "dict"

/-- What saving a document or asking about one can fail with. -/
inductive Failure where
  | refused (message : String)
  /-- A document that is no object has no fingerprint to ask for. -/
  | foreign (kind : String)
  | unhashable (error : Fingerprint.PathError)
  deriving Repr, DecidableEq

def Failure.message : Failure → String
  | .refused message => message
  | .foreign kind => "'" ++ kind ++ "' object has no attribute 'get'"
  | .unhashable error => error.message

/-- Puts the document in its place, through a file beside it. What is in the way stays, and the
answer tells whether the document was written. -/
def place (tree : FileTree) (project : String) (content : List UInt8) : FileTree × Bool :=
  match tree.makeFolders? (folder project) with
  | none => (tree, false)
  | some (made, location) =>
    if (tree.refusal? (documentPath project)).isSome then (made, false)
    else
      let draft := documentName ++ ".tmp"
      match made.write? location draft content with
      | none => (made, false)
      | some drafted =>
        match drafted.write? location documentName content with
        | none => (drafted, false)
        | some written => (written.remove (location ++ [draft]), true)

def fingerprint (scheme : Fingerprint.Scheme) (tree : FileTree) (files : List String) :
    Except Failure String :=
  (Fingerprint.ofFiles scheme tree files).mapError .unhashable

/-- Saves a report for the files that it was made from. -/
def save (scheme : Fingerprint.Scheme) (tree : FileTree) (report : Report) (project : String)
    (files : Option (List String)) (savedAt : Rat) : Except Failure (FileTree × Bool) := do
  let fingerprint ← files.mapM (fingerprint scheme tree)
  return place tree project (Utf8.encode (document report savedAt fingerprint).spell)

/-- Whether there is anything in the place of the document. -/
def isPresent (tree : FileTree) (project : String) : Except Failure Bool :=
  match tree.refusal? (documentPath project) with
  | some message => .error (.refused message)
  | none => .ok (tree.exists? (documentPath project))

/-- What is written in the document of a project, unless that is unreadable or null. -/
def written? (nesting : Nat) (tree : FileTree) (project : String) : Option Json := do
  let content ← tree.content? (documentPath project)
  let text ← Utf8.decode? content
  match ← Json.read? nesting text with
  | .null => none
  | document => some document

def document? (nesting : Nat) (tree : FileTree) (project : String) :
    Except Failure (Option Json) := do
  if ← isPresent tree project then return written? nesting tree project
  return none

/-- The saved report of a project. -/
def load? (nesting : Nat) (fresh : FreshIds) (tree : FileTree) (project : String) :
    Except Failure (Option Report) := do
  let document ← document? nesting tree project
  return document.bind fun document => (Report.ofJson fresh document).toOption

/-- Whether there is no report saved for these files with these contents. -/
def isStale (scheme : Fingerprint.Scheme) (nesting : Nat) (tree : FileTree) (project : String)
    (files : List String) : Except Failure Bool := do
  match ← document? nesting tree project with
  | none => return true
  | some (.obj members) =>
    match (Json.member? "fingerprint" members).filter (!·.isEmpty) with
    | none => return true
    | some saved => return saved != .str (← fingerprint scheme tree files)
  | some other => throw (.foreign (kindName other))

/-- Deletes the document. A folder in its place cannot be deleted. -/
def clear (tree : FileTree) (project : String) : FileTree × Bool :=
  if (tree.refusal? (documentPath project)).isSome then (tree, false)
  else
    match tree.locate? (documentPath project) with
    | none => (tree, true)
    | some location =>
      match tree.at? location with
      | none => (tree, true)
      | some .folder => (tree, false)
      | some (.file _) => (tree.remove location, true)

end SensorFlow.Cache

import SensorFlow.Service.Query
import SensorFlow.Service.Workbench

/-!
# The command line

Analyses one project and prints a summary. The project is the first argument, else the workspace
of the environment.
-/
namespace SensorFlow.CommandLine
set_option autoImplicit false

/-- What a call of the command leaves: its exit code, what it prints, and the files. -/
structure Call where
  exitCode : UInt32
  output : Option Json
  tree : FileTree

def issueToJson (issue : Issue) : Json :=
  .obj [
    ("type", .str issue.kind.label),
    ("severity", .str issue.severity.label),
    ("description", .str issue.description)]

def summary (project : String) (report : Report) : Json :=
  let shown := report.summary.filter fun (name, _) => name != "project_path" && name != "issues"
  Reply.toJson (.ok (("project_path", .str project) :: shown ++
    [("issues", .arr (report.issues.map issueToJson))]))

/-- The command; `now` is the time in seconds. -/
def run (tree : FileTree) (environment : Environment) (arguments : List String) (now : Rat) :
    Call :=
  match Settings.ofEnvironment environment with
  | .error _ => { exitCode := 1, output := none, tree := tree }
  | .ok settings =>
    let project := arguments.head?.getD settings.workspacePath
    let nothing : Call := { exitCode := 1, output := none, tree := tree }
    if !tree.isFolder (Path.ofString project) then nothing
    else
      let bench : Workbench :=
        { tree := tree
          settings := settings
          fresh := { node := toString, edge := toString, issue := toString }
          now := now }
      let ran := bench.run project [] .never
      match ran.result with
      | .error (.inventory _) | .error (.document _) => nothing
      | .error error => { exitCode := 1, output := some error.toJson, tree := tree }
      | .ok report => { exitCode := 0, output := some (summary project report), tree := ran.bench.tree }

end SensorFlow.CommandLine

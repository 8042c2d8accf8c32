import SensorFlow.Service.Job
import SensorFlow.Service.Query
import SensorFlow.Service.Symbols
import SensorFlow.Service.Workbench

/-!
# Sessions

The requests that the analyser answers. Nothing but a health check is answered before the session
is set up from its environment. A background analysis waits as a task until it is run.
-/
namespace SensorFlow
set_option autoImplicit false

inductive TaskState where
  | waiting
  | done (reply : Reply)
  | cancelled

/-- A background analysis. -/
structure Task where
  jobId : String
  project : String
  exclude : List String
  state : TaskState := .waiting

structure Session where
  environment : Environment := []
  isReady : Bool := false
  bench : Workbench
  board : JobBoard := {}
  tasks : List Task := []

namespace Session

/-- Starts afresh with the settings of the environment; the files stay. -/
def setUp (session : Session) : Except SettingsError Session := do
  let settings ← Settings.ofEnvironment session.environment
  return {
    session with
    isReady := true
    bench := { session.bench with settings := settings, results := [], faults := {} }
    board := {}
    tasks := [] }

def health (session : Session) : Json :=
  Reply.toJson (.ok [("components", .obj [
    ("server", .bool true),
    ("analysis_tool", .bool session.isReady),
    ("graph_tool", .bool session.isReady),
    ("symbol_tool", .bool session.isReady)])])

/-- A request that needs the session to be ready. -/
def request (session : Session) (answer : Session → Session × Reply) : Session × Reply :=
  if session.isReady then answer session else (session, .error .notInitialized)

/-- The project of a request; without one it is the workspace. -/
def projectOf (session : Session) (project : Option String) : Except SettingsError String :=
  match project.filter (· != "") with
  | some project => .ok project
  | none => (Settings.ofEnvironment session.environment).map (·.workspacePath)

def analyze (session : Session) (project : Option String) (exclude : List String)
    (useSaved : Bool) : Except SettingsError (Session × Reply) := do
  if !session.isReady then return (session, .error .notInitialized)
  let project ← session.projectOf project
  let (bench, result) := session.bench.analyze project exclude useSaved
  let reply := result.map fun (cached, report) => ("cached", .bool cached) :: report.summary
  return ({ session with bench := bench }, reply)

/-- Creates a job and a task for it that waits to be run. -/
def start (session : Session) (project : Option String) (exclude : List String) :
    Except SettingsError (Session × Reply) := do
  if !session.isReady then return (session, .error .notInitialized)
  let project ← session.projectOf project
  let id := session.board.nextId
  let reply : Reply := .ok [
    ("job_id", .str id),
    ("project_path", .str project),
    ("status", .str JobStatus.queued.label),
    ("message", .str ("Background analysis started for '" ++ project ++ "'"))]
  return ({
    session with
    board := session.board.create project session.bench.now
    tasks := session.tasks ++ [{ jobId := id, project := project, exclude := exclude }] }, reply)

def updateJob (session : Session) (id : String) (change : Job → Job) : Session :=
  { session with board := session.board.update id change }

/-- Ends a job that failed. -/
def failed (session : Session) (id : String) (error : ServiceError) : Session × Reply :=
  (session.updateJob id fun job => job.fail error.message session.bench.now, .error error)

/-- Runs the analysis of a job and tells the job its progress and its end. -/
def runJob (session : Session) (id project : String) (exclude : List String) : Session × Reply :=
  match session.board.get? id with
  | none => (session, .error (.jobMissing id))
  | some job =>
    let session := session.updateJob id fun job => job.start session.bench.now
    if !session.bench.tree.isFolder (Path.ofString project) then
      session.failed id (.projectMissing project)
    else
      let ran := session.bench.run project exclude fun _ _ => job.stopRequested
      let session := { session with bench := ran.bench }
      let session := session.updateJob id fun job =>
        ran.reported.foldl (fun job p => job.advance (some p.fraction) (some p.message)) job
      match ran.result with
      | .error .cancelled =>
        (session.updateJob id fun job => job.cancel session.bench.now, .error .cancelled)
      | .error error => session.failed id error
      | .ok report =>
        (session.updateJob id fun job => job.complete (some (.obj report.summary)) session.bench.now,
          .ok report.summary)

/-- Lets the task of a job run to its end; a cancelled one has no reply. -/
def wait (session : Session) (task : Task) : Session × Option Reply :=
  match task.state with
  | .done reply => (session, some reply)
  | .cancelled => (session, none)
  | .waiting =>
    let (session, reply) := session.runJob task.jobId task.project task.exclude
    ({ session with
        tasks := session.tasks.map fun other =>
          if other.jobId == task.jobId then { other with state := .done reply } else other },
      some reply)

def jobStatus (session : Session) (id : String) : Session × Reply :=
  session.request fun session =>
    match session.board.get? id with
    | none => (session, .error (.jobMissing id))
    | some job =>
      match job.toJson session.bench.now with
      | .obj members => (session, .ok members)
      | _ => (session, .ok [])

def jobList (session : Session) : Session × Reply :=
  session.request fun session =>
    let jobs := session.board.jobs.map fun job => job.toJson session.bench.now
    (session, .ok [("total_jobs", .int jobs.length), ("jobs", .arr jobs)])

/-- Cancels a job; a task that still waits will not run. -/
def cancelJob (session : Session) (id : String) : Session × Reply :=
  session.request fun session =>
    if session.board.isActive id then
      let session := session.updateJob id fun job => job.cancel session.bench.now
      ({ session with
          tasks := session.tasks.map fun task =>
            match task.jobId == id, task.state with
            | true, .waiting => { task with state := .cancelled }
            | _, _ => task },
        .ok [("job_id", .str id), ("status", .str JobStatus.cancelled.label)])
    else (session, .error (.jobNotActive id))

/-- The latest result of a project, with the whole report if that is wanted. -/
def result (session : Session) (project : String) (whole : Bool) : Session × Reply :=
  session.request fun session =>
    let origin := if (session.bench.result? project).isSome then "memory" else "cache"
    let (bench, found) := session.bench.loaded? project
    let reply : Reply := do
      match ← found with
      | none => .error (.noAnalysis project)
      | some report =>
        return [("source", .str origin)] ++ report.summary ++
          (if whole then [("result", report.toJson)] else [])
    ({ session with bench := bench }, reply)

def clear (session : Session) (project : String) : Session × Reply :=
  session.request fun session =>
    let (bench, cleared) := session.bench.clear project
    ({ session with bench := bench },
      if cleared then .ok [("project_path", .str project)]
      else .error (.cacheNotCleared project))

/-- A question about the graph of the latest result. -/
def ask (session : Session) (project : String) (answer : Report → Graph → Reply) :
    Session × Reply :=
  session.request fun session =>
    let (bench, found) := session.bench.loaded? project
    let reply : Reply := do
      match ← found with
      | none => .error (.noAnalysis project)
      | some report =>
        match report.graph with
        | none => .error (.noAnalysis project)
        | some g => answer report g
    ({ session with bench := bench }, reply)

def symbols (session : Session) (path : String) (className : Option String) : Session × Reply :=
  session.request fun session =>
    (session, listSymbols session.bench.languages session.bench.extractors session.bench.tree path
      className)

end Session
end SensorFlow

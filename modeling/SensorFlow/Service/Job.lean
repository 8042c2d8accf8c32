import SensorFlow.Json.Basic
import SensorFlow.Number.Binary

/-!
# Background jobs

A job waits, runs, and ends in one of three ways; an ended job never changes again. Its progress
only grows. Jobs are named in the order of their creation.
-/
namespace SensorFlow
set_option autoImplicit false

inductive JobStatus where
  | queued
  | running
  | completed
  | failed
  | cancelled
  deriving Repr, DecidableEq

namespace JobStatus

def label : JobStatus → String
  | queued => "queued"
  | running => "running"
  | completed => "completed"
  | failed => "failed"
  | cancelled => "cancelled"

def isActive : JobStatus → Bool
  | queued => true
  | running => true
  | _ => false

end JobStatus

structure JobProgress where
  fraction : Rat := 0
  message : String := ""
  /-- The messages in order; a message that repeats the one before it is not added. -/
  stages : List String := []
  deriving Repr, DecidableEq

namespace JobProgress

/-- The fraction never falls and never exceeds one. -/
def raise (progress : JobProgress) (fraction : Rat) : JobProgress :=
  let capped := if fraction ≤ 1 then fraction else 1
  { progress with fraction := if progress.fraction ≤ capped then capped else progress.fraction }

/-- An empty message is no message. -/
def note (progress : JobProgress) (message : String) : JobProgress :=
  if message.isEmpty then progress
  else
    { progress with
      message := message
      stages :=
        if progress.stages.getLast? == some message then progress.stages
        else progress.stages ++ [message] }

def advance (progress : JobProgress) (fraction : Option Rat) (message : Option String) :
    JobProgress :=
  let progress := (fraction.map progress.raise).getD progress
  (message.map progress.note).getD progress

end JobProgress

/-- Times are in seconds. -/
structure Job where
  id : String
  projectPath : String
  createdAt : Rat
  status : JobStatus := .queued
  startedAt : Option Rat := none
  endedAt : Option Rat := none
  progress : JobProgress := {}
  error : Option String := none
  summary : Option Json := none
  /-- Whether the run is asked to stop. -/
  stopRequested : Bool := false

namespace Job

def isActive (job : Job) : Bool := job.status.isActive

def finish (job : Job) (status : JobStatus) (now : Rat) : Job :=
  { job with status := status, endedAt := some now }

def start (job : Job) (now : Rat) : Job :=
  if job.status == .queued then { job with status := .running, startedAt := some now } else job

def advance (job : Job) (fraction : Option Rat) (message : Option String) : Job :=
  if job.isActive then { job with progress := job.progress.advance fraction message } else job

def complete (job : Job) (summary : Option Json) (now : Rat) : Job :=
  if job.isActive then
    { job with progress := job.progress.raise 1, summary := summary }.finish .completed now
  else job

def fail (job : Job) (error : String) (now : Rat) : Job :=
  if job.isActive then { job with error := some error }.finish .failed now else job

def cancel (job : Job) (now : Rat) : Job :=
  if job.isActive then { job with stopRequested := true }.finish .cancelled now else job

/-- The seconds that the job took so far, or in all. -/
def timing (job : Job) (now : Rat) : List (String × Json) :=
  match job.startedAt with
  | none => []
  | some started =>
    let seconds (ended : Rat) : Json := .float (Number.roundPlaces 2 (ended - started))
    [("started_at", .float started),
      match job.endedAt with
      | some ended => ("total_seconds", seconds ended)
      | none => ("elapsed_seconds", seconds now)]

/-- The state of a job as status queries show it; what is empty is left out. -/
def toJson (job : Job) (now : Rat) : Json :=
  let fraction := job.progress.fraction
  .obj ([
    ("job_id", .str job.id),
    ("project_path", .str job.projectPath),
    ("status", .str job.status.label),
    ("created_at", .float job.createdAt),
    ("progress", .obj [
      ("fraction", .float (Number.roundPlaces 3 fraction)),
      ("progress_pct", .float (Number.roundPlaces 2 (Number.product fraction 100))),
      ("message", .str job.progress.message),
      ("stages", Json.strings job.progress.stages)])] ++
    job.timing now ++
    (job.endedAt.toList.map fun ended => ("completed_at", .float ended)) ++
    ((job.summary.filter fun summary => !summary.isEmpty).toList.map fun summary =>
      ("summary", summary)) ++
    ((job.error.filter fun error => !error.isEmpty).toList.map fun error =>
      ("error", .str error)))

end Job

/-- All jobs in the order of their creation. -/
structure JobBoard where
  jobs : List Job := []

namespace JobBoard

/-- The name of the next job. -/
def nextId (board : JobBoard) : String := s!"job{board.jobs.length}"

def create (board : JobBoard) (projectPath : String) (now : Rat) : JobBoard :=
  { jobs := board.jobs ++
      [{ id := board.nextId, projectPath := projectPath, createdAt := now }] }

def get? (board : JobBoard) (id : String) : Option Job := board.jobs.find? (·.id == id)

/-- Changes the job of that name and no other. -/
def update (board : JobBoard) (id : String) (change : Job → Job) : JobBoard :=
  { jobs := board.jobs.map fun job => if job.id == id then change job else job }

/-- Whether a job of that name is waiting or running. -/
def isActive (board : JobBoard) (id : String) : Bool := (board.get? id).any (·.isActive)

end JobBoard
end SensorFlow

import Mathlib.Algebra.Order.Ring.Rat
import Mathlib.Data.List.Destutter
import SensorFlow.Proofs.Order
import SensorFlow.Service.Job

/-!
# The life of a job

Jobs are created and changed in any order and under any names, known or not. All that a change can
do to a job is one of six moves, and everything else follows from them: the states that a job goes
through, what never falls, what is set in which state, and that an ended job is left alone. A board
applies a change to the job of one name, so what holds for a move holds for every step of a board.
-/
namespace SensorFlow
set_option autoImplicit false

namespace JobStatus

/-- The states that may stand before and after a change. -/
def Turns (before after : JobStatus) : Prop :=
  after = before ∨ (before = .queued ∧ after = .running) ∨
    (before.isActive = true ∧ after.isActive = false)

theorem eq_of_turns {before after : JobStatus} (hTurns : before.Turns after)
    (hEnded : before.isActive = false) : after = before := by
  rcases hTurns with hSame | ⟨rfl, _⟩ | ⟨hActive, _⟩
  · exact hSame
  · cases hEnded
  · rw [hEnded] at hActive
    cases hActive

theorem mem_endings {status : JobStatus} (hEnded : status.isActive = false) :
    status ∈ [JobStatus.completed, .failed, .cancelled] := by
  cases status with
  | queued | running => cases hEnded
  | completed | failed | cancelled => simp

theorem destutter_ended {status : JobStatus} {later : List JobStatus}
    (hEnded : status.isActive = false) (hChain : (status :: later).IsChain Turns) :
    later.destutter' (· ≠ ·) status = [status] := by
  induction later with
  | nil => rfl
  | cons next later ih =>
    obtain ⟨hTurns, hLater⟩ := List.isChain_cons_cons.1 hChain
    obtain rfl := eq_of_turns hTurns hEnded
    rw [List.destutter'_cons_neg _ (by simp)]
    exact ih hLater

theorem destutter_running {later : List JobStatus}
    (hChain : (JobStatus.running :: later).IsChain Turns) :
    ∃ ending ∈ [JobStatus.completed, .failed, .cancelled],
      later.destutter' (· ≠ ·) .running <+: [.running, ending] := by
  induction later with
  | nil => exact ⟨.completed, by simp, by simp⟩
  | cons next later ih =>
    obtain ⟨hTurns, hLater⟩ := List.isChain_cons_cons.1 hChain
    rcases hTurns with rfl | ⟨hQueued, _⟩ | ⟨_, hEnded⟩
    · rw [List.destutter'_cons_neg _ (by simp)]
      exact ih hLater
    · cases hQueued
    · have hNew : JobStatus.running ≠ next := fun hSame => by rw [← hSame] at hEnded; cases hEnded
      rw [List.destutter'_cons_pos _ hNew, destutter_ended hEnded hLater]
      exact ⟨next, mem_endings hEnded, List.prefix_rfl⟩

theorem destutter_queued {later : List JobStatus}
    (hChain : (JobStatus.queued :: later).IsChain Turns) :
    ∃ middle ∈ [[], [JobStatus.running]], ∃ ending ∈ [JobStatus.completed, .failed, .cancelled],
      later.destutter' (· ≠ ·) .queued <+: .queued :: middle ++ [ending] := by
  induction later with
  | nil => exact ⟨[], by simp, .completed, by simp, by simp⟩
  | cons next later ih =>
    obtain ⟨hTurns, hLater⟩ := List.isChain_cons_cons.1 hChain
    rcases hTurns with rfl | ⟨_, rfl⟩ | ⟨_, hEnded⟩
    · rw [List.destutter'_cons_neg _ (by simp)]
      exact ih hLater
    · obtain ⟨ending, hEnding, hPrefix⟩ := destutter_running hLater
      rw [List.destutter'_cons_pos _ (by simp)]
      exact ⟨[.running], by simp, ending, hEnding, List.cons_prefix_cons.2 ⟨rfl, hPrefix⟩⟩
    · have hNew : JobStatus.queued ≠ next := fun hSame => by rw [← hSame] at hEnded; cases hEnded
      rw [List.destutter'_cons_pos _ hNew, destutter_ended hEnded hLater]
      exact ⟨[], by simp, next, mem_endings hEnded, List.prefix_rfl⟩

end JobStatus

namespace JobProgress

structure Consistent (progress : JobProgress) : Prop where
  nonneg : 0 ≤ progress.fraction
  le_one : progress.fraction ≤ 1
  stages : progress.stages.IsChain (· ≠ ·)
  latest : progress.stages ≠ [] → progress.stages.getLast? = some progress.message

theorem fraction_raise (progress : JobProgress) (fraction : Rat) :
    (progress.raise fraction).fraction = max progress.fraction (min fraction 1) := by
  simp only [raise, max_def, min_def]

theorem fraction_note (progress : JobProgress) (message : String) :
    (progress.note message).fraction = progress.fraction := by
  rw [note]
  split <;> rfl

theorem Consistent.raise {progress : JobProgress} (hConsistent : progress.Consistent)
    (fraction : Rat) : (progress.raise fraction).Consistent where
  nonneg := by
    rw [fraction_raise]
    exact hConsistent.nonneg.trans (le_max_left _ _)
  le_one := by
    rw [fraction_raise]
    exact max_le hConsistent.le_one (min_le_right _ _)
  stages := hConsistent.stages
  latest := hConsistent.latest

theorem Consistent.note {progress : JobProgress} (hConsistent : progress.Consistent)
    (message : String) : (progress.note message).Consistent := by
  refine ⟨?_, ?_, ?_, ?_⟩
  · rw [fraction_note]
    exact hConsistent.nonneg
  · rw [fraction_note]
    exact hConsistent.le_one
  · rw [JobProgress.note]
    split
    · exact hConsistent.stages
    · dsimp only
      split
      · exact hConsistent.stages
      · next hNew =>
        refine List.isChain_append.2 ⟨hConsistent.stages, List.isChain_singleton _, ?_⟩
        intro last hLast other hOther hSame
        obtain rfl : message = other := by simpa using hOther
        exact hNew (by simpa [← hSame] using hLast)
  · rw [JobProgress.note]
    split
    · exact hConsistent.latest
    · dsimp only
      split
      · next hOld => exact fun _ => by simpa using hOld
      · simp

theorem Consistent.advance {progress : JobProgress} (hConsistent : progress.Consistent)
    (fraction : Option Rat) (message : Option String) :
    (progress.advance fraction message).Consistent := by
  cases fraction with
  | none =>
    cases message with
    | none => exact hConsistent
    | some message => exact hConsistent.note message
  | some fraction =>
    cases message with
    | none => exact hConsistent.raise fraction
    | some message => exact (hConsistent.raise fraction).note message

theorem fraction_le_advance (progress : JobProgress) (fraction : Option Rat)
    (message : Option String) :
    progress.fraction ≤ (progress.advance fraction message).fraction := by
  have hRaise (fraction : Rat) : progress.fraction ≤ (progress.raise fraction).fraction := by
    rw [fraction_raise]
    exact le_max_left _ _
  cases fraction with
  | none =>
    cases message with
    | none => exact le_rfl
    | some message => exact (fraction_note progress message).ge
  | some fraction =>
    cases message with
    | none => exact hRaise fraction
    | some message => exact (hRaise fraction).trans (fraction_note _ message).ge

end JobProgress

namespace Job

inductive Change where
  | advance (fraction : Option Rat) (message : Option String)
  | start
  | complete (summary : Option Json)
  | fail (error : String)
  | cancel

def Change.apply (now : Rat) : Change → Job → Job
  | .advance fraction message, job => job.advance fraction message
  | .start, job => job.start now
  | .complete summary, job => job.complete summary now
  | .fail error, job => job.fail error now
  | .cancel, job => job.cancel now

/-- What a change can do to a job. -/
inductive Moves : Job → Job → Prop where
  | stay (job : Job) : Moves job job
  | advance {job : Job} (fraction : Option Rat) (message : Option String)
      (hActive : job.isActive = true) :
      Moves job { job with progress := job.progress.advance fraction message }
  | start {job : Job} (now : Rat) (hQueued : job.status = .queued) :
      Moves job { job with status := .running, startedAt := some now }
  | complete {job : Job} (summary : Option Json) (now : Rat) (hActive : job.isActive = true) :
      Moves job { job with
        status := .completed
        endedAt := some now
        progress := job.progress.raise 1
        summary := summary }
  | fail {job : Job} (error : String) (now : Rat) (hActive : job.isActive = true) :
      Moves job { job with status := .failed, endedAt := some now, error := some error }
  | cancel {job : Job} (now : Rat) (hActive : job.isActive = true) :
      Moves job { job with status := .cancelled, endedAt := some now, stopRequested := true }

theorem moves_apply (now : Rat) (change : Change) (job : Job) :
    job.Moves (change.apply now job) := by
  cases change with
  | advance fraction message =>
    rw [Change.apply, Job.advance]
    split
    · next hActive => exact .advance fraction message hActive
    · exact .stay job
  | start =>
    rw [Change.apply, Job.start]
    split
    · next hQueued => exact .start now (by simpa using hQueued)
    · exact .stay job
  | complete summary =>
    rw [Change.apply, Job.complete]
    split
    · next hActive => exact .complete summary now hActive
    · exact .stay job
  | fail error =>
    rw [Change.apply, Job.fail]
    split
    · next hActive => exact .fail error now hActive
    · exact .stay job
  | cancel =>
    rw [Change.apply, Job.cancel]
    split
    · next hActive => exact .cancel now hActive
    · exact .stay job

/-- What is set in which state. -/
structure Consistent (job : Job) : Prop where
  progress : job.progress.Consistent
  completed : job.status = .completed → job.progress.fraction = 1
  running : job.status = .running → job.startedAt.isSome = true
  ended : job.endedAt.isSome = true ↔ job.isActive = false
  error : job.error.isSome = true → job.status = .failed
  summary : job.summary.isSome = true → job.status = .completed
  stopRequested : job.stopRequested = true ↔ job.status = .cancelled

theorem consistent_new (id projectPath : String) (now : Rat) :
    Consistent { id := id, projectPath := projectPath, createdAt := now } where
  progress := ⟨le_rfl, zero_le_one, List.isChain_nil, fun hStages => absurd rfl hStages⟩
  completed hStatus := by cases hStatus
  running hStatus := by cases hStatus
  ended := by simp [isActive, JobStatus.isActive]
  error hError := by cases hError
  summary hSummary := by cases hSummary
  stopRequested := by simp

namespace Moves

variable {before after : Job}

theorem id_eq (hMoves : before.Moves after) : after.id = before.id := by
  cases hMoves <;> rfl

theorem eq_of_ended (hMoves : before.Moves after) (hEnded : before.isActive = false) :
    after = before := by
  have hIdle (hActive : before.isActive = true) : False := by
    rw [hEnded] at hActive
    cases hActive
  cases hMoves with
  | stay => rfl
  | advance _ _ hActive => exact (hIdle hActive).elim
  | start _ hQueued => exact (hIdle (by rw [isActive, hQueued]; rfl)).elim
  | complete _ _ hActive => exact (hIdle hActive).elim
  | fail _ _ hActive => exact (hIdle hActive).elim
  | cancel _ hActive => exact (hIdle hActive).elim

theorem turns (hMoves : before.Moves after) : before.status.Turns after.status := by
  cases hMoves with
  | stay => exact .inl rfl
  | advance => exact .inl rfl
  | start _ hQueued => exact .inr (.inl ⟨hQueued, rfl⟩)
  | complete _ _ hActive => exact .inr (.inr ⟨hActive, rfl⟩)
  | fail _ _ hActive => exact .inr (.inr ⟨hActive, rfl⟩)
  | cancel _ hActive => exact .inr (.inr ⟨hActive, rfl⟩)

theorem fraction_le (hMoves : before.Moves after) :
    before.progress.fraction ≤ after.progress.fraction := by
  cases hMoves with
  | stay => exact le_rfl
  | advance fraction message _ => exact JobProgress.fraction_le_advance _ fraction message
  | start => exact le_rfl
  | complete => exact JobProgress.fraction_le_advance before.progress (some 1) none
  | fail => exact le_rfl
  | cancel => exact le_rfl

end Moves

theorem fraction_le_of_moved {job next : Job} (hMoved : Relation.ReflTransGen Moves job next) :
    job.progress.fraction ≤ next.progress.fraction := by
  induction hMoved with
  | refl => exact le_rfl
  | tail _ hMoves ih => exact ih.trans hMoves.fraction_le

theorem eq_of_moved {job next : Job} (hMoved : Relation.ReflTransGen Moves job next)
    (hEnded : job.isActive = false) : next = job := by
  induction hMoved with
  | refl => rfl
  | tail _ hMoves ih =>
    subst ih
    exact hMoves.eq_of_ended hEnded

namespace Consistent

variable {job next : Job}

theorem of_active (hConsistent : job.Consistent) (hActive : job.isActive = true) :
    job.endedAt = none ∧ job.error = none ∧ job.summary = none ∧ job.stopRequested = false := by
  have hStatus (status : JobStatus) (hEnded : status.isActive = false) : job.status ≠ status := by
    rintro rfl
    rw [isActive, hEnded] at hActive
    cases hActive
  refine ⟨?_, ?_, ?_, ?_⟩
  · apply Option.not_isSome_iff_eq_none.1
    intro hEnd
    rw [hConsistent.ended.1 hEnd] at hActive
    cases hActive
  · apply Option.not_isSome_iff_eq_none.1
    exact fun hError => hStatus .failed rfl (hConsistent.error hError)
  · apply Option.not_isSome_iff_eq_none.1
    exact fun hSummary => hStatus .completed rfl (hConsistent.summary hSummary)
  · apply Bool.eq_false_iff.2
    exact fun hStop => hStatus .cancelled rfl (hConsistent.stopRequested.1 hStop)

theorem moves (hConsistent : job.Consistent) (hMoves : job.Moves next) : next.Consistent := by
  cases hMoves with
  | stay => exact hConsistent
  | advance fraction message hActive =>
    refine { hConsistent with
      progress := hConsistent.progress.advance fraction message
      completed := fun hStatus => ?_ }
    rw [isActive, show job.status = .completed from hStatus] at hActive
    cases hActive
  | start now hQueued =>
    have hActive : job.isActive = true := by rw [isActive, hQueued]; rfl
    obtain ⟨hEnd, hError, hSummary, hStop⟩ := hConsistent.of_active hActive
    exact {
      progress := hConsistent.progress
      completed := fun hStatus => by cases hStatus
      running := fun _ => rfl
      ended := by simp [isActive, JobStatus.isActive, hEnd]
      error := by simp [hError]
      summary := by simp [hSummary]
      stopRequested := by simp [hStop] }
  | complete summary now hActive =>
    obtain ⟨_, hError, _, hStop⟩ := hConsistent.of_active hActive
    exact {
      progress := hConsistent.progress.raise 1
      completed := fun _ => by
        rw [JobProgress.fraction_raise, min_self, max_eq_right hConsistent.progress.le_one]
      running := fun hStatus => by cases hStatus
      ended := by simp [isActive, JobStatus.isActive]
      error := by simp [hError]
      summary := fun _ => rfl
      stopRequested := by simp [hStop] }
  | fail error now hActive =>
    obtain ⟨_, _, hSummary, hStop⟩ := hConsistent.of_active hActive
    exact {
      progress := hConsistent.progress
      completed := fun hStatus => by cases hStatus
      running := fun hStatus => by cases hStatus
      ended := by simp [isActive, JobStatus.isActive]
      error := fun _ => rfl
      summary := by simp [hSummary]
      stopRequested := by simp [hStop] }
  | cancel now hActive =>
    obtain ⟨_, hError, hSummary, _⟩ := hConsistent.of_active hActive
    exact {
      progress := hConsistent.progress
      completed := fun hStatus => by cases hStatus
      running := fun hStatus => by cases hStatus
      ended := by simp [isActive, JobStatus.isActive]
      error := by simp [hError]
      summary := by simp [hSummary]
      stopRequested := by simp }

end Consistent
end Job

namespace JobBoard

inductive Request where
  | create (projectPath : String)
  | change (id : String) (change : Job.Change)

/-- The job that a request names. -/
def Request.subject : Request → Option String
  | .create _ => none
  | .change id _ => some id

def perform (board : JobBoard) (now : Rat) : Request → JobBoard
  | .create projectPath => board.create projectPath now
  | .change id change => board.update id (change.apply now)

/-- A cancellation is answered by whether there was a job to cancel. -/
def answer (board : JobBoard) : Request → Option Bool
  | .change id .cancel => some (board.isActive id)
  | _ => none

/-- The board after requests, each with the time it is made at. -/
def after (board : JobBoard) (run : List (Rat × Request)) : JobBoard :=
  run.foldl (fun board request => board.perform request.1 request.2) board

/-- The states of a job, from its creation on, before and after each request. -/
def statuses (board : JobBoard) (run : List (Rat × Request)) (id : String) : List JobStatus :=
  (run.scanl (fun board request => board.perform request.1 request.2) board).filterMap fun board =>
    (board.get? id).map (·.status)

theorem get?_update (board : JobBoard) (id : String) {change : Job → Job}
    (hId : ∀ job, (change job).id = job.id) (other : String) :
    (board.update id change).get? other =
      if other = id then (board.get? other).map change else board.get? other := by
  have hFind : (board.update id change).get? other =
      (board.get? other).map fun job => if job.id == id then change job else job := by
    rw [get?, update, List.find?_map, get?]
    congr 2
    funext job
    simp only [Function.comp_apply]
    split <;> simp [hId]
  rw [hFind]
  cases hGet : board.get? other with
  | none => simp
  | some job =>
    have hName : job.id = other := by simpa using List.find?_some hGet
    by_cases hSame : other = id <;> simp [hName, hSame]

theorem get?_create_of_some {board : JobBoard} {id : String} {job : Job}
    (hJob : board.get? id = some job) (projectPath : String) (now : Rat) :
    (board.create projectPath now).get? id = some job := by
  rw [get?] at hJob
  rw [get?, create, List.find?_append, hJob]
  rfl

theorem status_of_get?_create {board : JobBoard} {id : String} {job : Job}
    (hUnknown : board.get? id = none) {projectPath : String} {now : Rat}
    (hJob : (board.create projectPath now).get? id = some job) : job.status = .queued := by
  rw [get?] at hUnknown
  rw [get?, create, List.find?_append, hUnknown, Option.none_or] at hJob
  have hNew := List.mem_of_find?_eq_some hJob
  rw [List.mem_singleton.1 hNew]

/-- A known job stays known, and a request moves it or leaves it alone. -/
theorem exists_moves_of_get? {board : JobBoard} {id : String} {job : Job}
    (hJob : board.get? id = some job) (now : Rat) (request : Request) :
    ∃ next, (board.perform now request).get? id = some next ∧ job.Moves next ∧
      (request.subject ≠ some id → next = job) := by
  cases request with
  | create projectPath =>
    exact ⟨job, get?_create_of_some hJob projectPath now, .stay job, fun _ => rfl⟩
  | change named change =>
    rw [perform, get?_update board named fun job => (Job.moves_apply now change job).id_eq, hJob]
    by_cases hNamed : id = named
    · refine ⟨change.apply now job, by simp [hNamed], Job.moves_apply now change job, ?_⟩
      intro hOther
      exact absurd (congrArg some hNamed.symm) hOther
    · exact ⟨job, by simp [hNamed], .stay job, fun _ => rfl⟩

theorem exists_moved_of_get? {board : JobBoard} {id : String} {job : Job}
    (hJob : board.get? id = some job) (run : List (Rat × Request)) :
    ∃ next, (board.after run).get? id = some next ∧ Relation.ReflTransGen Job.Moves job next ∧
      ((∀ request ∈ run, request.2.subject ≠ some id) → next = job) := by
  induction run generalizing board job with
  | nil => exact ⟨job, hJob, .refl, fun _ => rfl⟩
  | cons request run ih =>
    obtain ⟨next, hNext, hMoves, hSame⟩ := exists_moves_of_get? hJob request.1 request.2
    obtain ⟨last, hLast, hMoved, hSameLater⟩ := ih hNext
    refine ⟨last, hLast, .head hMoves hMoved, ?_⟩
    intro hOthers
    rw [hSameLater fun other hOther => hOthers other (List.mem_cons_of_mem _ hOther)]
    exact hSame (hOthers request List.mem_cons_self)

theorem statuses_cons (board : JobBoard) (request : Rat × Request) (run : List (Rat × Request))
    (id : String) :
    statuses board (request :: run) id =
      ((board.get? id).map (·.status)).toList ++
        statuses (board.perform request.1 request.2) run id := by
  rw [statuses, List.scanl_cons, List.filterMap_cons, statuses]
  cases board.get? id <;> rfl

theorem statuses_of_get? {board : JobBoard} {id : String} {job : Job}
    (hJob : board.get? id = some job) (run : List (Rat × Request)) :
    ∃ later, statuses board run id = job.status :: later ∧
      (job.status :: later).IsChain JobStatus.Turns := by
  induction run generalizing board job with
  | nil => exact ⟨[], by simp [statuses, hJob], List.isChain_singleton _⟩
  | cons request run ih =>
    obtain ⟨next, hNext, hMoves, _⟩ := exists_moves_of_get? hJob request.1 request.2
    obtain ⟨later, hLater, hChain⟩ := ih hNext
    refine ⟨next.status :: later, ?_, List.isChain_cons_cons.2 ⟨hMoves.turns, hChain⟩⟩
    rw [statuses_cons, hJob, hLater]
    rfl

/-- A job that is not known yet starts its life waiting, if it is ever created. -/
theorem statuses_of_unknown {board : JobBoard} {id : String} (hUnknown : board.get? id = none)
    (run : List (Rat × Request)) :
    statuses board run id = [] ∨ ∃ later, statuses board run id = .queued :: later ∧
      (JobStatus.queued :: later).IsChain JobStatus.Turns := by
  induction run generalizing board with
  | nil => exact .inl (by simp [statuses, hUnknown])
  | cons request run ih =>
    rw [statuses_cons, hUnknown, Option.map_none, Option.toList_none, List.nil_append]
    cases hJob : (board.perform request.1 request.2).get? id with
    | none => exact ih hJob
    | some job =>
      -- a change makes no job known, so this is the creation
      have hQueued : job.status = .queued := by
        obtain ⟨now, request⟩ := request
        cases request with
        | create projectPath => exact status_of_get?_create hUnknown hJob
        | change named change =>
          rw [perform, get?_update board named fun job => (Job.moves_apply now change job).id_eq,
            hUnknown] at hJob
          simp at hJob
      obtain ⟨later, hStatuses, hChain⟩ := statuses_of_get? hJob run
      rw [hQueued] at hStatuses hChain
      exact .inr ⟨later, hStatuses, hChain⟩

/-- Jobs are named by their positions and are consistent. -/
structure Consistent (board : JobBoard) : Prop where
  named : board.jobs.map (·.id) = (List.range board.jobs.length).map fun pos => s!"job{pos}"
  jobs : ∀ job ∈ board.jobs, job.Consistent

theorem Consistent.nodup {board : JobBoard} (hConsistent : board.Consistent) :
    (board.jobs.map (·.id)).Nodup := by
  rw [hConsistent.named]
  refine List.Nodup.map ?_ List.nodup_range
  intro first second hSame
  apply repr_inj
  simpa using hSame

theorem Consistent.perform {board : JobBoard} (hConsistent : board.Consistent) (now : Rat)
    (request : Request) : (board.perform now request).Consistent := by
  cases request with
  | create projectPath =>
    refine ⟨?_, ?_⟩
    · simp [JobBoard.perform, create, hConsistent.named, List.range_succ, nextId]
    · intro job hJob
      rcases List.mem_append.1 hJob with hOld | hNew
      · exact hConsistent.jobs job hOld
      · rw [List.mem_singleton.1 hNew]
        exact Job.consistent_new _ _ _
  | change id change =>
    refine ⟨?_, ?_⟩
    · have hNames : (board.update id (change.apply now)).jobs.map (·.id) =
          board.jobs.map (·.id) := by
        rw [update, List.map_map]
        apply List.map_congr_left
        intro job _
        simp only [Function.comp_apply]
        split
        · exact (Job.moves_apply now change job).id_eq
        · rfl
      rw [JobBoard.perform, hNames, hConsistent.named]
      simp [update]
    · intro job hJob
      obtain ⟨old, hOld, rfl⟩ := List.mem_map.1 hJob
      split
      · exact (hConsistent.jobs old hOld).moves (Job.moves_apply now change old)
      · exact hConsistent.jobs old hOld

theorem Consistent.after {board : JobBoard} (hConsistent : board.Consistent)
    (run : List (Rat × Request)) : (board.after run).Consistent := by
  induction run generalizing board with
  | nil => exact hConsistent
  | cons request run ih => exact ih (hConsistent.perform request.1 request.2)

/-- Whatever is requested, in any order and for any names: a job waits, may run, and ends at most
once; what is set in each state is as `Job.Consistent` says; its fraction never falls; once it has
ended nothing changes it any more and cancelling it is refused; and a request for one job leaves
all others alone. -/
theorem job_lifecycle (run : List (Rat × Request)) :
    (∀ id, ∃ middle ∈ [[], [JobStatus.running]],
      ∃ ending ∈ [JobStatus.completed, .failed, .cancelled],
        (statuses {} run id).destutter (· ≠ ·) <+: .queued :: middle ++ [ending]) ∧
    ((after {} run).jobs.map (·.id)).Nodup ∧
    (∀ job ∈ (after {} run).jobs, job.Consistent) ∧
    (∀ id job, (after {} run).get? id = some job → ∀ more,
      ∃ next, ((after {} run).after more).get? id = some next ∧
        job.progress.fraction ≤ next.progress.fraction ∧
        (job.isActive = false →
          next = job ∧ ((after {} run).after more).answer (.change id .cancel) = some false) ∧
        ((∀ request ∈ more, request.2.subject ≠ some id) → next = job)) := by
  have hEmpty : Consistent {} := ⟨rfl, fun job hJob => by cases hJob⟩
  have hConsistent := hEmpty.after run
  refine ⟨?_, hConsistent.nodup, hConsistent.jobs, ?_⟩
  · intro id
    have hUnknown : ({} : JobBoard).get? id = none := rfl
    rcases statuses_of_unknown hUnknown run with hNone | ⟨later, hStatuses, hChain⟩
    · exact ⟨[], by simp, .completed, by simp, by simp [hNone]⟩
    · rw [hStatuses, List.destutter_cons']
      exact JobStatus.destutter_queued hChain
  · intro id job hJob more
    obtain ⟨next, hNext, hMoved, hOthers⟩ := exists_moved_of_get? hJob more
    refine ⟨next, hNext, Job.fraction_le_of_moved hMoved, ?_, hOthers⟩
    intro hEnded
    obtain rfl := Job.eq_of_moved hMoved hEnded
    exact ⟨rfl, by simp [answer, isActive, hNext, hEnded]⟩

end JobBoard
end SensorFlow

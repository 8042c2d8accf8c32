import SensorFlow.Proofs.Analysis.Schedule

/-!
# Cancelled analyses

A run is cancelled at the first check where the signal says so. Its checkpoints are then those of
the schedule before that check, and nothing else of it is left; a run that is not cancelled has
gone through the whole schedule.
-/
namespace SensorFlow.Analysis
set_option autoImplicit false

def Watched.exec {α : Type} (run : Watched α) (signal : Signal) (trace : Trace) :
    Except Halt α × Trace :=
  (run.run signal).run.run trace

def Event.progress? : Event → Option Progress
  | check => none
  | reach tenths message => some (checkpoint tenths message)

def checksOf (events : List Event) : Nat := events.count .check

def reportsOf (events : List Event) : List Progress := events.filterMap Event.progress?

def Trace.after (trace : Trace) (events : List Event) : Trace where
  checks := trace.checks + checksOf events
  reported := trace.reported ++ reportsOf events

theorem Trace.after_nil (trace : Trace) : trace.after [] = trace := by
  simp [after, checksOf, reportsOf]

theorem Trace.after_check (trace : Trace) (events : List Event) :
    trace.after (.check :: events) = { trace with checks := trace.checks + 1 }.after events := by
  have hChecks : checksOf (.check :: events) = 1 + checksOf events := by
    rw [checksOf, List.count_cons_self, Nat.add_comm, checksOf]
  have hReports : reportsOf (.check :: events) = reportsOf events := rfl
  rw [after, after, hChecks, hReports, Nat.add_assoc]

theorem Trace.after_reach (trace : Trace) (tenths : Nat) (message : String) (events : List Event) :
    trace.after (.reach tenths message :: events) =
      { trace with reported := trace.reported ++ [checkpoint tenths message] }.after events := by
  simp [after, checksOf, reportsOf, Event.progress?]

theorem exec_play_reach (signal : Signal) (trace : Trace) (tenths : Nat) (message : String)
    (more : List Event) :
    (play (.reach tenths message :: more)).exec signal trace =
      (play more).exec signal
        { trace with reported := trace.reported ++ [checkpoint tenths message] } := rfl

theorem exec_play_check (signal : Signal) (trace : Trace) (more : List Event) :
    (play (.check :: more)).exec signal trace =
      if signal trace.checks trace.reported then (.error .cancelled, trace)
      else (play more).exec signal { trace with checks := trace.checks + 1 } := by
  let go : Watched Unit := set { trace with checks := trace.checks + 1 }
  have hCheck : (play (.check :: more)).exec signal trace =
      ((if signal trace.checks trace.reported then throw .cancelled >>= fun _ => go else go) >>=
        fun _ => play more).exec signal trace := rfl
  rw [hCheck]
  split <;> rfl

theorem exec_play (signal : Signal) (events : List Event) (trace : Trace) :
    ((play events).exec signal trace = (.ok (), trace.after events) ∧
      ∀ before more, events = before ++ .check :: more →
        signal (trace.after before).checks (trace.after before).reported = false) ∨
    ∃ before more, events = before ++ .check :: more ∧
      signal (trace.after before).checks (trace.after before).reported = true ∧
      (play events).exec signal trace = (.error .cancelled, trace.after before) := by
  induction events generalizing trace with
  | nil =>
    refine .inl ⟨by rw [Trace.after_nil]; rfl, ?_⟩
    intro before more hEvents
    simp at hEvents
  | cons event events ih =>
    cases event with
    | reach tenths message =>
      rw [exec_play_reach, Trace.after_reach]
      rcases ih { trace with reported := trace.reported ++ [checkpoint tenths message] } with
        ⟨hExec, hPass⟩ | ⟨before, more, rfl, hStop, hExec⟩
      · refine .inl ⟨hExec, ?_⟩
        intro before more hEvents
        cases before with
        | nil => cases hEvents
        | cons first before =>
          obtain ⟨rfl, hRest⟩ := List.cons.inj hEvents
          rw [Trace.after_reach]
          exact hPass before more hRest
      · refine .inr ⟨.reach tenths message :: before, more, rfl, ?_, ?_⟩
        · rw [Trace.after_reach]
          exact hStop
        · rw [Trace.after_reach]
          exact hExec
    | check =>
      rw [exec_play_check, Trace.after_check]
      by_cases hNow : signal trace.checks trace.reported = true
      · refine .inr ⟨[], events, rfl, ?_, ?_⟩
        · rw [Trace.after_nil]
          exact hNow
        · rw [Trace.after_nil, if_pos hNow]
      · rw [if_neg hNow]
        rcases ih { trace with checks := trace.checks + 1 } with
          ⟨hExec, hPass⟩ | ⟨before, more, rfl, hStop, hExec⟩
        · refine .inl ⟨hExec, ?_⟩
          intro before more hEvents
          cases before with
          | nil =>
            rw [Trace.after_nil]
            exact Bool.eq_false_iff.2 hNow
          | cons first before =>
            obtain ⟨rfl, hRest⟩ := List.cons.inj hEvents
            rw [Trace.after_check]
            exact hPass before more hRest
        · refine .inr ⟨.check :: before, more, rfl, ?_, ?_⟩
          · rw [Trace.after_check]
            exact hStop
          · rw [Trace.after_check]
            exact hExec

theorem exec_bind {α β : Type} (run : Watched α) (next : α → Watched β) (signal : Signal)
    (trace : Trace) :
    (run >>= next).exec signal trace =
      match run.exec signal trace with
      | (.ok result, seen) => (next result).exec signal seen
      | (.error halt, seen) => (.error halt, seen) := by
  simp only [Watched.exec, ReaderT.run_bind, ExceptT.run_bind, StateT.run_bind]
  rcases StateT.run (ReaderT.run run signal).run trace with ⟨ended, seen⟩
  cases ended <;> rfl

/-- What is left of a run whose stages came to an end in this way. -/
def reportOf : Except String Report → Report
  | .ok report => report
  | .error message => failure message

theorem outcome_run (signal : Signal) (course : Course) :
    (outcome course.run signal =
        { reported := reportsOf course.events, report := some (reportOf course.ended) } ∧
      ∀ before more, course.events = before ++ .check :: more →
        signal (checksOf before) (reportsOf before) = false) ∨
    ∃ before more, course.events = before ++ .check :: more ∧
      signal (checksOf before) (reportsOf before) = true ∧
      outcome course.run signal = { reported := reportsOf before, report := none } := by
  have hStart (seen : List Event) :
      ({} : Trace).after seen = { checks := checksOf seen, reported := reportsOf seen } := by
    simp [Trace.after]
  obtain ⟨events, ended⟩ := course
  have hRun := exec_bind (play events) (fun _ => Watched.ofStage ended) signal {}
  rcases exec_play signal events {} with ⟨hExec, hPass⟩ | ⟨before, more, hEvents, hStop, hExec⟩
  · rw [hExec, hStart] at hRun
    simp only [hStart] at hPass
    refine .inl ⟨?_, hPass⟩
    rw [outcome, ← Watched.exec, Course.run, hRun]
    cases ended <;> rfl
  · rw [hExec, hStart] at hRun
    rw [hStart] at hStop
    refine .inr ⟨before, more, hEvents, hStop, ?_⟩
    rw [outcome, ← Watched.exec, Course.run, hRun]

theorem outcome_run_never (course : Course) :
    outcome course.run .never =
      { reported := reportsOf course.events, report := some (reportOf course.ended) } := by
  rcases outcome_run .never course with ⟨hOutcome, _⟩ | ⟨_, _, _, hStop, _⟩
  · exact hOutcome
  · cases hStop

/-- A run that is not cancelled has the report that its course ends with. -/
theorem eq_reportOf_of_report {signal : Signal} {course : Course} {report : Report}
    (hReport : (outcome course.run signal).report = some report) :
    report = reportOf course.ended := by
  rcases outcome_run signal course with ⟨hOutcome, _⟩ | ⟨_, _, _, _, hOutcome⟩
  · rw [hOutcome] at hReport
    exact (Option.some.inj hReport).symm
  · rw [hOutcome] at hReport
    cases hReport

theorem exists_check_at {events : List Event} {n : Nat} (h : n < checksOf events) :
    ∃ before more, events = before ++ .check :: more ∧ checksOf before = n := by
  induction events generalizing n with
  | nil => simp [checksOf] at h
  | cons event events ih =>
    cases event with
    | reach tenths message =>
      obtain ⟨before, more, rfl, hBefore⟩ := ih (n := n) (by simpa [checksOf] using h)
      exact ⟨.reach tenths message :: before, more, rfl, by simpa [checksOf] using hBefore⟩
    | check =>
      cases n with
      | zero => exact ⟨[], events, rfl, rfl⟩
      | succ n =>
        obtain ⟨before, more, rfl, hBefore⟩ := ih (n := n) (by simpa [checksOf] using h)
        exact ⟨.check :: before, more, rfl, by simpa [checksOf] using hBefore⟩

theorem checksOf_schedule (files steps : Nat) :
    checksOf (schedule files steps) = files + 5 + steps := by
  simp [checksOf, schedule, untilIssues, untilGraph, untilSymbols, closing]
  omega

theorem reportsOf_schedule (files steps : Nat) :
    (reportsOf (schedule files steps)).map (·.fraction) =
      [1, 3, 5, 7, 8, 9, 10].map fun tenths : Nat => Number.nearest (tenths / 10 : Rat) := by
  have hCheck : Event.progress? .check = none := rfl
  simp [reportsOf, schedule, untilIssues, untilGraph, untilSymbols, closing,
    List.filterMap_cons_none hCheck, List.filterMap_replicate_of_none hCheck, Event.progress?,
    checkpoint]

/-- A signal that lets so many checks pass and no later one. -/
def Signal.after (n : Nat) : Signal := fun checks _ => decide (n ≤ checks)

/-- The analysis makes exactly `limit` checks: a signal that lets fewer pass cancels it, with
nothing left but checkpoints of the uncancelled run, and any other signal changes nothing. -/
structure Checks (analysis : Watched Report) (limit : Nat) : Prop where
  cancelled_iff : ∀ n, (outcome analysis (.after n)).report = none ↔ n < limit
  reported_prefix : ∀ n, (outcome analysis (.after n)).reported <+: (outcome analysis .never).reported
  unchanged : ∀ n, limit ≤ n → outcome analysis (.after n) = outcome analysis .never

theorem checks_run (course : Course) : Checks course.run (checksOf course.events) := by
  have hNever := outcome_run_never course
  have hAfter (n : Nat) :
      (checksOf course.events ≤ n ∧ outcome course.run (.after n) =
        { reported := reportsOf course.events, report := some (reportOf course.ended) }) ∨
      (n < checksOf course.events ∧ ∃ before more, course.events = before ++ more ∧
        outcome course.run (.after n) = { reported := reportsOf before, report := none }) := by
    rcases outcome_run (.after n) course with ⟨hOutcome, hPass⟩ |
      ⟨before, more, hEvents, hStop, hOutcome⟩
    · refine .inl ⟨?_, hOutcome⟩
      by_contra hFew
      obtain ⟨before, more, hEvents, hBefore⟩ := exists_check_at (Nat.lt_of_not_le hFew)
      have hPassed := hPass before more hEvents
      simp [Signal.after, hBefore] at hPassed
    · refine .inr ⟨?_, before, .check :: more, hEvents, hOutcome⟩
      have hReached : n ≤ checksOf before := by simpa [Signal.after] using hStop
      have hMore : checksOf before < checksOf course.events := by simp [hEvents, checksOf]
      omega
  refine ⟨?_, ?_, ?_⟩
  · intro n
    rcases hAfter n with ⟨hMany, hOutcome⟩ | ⟨hFew, _, _, _, hOutcome⟩
    · rw [hOutcome]
      simpa using hMany
    · rw [hOutcome]
      simpa using hFew
  · intro n
    rcases hAfter n with ⟨_, hOutcome⟩ | ⟨_, before, more, hEvents, hOutcome⟩
    · rw [hOutcome, hNever]
    · rw [hOutcome, hNever]
      exact ⟨reportsOf more, by simp [hEvents, reportsOf]⟩
  · intro n hMany
    rcases hAfter n with ⟨_, hOutcome⟩ | ⟨hFew, _⟩
    · rw [hOutcome, hNever]
    · omega

/-- An analysis makes one check before the sources are read, one for each file, one before each of
the four later stages, and one for each step of the search for flows. The steps are counted on the
graph that is reported: on every route that stays outside the user interface, one for each edge
that leaves its end and one to turn back. -/
theorem analysis_checks {stages : Stages} (hWork : stages.Work) (extractors : ExtractorRegistry)
    (tree : FileTree) (kotlin java : List String) (hFiles : 0 < kotlin.length + java.length)
    (project : Option String) :
    ∃ (report : Report) (g : Graph) (roams : String → Finset g.Route),
      (outcome (ofFiles stages extractors tree kotlin java project) .never).report = some report ∧
      report.success = true ∧ report.graph = some g ∧
      (∀ start route, route ∈ roams start ↔ g.Roams start route) ∧
      Checks (ofFiles stages extractors tree kotlin java project)
        (kotlin.length + java.length + 5 +
          ((g.nodesOf .sensorSource).map fun source =>
            (source.sensors.map fun _ =>
              ∑ route ∈ roams source.id,
                (1 + (g.outgoing (g.endOf source.id route)).length)).sum).sum) ∧
      (outcome (ofFiles stages extractors tree kotlin java project) .never).reported.map
          (·.fraction) =
        [1, 3, 5, 7, 8, 9, 10].map fun tenths : Nat => Number.nearest (tenths / 10 : Rat) := by
  obtain ⟨g, report, hSuccess, hGraph, hCourse⟩ :=
    courseOf_eq hWork extractors tree kotlin java project
  have hRun := ofFiles_eq_run stages extractors tree hFiles project
  rw [hCourse] at hRun
  obtain ⟨roams, hRoams, hSteps⟩ := g.exists_roams
  refine ⟨report, g, roams, ?_, hSuccess, hGraph, hRoams, ?_, ?_⟩
  · rw [hRun, outcome_run_never]
    rfl
  · rw [hRun, ← hSteps, ← checksOf_schedule]
    exact checks_run _
  · rw [hRun, outcome_run_never]
    exact reportsOf_schedule _ _

/-- A listener that tells a store, which goes back to the listener and on to a screen. -/
def metered : FileTree where
  entries := [
    (["p"], .folder),
    (["p", "A.kt"], .file (Text.Utf8.encode
      "class Meter \x7b\n fun onSensorChanged() \x7b Store.keep() \x7d\n\x7d
class Screen : Activity()
class Store \x7b
 fun keep() \x7b Screen.show() \x7d
 fun undo() \x7b Meter.stop() \x7d\n\x7d".toList))]

def meteredClasses : List ClassSymbol := classesOf {} metered (ordered ["/p/A.kt"] [])

theorem names_meteredClasses : SymbolTable.names meteredClasses = ["Meter", "Screen", "Store"] := by
  have hNames : (meteredClasses.map (·.qualifiedName)).eraseDups =
      ["Meter", "Screen", "Store"] := by
    decide +kernel
  rw [SymbolTable.names, hNames]
  exact List.mergeSort_of_pairwise (by decide +kernel)

/-- Two steps at the listener and three at the store. -/
theorem flowSteps_metered :
    ((SymbolTable.ofClasses meteredClasses).graph (entryPoints meteredClasses)).flowSteps = 5 := by
  rewrite [SymbolTable.ofClasses, names_meteredClasses]
  decide +kernel

theorem analysis_checks_metered :
    0 < ["/p/A.kt"].length + ([] : List String).length ∧
      (outcome (ofFiles .standard {} metered ["/p/A.kt"] [] none) (.after 10)).report = none ∧
      outcome (ofFiles .standard {} metered ["/p/A.kt"] [] none) (.after 11) =
        outcome (ofFiles .standard {} metered ["/p/A.kt"] [] none) .never := by
  refine ⟨by decide, ?_⟩
  obtain ⟨report, g, roams, hReport, _, hGraph, hRoams, hChecks, _⟩ :=
    analysis_checks Stages.standard_work {} metered ["/p/A.kt"] [] (by decide) none
  have hSteps : g.flowSteps = 5 := by
    rw [ofFiles_eq_run _ _ _ (by decide), outcome_run_never] at hReport
    obtain rfl := Option.some.inj hReport
    obtain rfl : (SymbolTable.ofClasses meteredClasses).graph (entryPoints meteredClasses) = g :=
      Option.some.inj hGraph
    exact flowSteps_metered
  -- the routes are told by what they are, so their sum is the one that counts the steps
  obtain ⟨others, hOthers, hSum⟩ := g.exists_roams
  have hSame : roams = others := funext fun start => Finset.ext fun route =>
    (hRoams start route).trans (hOthers start route).symm
  rw [hSame, ← hSum, hSteps] at hChecks
  exact ⟨(hChecks.cancelled_iff 10).2 (by decide), hChecks.unchanged 11 (by decide)⟩

end SensorFlow.Analysis

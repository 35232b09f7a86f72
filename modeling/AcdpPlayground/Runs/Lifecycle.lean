/-
`execute` and `_execute` of `playground/scenarios/runner.py` from entry to return: the
context variable, the events, the scenario under its deadline, the stored result and the
two notifications, in one ordered log.

A scenario is what it does before it ends, in order, and how it ends. It may put any
event, be denied by a quota and set the context variable, which it shares with the
runner. One that swallows the cancellation at the deadline and returns all the same is
one that returned: `wait_for` does not raise then. Tasks that it leaves behind go on
while the completion is being posted.
-/

import AcdpPlayground.Runs.Runner
import AcdpPlayground.Quota.Guard
import AcdpPlayground.Bridge.Operations

namespace AcdpPlayground.Runs

open PythonText JsonValue HttpDate TextEncoding Quota
open Bridge (Platform CpSettings PostScript post runStartedPayload runCompletePayload
  cpTerminalStatus)

/-! ### Scenarios -/

inductive ScenarioStep where
  | put (event : StepEvent)
  | deny (ts : String) (denial : QuotaDenial)
  | setCurrentRun (value : Option String)

inductive ScenarioEnd where
  | returned (result : RunResult)
  | raised (timeout : Bool) (typeName text traceback : String)
  | pastDeadline (traceback : String)

/-- How `wait_for` ends; its own `TimeoutError` has no text. -/
def ScenarioEnd.outcome : ScenarioEnd → ScenarioOutcome
  | .returned result => .returned result
  | .raised timeout typeName text traceback => .raised timeout typeName text traceback
  | .pastDeadline traceback => .raised true "TimeoutError" "" traceback

structure Scenario where
  steps : List ScenarioStep
  ending : ScenarioEnd
  late : List ScenarioStep

/-! ### The runner -/

inductive LifecycleAction where
  | put (event : StepEvent)
  | posted (path : Text) (payload : Json) (actions : List Bridge.Action)
  | scenarioStarted
  | scenarioEnded
  | stored (runId : String) (result : RunResult)

/-- `currentRun` is the run of `current_run`'s value, and `none` when it was never set. -/
structure RunnerState where
  context : RunQuotaContext
  currentRun : Option (Option String)
  results : String → Option RunResult
  log : List LifecycleAction

/-- The arguments, the settings, and what the clock, the libraries and the control plane
contribute. `dumpResult` is `model_dump`. -/
structure RunSetup where
  spec : RunSpec
  inputs : Json
  clientIp : Option String
  platform : Platform
  settings : CpSettings
  dumps : Json → Bytes
  dumpResult : RunResult → Json
  timeoutSeconds : String
  startedTs : String
  endedTs : String
  startedAt : Text
  completedAt : Text
  started : PostScript
  completed : PostScript

def statusText : RunStatus → String
  | .complete => "complete"
  | .failed => "failed"

namespace RunnerState

def logged (state : RunnerState) (action : LifecycleAction) : RunnerState :=
  { state with log := state.log ++ [action] }

def putEvent (state : RunnerState) (event : StepEvent) : RunnerState :=
  { state.logged (.put event) with context := state.context.put event }

def perform (state : RunnerState) : ScenarioStep → RunnerState
  | .put event => state.putEvent event
  | .deny ts denial =>
      { state with
        context := state.context.recordDenial ts denial
        log := state.log ++ (if state.context.denials.isEmpty then
          [.put (quotaExceeded state.context.runId ts denial)] else []) }
  | .setCurrentRun value => { state with currentRun := some value }

def performAll (state : RunnerState) (steps : List ScenarioStep) : RunnerState :=
  steps.foldl perform state

/-- `scenario.run(spec, events)` under `wait_for`, up to its end. -/
def runScenario (state : RunnerState) (scenario : Scenario) : RunnerState :=
  ((state.logged .scenarioStarted).performAll scenario.steps).logged .scenarioEnded

def store (state : RunnerState) (runId : String) (result : RunResult) : RunnerState :=
  { state.logged (.stored runId result) with
    results := Function.update state.results runId (some result) }

end RunnerState

namespace RunSetup

def startedPayload (setup : RunSetup) : Json :=
  runStartedPayload (text setup.spec.runId) (text setup.spec.scenarioId) setup.startedAt
    setup.inputs

def completePath (setup : RunSetup) : Text :=
  text "/runs/" ++ text setup.spec.runId ++ text "/complete"

def completePayload (setup : RunSetup) (result : RunResult) : Json :=
  runCompletePayload (text setup.spec.runId) (text (statusText result.status)) setup.completedAt
    (setup.dumpResult result)

/-- `_post` without a tenant. -/
def post (setup : RunSetup) (path : Text) (payload : Json) (script : PostScript) :
    Bridge.Posted :=
  Bridge.post setup.platform setup.settings path (setup.dumps payload) [] script.first
    script.second script.now

def notifyRunStarted (setup : RunSetup) : Bridge.Posted :=
  setup.post (text "/runs/started") setup.startedPayload setup.started

def notifyRunComplete (setup : RunSetup) (result : RunResult) : Bridge.Posted :=
  setup.post setup.completePath (setup.completePayload result) setup.completed

/-- `_execute` from the end of the scenario to the stored result. -/
def close (setup : RunSetup) (scenario : Scenario) (state : RunnerState) :
    RunResult × RunnerState :=
  let closing := closeRun setup.spec setup.timeoutSeconds setup.endedTs state.context.summary
    scenario.ending.outcome
  (closing.2, (state.putEvent closing.1).store setup.spec.runId closing.2)

/-- `run.started` and its notification. -/
def announce (setup : RunSetup) (state : RunnerState) : RunnerState :=
  (state.putEvent (runStarted setup.spec setup.startedTs)).logged
    (.posted (text "/runs/started") setup.startedPayload setup.notifyRunStarted.actions)

/-- The notification of the completion. -/
def report (setup : RunSetup) (closed : RunResult × RunnerState) : RunnerState :=
  closed.2.logged (.posted setup.completePath (setup.completePayload closed.1)
    (setup.notifyRunComplete closed.1).actions)

/-- `_execute`. -/
def executeInner (setup : RunSetup) (scenario : Scenario) (state : RunnerState) :
    Except PyError RunResult × RunnerState :=
  match setup.notifyRunStarted.outcome with
  | .error failure => (.error failure, setup.announce state)
  | .ok () =>
      let closed := setup.close scenario ((setup.announce state).runScenario scenario)
      let left := (setup.report closed).performAll scenario.late
      match (setup.notifyRunComplete closed.1).outcome with
      | .error failure => (.error failure, left)
      | .ok () => (.ok closed.1, left)

/-- The state after `current_run.set(quota)`. -/
def enter (setup : RunSetup) (queue : List StepEvent) (results : String → Option RunResult) :
    RunnerState :=
  { context :=
      { runId := setup.spec.runId
        events := some queue
        clientIp := setup.clientIp
        denials := [] }
    currentRun := some (some setup.spec.runId)
    results := results
    log := [] }

/-- `execute`; in the end `current_run.reset(token)` puts the earlier value back. -/
def execute (setup : RunSetup) (scenario : Scenario) (queue : List StepEvent)
    (currentRun : Option (Option String)) (results : String → Option RunResult) :
    Except PyError RunResult × RunnerState :=
  let ended := setup.executeInner scenario (setup.enter queue results)
  (ended.1, { ended.2 with currentRun := currentRun })

end RunSetup

/-! ### Reading the log -/

def putsOf (log : List LifecycleAction) : List StepEvent :=
  log.filterMap (fun action =>
    match action with
    | .put event => some event
    | _ => none)

def postsOf (log : List LifecycleAction) : List (Text × Json) :=
  log.filterMap (fun action =>
    match action with
    | .posted path payload _ => some (path, payload)
    | _ => none)

def terminalsOf (log : List LifecycleAction) : List StepEvent :=
  (putsOf log).filter (fun event => event.type.terminal)

theorem putsOf_append (log more : List LifecycleAction) :
    putsOf (log ++ more) = putsOf log ++ putsOf more :=
  List.filterMap_append

theorem postsOf_append (log more : List LifecycleAction) :
    postsOf (log ++ more) = postsOf log ++ postsOf more :=
  List.filterMap_append

theorem terminalsOf_append (log more : List LifecycleAction) :
    terminalsOf (log ++ more) = terminalsOf log ++ terminalsOf more := by
  rw [terminalsOf, putsOf_append, List.filter_append, terminalsOf, terminalsOf]

theorem terminalsOf_put {event : StepEvent} (terminal : event.type.terminal = true)
    (log : List LifecycleAction) : terminalsOf (.put event :: log) = event :: terminalsOf log := by
  change (event :: putsOf log).filter (fun put : StepEvent => put.type.terminal) = _
  simp only [List.filter_cons, terminal, if_true]
  rfl

/-! ### What a scenario can do -/

def ScenarioStep.Quiet : ScenarioStep → Prop
  | .put event => event.type.terminal = false
  | _ => True

def deniedIn (steps : List ScenarioStep) : List QuotaDenial :=
  steps.filterMap (fun step =>
    match step with
    | .deny _ denial => some denial
    | _ => none)

/-- Events and denials, nothing else; no terminal event. -/
structure Performed (before after : RunnerState) (denied : List QuotaDenial)
    (more : List LifecycleAction) : Prop where
  log : after.log = before.log ++ more
  silent : postsOf more = []
  open_ended : terminalsOf more = []
  queue : after.context.events = before.context.events.map (fun queue => queue ++ putsOf more)
  denials : after.context.denials = before.context.denials ++ denied
  results : after.results = before.results

theorem Performed.of_unlogged {before after : RunnerState} {denied : List QuotaDenial}
    (log : after.log = before.log) (events : after.context.events = before.context.events)
    (denials : after.context.denials = before.context.denials ++ denied)
    (results : after.results = before.results) : Performed before after denied [] where
  log := by rw [log, List.append_nil]
  silent := rfl
  open_ended := rfl
  queue := by
    rw [events]
    change before.context.events = before.context.events.map (fun queue => queue ++ [])
    simp only [List.append_nil, Option.map_id']
  denials := denials
  results := results

theorem perform_spec (state : RunnerState) (step : ScenarioStep) (quiet : step.Quiet) :
    ∃ more, Performed state (state.perform step) (deniedIn [step]) more := by
  cases step with
  | put event =>
      refine ⟨[.put event], rfl, rfl, ?_, rfl, (List.append_nil _).symm, rfl⟩
      change [event].filter _ = []
      rw [List.filter_singleton, quiet]
      rfl
  | setCurrentRun value => exact ⟨[], .of_unlogged rfl rfl (List.append_nil _).symm rfl⟩
  | deny ts denial =>
      cases first : state.context.denials.isEmpty with
      | true =>
          have told : state.perform (.deny ts denial) =
              ({ state with context := { state.context with
                denials := state.context.denials ++ [denial] } } : RunnerState).putEvent
                  (quotaExceeded state.context.runId ts denial) := by
            simp only [RunnerState.perform, RunQuotaContext.recordDenial, first, if_true]
            rfl
          rw [told]
          exact ⟨[.put (quotaExceeded state.context.runId ts denial)], rfl, rfl, rfl, rfl, rfl,
            rfl⟩
      | false =>
          have kept : state.perform (.deny ts denial) =
              { state with context := { state.context with
                denials := state.context.denials ++ [denial] } } := by
            simp only [RunnerState.perform, RunQuotaContext.recordDenial, first,
              Bool.false_eq_true, if_false, List.append_nil]
          rw [kept]
          exact ⟨[], .of_unlogged rfl rfl rfl rfl⟩

theorem Performed.trans {first second third : RunnerState} {denied later : List QuotaDenial}
    {more rest : List LifecycleAction} (left : Performed first second denied more)
    (right : Performed second third later rest) :
    Performed first third (denied ++ later) (more ++ rest) where
  log := by rw [right.log, left.log, List.append_assoc]
  silent := by rw [postsOf_append, left.silent, right.silent, List.append_nil]
  open_ended := by rw [terminalsOf_append, left.open_ended, right.open_ended, List.append_nil]
  queue := by
    rw [right.queue, left.queue, Option.map_map, putsOf_append]
    congr 1
    funext queue
    exact List.append_assoc _ _ _
  denials := by rw [right.denials, left.denials, List.append_assoc]
  results := by rw [right.results, left.results]

theorem performAll_spec (state : RunnerState) (steps : List ScenarioStep)
    (quiet : ∀ step ∈ steps, step.Quiet) :
    ∃ more, Performed state (state.performAll steps) (deniedIn steps) more := by
  induction steps generalizing state with
  | nil => exact ⟨[], .of_unlogged rfl rfl (List.append_nil _).symm rfl⟩
  | cons step rest ih =>
      obtain ⟨more, performed⟩ := perform_spec state step (quiet step List.mem_cons_self)
      obtain ⟨later, remaining⟩ := ih (state.perform step)
        (fun other member => quiet other (List.mem_cons_of_mem _ member))
      have whole := performed.trans remaining
      have denied : deniedIn [step] ++ deniedIn rest = deniedIn (step :: rest) :=
        (List.filterMap_append (l := [step])).symm
      rw [denied] at whole
      exact ⟨_, whole⟩

/-! ### The run -/

/-- `quota.summary()` for these denials. -/
def summaryOf (denials : List QuotaDenial) : Fields :=
  RunQuotaContext.summary { runId := "", events := none, clientIp := none, denials := denials }

theorem summary_eq_summaryOf (context : RunQuotaContext) :
    context.summary = summaryOf context.denials := by
  unfold summaryOf RunQuotaContext.summary
  cases context.denials with
  | nil => rfl
  | cons first rest => rfl

theorem summaryOf_distinct (denials : List QuotaDenial) :
    (KeyedTable.keys (summaryOf denials)).Nodup := by
  cases denials with
  | nil => exact List.nodup_nil
  | cons first rest =>
      change ["llm_quota_exceeded", "llm_quota", "llm_calls_on_mock"].Nodup
      decide

def ScenarioEnd.isReturned : ScenarioEnd → Bool
  | .returned _ => true
  | _ => false

theorem closeRun_type (spec : RunSpec) (timeoutSeconds ts : String) (summary : Fields)
    (ending : ScenarioEnd) :
    (closeRun spec timeoutSeconds ts summary ending.outcome).1.type =
      if ending.isReturned then .runComplete else .runError := by
  cases ending with
  | returned result => rfl
  | raised timeout typeName text traceback => rfl
  | pastDeadline traceback => rfl

theorem closeRun_summary (spec : RunSpec) (timeoutSeconds ts : String) {summary : Fields}
    (distinct : (KeyedTable.keys summary).Nodup) (outcome : ScenarioOutcome)
    {entry : String × ExtraValue} (member : entry ∈ summary) :
    (closeRun spec timeoutSeconds ts summary outcome).2.summary.lookup entry.1 =
      some entry.2 := by
  cases outcome with
  | returned result =>
      change (updateFields result.summary summary).lookup entry.1 = _
      rw [updateFields_eq_foldl]
      exact KeyedTable.lookup_foldl_insert distinct member
  | raised timeout typeName text traceback =>
      exact (KeyedTable.mem_iff_lookup distinct entry.1 entry.2).mp member

/-- What the consumers of a run are told: the events, the store, the control plane and the
caller. -/
structure Lifecycle (setup : RunSetup) (scenario : Scenario) (queue : List StepEvent)
    (currentRun : Option (Option String)) (outcome : Except PyError RunResult)
    (final : RunnerState) (result : RunResult) (terminal : StepEvent) : Prop where
  returned : outcome = .ok result
  queue : final.context.events = some (queue ++ putsOf final.log)
  startedFirst : (putsOf final.log).head? = some (runStarted setup.spec setup.startedTs)
  oneTerminal : terminalsOf final.log = [terminal]
  error_iff : terminal.type = .runError ↔ scenario.ending.isReturned = false
  complete_iff : terminal.type = .runComplete ↔ scenario.ending.isReturned = true
  status : terminal.status = some result.status
  stored : final.results setup.spec.runId = some result
  notified : ∃ before during after,
    final.log = before ++ .scenarioStarted :: during ++ .scenarioEnded :: after ∧
    postsOf before = [(text "/runs/started", setup.startedPayload)] ∧ postsOf during = [] ∧
    postsOf after = [(setup.completePath, setup.completePayload result)]
  reported : (setup.completePayload result).get? "status" = some (.string (text
    (if result.status = .complete then "completed" else "failed")))
  summary : ∀ entry ∈ summaryOf (deniedIn scenario.steps),
    result.summary.lookup entry.1 = some entry.2
  restored : final.currentRun = currentRun

/-- The answers of the control plane are such that `_post` does not raise. -/
def RunSetup.Tolerates (setup : RunSetup) (script : PostScript) : Prop :=
  ∀ path payload, (setup.post path payload script).outcome = .ok ()

/-- The queue holds what it held at the start and what the log says was put. -/
def Queued (queue : List StepEvent) (state : RunnerState) : Prop :=
  state.context.events = some (queue ++ putsOf state.log)

theorem Queued.putEvent {queue : List StepEvent} {state : RunnerState}
    (queued : Queued queue state) (event : StepEvent) : Queued queue (state.putEvent event) := by
  change state.context.events.map (fun old => old ++ [event]) =
    some (queue ++ putsOf (state.log ++ [.put event]))
  rw [queued, putsOf_append, ← List.append_assoc]
  rfl

theorem Queued.logged {queue : List StepEvent} {state : RunnerState} {action : LifecycleAction}
    (queued : Queued queue state) (silent : putsOf [action] = []) :
    Queued queue (state.logged action) := by
  change state.context.events = some (queue ++ putsOf (state.log ++ [action]))
  rw [putsOf_append, silent, List.append_nil]
  exact queued

theorem Queued.performed {queue : List StepEvent} {before after : RunnerState}
    {denied : List QuotaDenial} {more : List LifecycleAction} (queued : Queued queue before)
    (performed : Performed before after denied more) : Queued queue after := by
  rw [Queued, performed.queue, queued, performed.log, putsOf_append, ← List.append_assoc]
  rfl

theorem runScenario_spec {queue : List StepEvent} {state : RunnerState} {scenario : Scenario}
    (queued : Queued queue state) (fresh : state.context.denials = [])
    (quiet : ∀ step ∈ scenario.steps, step.Quiet) :
    ∃ during, postsOf during = [] ∧ terminalsOf during = [] ∧
      (state.runScenario scenario).log =
        state.log ++ .scenarioStarted :: during ++ [.scenarioEnded] ∧
      Queued queue (state.runScenario scenario) ∧
      (state.runScenario scenario).context.summary = summaryOf (deniedIn scenario.steps) ∧
      (state.runScenario scenario).results = state.results := by
  obtain ⟨during, performed⟩ :=
    performAll_spec (state.logged .scenarioStarted) scenario.steps quiet
  refine ⟨during, performed.silent, performed.open_ended, ?_, ?_, ?_, ?_⟩
  · change (RunnerState.performAll _ scenario.steps).log ++ _ = _
    rw [performed.log]
    change (state.log ++ [.scenarioStarted]) ++ during ++ _ = _
    simp only [List.append_assoc, List.cons_append, List.nil_append]
  · exact ((queued.logged rfl).performed performed).logged rfl
  · rw [summary_eq_summaryOf]
    change summaryOf (RunnerState.performAll _ scenario.steps).context.denials = _
    rw [performed.denials]
    change summaryOf (state.context.denials ++ _) = _
    rw [fresh, List.nil_append]
  · exact performed.results

theorem executeInner_of_tolerated {setup : RunSetup} (scenario : Scenario) (state : RunnerState)
    (started : setup.Tolerates setup.started) (completed : setup.Tolerates setup.completed) :
    setup.executeInner scenario state =
      (.ok (setup.close scenario ((setup.announce state).runScenario scenario)).1,
        (setup.report (setup.close scenario
          ((setup.announce state).runScenario scenario))).performAll scenario.late) := by
  have first : setup.notifyRunStarted.outcome = .ok () := started _ _
  have second : ∀ result, (setup.notifyRunComplete result).outcome = .ok () :=
    fun _ => completed _ _
  simp only [RunSetup.executeInner, first, second]

theorem reported_status (setup : RunSetup) (result : RunResult) :
    (setup.completePayload result).get? "status" = some (.string (text
      (if result.status = .complete then "completed" else "failed"))) := by
  cases status : result.status with
  | complete =>
      rw [RunSetup.completePayload, status]
      rfl
  | failed =>
      rw [RunSetup.completePayload, status]
      rfl

/-- The run from entry to return: what it returns, what it leaves and what it did. -/
theorem execute_spec (setup : RunSetup) (scenario : Scenario) (queue : List StepEvent)
    (currentRun : Option (Option String)) (results : String → Option RunResult)
    (quiet : ∀ step ∈ scenario.steps ++ scenario.late, step.Quiet)
    (started : setup.Tolerates setup.started) (completed : setup.Tolerates setup.completed) :
    ∃ terminal result final during late,
      closeRun setup.spec setup.timeoutSeconds setup.endedTs (summaryOf (deniedIn scenario.steps))
        scenario.ending.outcome = (terminal, result) ∧
      setup.execute scenario queue currentRun results =
        (.ok result, { final with currentRun := currentRun }) ∧
      Queued queue final ∧ final.results setup.spec.runId = some result ∧
      postsOf during = [] ∧ terminalsOf during = [] ∧ postsOf late = [] ∧
      terminalsOf late = [] ∧
      final.log =
        [LifecycleAction.put (runStarted setup.spec setup.startedTs),
          LifecycleAction.posted (text "/runs/started") setup.startedPayload
            setup.notifyRunStarted.actions] ++
        LifecycleAction.scenarioStarted :: during ++ LifecycleAction.scenarioEnded ::
        ([LifecycleAction.put terminal, LifecycleAction.stored setup.spec.runId result,
          LifecycleAction.posted setup.completePath (setup.completePayload result)
            (setup.notifyRunComplete result).actions] ++ late) := by
  have entered : Queued queue (setup.enter queue results) := by
    rw [Queued, RunSetup.enter]
    exact congrArg some (List.append_nil queue).symm
  have announced : Queued queue (setup.announce (setup.enter queue results)) :=
    (entered.putEvent _).logged rfl
  obtain ⟨during, noPosts, noTerminals, log, ended, summary, _⟩ :=
    runScenario_spec announced rfl (fun step member => quiet step (List.mem_append_left _ member))
  have inner := executeInner_of_tolerated scenario (setup.enter queue results) started completed
  generalize (setup.announce (setup.enter queue results)).runScenario scenario = ran at *
  have closing : setup.close scenario ran =
      ((closeRun setup.spec setup.timeoutSeconds setup.endedTs
        (summaryOf (deniedIn scenario.steps)) scenario.ending.outcome).2,
      (ran.putEvent (closeRun setup.spec setup.timeoutSeconds setup.endedTs
        (summaryOf (deniedIn scenario.steps)) scenario.ending.outcome).1).store setup.spec.runId
        (closeRun setup.spec setup.timeoutSeconds setup.endedTs
          (summaryOf (deniedIn scenario.steps)) scenario.ending.outcome).2) := by
    rw [RunSetup.close, summary]
  generalize closeRun setup.spec setup.timeoutSeconds setup.endedTs
    (summaryOf (deniedIn scenario.steps)) scenario.ending.outcome = told at *
  rw [closing] at inner
  obtain ⟨late, left⟩ := performAll_spec (setup.report (told.2,
    (ran.putEvent told.1).store setup.spec.runId told.2)) scenario.late
      (fun step member => quiet step (List.mem_append_right _ member))
  refine ⟨told.1, told.2, _, during, late, rfl, by rw [RunSetup.execute, inner], ?_, ?_, noPosts,
    noTerminals, left.silent, left.open_ended, ?_⟩
  · have reported : Queued queue (setup.report (told.2,
        (ran.putEvent told.1).store setup.spec.runId told.2)) :=
      Queued.logged (Queued.logged (ended.putEvent told.1) rfl) rfl
    exact reported.performed left
  · rw [left.results]
    exact Function.update_self _ _ _
  · rw [left.log]
    change ran.log ++ [_] ++ [_] ++ [_] ++ late = _
    rw [log]
    simp only [List.append_assoc, List.cons_append, List.nil_append]
    rfl

/-- A control plane at `http://cp` that takes both notifications. -/
def demoSetup : RunSetup where
  spec := { runId := "r1", scenarioId := "s1" }
  inputs := .object []
  clientIp := none
  platform := Bridge.utcPlatform
  settings :=
    { controlPlaneUrl := text "http://cp"
      controlPlaneHmacSecret := "" }
  dumps := fun _ => text "\x7b\x7d"
  dumpResult := fun result =>
    .object [(text "run_id", .string (text result.runId)),
      (text "scenario_id", .string (text result.scenarioId)),
      (text "status", .string (text (statusText result.status)))]
  timeoutSeconds := "600"
  startedTs := "2026-01-01T00:00:00+00:00"
  endedTs := "2026-01-01T00:00:01+00:00"
  startedAt := text "2026-01-01T00:00:00+00:00"
  completedAt := text "2026-01-01T00:00:01+00:00"
  started := ⟨.response ⟨202, none, []⟩, .httpError [], .finite 0⟩
  completed := ⟨.response ⟨202, none, []⟩, .httpError [], .finite 0⟩

/-- Two denials, a note, and then the deadline. -/
def stuckScenario : Scenario where
  steps :=
    [.deny "t1" { quota := .globalDaily, limit := some 5, resetsAt := some "t9" },
      .put { type := .scenarioNote, runId := "r1", ts := "t2" }, .setCurrentRun none,
      .deny "t3" { quota := .globalDaily, limit := some 5, resetsAt := some "t9" }]
  ending := .pastDeadline "Traceback"
  late := [.put { type := .scenarioNote, runId := "r1", ts := "t4" }]

end AcdpPlayground.Runs

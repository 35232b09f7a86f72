/-
The events and the result that `_execute` of `playground/scenarios/runner.py` builds.
The exception of a failed scenario enters as its type name, its text and its
traceback; timestamps and the formatted run timeout are inputs.

The order of the runner's steps is in the module of the event stream.
-/

import AcdpPlayground.Events
import AcdpPlayground.Foundation.KeyedTable

namespace AcdpPlayground.Runs

structure RunSpec where
  runId : String
  scenarioId : String
  deriving DecidableEq

def runStarted (spec : RunSpec) (ts : String) : StepEvent :=
  { type := .runStarted
    runId := spec.runId
    ts := ts
    scenarioId := some spec.scenarioId }

/-- How `wait_for(scenario.run(...))` ends. `timeout` says whether the exception is a
`TimeoutError`, which the deadline and the scenario may both raise. -/
inductive ScenarioOutcome where
  | returned (result : RunResult)
  | raised (timeout : Bool) (typeName text traceback : String)

/-- `dict.update`: known keys keep their place, new ones follow in order. -/
def updateFields (fields : Fields) : Fields → Fields
  | [] => fields
  | entry :: rest =>
      let updated :=
        if fields.any (fun field => field.1 == entry.1) then
          fields.map (fun field => if field.1 == entry.1 then entry else field)
        else fields ++ [entry]
      updateFields updated rest

/-- The terminal event and the persisted result. `timeoutSeconds` is
`run_timeout_seconds` as the message prints it, `summary` is `quota.summary()`. -/
def closeRun (spec : RunSpec) (timeoutSeconds ts : String) (summary : Fields) :
    ScenarioOutcome → StepEvent × RunResult
  | .raised timeout typeName text traceback =>
      let name := if timeout then "TimeoutError" else typeName
      let message :=
        if timeout then "run exceeded RUN_TIMEOUT_SECONDS=" ++ timeoutSeconds else text
      let result : RunResult :=
        { runId := spec.runId
          scenarioId := spec.scenarioId
          status := .failed
          error := some (name ++ ": " ++ message ++ "\n" ++ traceback)
          summary := summary }
      ({ type := .runError
         runId := spec.runId
         ts := ts
         scenarioId := some spec.scenarioId
         error := some message
         status := some result.status }, result)
  | .returned result =>
      ({ type := .runComplete
         runId := spec.runId
         ts := ts
         scenarioId := some spec.scenarioId
         contextsProduced := some result.contexts.length
         lineageGraph := result.lineageGraph
         status := some result.status
         extra := summary },
        { result with summary := updateFields result.summary summary })

theorem updateFields_eq_foldl (fields added : Fields) :
    updateFields fields added =
      added.foldl (fun table entry => KeyedTable.insert table entry.1 entry.2) fields := by
  induction added generalizing fields with
  | nil => rfl
  | cons entry rest ih => exact ih _

theorem closeRun_terminal (spec : RunSpec) (timeoutSeconds ts : String) (summary : Fields)
    (outcome : ScenarioOutcome) :
    (closeRun spec timeoutSeconds ts summary outcome).1.type.terminal = true := by
  cases outcome <;> rfl

/-- The event and the result of a run name the same status. -/
theorem closeRun_status (spec : RunSpec) (timeoutSeconds ts : String) (summary : Fields)
    (outcome : ScenarioOutcome) :
    (closeRun spec timeoutSeconds ts summary outcome).1.status =
      some (closeRun spec timeoutSeconds ts summary outcome).2.status := by
  cases outcome <;> rfl

end AcdpPlayground.Runs

/-
`SensorAnalystExecutor.execute` of `a2a/acdp_a2a_demo/producer.py`: any number of executions
that share one sidecar, cut at their awaits, down to the table of sessions in the bridge.

An execution talks to the bridge in `begin`, `message`, `verified_inputs`, `chunk` and `end`.
Between two calls it awaits the event queue or the registry; these awaits may end with an
exception. A call ends with the reply it read, or raises; `begin` stands before the `try`, so
that an execution that fails there sends no `end`. What the chunks hold is not modelled: the
text and the statistics of `analyse` are floating point.
-/

import AcdpPlayground.A2a.Bridge
import AcdpPlayground.A2a.CitedInputs
import AcdpPlayground.A2a.ReplyPairing

namespace AcdpPlayground.A2a

open PythonText JsonValue TransitionRun
open Client (Answer)

/-! ### Requests -/

inductive TaskRequest where
  | begin (contextId : Text)
  | message (content : Json)
  | verifiedInputs (ids : List Text)
  | chunk (content : Json)
  | endTask

def TaskRequest.request (taskId : Text) : TaskRequest → Request
  | .begin contextId =>
      { op := text "begin"
        fields := [(text "task_id", .string taskId), (text "context_id", .string contextId)] }
  | .message content =>
      { op := text "message"
        fields := [(text "task_id", .string taskId), (text "message", content)] }
  | .verifiedInputs ids =>
      { op := text "verified_inputs"
        fields := [(text "task_id", .string taskId), (text "ids", .array (ids.map .string))] }
  | .chunk content =>
      { op := text "chunk"
        fields := [(text "task_id", .string taskId), (text "chunk", content)] }
  | .endTask =>
      { op := text "end"
        fields := [(text "task_id", .string taskId)] }

/-- The operations that fail without a session. -/
def TaskRequest.usesSession : TaskRequest → Bool
  | .begin _ | .endTask => false
  | .message _ | .verifiedInputs _ | .chunk _ => true

/-! ### Executions -/

/-- The await an execution stands at: a call with its number, or the code between two. -/
inductive Stage where
  | beginning (call : Nat)
  | noting (call : Nat)
  | verifying (cited : List Text)
  | marking (call : Nat)
  | publishing (call : Nat) (rest : List Json)
  | emitting (rest : List Json)
  | ending (call : Nat)
  | finished

def Stage.call? : Stage → Option Nat
  | .beginning call | .noting call | .marking call | .publishing call _ | .ending call => some call
  | .verifying _ | .emitting _ | .finished => none

/-- An execution with the calls it has entered so far. -/
structure Execution where
  taskId : Text
  contextId : Text
  message : Json
  stage : Stage
  entered : List (Nat × TaskRequest)

structure Service (Agent Session : Type) where
  sidecar : SidecarState
  bridge : Bridge Agent Session
  executions : List Execution

/-- After `create_app`: the bridge has its agent, and the call of `init` took the first
number. -/
def Service.started {Agent Session : Type} (agent : Agent) : Service Agent Session :=
  { sidecar := { SidecarState.initial with nextId := 2 }
    bridge := { agent := some agent, sessions := [] }
    executions := [] }

/-- How a call ended: with a result, or with an exception. -/
def SidecarPhase.result : SidecarPhase → Option (Option Json)
  | .ended (.returned result) => some (some result)
  | .ended _ | .cancelled => some none
  | .waiting | .draining _ | .reading _ => none

/-- `noted["cited"]`, a list of strings. -/
def citedOf (noted : Json) : Option (List Text) :=
  match noted.get? "cited" with
  | some (.array items) => items.mapM asStr
  | _ => none

/-! ### Steps -/

inductive ServiceAction (World : Type) where
  /-- `execute` is called. -/
  | execute (taskId contextId : Text) (message : Json)
  /-- A step of the calls on the sidecar. -/
  | granted
  | drained (index : Nat)
  | readline (index : Nat) (arrived : Option Nat)
  | cancel (index : Nat)
  /-- The process serves the next line. -/
  | serve (world : World)
  /-- The awaited call is over; `chunks` is what is built after `verified_inputs`. -/
  | resume (execution : Nat) (chunks : List Json)
  /-- The code between two calls comes to its end; `served` is what the registry answers. -/
  | proceed (execution : Nat) (served : Nat → Text → Option Answer)
  /-- It raises. -/
  | raised (execution : Nat)

section Steps

variable {Agent Session World Reading : Type} (crate : Crate Agent Session World)
  (platform : SidecarPlatform) (analyst : Analyst Reading)

namespace Service

def setStage (service : Service Agent Session) (index : Nat) (execution : Execution)
    (stage : Stage) : Service Agent Session :=
  { service with executions := service.executions.set index { execution with stage := stage } }

/-- `await sc.call(..)` up to its first await. -/
def call (service : Service Agent Session) (index : Nat) (execution : Execution)
    (request : TaskRequest) (stage : Nat → Stage) : Service Agent Session :=
  { service with
    sidecar := service.sidecar.enter platform (request.request execution.taskId)
    executions := service.executions.set index
      { execution with
        stage := stage service.sidecar.calls.length
        entered := execution.entered ++ [(service.sidecar.calls.length, request)] } }

/-- The `finally`. -/
def finish (service : Service Agent Session) (index : Nat) (execution : Execution) :
    Service Agent Session :=
  service.call platform index execution .endTask .ending

def nextChunk (service : Service Agent Session) (index : Nat) (execution : Execution) :
    List Json → Service Agent Session
  | [] => service.finish platform index execution
  | chunk :: rest => service.call platform index execution (.chunk chunk) (.publishing · rest)

def execute (service : Service Agent Session) (taskId contextId : Text) (message : Json) :
    Service Agent Session :=
  let execution : Execution :=
    { taskId := taskId
      contextId := contextId
      message := message
      stage := .finished
      entered := [] }
  let arrived := { service with executions := service.executions ++ [execution] }
  arrived.call platform service.executions.length execution (.begin contextId) .beginning

/-- The lines behind an awaited call, for its result or for an exception. -/
def resume (service : Service Agent Session) (index : Nat) (execution : Execution)
    (chunks : List Json) : Option Json → Service Agent Session
  | none =>
      match execution.stage with
      | .beginning _ | .ending _ => service.setStage index execution .finished
      | _ => service.finish platform index execution
  | some result =>
      match execution.stage with
      | .beginning _ => service.call platform index execution (.message execution.message) .noting
      | .noting _ =>
          match citedOf result with
          | some cited => service.setStage index execution (.verifying cited)
          | none => service.finish platform index execution
      | .marking _ => service.nextChunk platform index execution chunks
      | .publishing _ rest =>
          match result.get? "withhold", result.get? "emit" with
          | some _, _ => service.setStage index execution (.emitting [])
          | none, some _ => service.setStage index execution (.emitting rest)
          | none, none => service.finish platform index execution
      | .ending _ | .verifying _ | .emitting _ | .finished => service.setStage index execution .finished

end Service

open Service in
def serviceStep (service : Service Agent Session) :
    ServiceAction World → Option (Service Agent Session)
  | .execute taskId contextId message => some (service.execute platform taskId contextId message)
  | .granted =>
      (sidecarStep platform service.sidecar .granted).map
        (fun sidecar => { service with sidecar := sidecar })
  | .drained index =>
      (sidecarStep platform service.sidecar (.drained index)).map
        (fun sidecar => { service with sidecar := sidecar })
  | .readline index arrived =>
      (sidecarStep platform service.sidecar (.readline index arrived)).map
        (fun sidecar => { service with sidecar := sidecar })
  | .cancel index =>
      (sidecarStep platform service.sidecar (.cancel index)).map
        (fun sidecar => { service with sidecar := sidecar })
  | .serve world =>
      match service.sidecar.stdin with
      | [] => none
      | line :: _ =>
          let handled := service.bridge.handle crate (line.body, world)
          (sidecarStep platform service.sidecar (.handled handled.1)).map
            (fun sidecar => { service with sidecar := sidecar, bridge := handled.2 })
  | .resume index chunks =>
      match service.executions[index]? with
      | none => none
      | some execution =>
          match execution.stage.call?.bind service.sidecar.phaseAt with
          | none => none
          | some phase => phase.result.map (service.resume platform index execution chunks)
  | .proceed index served =>
      match service.executions[index]? with
      | none => none
      | some execution =>
          match execution.stage with
          | .verifying cited =>
              match analyst.verifyInputs served cited with
              | .ok inputs =>
                  some (service.call platform index execution
                    (.verifiedInputs (inputs.map Input.ctxId)) .marking)
              | .error _ => some (service.finish platform index execution)
          | .emitting rest => some (service.nextChunk platform index execution rest)
          | _ => none
  | .raised index =>
      match service.executions[index]? with
      | none => none
      | some execution =>
          match execution.stage with
          | .verifying _ | .emitting _ => some (service.finish platform index execution)
          | _ => none

end Steps

/-- A task is executed again only when its last execution is over. -/
def Exclusive {Agent Session World : Type} (service : Service Agent Session) :
    ServiceAction World → Prop
  | .execute taskId _ _ =>
      ∀ execution ∈ service.executions, execution.taskId = taskId → execution.stage = .finished
  | _ => True

instance decidableStageOver : ∀ stage : Stage, Decidable (stage = .finished)
  | .finished => .isTrue rfl
  | .beginning _ | .noting _ | .verifying _ | .marking _ | .publishing _ _ | .emitting _
  | .ending _ => .isFalse (by rintro ⟨⟩)

instance decidableExclusive {Agent Session World : Type} (service : Service Agent Session) :
    ∀ action : ServiceAction World, Decidable (Exclusive service action)
  | .execute taskId _ _ =>
      inferInstanceAs (Decidable (∀ execution ∈ service.executions,
        execution.taskId = taskId → execution.stage = .finished))
  | .granted | .drained _ | .readline _ _ | .cancel _ | .serve _ | .resume _ _ | .proceed _ _
  | .raised _ => .isTrue trivial

end AcdpPlayground.A2a

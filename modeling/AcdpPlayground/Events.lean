/-
Events of a run: `StepEvent`, `WebhookEvent` and `StepEvent.from_webhook` of
`acdp_client/models.py`, and the result types of `playground/scenarios/models.py`.

Fields that no modelled function reads or writes are left out. A field that the
source keeps as an open model attribute is an entry of `extra`.
-/

import AcdpPlayground.Quota.Counters

namespace AcdpPlayground

inductive EventType where
  | agentStarted
  | llmThinking
  | acdpPublish
  | acdpRetrieve
  | acdpSearch
  | acdpVerify
  | acdpRetract
  | acdpRepublish
  | authToken
  | authRevoke
  | policyCheck
  | scenarioNote
  | llmQuotaExceeded
  | runStarted
  | runComplete
  | runError
  | webhookReceived
  deriving DecidableEq

/-- `event.type in ("run.complete", "run.error")`. -/
def EventType.terminal : EventType → Bool
  | .runComplete => true
  | .runError => true
  | _ => false

inductive RunStatus where
  | complete
  | failed
  deriving DecidableEq

structure LineageNode where
  ctxId : String
  agentId : String
  title : String
  contextType : String
  registryAuthority : String
  step : Nat
  deriving DecidableEq

structure LineageEdge where
  src : String
  dst : String
  deriving DecidableEq

structure LineageGraph where
  nodes : List LineageNode
  edges : List LineageEdge
  deriving DecidableEq

inductive Scalar where
  | null
  | flag (value : Bool)
  | number (value : Nat)
  | text (value : String)
  deriving DecidableEq

/-- A value that no modelled function looks into is kept by its JSON text. -/
inductive ExtraValue where
  | scalar (value : Scalar)
  | record (fields : List (String × Scalar))
  | json (encoded : String)
  deriving DecidableEq

abbrev Fields := List (String × ExtraValue)

structure StepEvent where
  type : EventType
  runId : String
  ts : String
  agentId : Option String := none
  ctxId : Option String := none
  title : Option String := none
  derivedFrom : List String := []
  preview : Option String := none
  contextsProduced : Option Nat := none
  lineageGraph : Option LineageGraph := none
  error : Option String := none
  status : Option RunStatus := none
  scenarioId : Option String := none
  framework : Option String := none
  registryAuthority : Option String := none
  tenantId : Option String := none
  eventId : Option String := none
  keyFingerprint : Option String := none
  receiptPresent : Option Bool := none
  extra : Fields := []
  deriving DecidableEq

structure RunResult where
  runId : String
  scenarioId : String
  status : RunStatus := .complete
  contexts : List String := []
  lineageGraph : Option LineageGraph := none
  summary : Fields := []
  error : Option String := none
  deriving DecidableEq

/-! ### Registry webhooks -/

inductive WebhookType where
  | contextPublished
  | contextRetrieved
  | contextRetracted
  | contextRepublished
  | searchExecuted
  deriving DecidableEq

structure WebhookEvent where
  type : WebhookType
  agentId : Option String := none
  registryAuthority : Option String := none
  runId : Option String := none
  ctxId : Option String := none
  derivedFrom : List String := []
  eventId : Option String := none
  tenantId : Option String := none
  keyFingerprint : Option String := none
  registryReceipt : Option String := none
  reason : Option String := none
  deriving DecidableEq

def WebhookType.kind : WebhookType → EventType
  | .contextPublished => .acdpPublish
  | .contextRetrieved => .acdpRetrieve
  | .contextRetracted => .acdpRetract
  | .contextRepublished => .acdpRepublish
  | .searchExecuted => .acdpSearch

def WebhookType.lifecycleTitle : WebhookType → Option String
  | .contextRetracted => some "Context retracted"
  | .contextRepublished => some "Context republished"
  | _ => none

def StepEvent.fromWebhook (runId ts : String) (event : WebhookEvent) : StepEvent :=
  { type := event.type.kind
    runId := runId
    ts := ts
    agentId := event.agentId
    ctxId := event.ctxId
    derivedFrom := event.derivedFrom
    title := event.type.lifecycleTitle
    preview := event.reason
    registryAuthority := event.registryAuthority
    tenantId := event.tenantId
    eventId := event.eventId
    keyFingerprint := event.keyFingerprint
    receiptPresent :=
      if event.type.kind = .acdpPublish then some event.registryReceipt.isSome else none }

/-- No registry can make a webhook look like the end of a run. -/
theorem fromWebhook_not_terminal (runId ts : String) (event : WebhookEvent) :
    (StepEvent.fromWebhook runId ts event).type.terminal = false := by
  change event.type.kind.terminal = false
  cases event.type <;> rfl

end AcdpPlayground

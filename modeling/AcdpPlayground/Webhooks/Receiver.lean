/-
`POST /webhooks/acdp` of `playground/api/webhooks.py`: the signature check, the JSON body,
`WebhookEvent`, the fan-in to the queue of a live run and the forward to the control plane.

An exception that is no `HTTPException` is answered 500 by the framework. The forward runs
in a task of its own after the answer, so it is recorded by its first request. Header names
are in lower case, as the server hands them on, and their values are latin-1. Logging is
taken to succeed.
-/

import AcdpPlayground.Bridge.ControlPlane
import AcdpPlayground.Client.WireModels
import AcdpPlayground.Events

namespace AcdpPlayground.Webhooks

open PythonText JsonValue TextEncoding Bridge
open Client (LaxMode Members required defaulted optional undeclared)

structure Settings where
  webhookSecret : String
  controlPlane : CpSettings

/-! ### The signature -/

inductive Raised where
  | httpException (status : Nat) (detail : String)
  | typeError
  | load (failure : LoadFailure)
  deriving DecidableEq

/-- `hmac.compare_digest` of two strings, which have to be ASCII. -/
def compareDigest (first second : Text) : Except Raised Bool :=
  if isAscii first && isAscii second then .ok (first = second) else .error .typeError

def verify (platform : Platform) (secret : String) (body : Bytes) (header : Option Text) :
    Except Raised Unit :=
  if secret = "" then .ok ()
  else
    match header with
    | none | some [] => .error (.httpException 401 "missing X-ACDP-Signature")
    | some given =>
        if !(text "sha256=").isPrefixOf given then
          .error (.httpException 401 "unsupported signature algorithm")
        else
          let expected := hexdigest (platform.hmacSha256 (utf8Bytes secret) body)
          match compareDigest expected (given.drop (text "sha256=").length) with
          | .error failure => .error failure
          | .ok true => .ok ()
          | .ok false => .error (.httpException 401 "invalid signature")

/-! ### The event -/

structure WebhookPayload (Datetime : Type) where
  type : WebhookType
  agentId : Option Text
  registryAuthority : Option Text
  runId : Option Text
  ctxId : Option Text
  lineageId : Option Text
  contextType : Option Text
  visibility : Option Text
  version : Option Int
  createdAt : Option Datetime
  derivedFrom : List Text
  eventId : Option Text
  schemaVersion : Option Text
  tenantId : Option Text
  keyFingerprint : Option Text
  registryReceipt : Option Members
  actor : Option Text
  lifecycleEventId : Option Text
  reason : Option Text
  atTime : Option Datetime
  extra : Members

def webhookTypes : List (String × WebhookType) :=
  [("context_published", .contextPublished), ("context_retrieved", .contextRetrieved),
    ("context_retracted", .contextRetracted), ("context_republished", .contextRepublished),
    ("search_executed", .searchExecuted)]

def webhookType : Json → Option WebhookType
  | .string value => (webhookTypes.find? (fun entry => text entry.1 = value)).map Prod.snd
  | _ => none

def webhookFields : List String :=
  ["type", "agent_id", "registry_authority", "run_id", "ctx_id", "lineage_id", "context_type",
    "visibility", "version", "created_at", "derived_from", "event_id", "schema_version",
    "tenant_id", "key_fingerprint", "registry_receipt", "actor", "lifecycle_event_id", "reason",
    "at"]

def WebhookPayload.modelValidate {Datetime : Type} (lax : LaxMode Datetime) (served : Json) :
    Option (WebhookPayload Datetime) := do
  let members ← LaxMode.dict served
  return {
    type := ← required webhookType members "type"
    agentId := ← optional lax.str members "agent_id"
    registryAuthority := ← optional lax.str members "registry_authority"
    runId := ← optional lax.str members "run_id"
    ctxId := ← optional lax.str members "ctx_id"
    lineageId := ← optional lax.str members "lineage_id"
    contextType := ← optional lax.str members "context_type"
    visibility := ← optional lax.str members "visibility"
    version := ← optional lax.int members "version"
    createdAt := ← optional lax.datetime members "created_at"
    derivedFrom := ← defaulted (LaxMode.list lax.str) [] members "derived_from"
    eventId := ← optional lax.str members "event_id"
    schemaVersion := ← optional lax.str members "schema_version"
    tenantId := ← optional lax.str members "tenant_id"
    keyFingerprint := ← optional lax.str members "key_fingerprint"
    registryReceipt := ← optional LaxMode.dict members "registry_receipt"
    actor := ← optional lax.str members "actor"
    lifecycleEventId := ← optional lax.str members "lifecycle_event_id"
    reason := ← optional lax.str members "reason"
    atTime := ← optional lax.datetime members "at"
    extra := undeclared webhookFields members }

/-- What `StepEvent.from_webhook` reads; of the receipt only that there is one. -/
def WebhookPayload.event {Datetime : Type} (payload : WebhookPayload Datetime) : WebhookEvent :=
  { type := payload.type
    agentId := payload.agentId.map string
    registryAuthority := payload.registryAuthority.map string
    runId := payload.runId.map string
    ctxId := payload.ctxId.map string
    derivedFrom := payload.derivedFrom.map string
    eventId := payload.eventId.map string
    tenantId := payload.tenantId.map string
    keyFingerprint := payload.keyFingerprint.map string
    registryReceipt := payload.registryReceipt.map (fun _ => "receipt")
    reason := payload.reason.map string }

/-- Tenant, event id and run id come from the headers when the body has none. -/
def WebhookPayload.lift {Datetime : Type} (payload : WebhookPayload Datetime) (headers : Headers) :
    WebhookPayload Datetime :=
  { payload with
    tenantId := payload.tenantId.or (headers.lookup (text "x-tenant-id"))
    eventId := payload.eventId.or (headers.lookup (text "x-acdp-event-id"))
    runId := payload.runId.or (headers.lookup (text "x-run-id")) }

/-! ### The handler -/

structure Delivery where
  headers : Headers
  body : Bytes
  /-- `datetime.now(UTC).isoformat()` when the event is put on a queue. -/
  ts : String

inductive Effect where
  | put (runId : Text) (step : StepEvent)
  | forwarded (request : Request)

/-- What runs the handler: the interpreter, pydantic, and the queues of the live runs. -/
structure Receiver (Datetime : Type) where
  platform : Platform
  lax : LaxMode Datetime
  settings : Settings
  hasQueue : Text → Bool

variable {Datetime : Type}

/-- The queue of the run, when the event names one that is live. -/
def fanIn (receiver : Receiver Datetime) (delivery : Delivery)
    (payload : WebhookPayload Datetime) : List Effect :=
  match payload.runId with
  | none => []
  | some runId =>
      if runId ≠ [] && receiver.hasQueue runId then
        [.put runId (StepEvent.fromWebhook (string runId) delivery.ts payload.event)]
      else []

def forward (receiver : Receiver Datetime) (delivery : Delivery)
    (payload : WebhookPayload Datetime) : List Effect :=
  ((forwardWebhook receiver.platform receiver.settings.controlPlane delivery.body delivery.headers
    payload.tenantId).map Effect.forwarded).toList

def loadPayload (platform : Platform) (body : Bytes) : Except Raised Json :=
  match loads platform.depth body with
  | .ok payload => .ok payload
  | .error .malformed => .error (.httpException 400 "invalid JSON")
  | .error failure => .error (.load failure)

/-- `receive_acdp_webhook`; a payload that does not validate is logged and dropped. -/
def receiveAcdpWebhook (receiver : Receiver Datetime) (delivery : Delivery) :
    Except Raised (List Effect) := do
  verify receiver.platform receiver.settings.webhookSecret delivery.body
    (delivery.headers.lookup (text "x-acdp-signature"))
  let payload ← loadPayload receiver.platform delivery.body
  match WebhookPayload.modelValidate receiver.lax payload with
  | none => return []
  | some event =>
      let lifted := event.lift delivery.headers
      return fanIn receiver delivery lifted ++ forward receiver delivery lifted

structure Reply where
  status : Nat
  effects : List Effect

def Raised.status : Raised → Nat
  | .httpException status _ => status
  | .typeError => 500
  | .load _ => 500

def answer (receiver : Receiver Datetime) (delivery : Delivery) : Reply :=
  match receiveAcdpWebhook receiver delivery with
  | .ok effects => { status := 204, effects := effects }
  | .error raised => { status := raised.status, effects := [] }

/-! ### The status law -/

/-- The header is not the signature of the body. -/
def Refused (platform : Platform) (secret : String) (body : Bytes) (header : Option Text) : Prop :=
  secret ≠ "" ∧
    header ≠ some (text "sha256=" ++ hexdigest (platform.hmacSha256 (utf8Bytes secret) body))

/-- What the answer promises the registry. -/
structure StatusLaw (receiver : Receiver Datetime) (delivery : Delivery) (reply : Reply) :
    Prop where
  unauthorized : reply.status = 401 ↔
    Refused receiver.platform receiver.settings.webhookSecret delivery.body
      (delivery.headers.lookup (text "x-acdp-signature"))
  invalid : reply.status ≠ 401 → (reply.status = 400 ↔ ¬ValidJson false delivery.body)
  accepted : reply.status ≠ 401 → reply.status ≠ 400 → reply.status = 204
  effects : ∀ effect ∈ reply.effects, reply.status = 204 ∧
    ∃ payload event, loads receiver.platform.depth delivery.body = .ok payload ∧
      WebhookPayload.modelValidate receiver.lax payload = some event

def SignatureComparable (header : Option Text) : Prop :=
  ∀ given, header = some (text "sha256=" ++ given) → isAscii given = true

/-- The bytes are a text, no limit of the interpreter is met in it, and it is JSON without
the extra constants if it is with them. -/
structure BodyReadable (depth : Nat) (body : Bytes) : Prop where
  decodable : loads depth body ≠ .error .undecodable
  short : loads depth body ≠ .error .overlong
  shallow : loads depth body ≠ .error .tooDeep
  plain : ValidJson true body → ValidJson false body

theorem refused_of_not_prefix {platform : Platform} {secret : String} {body : Bytes}
    {header : Option Text} (secured : secret ≠ "")
    (other : ∀ given, header ≠ some (text "sha256=" ++ given)) :
    Refused platform secret body header ∧ SignatureComparable header :=
  ⟨⟨secured, other _⟩, fun given same => absurd same (other given)⟩

theorem verify_prefixed (platform : Platform) {secret : String} (body : Bytes) (given : Text)
    (secured : secret ≠ "") :
    verify platform secret body (some (text "sha256=" ++ given)) =
      if isAscii given = false then .error .typeError
      else if hexdigest (platform.hmacSha256 (utf8Bytes secret) body) = given then .ok ()
      else .error (.httpException 401 "invalid signature") := by
  have starts : (text "sha256=").isPrefixOf (text "sha256=" ++ given) = true :=
    List.isPrefixOf_iff_prefix.mpr (List.prefix_append _ _)
  have dropped : (text "sha256=" ++ given).drop (text "sha256=").length = given := List.drop_left
  unfold verify
  rw [if_neg secured]
  split
  · next absent => cases absent
  · next absent => cases absent
  · next whole _ same =>
      rw [← Option.some.inj same, starts, dropped]
      simp only [compareDigest, hexdigest_ascii, Bool.true_and]
      cases ascii : isAscii given with
      | false => simp
      | true =>
          by_cases equal : hexdigest (platform.hmacSha256 (utf8Bytes secret) body) = given
          · simp [equal]
          · simp [equal]

/-- Every way the check ends. -/
theorem verify_cases (platform : Platform) (secret : String) (body : Bytes)
    (header : Option Text) :
    (verify platform secret body header = .ok () ∧ ¬Refused platform secret body header) ∨
    (Refused platform secret body header ∧ SignatureComparable header ∧
      ∃ detail, verify platform secret body header = .error (.httpException 401 detail)) ∨
    (Refused platform secret body header ∧ ¬SignatureComparable header ∧
      verify platform secret body header = .error .typeError) := by
  by_cases secured : secret = ""
  · left
    refine ⟨?_, fun refused => refused.1 secured⟩
    unfold verify
    rw [if_pos secured]
  · by_cases signed : ∃ given, header = some (text "sha256=" ++ given)
    · obtain ⟨given, rfl⟩ := signed
      rw [verify_prefixed platform body given secured]
      cases ascii : isAscii given with
      | false =>
          right; right
          refine ⟨⟨secured, ?_⟩, ?_, rfl⟩
          · intro same
            have equal := List.append_cancel_left (Option.some.inj same)
            rw [equal, hexdigest_ascii] at ascii
            cases ascii
          · intro comparable
            rw [comparable given rfl] at ascii
            cases ascii
      | true =>
          by_cases equal : hexdigest (platform.hmacSha256 (utf8Bytes secret) body) = given
          · left
            refine ⟨by simp [equal], fun refused => refused.2 ?_⟩
            rw [equal]
          · right; left
            refine ⟨⟨secured, ?_⟩, ?_, "invalid signature", by simp [equal]⟩
            · intro same
              exact equal (List.append_cancel_left (Option.some.inj same)).symm
            · intro other same
              rw [← List.append_cancel_left (Option.some.inj same)]
              exact ascii
    · rw [not_exists] at signed
      obtain ⟨refused, comparable⟩ : Refused platform secret body header ∧
          SignatureComparable header := refused_of_not_prefix secured signed
      right; left
      refine ⟨refused, comparable, ?_⟩
      unfold verify
      rw [if_neg secured]
      split
      · exact ⟨_, rfl⟩
      · exact ⟨_, rfl⟩
      · next given _ =>
          have noPrefix : (text "sha256=").isPrefixOf given = false := by
            rw [Bool.eq_false_iff]
            intro starts
            obtain ⟨rest, same⟩ := List.isPrefixOf_iff_prefix.mp starts
            exact signed rest (congrArg some same.symm)
          simp only [noPrefix, Bool.not_false, if_true]
          exact ⟨_, rfl⟩

theorem answer_of_verified {receiver : Receiver Datetime} {delivery : Delivery}
    (verified : verify receiver.platform receiver.settings.webhookSecret delivery.body
      (delivery.headers.lookup (text "x-acdp-signature")) = .ok ()) :
    (∃ payload effects, loads receiver.platform.depth delivery.body = .ok payload ∧
      answer receiver delivery = { status := 204, effects := effects } ∧
      (effects ≠ [] → ∃ event, WebhookPayload.modelValidate receiver.lax payload = some event)) ∨
    ∃ failure, loads receiver.platform.depth delivery.body = .error failure ∧
      answer receiver delivery =
        { status := if failure = .malformed then 400 else 500, effects := [] } := by
  unfold answer receiveAcdpWebhook loadPayload
  rw [verified]
  cases loaded : loads receiver.platform.depth delivery.body with
  | error failure =>
      right
      refine ⟨failure, rfl, ?_⟩
      cases failure <;> rfl
  | ok payload =>
      left
      cases validated : WebhookPayload.modelValidate receiver.lax payload with
      | none =>
          refine ⟨payload, [], rfl, ?_, fun nonempty => absurd rfl nonempty⟩
          simp only [bind, Except.bind, validated]
          rfl
      | some event =>
          refine ⟨payload, fanIn receiver delivery (event.lift delivery.headers) ++
            forward receiver delivery (event.lift delivery.headers), rfl, ?_,
            fun _ => ⟨event, validated⟩⟩
          simp only [bind, Except.bind, validated]
          rfl

theorem answer_of_raised {receiver : Receiver Datetime} {delivery : Delivery} {raised : Raised}
    (stopped : verify receiver.platform receiver.settings.webhookSecret delivery.body
      (delivery.headers.lookup (text "x-acdp-signature")) = .error raised) :
    answer receiver delivery = { status := raised.status, effects := [] } := by
  unfold answer receiveAcdpWebhook
  rw [stopped]
  rfl

theorem not_refused_of_effect {receiver : Receiver Datetime} {delivery : Delivery}
    {effect : Effect} (member : effect ∈ (answer receiver delivery).effects) :
    ¬Refused receiver.platform receiver.settings.webhookSecret delivery.body
      (delivery.headers.lookup (text "x-acdp-signature")) := by
  rcases verify_cases receiver.platform receiver.settings.webhookSecret delivery.body
      (delivery.headers.lookup (text "x-acdp-signature")) with
    ⟨_, admitted⟩ | ⟨_, _, detail, stopped⟩ | ⟨_, _, stopped⟩
  · exact admitted
  · rw [answer_of_raised stopped] at member
    cases member
  · rw [answer_of_raised stopped] at member
    cases member

theorem bodyReadable_of_caught {depth : Nat} {body : Bytes}
    (caught : ∀ failure, loads depth body = .error failure → failure = .malformed)
    (plain : ValidJson true body → ValidJson false body) : BodyReadable depth body := by
  constructor
  · intro raised
    cases caught _ raised
  · intro raised
    cases caught _ raised
  · intro raised
    cases caught _ raised
  · exact plain

section Admitted

variable {receiver : Receiver Datetime} {delivery : Delivery}
  (admitted : ¬Refused receiver.platform receiver.settings.webhookSecret delivery.body
    (delivery.headers.lookup (text "x-acdp-signature")))
include admitted

theorem statusLaw_loaded_iff {payload : Json} {effects : List Effect}
    (loaded : loads receiver.platform.depth delivery.body = .ok payload)
    (validated : effects ≠ [] →
      ∃ event, WebhookPayload.modelValidate receiver.lax payload = some event) :
    StatusLaw receiver delivery { status := 204, effects := effects } ↔
      BodyReadable receiver.platform.depth delivery.body := by
  have no401 : (204 : Nat) ≠ 401 := by decide
  have no400 : (204 : Nat) ≠ 400 := by decide
  constructor
  · intro law
    apply bodyReadable_of_caught
    · intro failure raised
      rw [loaded] at raised
      cases raised
    · intro _
      by_contra notJson
      exact no400 ((law.invalid no401).mpr notJson)
  · intro readable
    have valid : ValidJson false delivery.body := readable.plain (loads_sound loaded)
    constructor
    · exact ⟨fun same => absurd same no401, fun refused => absurd refused admitted⟩
    · intro _
      exact ⟨fun same => absurd same no400, fun notJson => absurd valid notJson⟩
    · intro _ _
      rfl
    · intro effect member
      obtain ⟨event, accepted⟩ := validated (List.ne_nil_of_mem member)
      exact ⟨rfl, payload, event, loaded, accepted⟩

theorem statusLaw_malformed
    (malformed : loads receiver.platform.depth delivery.body = .error .malformed) :
    StatusLaw receiver delivery { status := 400, effects := [] } ∧
      BodyReadable receiver.platform.depth delivery.body := by
  have notJson : ∀ constants, ¬ValidJson constants delivery.body :=
    fun _ valid => loads_complete valid _ malformed
  have no401 : (400 : Nat) ≠ 401 := by decide
  constructor
  · constructor
    · exact ⟨fun same => absurd same no401, fun refused => absurd refused admitted⟩
    · intro _
      exact ⟨fun _ => notJson false, fun _ => rfl⟩
    · intro _ other
      exact absurd rfl other
    · intro effect member
      cases member
  · apply bodyReadable_of_caught
    · intro failure raised
      rw [malformed] at raised
      exact (Except.error.inj raised).symm
    · intro valid
      exact absurd valid (notJson true)

omit admitted in
theorem not_statusLaw_of_uncaught {failure : LoadFailure} (uncaught : failure ≠ .malformed)
    (loaded : loads receiver.platform.depth delivery.body = .error failure) :
    ¬StatusLaw receiver delivery { status := 500, effects := [] } ∧
      ¬BodyReadable receiver.platform.depth delivery.body := by
  have no401 : (500 : Nat) ≠ 401 := by decide
  have no400 : (500 : Nat) ≠ 400 := by decide
  have no204 : (500 : Nat) ≠ 204 := by decide
  constructor
  · intro law
    exact no204 (law.accepted no401 no400)
  · intro readable
    cases failure with
    | malformed => exact uncaught rfl
    | undecodable => exact readable.decodable loaded
    | overlong => exact readable.short loaded
    | tooDeep => exact readable.shallow loaded

theorem statusLaw_verified_iff
    (verified : verify receiver.platform receiver.settings.webhookSecret delivery.body
      (delivery.headers.lookup (text "x-acdp-signature")) = .ok ()) :
    StatusLaw receiver delivery (answer receiver delivery) ↔
      BodyReadable receiver.platform.depth delivery.body := by
  rcases answer_of_verified verified with ⟨payload, effects, loaded, replied, validated⟩ |
      ⟨failure, loaded, replied⟩
  · rw [replied]
    exact statusLaw_loaded_iff admitted loaded validated
  · rw [replied]
    by_cases malformed : failure = .malformed
    · rw [if_pos malformed]
      rw [malformed] at loaded
      obtain ⟨law, readable⟩ := statusLaw_malformed admitted loaded
      exact ⟨fun _ => readable, fun _ => law⟩
    · rw [if_neg malformed]
      obtain ⟨noLaw, unreadable⟩ := not_statusLaw_of_uncaught malformed loaded
      exact ⟨fun law => absurd law noLaw, fun readable => absurd readable unreadable⟩

end Admitted

/-- The default settings, with the digest of an empty object under the default secret. -/
def defaultReceiver : Receiver Unit where
  platform :=
    { utcPlatform with
      hmacSha256 := fun _ _ =>
        [24, 185, 236, 210, 5, 46, 1, 190, 51, 199, 199, 16, 45, 202, 81, 168,
          19, 121, 134, 21, 66, 95, 138, 92, 190, 118, 127, 252, 213, 36, 39, 134] }
  lax := { acceptsStr := fun _ => true, int := fun _ => none, datetime := fun _ => none }
  settings :=
    { webhookSecret := "playground-dev-secret"
      controlPlane := { controlPlaneUrl := [], controlPlaneHmacSecret := "" } }
  hasQueue := fun _ => false

end AcdpPlayground.Webhooks

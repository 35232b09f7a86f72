/-
The whole way of a request: the gate, then the application behind it. `/webhooks/acdp` has
its own check, so its handler is the one of the receiver. Whatever the other routes do, they
do behind the gate, and they are any function here.

The root path is empty, so the router sees the path that the gate sees. Another method, or
a websocket, on `/webhooks/acdp` is answered by the framework. The CORS layer outside the
gate touches none of this state.
-/

import AcdpPlayground.Access.ClientAddress

namespace AcdpPlayground.Access

open PythonText TextEncoding

/-! ### Requests and effects -/

structure Request where
  scope : Scope
  body : Bytes
  /-- `datetime.now(UTC).isoformat()` when an event is put on a queue. -/
  ts : String

inductive Effect where
  | handlerRan
  | slotTaken
  | put (runId : Text) (step : StepEvent)
  | sentToControlPlane (request : Bridge.Request)
  | sentToRegistry (url : Text)

def Effect.ofWebhook : Webhooks.Effect → Effect
  | .put runId step => .put runId step
  | .forwarded request => .sentToControlPlane request

/-- An event that reaches a queue or the control plane. -/
def Effect.Delivers : Effect → Prop
  | .put _ _ => True
  | .sentToControlPlane _ => True
  | _ => False

structure Server (Datetime : Type) where
  platform : Bridge.Platform
  lax : Client.LaxMode Datetime
  hasQueue : Text → Bool
  routes : Request → Option State → List Effect

variable {Datetime : Type}

def Server.receiver (server : Server Datetime) (settings : Settings) :
    Webhooks.Receiver Datetime :=
  { platform := server.platform
    lax := server.lax
    settings := settings.toSettings
    hasQueue := server.hasQueue }

/-- `request.headers`, names as they came. -/
def Request.delivery (request : Request) : Webhooks.Delivery :=
  { headers := request.scope.headers.map (fun entry => (decodeLatin1 entry.1, decodeLatin1 entry.2))
    body := request.body
    ts := request.ts }

def application (server : Server Datetime) (settings : Settings) (request : Request)
    (state : Option State) : List Effect :=
  if request.scope.path = text "/webhooks/acdp" then
    if request.scope.kind = .http && request.scope.method = text "POST" then
      .handlerRan ::
        (Webhooks.answer (server.receiver settings) request.delivery).effects.map Effect.ofWebhook
    else []
  else server.routes request state

/-- What a request causes beyond the refusal of the gate. -/
def serve (server : Server Datetime) (settings : Settings) (request : Request) : List Effect :=
  match apiKeyMiddleware settings request.scope with
  | .passed state => application server settings request state
  | .refused _ => []

/-! ### The gate over every request -/

/-- The first `x-api-key` header is the configured key. -/
def Keyed (settings : Settings) (scope : Scope) : Prop :=
  header scope apiKeyHeader = some (text settings.playgroundApiKey)

/-- What enforcement promises. -/
structure Guarded (server : Server Datetime) (settings : Settings) : Prop where
  effects : ∀ request, request.scope.kind ≠ .lifespan → serve server settings request ≠ [] →
    Keyed settings request.scope ∨ request.scope.path = text "/healthz" ∨
      request.scope.path = text "/webhooks/acdp"
  deliveries : ∀ request, request.scope.path = text "/webhooks/acdp" →
    ∀ effect ∈ serve server settings request, effect.Delivers →
      request.delivery.headers.lookup (text "x-acdp-signature") =
        some (Bridge.sign server.platform settings.webhookSecret request.body)
  refusals : ∀ first second, first.kind = .http → second.kind = .http →
    ¬Keyed settings first → ¬Keyed settings second → first.path ∉ exemptPaths →
    second.path ∉ exemptPaths →
    ∃ messages, apiKeyMiddleware settings first = .refused messages ∧
      apiKeyMiddleware settings second = .refused messages

theorem keyValid_iff {settings : Settings} (present : settings.playgroundApiKey ≠ "")
    (scope : Scope) : keyValid settings scope = true ↔ Keyed settings scope := by
  unfold keyValid Keyed
  rw [keyMatches_iff]
  exact ⟨fun both => both.2, fun same => ⟨present, same⟩⟩

/-- Under enforcement a request without the key gets past the gate on an exempt path only. -/
theorem apiKeyMiddleware_enforced {settings : Settings}
    (required : settings.playgroundRequireApiKey = true)
    (present : settings.playgroundApiKey ≠ "") {scope : Scope} (request : scope.kind ≠ .lifespan)
    (keyless : ¬Keyed settings scope) (gated : scope.path ∉ exemptPaths) :
    apiKeyMiddleware settings scope =
      .refused (if scope.kind = .websocket then [.websocketClose 1008] else httpRefusal) := by
  have invalid : keyValid settings scope = false := by
    rw [← Bool.not_eq_true, keyValid_iff present]
    exact keyless
  have covered : exemptPaths.contains scope.path = false := by
    rw [← Bool.not_eq_true, List.contains_iff_mem]
    exact gated
  unfold apiKeyMiddleware
  rw [if_neg request, covered, invalid, required]
  by_cases websocket : scope.kind = .websocket
  · simp only [websocket, if_true]
    rfl
  · simp only [websocket, if_false]
    rfl

theorem signed_of_delivers {server : Server Datetime} {settings : Settings} {request : Request}
    (secret : settings.webhookSecret ≠ "") (path : request.scope.path = text "/webhooks/acdp")
    {effect : Effect} (member : effect ∈ serve server settings request)
    (delivers : effect.Delivers) :
    request.delivery.headers.lookup (text "x-acdp-signature") =
      some (Bridge.sign server.platform settings.webhookSecret request.body) := by
  unfold serve application at member
  split at member
  · rw [if_pos path] at member
    split at member
    · rcases List.mem_cons.mp member with ran | later
      · rw [ran] at delivers
        exact absurd delivers id
      · obtain ⟨caused, inside, _⟩ := List.mem_map.mp later
        have admitted := Webhooks.not_refused_of_effect inside
        by_contra unsigned
        exact admitted ⟨secret, unsigned⟩
    · cases member
  · cases member

/-- Settings that load with enforcement on guard every request. -/
theorem guarded_of_loaded (server : Server Datetime) (settings : Settings)
    (loaded : settings.failClosedOnMissingApiKey = .ok settings)
    (required : settings.playgroundRequireApiKey = true) : Guarded server settings := by
  obtain ⟨present, secret⟩ := loaded_iff.mp loaded required
  constructor
  · intro request connection caused
    by_contra outside
    rw [not_or, not_or] at outside
    obtain ⟨keyless, notHealth, notWebhook⟩ := outside
    have gated : request.scope.path ∉ exemptPaths := by
      simp only [exemptPaths, List.mem_cons, List.not_mem_nil, or_false, not_or]
      exact ⟨notHealth, notWebhook⟩
    apply caused
    unfold serve
    rw [apiKeyMiddleware_enforced required present connection keyless gated]
  · intro request path effect member delivers
    exact signed_of_delivers secret path member delivers
  · intro first second firstHttp secondHttp firstKeyless secondKeyless firstGated secondGated
    refine ⟨httpRefusal, ?_, ?_⟩
    · rw [apiKeyMiddleware_enforced required present (by rw [firstHttp]; decide) firstKeyless
        firstGated, firstHttp]
      rfl
    · rw [apiKeyMiddleware_enforced required present (by rw [secondHttp]; decide) secondKeyless
        secondGated, secondHttp]
      rfl

/-- A server on which every other route takes a slot. -/
def slotServer : Server Unit where
  platform := Webhooks.defaultReceiver.platform
  lax := Webhooks.defaultReceiver.lax
  hasQueue := fun _ => true
  routes := fun _ _ => [.handlerRan, .slotTaken]

/-- The launch with the key takes a slot, and the same launch under another key does not. -/
theorem enforcedSettings_guarded :
    serve slotServer enforcedSettings
        { scope := keyedLaunch none "10.0.0.1", body := [], ts := "" } =
      [.handlerRan, .slotTaken] ∧
    serve slotServer { enforcedSettings with playgroundApiKey := "other" }
        { scope := keyedLaunch none "10.0.0.1", body := [], ts := "" } = [] ∧
    Guarded slotServer enforcedSettings :=
  ⟨rfl, rfl, guarded_of_loaded slotServer enforcedSettings rfl rfl⟩

end AcdpPlayground.Access

/-
The backend as the limits see it: the gate, `start_run` behind it, the tasks of the runs
and the quota check of their LLM calls. A run carries the address that its launch was
charged to, and its LLM calls charge the same address.

The store is any function of its counters and of chance (a deadline, a failed
connection). A task action or a call that is not possible in a state does nothing there.
-/

import AcdpPlayground.Access.Gate
import AcdpPlayground.Foundation.CallSequence
import AcdpPlayground.Quota.MemoryStore
import AcdpPlayground.Runs.RunLimiter

namespace AcdpPlayground.Access

open PythonText CallSequence Calendar
open Quota (QuotaSettings QuotaDenial Counter countersFor)
open Runs (LaunchSetup LaunchState LaunchReply LaunchAction RunLimiter startRun launchStep)

/-! ### The backend -/

/-- `scenarioId` is that of a body that passes as a `RunRequest`. -/
structure ApiRequest where
  scope : Scope
  scenarioId : Option String
  now : ℚ
  createQueueFails : Bool

structure Config (Store Chance : Type) where
  settings : Settings
  launches : LaunchSetup
  quotas : QuotaSettings
  consume : Store → List Counter → Chance → Option QuotaDenial × Store

/-- `clientIps` has the address of each run, in the order of `launches.tasks`. -/
structure Backend (Store : Type) where
  launches : LaunchState
  clientIps : List (Option String)
  store : Store

inductive BackendAction (Chance : Type) where
  | request (request : ApiRequest)
  | taskStarts (index : Nat)
  | taskEnds (index : Nat)
  | callbacksRun (index : Nat)
  | llmCall (index : Nat) (now : Datetime) (chance : Chance)

inductive Answer where
  | refused (messages : List Message)
  | launched (reply : LaunchReply)
  | invalidBody
  | elsewhere

inductive Observation where
  | answered (state : State) (answer : Answer)
  | charged (denial : Option QuotaDenial)
  | silent

variable {Store Chance : Type}

def isLaunch (scope : Scope) : Bool :=
  scope.kind = .http && scope.method = text "POST" && scope.path = text "/runs"

/-- `start_run`, the body apart. -/
def Backend.launch (config : Config Store Chance) (backend : Backend Store)
    (request : ApiRequest) (scenarioId : String) (state : State) : Answer × Backend Store :=
  let clientIp := chargedIp state request.scope.client
  let started := startRun config.launches backend.launches
    { scenarioId := scenarioId
      clientIp := clientIp
      now := request.now
      createQueueFails := request.createQueueFails }
  let clientIps :=
    match started.1 with
    | .accepted => backend.clientIps ++ [clientIp]
    | _ => backend.clientIps
  (.launched started.1, { backend with launches := started.2, clientIps := clientIps })

/-- A request through the gate to its route. -/
def Backend.serve (config : Config Store Chance) (backend : Backend Store)
    (request : ApiRequest) : Answer × Backend Store :=
  match apiKeyMiddleware config.settings request.scope with
  | .refused messages => (.refused messages, backend)
  | .passed none => (.elsewhere, backend)
  | .passed (some state) =>
      if isLaunch request.scope then
        match request.scenarioId with
        | none => (.invalidBody, backend)
        | some scenarioId => backend.launch config request scenarioId state
      else (.elsewhere, backend)

def Backend.advance (config : Config Store Chance) (backend : Backend Store)
    (action : LaunchAction) : Backend Store :=
  match launchStep config.launches backend.launches action with
  | some next => { backend with launches := next }
  | none => backend

/-- `check_llm_quota` in the run with this index. -/
def Backend.llmCall (config : Config Store Chance) (backend : Backend Store) (index : Nat)
    (now : Datetime) (chance : Chance) : Observation × Backend Store :=
  match backend.launches.tasks[index]?, backend.clientIps[index]? with
  | some .running, some clientIp =>
      match countersFor clientIp config.quotas now with
      | some counters =>
          let consumed := config.consume backend.store counters chance
          (.charged consumed.1, { backend with store := consumed.2 })
      | none => (.silent, backend)
  | _, _ => (.silent, backend)

def backendStep (config : Config Store Chance) (backend : Backend Store) :
    BackendAction Chance → Observation × Backend Store
  | .request request =>
      let served := backend.serve config request
      (.answered (stateOf config.settings request.scope) served.1, served.2)
  | .taskStarts index => (.silent, backend.advance config (.taskStarts index))
  | .taskEnds index => (.silent, backend.advance config (.taskEnds index))
  | .callbacksRun index => (.silent, backend.advance config (.callbacksRun index))
  | .llmCall index now chance => backend.llmCall config index now chance

/-! ### Requests that differ in the untrusted header only -/

def isClientIp (entry : List UInt8 × List UInt8) : Bool :=
  decodeLatin1 (entry.1.map lowerByte) = text clientIpHeader

def Scope.withoutClientIp (scope : Scope) : Scope :=
  { scope with headers := scope.headers.filter (fun entry => !isClientIp entry) }

def ApiRequest.withoutClientIp (request : ApiRequest) : ApiRequest :=
  { request with scope := request.scope.withoutClientIp }

/-- Equal, or equal up to the client address headers when the key is not the configured one. -/
inductive Alike (settings : Settings) : BackendAction Chance → BackendAction Chance → Prop
  | same (action : BackendAction Chance) : Alike settings action action
  | untrusted {first second : ApiRequest} (keyless : ¬Keyed settings first.scope)
      (rest : first.withoutClientIp = second.withoutClientIp) :
      Alike settings (.request first) (.request second)

/-! ### The gate -/

/-- Another header is found as if the client address headers were not there. -/
theorem header_withoutClientIp (scope : Scope) {name : String} (other : name ≠ clientIpHeader) :
    header scope.withoutClientIp name = header scope name := by
  unfold header Scope.withoutClientIp
  rw [List.find?_filter]
  congr 2
  funext entry
  by_cases named : decodeLatin1 (entry.1.map lowerByte) = text name
  · have kept : isClientIp entry = false := by
      refine decide_eq_false ?_
      rw [named]
      exact fun same => other (text_injective same)
    simp only [kept, named, decide_true, Bool.not_false, and_self]
  · simp only [named, decide_false, Bool.false_eq_true, and_false]

theorem keyValid_eq_false {settings : Settings} {scope : Scope}
    (keyless : ¬Keyed settings scope) : keyValid settings scope = false := by
  rw [← Bool.not_eq_true, keyValid, keyMatches_iff]
  exact fun both => keyless both.2

theorem keyed_withoutClientIp (settings : Settings) (scope : Scope) :
    Keyed settings scope.withoutClientIp ↔ Keyed settings scope := by
  unfold Keyed
  rw [header_withoutClientIp scope (show apiKeyHeader ≠ clientIpHeader by decide)]

/-- Without the key the gate reads nothing that the header could change. -/
theorem gate_withoutClientIp {settings : Settings} {scope : Scope}
    (keyless : ¬Keyed settings scope) :
    stateOf settings scope.withoutClientIp = stateOf settings scope ∧
      apiKeyMiddleware settings scope.withoutClientIp = apiKeyMiddleware settings scope := by
  have invalid := keyValid_eq_false keyless
  have stillInvalid := keyValid_eq_false (mt (keyed_withoutClientIp settings scope).mp keyless)
  have sameState : stateOf settings scope.withoutClientIp = stateOf settings scope := by
    rw [stateOf, stateOf, invalid, stillInvalid]
    rfl
  refine ⟨sameState, ?_⟩
  rw [apiKeyMiddleware, apiKeyMiddleware, sameState, invalid, stillInvalid]
  rfl

theorem serve_withoutClientIp (config : Config Store Chance) (backend : Backend Store)
    {request : ApiRequest} (keyless : ¬Keyed config.settings request.scope) :
    backend.serve config request.withoutClientIp = backend.serve config request := by
  obtain ⟨_, sameVerdict⟩ := gate_withoutClientIp keyless
  have gate : apiKeyMiddleware config.settings request.withoutClientIp.scope =
      apiKeyMiddleware config.settings request.scope := sameVerdict
  unfold Backend.serve
  rw [gate]
  rfl

theorem request_withoutClientIp (config : Config Store Chance) (backend : Backend Store)
    {request : ApiRequest} (keyless : ¬Keyed config.settings request.scope) :
    backendStep config backend (.request request.withoutClientIp) =
      backendStep config backend (.request request) := by
  have sameState : stateOf config.settings request.withoutClientIp.scope =
      stateOf config.settings request.scope := (gate_withoutClientIp keyless).1
  simp only [backendStep]
  rw [serve_withoutClientIp config backend keyless, sameState]

theorem backendStep_alike (config : Config Store Chance) (backend : Backend Store)
    (first second : BackendAction Chance) (alike : Alike config.settings first second) :
    backendStep config backend first = backendStep config backend second := by
  cases alike with
  | same action => rfl
  | @untrusted first second keyless rest =>
      have scopes : first.scope.withoutClientIp = second.scope.withoutClientIp :=
        congrArg ApiRequest.scope rest
      have otherKeyless : ¬Keyed config.settings second.scope := by
        rw [← keyed_withoutClientIp, ← scopes, keyed_withoutClientIp]
        exact keyless
      rw [← request_withoutClientIp config backend keyless, rest,
        request_withoutClientIp config backend otherKeyless]

/-- From every state, two histories that differ in untrusted client address headers only
show the same state and answer for each request, and leave the same limiter, runs and
counters after each action. -/
theorem client_ip_noninterference (config : Config Store Chance) (backend : Backend Store)
    {first second : List (BackendAction Chance)}
    (alike : List.Forall₂ (Alike config.settings) first second) :
    replies (backendStep config) backend first = replies (backendStep config) backend second ∧
      ∀ count, stateAfter (backendStep config) backend (first.take count) =
        stateAfter (backendStep config) backend (second.take count) := by
  have step := fun state => backendStep_alike config state
  refine ⟨replies_eq_of_alike step alike backend, ?_⟩
  intro count
  exact stateAfter_eq_of_alike step (List.forall₂_take count alike) backend

/-- The key is set and not yet required. -/
def stagedSettings : Settings :=
  { enforcedSettings with playgroundRequireApiKey := false }

def demoConfig : Config Quota.Counts Unit where
  settings := stagedSettings
  launches :=
    { limits := ⟨5, 600, 3, by decide, by decide, by decide⟩
      scenarios := ["s1_single_publish"] }
  quotas := Quota.defaultQuotas
  consume := fun counts counters _ => Quota.MemoryQuotaStore.consume counts counters

/-- A wrong key, with client address headers before and after it. -/
def spoofedHeaders (before after : List String) : List (List UInt8 × List UInt8) :=
  before.map (fun value => (latin1 "X-ACDP-Client-IP", latin1 value)) ++
    (latin1 "x-api-key", latin1 "nope") ::
      after.map (fun value => (latin1 "x-acdp-client-ip", latin1 value))

def plainLaunch (headers : List (List UInt8 × List UInt8)) : ApiRequest :=
  { scope :=
      { kind := .http
        method := text "POST"
        path := text "/runs"
        headers := headers
        client := some "10.0.0.1" }
    scenarioId := some "s1_single_publish"
    now := 0
    createQueueFails := false }

def idleBackend : Backend Quota.Counts :=
  { launches := LaunchState.initial
    clientIps := []
    store := Quota.emptyCounts }

/-- The launch, its run and an LLM call of the run. -/
def launchAndCall (headers : List (List UInt8 × List UInt8)) : List (BackendAction Unit) :=
  [.request (plainLaunch headers), .taskStarts 0, .llmCall 0 Quota.novemberNoon.toDatetime ()]

theorem spoofed_launch_ignored :
    replies (backendStep demoConfig) idleBackend
        (launchAndCall (spoofedHeaders ["203.0.113.9", "x"] [])) =
      replies (backendStep demoConfig) idleBackend
        (launchAndCall (spoofedHeaders [] ["198.51.100.7"])) ∧
    ∀ count, stateAfter (backendStep demoConfig) idleBackend
        ((launchAndCall (spoofedHeaders ["203.0.113.9", "x"] [])).take count) =
      stateAfter (backendStep demoConfig) idleBackend
        ((launchAndCall (spoofedHeaders [] ["198.51.100.7"])).take count) := by
  apply client_ip_noninterference demoConfig idleBackend
  have kept : (spoofedHeaders ["203.0.113.9", "x"] []).filter (fun entry => !isClientIp entry) =
      (spoofedHeaders [] ["198.51.100.7"]).filter (fun entry => !isClientIp entry) := by
    decide +kernel
  have keyless : ¬Keyed stagedSettings
      (plainLaunch (spoofedHeaders ["203.0.113.9", "x"] [])).scope := by
    unfold Keyed
    decide +kernel
  exact .cons (.untrusted keyless (congrArg plainLaunch kept))
    (.cons (.same _) (.cons (.same _) .nil))

end AcdpPlayground.Access

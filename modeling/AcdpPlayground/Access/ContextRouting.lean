/-
The registry that a context id leads to: for `GET /contexts/{ctx_id}` of the playground, and
for an agent, which resolves an id through the clients its bundle mapped to authorities.

What a registry answers is a parameter. `repr` is that of Python, for the message of a
binding error; the client of the endpoint has the default arguments, so it verifies bindings.
-/

import AcdpPlayground.Client.Operations
import AcdpPlayground.Client.ServedBinding
import AcdpPlayground.Scenarios.AgentBundle

namespace AcdpPlayground.Access

open PythonText JsonValue KeyedTable CallSequence
open Auth (rstripSlashes)
open Client (SendingClient AcdpVerifier LaxMode Answer FullContext RetrievalError isReservedTenant
  CtxIdBindingError CtxIdBindingReason)
open Scenarios (RegistrySettings Registry Access AgentBundle BundleClient BundleCall)

/-! ### The endpoint -/

def registryUrlFor (settings : RegistrySettings) (authority : String) : Option String :=
  if authority = settings.registryAAuthority then some settings.registryAUrl
  else if authority = settings.registryBAuthority then some settings.registryBUrl
  else none

/-- What comes of the request: a status outside 2xx with its text, a decoded answer, or
neither (the transport failed, or the answer is not JSON). -/
inductive RegistryReply where
  | refused (status : Nat) (body : Text)
  | answered (answer : Answer)
  | broken

structure BindingDetail where
  code : Text
  reason : CtxIdBindingReason
  requestedCtxId : Option Text
  servedCtxId : Option Json
  detail : Text

inductive ContextResponse (Datetime : Type) where
  | context (full : FullContext Datetime)
  | failed (status : Nat) (detail : Text)
  | badGateway (detail : BindingDetail)
  /-- An exception that the endpoint does not handle. -/
  | raised

structure RelayedContext (Datetime : Type) where
  asked : Option String
  response : ContextResponse Datetime

def reasonText : CtxIdBindingReason → Text
  | .mismatch => text "mismatch"
  | .malformed => text "malformed"
  | .unverifiable => text "unverifiable"

/-- `str(error)`. -/
def bindingMessage (repr : Option Json → Text) (error : CtxIdBindingError) : Text :=
  text "ctx_id binding " ++ reasonText error.reason ++
    (if error.url = [] then [] else text " from " ++ error.url) ++
    text ": requested " ++ repr (error.requested.map Json.string) ++
    text ", registry served " ++ repr error.served ++
    (if error.detail = [] then [] else text " (" ++ error.detail ++ text ")")

def bindingDetail (repr : Option Json → Text) (error : CtxIdBindingError) : BindingDetail where
  code := text "context_binding_failed"
  reason := error.reason
  requestedCtxId := error.requested
  servedCtxId := error.served
  detail := bindingMessage repr error

section Endpoint

variable {Datetime : Type} (verifier : AcdpVerifier) (lax : LaxMode Datetime)
  (repr : Option Json → Text)

/-- What `client.retrieve(ctx_id)` and the handlers around it make of an answer. -/
def relayed (ctxId : String) : RegistryReply → ContextResponse Datetime
  | .refused status body =>
      .failed status (if body = [] then text "registry error" else body)
  | .broken => .raised
  | .answered answer =>
      match Client.retrieve verifier lax { verifyBinding := true } (text ctxId) answer with
      | .ok full => .context full
      | .error (.binding error) => .badGateway (bindingDetail repr error)
      | .error _ => .raised

def getContext (settings : RegistrySettings) (upstream : String → RegistryReply) (ctxId : String) :
    RelayedContext Datetime :=
  match registryUrlFor settings (SendingClient.authorityOf ctxId) with
  | none =>
      { asked := none
        response := .failed 404
          (text ("no registry mapped for authority: " ++ SendingClient.authorityOf ctxId)) }
  | some url =>
      { asked := some url
        response := relayed verifier lax repr ctxId (upstream url) }

end Endpoint

/-! ### An agent -/

/-- `authority_map.get(authority, self)` of `AcdpClient.resolve`. -/
def resolveClient (own : BundleClient) (authorities : List (String × BundleClient))
    (ctxId : String) : BundleClient :=
  (authorities.lookup (SendingClient.authorityOf ctxId)).getD own

/-- The base URL that a new agent of the bundle asks for an id, unless it is not made. -/
def agentRoute (bundle : AgentBundle) (registry : Registry) (access : Access) (ctxId : String) :
    Option String :=
  (bundle.makeLangchainAgent registry access).1.toOption.map (fun agent =>
    (resolveClient agent.1 agent.2 ctxId).sending.base)

/-- The registry an agent asks: its own for an authority that is not configured. -/
def resolvedRegistry (settings : RegistrySettings) (own : Registry) (authority : String) :
    Registry :=
  if authority = settings.registryBAuthority then .b
  else if authority = settings.registryAAuthority then .a
  else own

theorem lookup_authorities {settings : RegistrySettings} {first second own : BundleClient}
    (authority : String) :
    ((insert [(settings.registryAAuthority, first)] settings.registryBAuthority second).lookup
        authority).getD own =
      if authority = settings.registryBAuthority then second
      else if authority = settings.registryAAuthority then first else own := by
  by_cases isB : authority = settings.registryBAuthority
  · rw [isB, lookup_insert_self, if_pos rfl]
    rfl
  · rw [lookup_insert_ne isB, if_neg isB, List.lookup_cons]
    by_cases isA : authority = settings.registryAAuthority
    · rw [isA, beq_self_eq_true, if_pos rfl]
      rfl
    · rw [beq_eq_false_iff_ne.mpr isA, if_neg isA]
      rfl

theorem makeLangchainAgent_clients {settings : RegistrySettings} {runId : String}
    {bundle : AgentBundle} (sound : bundle.Sound settings runId) (registry : Registry)
    (access : Access) :
    (isReservedTenant access.tenantId = true ∧
      (bundle.makeLangchainAgent registry access).1.toOption = none) ∨
    (isReservedTenant access.tenantId = false ∧ ∃ own first second,
      (bundle.makeLangchainAgent registry access).1.toOption =
        some (own, insert [(settings.registryAAuthority, first)]
          settings.registryBAuthority second) ∧
      own.Fits settings runId (access.key registry) ∧
      first.Fits settings runId (access.key .a) ∧ second.Fits settings runId (access.key .b)) := by
  unfold AgentBundle.makeLangchainAgent AgentBundle.authorityMap
  rcases sound.client_spec registry access with
    ⟨allowed, own, between, answered, advances, kept⟩ |
      ⟨reserved, message, after, answered, advances⟩
  · have soundBetween := advances.sound sound
    rcases soundBetween.client_spec .a access with
      ⟨_, first, later, next, further, held⟩ | ⟨reserved, _⟩
    · have soundLater := further.sound soundBetween
      rcases soundLater.client_spec .b access with
        ⟨_, second, final, last, finally_, got⟩ | ⟨reserved, _⟩
      · refine .inr ⟨allowed, own, first, second, ?_, soundBetween.fits _ _ kept,
          soundLater.fits _ _ held, (finally_.sound soundLater).fits _ _ got⟩
        simp only [answered, next, last, soundBetween.ofSettings]
        rfl
      · rw [allowed] at reserved
        cases reserved
    · rw [allowed] at reserved
      cases reserved
  · refine .inl ⟨reserved, ?_⟩
    simp only [answered]
    rfl

theorem agentRoute_eq {settings : RegistrySettings} {runId : String} {bundle : AgentBundle}
    (sound : bundle.Sound settings runId) (registry : Registry) (access : Access)
    (ctxId : String) :
    agentRoute bundle registry access ctxId =
      if isReservedTenant access.tenantId then none
      else some (rstripSlashes (settings.registryUrl
        (resolvedRegistry settings registry (SendingClient.authorityOf ctxId)))) := by
  unfold agentRoute
  rcases makeLangchainAgent_clients sound registry access with
    ⟨reserved, none⟩ | ⟨allowed, own, first, second, made, ownFits, firstFits, secondFits⟩
  · rw [none, reserved]
    rfl
  · rw [made, allowed]
    simp only [Option.map_some, resolveClient, lookup_authorities, resolvedRegistry,
      Bool.false_eq_true, if_false]
    split
    · rw [secondFits.base]
      rfl
    · split
      · rw [firstFits.base]
        rfl
      · rw [ownFits.base]
        rfl

/-! ### Both ways to a context -/

structure RoutesAgree {Datetime : Type} (settings : RegistrySettings) (registry : Registry)
    (access : Access) (ctxId : String) (proxied : RelayedContext Datetime) (route : Option String) :
    Prop where
  made : route = none ↔ isReservedTenant access.tenantId = true
  /-- For a configured authority: one registry, unless both registries claim the authority. -/
  agree : ∀ url base, proxied.asked = some url → route = some base →
    (base = rstripSlashes url ↔ settings.registryAAuthority ≠ settings.registryBAuthority ∨
      rstripSlashes settings.registryAUrl = rstripSlashes settings.registryBUrl)
  /-- For any other: the endpoint asks nobody, an agent its own registry. -/
  fallback : ∀ base, proxied.asked = none → route = some base →
    base = rstripSlashes (settings.registryUrl registry)
  /-- What the endpoint relays is the context that was asked for. -/
  bound : ∀ full, proxied.response = .context full → full.body.ctxId = text ctxId

theorem registryUrlFor_eq_some {settings : RegistrySettings} {authority url : String}
    (mapped : registryUrlFor settings authority = some url) :
    (authority = settings.registryAAuthority ∧ url = settings.registryAUrl) ∨
      (authority ≠ settings.registryAAuthority ∧ authority = settings.registryBAuthority ∧
        url = settings.registryBUrl) := by
  unfold registryUrlFor at mapped
  split at mapped
  · next isA => exact .inl ⟨isA, (Option.some.inj mapped).symm⟩
  · next notA =>
      split at mapped
      · next isB => exact .inr ⟨notA, isB, (Option.some.inj mapped).symm⟩
      · cases mapped

theorem registryUrlFor_eq_none {settings : RegistrySettings} {authority : String}
    (unmapped : registryUrlFor settings authority = none) :
    authority ≠ settings.registryAAuthority ∧ authority ≠ settings.registryBAuthority := by
  unfold registryUrlFor at unmapped
  split at unmapped
  · cases unmapped
  · next notA =>
      split at unmapped
      · cases unmapped
      · next notB => exact ⟨notA, notB⟩

theorem getContext_asked {Datetime : Type} (verifier : AcdpVerifier) (lax : LaxMode Datetime)
    (repr : Option Json → Text) (settings : RegistrySettings) (upstream : String → RegistryReply)
    (ctxId : String) :
    (getContext verifier lax repr settings upstream ctxId).asked =
      registryUrlFor settings (SendingClient.authorityOf ctxId) := by
  unfold getContext
  split
  · next unmapped => exact unmapped.symm
  · next url mapped => exact mapped.symm

theorem getContext_bound {Datetime : Type} {verifier : AcdpVerifier}
    (exact : verifier.BindsExactly) (lax : LaxMode Datetime) (repr : Option Json → Text)
    (settings : RegistrySettings) (upstream : String → RegistryReply) (ctxId : String)
    (full : FullContext Datetime)
    (served : (getContext verifier lax repr settings upstream ctxId).response = .context full) :
    full.body.ctxId = text ctxId := by
  unfold getContext at served
  split at served
  · cases served
  · unfold relayed at served
    split at served
    · cases served
    · cases served
    · next answer _ =>
        have bound : Client.RaisesOr (fun full => full.body.ctxId = text ctxId)
            (Client.retrieve verifier lax { verifyBinding := true } (text ctxId) answer) :=
          Client.envelope_bound exact rfl (text ctxId)
        split at served
        · next found retrieved =>
            rw [retrieved] at bound
            cases served
            exact bound
        · cases served
        · cases served

theorem agree_of_route {settings : RegistrySettings} {registry : Registry} {authority url : String}
    (mapped : registryUrlFor settings authority = some url) :
    rstripSlashes (settings.registryUrl (resolvedRegistry settings registry authority)) =
        rstripSlashes url ↔
      settings.registryAAuthority ≠ settings.registryBAuthority ∨
        rstripSlashes settings.registryAUrl = rstripSlashes settings.registryBUrl := by
  unfold resolvedRegistry
  rcases registryUrlFor_eq_some mapped with ⟨isA, rfl⟩ | ⟨notA, isB, rfl⟩
  · by_cases shared : settings.registryAAuthority = settings.registryBAuthority
    · rw [isA, if_pos shared]
      constructor
      · intro same
        exact .inr same.symm
      · rintro (different | same)
        · exact absurd shared different
        · exact same.symm
    · rw [isA, if_neg shared, if_pos rfl]
      exact iff_of_true rfl (.inl shared)
  · rw [isB, if_pos rfl]
    refine iff_of_true rfl (.inl ?_)
    rw [← isB]
    exact notA.symm

theorem some_of_route {refused : Bool} {base other : String}
    (route : (if refused then none else some base) = some other) : other = base := by
  cases refused with
  | true => cases route
  | false => exact (Option.some.inj route).symm

/-- For every id, after every sequence of calls on the bundle of a run. -/
theorem context_routes_agree {Datetime : Type} (verifier : AcdpVerifier)
    (exact : verifier.BindsExactly) (lax : LaxMode Datetime) (repr : Option Json → Text)
    (settings : RegistrySettings) (upstream : String → RegistryReply) (runId : String)
    (calls : List BundleCall) (registry : Registry) (access : Access) (ctxId : String) :
    RoutesAgree settings registry access ctxId
      (getContext verifier lax repr settings upstream ctxId)
      (agentRoute (stateAfter AgentBundle.perform (.init settings runId) calls) registry access
        ctxId) := by
  have sound := AgentBundle.stateAfter_sound calls (AgentBundle.init_sound settings runId)
  have route := agentRoute_eq sound registry access ctxId
  have asked := getContext_asked verifier lax repr settings upstream ctxId
  refine ⟨?_, ?_, ?_, getContext_bound exact lax repr settings upstream ctxId⟩
  · rw [route]
    cases isReservedTenant access.tenantId with
    | true => exact iff_of_true rfl rfl
    | false => exact iff_of_false (Option.some_ne_none _) Bool.false_ne_true
  · intro url base isAsked isRoute
    rw [asked] at isAsked
    rw [some_of_route (route.symm.trans isRoute)]
    exact agree_of_route isAsked
  · intro base isAsked isRoute
    rw [asked] at isAsked
    obtain ⟨notA, notB⟩ := registryUrlFor_eq_none isAsked
    rw [some_of_route (route.symm.trans isRoute), resolvedRegistry, if_neg notB, if_neg notA]

def twoRegistries : RegistrySettings where
  registryAUrl := "http://registry-a:8080/"
  registryBUrl := "http://registry-b:8080"
  registryAAuthority := "registry-a"
  registryBAuthority := "registry-b"

theorem registry_a_context_routes_agree :
    Client.sampleVerifier.BindsExactly ∧
      RoutesAgree twoRegistries .b ⟨none, none, .fallback⟩ "acdp://registry-a/1"
        (getContext Client.sampleVerifier Client.plainMode (fun _ => []) twoRegistries
          (fun _ => .answered (Client.envelopeOf "acdp://registry-a/1")) "acdp://registry-a/1")
        (agentRoute (stateAfter AgentBundle.perform (.init twoRegistries "run-1")
          [.anonymousClient .a none .fallback]) .b ⟨none, none, .fallback⟩ "acdp://registry-a/1") :=
  ⟨Client.sampleVerifier_bindsExactly,
    context_routes_agree Client.sampleVerifier Client.sampleVerifier_bindsExactly Client.plainMode
      (fun _ => []) twoRegistries _ "run-1" _ .b _ "acdp://registry-a/1"⟩

end AcdpPlayground.Access

/-
The operations of `ControlPlaneClient` by the requests they send. The lifecycle
notifications and the webhook forward go through `_post`; the operator surface sends one
request each, if the bridge is on and, where it is needed, the admin token is set.

`json.dumps(payload).encode("utf-8")` and the clock's text are parameters. What an
operation returns is not modelled: no later request depends on it.
-/

import AcdpPlayground.Bridge.ControlPlane

namespace AcdpPlayground.Bridge

open PythonText JsonValue HttpDate TextEncoding KeyedTable

structure OperatorSettings extends CpSettings where
  controlPlaneAdminToken : Text

inductive Verb where
  | get
  | post

inductive CpBody where
  | empty
  | content (bytes : Bytes)
  | json (value : Json)

structure CpRequest where
  verb : Verb
  url : Text
  params : List (String × Json)
  body : CpBody
  headers : Headers

def CpRequest.ofPost (request : Request) : CpRequest :=
  { verb := .post
    url := request.url
    params := []
    body := .content request.content
    headers := request.headers }

/-! ### Tenants -/

/-- `_tenant_header`; the reserved tenant raises. -/
def tenantHeader (tenantId : Option Text) : Option Headers :=
  match tenantId.filter (fun tenant => tenant ≠ []) with
  | none => some []
  | some tenant => if tenant = text "default" then none else some [(text "X-Tenant-Id", tenant)]

/-- `{k.lower(): v for k, v in headers.items()}`. -/
def loweredHeaders (headers : Headers) : Headers :=
  headers.foldl (fun table header => insert table (lower header.1) header.2) []

/-- `_CP_TERMINAL_STATUS.get(status, status)`. -/
def cpTerminalStatus (status : Text) : Text :=
  if status = text "complete" then text "completed" else status

/-! ### Operations -/

inductive CpOperation where
  | notifyRunStarted (runId scenarioId startedAt : Text) (inputs : Json)
      (tenantId : Option Text)
  | notifyRunComplete (runId status completedAt : Text) (result : Json) (tenantId : Option Text)
  | forwardWebhook (rawBody : Bytes) (headers : Headers) (tenantId : Option Text)
  | introspect (token : Text)
  | revocations (sinceMs limit : Int)
  | events (beforeTs : Option Text) (limit : Int) (runId eventType : Option Text)
  | declareCapability (agentDid capabilityUri declaredAt keyId algorithm signature : Text)
      (tenantId : Option Text)
  | domainPacks
  | reloadPinnedKeys

/-- The two answers a `_post` may get and the clock it reads between them. -/
structure PostScript where
  first : Answer
  second : Answer
  now : PyFloat

def runStartedPayload (runId scenarioId startedAt : Text) (inputs : Json) : Json :=
  .object [(text "run_id", .string runId), (text "scenario_id", .string scenarioId),
    (text "started_at", .string startedAt), (text "inputs", inputs)]

def runCompletePayload (runId status completedAt : Text) (result : Json) : Json :=
  .object [(text "run_id", .string runId), (text "status", .string (cpTerminalStatus status)),
    (text "completed_at", .string completedAt), (text "result", result)]

section Requests

variable (platform : Platform) (dumps : Json → Bytes) (settings : OperatorSettings)

/-- The requests of `_post`, when the extra headers could be built. -/
def postRequests (path : Text) (body : Bytes) (extra : Option Headers) (script : PostScript) :
    List CpRequest :=
  match extra with
  | none => []
  | some extraHeaders =>
      (sends (post platform settings.toCpSettings path body extraHeaders script.first
        script.second script.now).actions).map CpRequest.ofPost

def cpBase : Text :=
  (settings.controlPlaneUrl.reverse.dropWhile (fun point => point = 47)).reverse

/-- `_admin_headers`, with nothing to send when the bridge is off. -/
def adminHeaders : Option Headers :=
  if settings.controlPlaneUrl = [] ∨ settings.controlPlaneAdminToken = [] then none
  else some [(text "Authorization", text "Bearer " ++ settings.controlPlaneAdminToken)]

/-- One request of the operator surface. -/
def adminRequest (verb : Verb) (path : String) (params : List (String × Json)) (body : CpBody)
    (more : Headers) : List CpRequest :=
  match adminHeaders settings with
  | none => []
  | some admin =>
      [{ verb := verb
         url := cpBase settings ++ text path
         params := params
         body := body
         headers := more.foldl (fun table header => insert table header.1 header.2) admin }]

def optionalText (name : String) (value : Option Text) : List (String × Json) :=
  (value.map (fun given => (name, .string given))).toList

def jsonContent : Headers :=
  [(text "Content-Type", text "application/json")]

/-- `declare_capability` builds the tenant header after the check of the admin token. -/
def declareCapabilityRequests (fields : List (Text × Json)) (tenantId : Option Text) :
    List CpRequest :=
  match tenantHeader tenantId with
  | none => []
  | some tenant =>
      adminRequest settings .post "/capabilities" [] (.json (.object fields))
        (jsonContent ++ tenant)

def CpOperation.requests (script : PostScript) : CpOperation → List CpRequest
  | .notifyRunStarted runId scenarioId startedAt inputs tenantId =>
      postRequests platform settings (text "/runs/started")
        (dumps (runStartedPayload runId scenarioId startedAt inputs)) (tenantHeader tenantId) script
  | .notifyRunComplete runId status completedAt result tenantId =>
      postRequests platform settings (text "/runs/" ++ runId ++ text "/complete")
        (dumps (runCompletePayload runId status completedAt result)) (tenantHeader tenantId) script
  | .forwardWebhook rawBody headers tenantId =>
      postRequests platform settings (text "/ingest/acdp") rawBody
        (forwardHeaders (loweredHeaders headers) tenantId) script
  | .introspect token =>
      adminRequest settings .post "/auth/introspect" []
        (.json (.object [(text "token", .string token)])) jsonContent
  | .revocations sinceMs limit =>
      adminRequest settings .get "/auth/revocations"
        [("since", .integer sinceMs), ("limit", .integer limit)] .empty []
  | .events beforeTs limit runId eventType =>
      adminRequest settings .get "/events"
        ([("limit", .integer limit)] ++ optionalText "beforeTs" beforeTs ++
          optionalText "runId" runId ++ optionalText "eventType" eventType) .empty []
  | .declareCapability agentDid capabilityUri declaredAt keyId algorithm signature tenantId =>
      declareCapabilityRequests settings
        [(text "agent_did", .string agentDid), (text "capability_uri", .string capabilityUri),
          (text "declared_at", .string declaredAt), (text "key_id", .string keyId),
          (text "algorithm", .string algorithm), (text "signature", .string signature)] tenantId
  | .domainPacks =>
      if settings.controlPlaneUrl = [] then []
      else
        [{ verb := .get
           url := cpBase settings ++ text "/domain-packs"
           params := []
           body := .empty
           headers := [] }]
  | .reloadPinnedKeys => adminRequest settings .post "/admin/pinned-keys/reload" [] .empty []

def cpRequests (operations : List (CpOperation × PostScript)) : List CpRequest :=
  operations.flatMap (fun operation =>
    operation.1.requests platform dumps settings operation.2)

end Requests

/-! ### The tenant a request names -/

/-- No header of this name, in whatever case, has the reserved value. -/
def TenantNotReserved (headers : Headers) : Prop :=
  ∀ header ∈ headers, lower header.1 = lower (text "X-Tenant-Id") → header.2 ≠ text "default"

theorem tenantNotReserved_foldl {base extra : Headers} (plain : TenantNotReserved base)
    (added : TenantNotReserved extra) :
    TenantNotReserved
      (extra.foldl (fun table header => insert table header.1 header.2) base) := by
  intro header member named
  rcases mem_foldl_insert member with before | new
  · exact plain header before named
  · exact added header new named

theorem tenantNotReserved_of_names {headers : Headers} {names : List String}
    (named : ∀ header ∈ headers, ∃ name ∈ names, header.1 = text name)
    (other : ∀ name ∈ names, lower (text name) ≠ lower (text "X-Tenant-Id")) :
    TenantNotReserved headers := by
  intro header member same
  obtain ⟨name, known, isName⟩ := named header member
  rw [isName] at same
  exact absurd same (other name known)

theorem tenantHeader_notReserved {tenantId : Option Text} {extra : Headers}
    (built : tenantHeader tenantId = some extra) : TenantNotReserved extra := by
  unfold tenantHeader at built
  split at built
  · cases built
    intro header member
    cases member
  · next tenant _ =>
      split at built
      · cases built
      · next allowed =>
          cases built
          intro header member _
          rw [List.mem_singleton.mp member]
          exact allowed

theorem carried_notReserved (headers : Headers) :
    TenantNotReserved (carriedHeaders.filterMap (fun header =>
      (headerText headers header.1).map (fun value => (text header.2, value)))) := by
  have names : ∀ header ∈ carriedHeaders.filterMap (fun header =>
      (headerText headers header.1).map (fun value => (text header.2, value))),
      ∃ name ∈ ["X-ACDP-Event", "X-ACDP-Event-Id", "X-Run-Id"], header.1 = text name := by
    intro header member
    obtain ⟨entry, known, found⟩ := List.mem_filterMap.mp member
    obtain ⟨value, _, rfl⟩ := Option.map_eq_some_iff.mp found
    refine ⟨entry.2, ?_, rfl⟩
    exact List.mem_map_of_mem known
  exact tenantNotReserved_of_names names (by decide)

theorem forwardHeaders_notReserved {headers extra : Headers} {tenantId : Option Text}
    (built : forwardHeaders headers tenantId = some extra) : TenantNotReserved extra := by
  unfold forwardHeaders at built
  dsimp only at built
  split at built
  · cases built
    exact carried_notReserved headers
  · next tenant _ =>
      split at built
      · cases built
      · next allowed =>
          cases built
          intro header member named
          rcases List.mem_append.mp member with carried | stamped
          · exact carried_notReserved headers header carried named
          · rw [List.mem_singleton.mp stamped]
            exact allowed

theorem buildRequest_notReserved {platform : Platform} {settings : CpSettings} {path : Text}
    {body : Bytes} {extra : Headers} (added : TenantNotReserved extra) :
    TenantNotReserved (buildRequest platform settings path body extra).headers := by
  refine tenantNotReserved_foldl ?_ added
  have names : ∀ header ∈ (if settings.controlPlaneHmacSecret = "" then
        [(text "Content-Type", text "application/json")]
      else insert [(text "Content-Type", text "application/json")] (text "X-ACDP-Signature")
        (sign platform settings.controlPlaneHmacSecret body)),
      ∃ name ∈ ["Content-Type", "X-ACDP-Signature"], header.1 = text name := by
    intro header member
    split at member
    · exact ⟨"Content-Type", List.mem_cons_self, by rw [List.mem_singleton.mp member]⟩
    · rcases mem_insert member with signed | ⟨plain, _⟩
      · exact ⟨"X-ACDP-Signature", by decide, by rw [signed]⟩
      · exact ⟨"Content-Type", List.mem_cons_self, by rw [List.mem_singleton.mp plain]⟩
  exact tenantNotReserved_of_names names (by decide)

theorem mem_sends_receive {path : Text} {actions : List Action} {answer : Answer}
    {next : Response → Posted} {request : Request}
    (member : request ∈ sends (receive path actions answer next).actions) :
    request ∈ sends actions ∨
      ∃ response, answer = .response response ∧ request ∈ sends (next response).actions := by
  unfold receive at member
  split at member
  · simp only [sends, List.filterMap_append, List.filterMap_cons, List.filterMap_nil,
      List.append_nil] at member
    exact .inl member
  · next response => exact .inr ⟨response, rfl, member⟩

theorem mem_sends_post {platform : Platform} {settings : CpSettings} {path : Text} {body : Bytes}
    {extra : Headers} {first second : Answer} {now : PyFloat} {request : Request}
    (member : request ∈ sends (post platform settings path body extra first second now).actions) :
    request = buildRequest platform settings path body extra := by
  unfold post at member
  split at member
  · cases member
  · dsimp only at member
    split at member
    · cases member
    · rcases mem_sends_receive member with once | ⟨response, _, later⟩
      · exact List.mem_singleton.mp once
      · split at later
        · split at later
          · exact List.mem_singleton.mp later
          · rw [sends_conclude] at later
            exact List.mem_singleton.mp later
          · have twice : request ∈ [buildRequest platform settings path body extra,
                buildRequest platform settings path body extra] := by
              rcases mem_sends_receive later with again | ⟨_, _, last⟩
              · exact again
              · rw [sends_conclude] at last
                exact last
            rcases List.mem_cons.mp twice with same | same
            · exact same
            · exact List.mem_singleton.mp same
        · rw [sends_conclude] at later
          exact List.mem_singleton.mp later

section Policy

variable {platform : Platform} {dumps : Json → Bytes} {settings : OperatorSettings}

theorem postRequests_notReserved {path : Text} {body : Bytes} {extra : Option Headers}
    {script : PostScript} (added : ∀ headers, extra = some headers → TenantNotReserved headers) :
    ∀ request ∈ postRequests platform settings path body extra script,
      TenantNotReserved request.headers := by
  intro request member
  cases extra with
  | none => cases member
  | some headers =>
      obtain ⟨posted, sent, rfl⟩ := List.mem_map.mp member
      have built : TenantNotReserved
          (buildRequest platform settings.toCpSettings path body headers).headers :=
        buildRequest_notReserved (added headers rfl)
      rw [mem_sends_post sent]
      exact built

theorem adminRequest_notReserved {verb : Verb} {path : String} {params : List (String × Json)}
    {body : CpBody} {more : Headers} (added : TenantNotReserved more) :
    ∀ request ∈ adminRequest settings verb path params body more,
      TenantNotReserved request.headers := by
  intro request member
  unfold adminRequest at member
  split at member
  · cases member
  · next admin built =>
      rw [List.mem_singleton.mp member]
      refine tenantNotReserved_foldl ?_ added
      unfold adminHeaders at built
      split at built
      · cases built
      · cases built
        have other : ∀ name ∈ ["Authorization"], lower (text name) ≠ lower (text "X-Tenant-Id") := by
          decide
        refine tenantNotReserved_of_names (fun header only => ?_) other
        exact ⟨"Authorization", List.mem_cons_self, by rw [List.mem_singleton.mp only]⟩

theorem jsonContent_notReserved : TenantNotReserved jsonContent := by
  intro header only named
  rw [List.mem_singleton.mp only] at named
  exact absurd named (by decide)

theorem nil_notReserved : TenantNotReserved [] := by
  intro header none
  cases none

theorem operation_notReserved (script : PostScript) (operation : CpOperation) :
    ∀ request ∈ operation.requests platform dumps settings script,
      TenantNotReserved request.headers := by
  cases operation with
  | notifyRunStarted _ _ _ _ tenantId =>
      exact postRequests_notReserved (fun _ built => tenantHeader_notReserved built)
  | notifyRunComplete _ _ _ _ tenantId =>
      exact postRequests_notReserved (fun _ built => tenantHeader_notReserved built)
  | forwardWebhook rawBody headers tenantId =>
      exact postRequests_notReserved (fun _ built => forwardHeaders_notReserved built)
  | introspect token => exact adminRequest_notReserved jsonContent_notReserved
  | revocations sinceMs limit => exact adminRequest_notReserved nil_notReserved
  | events beforeTs limit runId eventType => exact adminRequest_notReserved nil_notReserved
  | declareCapability _ _ _ _ _ _ tenantId =>
      intro request member
      simp only [CpOperation.requests, declareCapabilityRequests] at member
      split at member
      · cases member
      · next tenant built =>
          refine adminRequest_notReserved ?_ request member
          intro header added named
          rcases List.mem_append.mp added with content | stamped
          · exact jsonContent_notReserved header content named
          · exact tenantHeader_notReserved built header stamped named
  | domainPacks =>
      intro request member
      simp only [CpOperation.requests] at member
      split at member
      · cases member
      · rw [List.mem_singleton.mp member]
        exact nil_notReserved
  | reloadPinnedKeys => exact adminRequest_notReserved nil_notReserved

theorem cpRequests_notReserved (operations : List (CpOperation × PostScript)) :
    ∀ request ∈ cpRequests platform dumps settings operations,
      TenantNotReserved request.headers := by
  intro request member
  obtain ⟨operation, _, sent⟩ := List.mem_flatMap.mp member
  exact operation_notReserved operation.2 operation.1 request sent

end Policy

end AcdpPlayground.Bridge

/-
Which tenant a request may name, over sequences of operations of the registry client and
of the control-plane bridge. Header names are compared without regard to case.

The constructor refuses the reserved tenant, `_headers` is the only place that writes the
tenant header, and a retry goes through it again with whatever token it then has.
-/

import AcdpPlayground.Client.Operations
import AcdpPlayground.Client.UnauthorizedRetry
import AcdpPlayground.Bridge.Operations

namespace AcdpPlayground.Client

open KeyedTable
open Auth (CachedToken)

def sameName (first second : String) : Bool :=
  first.toList.map Char.toLower == second.toList.map Char.toLower

def carried (name : String) (headers : HttpHeaders) : List String :=
  (headers.filter (fun entry => sameName entry.1 name)).map Prod.snd

structure TenantPolicy (client : SendingClient) (headers : HttpHeaders) : Prop where
  notReserved : "default" ∉ carried "X-Tenant-Id" headers
  fallback : client.tenantHeaderMode = .fallback →
    carried "Authorization" headers = [] ∨ carried "X-Tenant-Id" headers = []
  never : client.tenantHeaderMode = .never → carried "X-Tenant-Id" headers = []
  own : ∀ tenant ∈ carried "X-Tenant-Id" headers, client.tenantId = some tenant

/-! ### Headers of one request -/

theorem mem_carried {name value : String} {headers : HttpHeaders} :
    value ∈ carried name headers ↔
      ∃ entry ∈ headers, sameName entry.1 name = true ∧ entry.2 = value := by
  unfold carried
  constructor
  · intro member
    obtain ⟨entry, kept, same⟩ := List.mem_map.mp member
    obtain ⟨present, named⟩ := List.mem_filter.mp kept
    exact ⟨entry, present, named, same⟩
  · rintro ⟨entry, present, named, same⟩
    exact List.mem_map.mpr ⟨entry, List.mem_filter.mpr ⟨present, named⟩, same⟩

theorem carried_eq_nil {name : String} {headers : HttpHeaders}
    (absent : ∀ value, value ∉ carried name headers) : carried name headers = [] :=
  List.eq_nil_iff_forall_not_mem.mpr absent

theorem mem_withHeader {headers : HttpHeaders} {name : String} {value : Option String}
    {entry : String × String}
    (member : entry ∈ SendingClient.withHeader headers name value) :
    entry ∈ headers ∨ ∃ given, value = some given ∧ entry = (name, given) := by
  cases value with
  | none => exact .inl member
  | some given =>
      rcases mem_insert member with same | ⟨old, _⟩
      · exact .inr ⟨given, rfl, same⟩
      · exact .inl old

theorem mem_headers_cases {client : SendingClient} {token key : Option String}
    {entry : String × String}
    (member : entry ∈ client.headers token (idempotencyHeader key)) :
    (∃ tenant, client.tenantHeaderValue (truthyText token).isSome = some tenant ∧
      entry = ("X-Tenant-Id", tenant)) ∨
    (∃ given, truthyText token = some given ∧ entry = ("Authorization", "Bearer " ++ given)) ∨
    entry.1 ∈ ["Content-Type", "Accept", "X-Run-Id", "Idempotency-Key"] := by
  rcases mem_foldl_insert member with attributed | extra
  · rcases mem_withHeader attributed with correlated | tenant
    · rcases mem_withHeader correlated with authorized | ⟨run, _, rfl⟩
      · rcases mem_withHeader authorized with plain | ⟨value, sent, rfl⟩
        · rcases List.mem_cons.mp plain with rfl | last
          · exact .inr (.inr (by decide))
          · rw [List.mem_singleton.mp last]
            exact .inr (.inr (by decide))
        · obtain ⟨given, truthy, rfl⟩ := Option.map_eq_some_iff.mp sent
          exact .inr (.inl ⟨given, truthy, rfl⟩)
      · exact .inr (.inr (show "X-Run-Id" ∈ _ by decide))
    · exact .inl tenant
  · obtain ⟨given, _, rfl⟩ := Option.map_eq_some_iff.mp (Option.mem_toList.mp extra)
    exact .inr (.inr (show "Idempotency-Key" ∈ _ by decide))

theorem carried_tenant {client : SendingClient} {token key : Option String} {tenant : String}
    (sent : tenant ∈ carried "X-Tenant-Id" (client.headers token (idempotencyHeader key))) :
    client.tenantHeaderValue (truthyText token).isSome = some tenant := by
  obtain ⟨entry, member, named, rfl⟩ := mem_carried.mp sent
  rcases mem_headers_cases member with ⟨given, value, rfl⟩ | ⟨given, _, rfl⟩ | other
  · exact value
  · exact absurd (show sameName "Authorization" "X-Tenant-Id" = true from named) (by decide)
  · have differs : ∀ name ∈ ["Content-Type", "Accept", "X-Run-Id", "Idempotency-Key"],
        sameName name "X-Tenant-Id" = false := by decide
    rw [differs _ other] at named
    cases named

theorem carried_authorization {client : SendingClient} {token key : Option String}
    {value : String}
    (sent : value ∈ carried "Authorization" (client.headers token (idempotencyHeader key))) :
    (truthyText token).isSome = true := by
  obtain ⟨entry, member, named, rfl⟩ := mem_carried.mp sent
  rcases mem_headers_cases member with ⟨given, _, rfl⟩ | ⟨given, truthy, rfl⟩ | other
  · exact absurd (show sameName "X-Tenant-Id" "Authorization" = true from named) (by decide)
  · rw [truthy]
    rfl
  · have differs : ∀ name ∈ ["Content-Type", "Accept", "X-Run-Id", "Idempotency-Key"],
        sameName name "Authorization" = false := by decide
    rw [differs _ other] at named
    cases named

theorem tenantHeaderValue_eq_some {client : SendingClient} {authenticated : Bool}
    {tenant : String} (value : client.tenantHeaderValue authenticated = some tenant) :
    client.tenantId = some tenant ∧ client.tenantHeaderMode ≠ .never ∧
      (client.tenantHeaderMode = .fallback → authenticated ≠ true) := by
  unfold SendingClient.tenantHeaderValue at value
  split at value
  · cases value
  · cases value
  · next given always =>
      cases value
      refine ⟨given, ?_, ?_⟩
      · rw [always]
        intro same
        cases same
      · rw [always]
        intro same
        cases same
  · next given fallback =>
      split at value
      · cases value
      · next anonymous =>
          cases value
          refine ⟨given, ?_, fun _ => anonymous⟩
          rw [fallback]
          intro same
          cases same

theorem headers_policy (client : SendingClient) (token key : Option String) :
    TenantPolicy client (client.headers token (idempotencyHeader key)) := by
  constructor
  · intro sent
    have value := carried_tenant sent
    have allowed := client.tenantAllowed
    rw [(tenantHeaderValue_eq_some value).1] at allowed
    cases allowed
  · intro mode
    by_cases authenticated : (truthyText token).isSome = true
    · refine .inr (carried_eq_nil (fun tenant sent => ?_))
      exact (tenantHeaderValue_eq_some (carried_tenant sent)).2.2 mode authenticated
    · exact .inl (carried_eq_nil (fun value sent => authenticated (carried_authorization sent)))
  · intro mode
    exact carried_eq_nil (fun tenant sent =>
      (tenantHeaderValue_eq_some (carried_tenant sent)).2.1 mode)
  · intro tenant sent
    exact (tenantHeaderValue_eq_some (carried_tenant sent)).1

theorem bare_policy (client : SendingClient) : TenantPolicy client [] := by
  refine ⟨fun sent => ?_, fun _ => .inl rfl, fun _ => rfl, fun _ sent => ?_⟩
  · cases sent
  · cases sent

/-! ### Sequences of operations -/

theorem retrying_policy {jtiOf : CachedToken → Option String} {client : SendingClient}
    {template : Template} {key : Option String} {script : RetryScript}
    {start : Auth.TokenState} {result : Retried}
    (ran : client.retrying jtiOf template (idempotencyHeader key) script start = some result) :
    ∀ sent ∈ result.sent, TenantPolicy client sent.request.headers := by
  intro sent member
  cases SendingClient.retrying_run ran with
  | refused _ => cases member
  | ended _ _ _ =>
      rw [List.mem_singleton.mp member]
      exact headers_policy client _ key
  | unrefreshed _ _ _ _ _ =>
      rw [List.mem_singleton.mp member]
      exact headers_policy client _ key
  | retried _ _ _ _ _ _ _ =>
      rcases List.mem_cons.mp member with same | last
      · rw [same]
        exact headers_policy client _ key
      · rw [List.mem_singleton.mp last]
        exact headers_policy client _ key

def AllWithinPolicy (sent : List SentBy) : Prop :=
  ∀ one ∈ sent, TenantPolicy one.client one.request.headers

theorem perform_policy {jtiOf : CachedToken → Option String} {client : SendingClient} {call : Call}
    {script : CallScript} {result : Retried}
    (ran : client.perform jtiOf call script = some result) :
    AllWithinPolicy (client.sentBy result) := by
  intro one member
  obtain ⟨sent, present, rfl⟩ := List.mem_map.mp member
  exact retrying_policy ran sent present

theorem allWithinPolicy_append {first second : List SentBy} (left : AllWithinPolicy first)
    (right : AllWithinPolicy second) : AllWithinPolicy (first ++ second) := by
  intro one member
  rcases List.mem_append.mp member with before | after
  · exact left one before
  · exact right one after

theorem searchPages_policy {jtiOf : CachedToken → Option String} {client : SendingClient}
    {scripts : List CallScript} {remaining : Nat} {query : SearchQuery} {sent : List SentBy}
    (ran : client.searchPages jtiOf query remaining scripts = some sent) :
    AllWithinPolicy sent := by
  induction scripts generalizing remaining query sent with
  | nil =>
      cases remaining <;> cases ran <;> exact fun one none => by cases none
  | cons script rest ih =>
      cases remaining with
      | zero =>
          cases ran
          exact fun one none => by cases none
      | succ remaining =>
          simp only [SendingClient.searchPages] at ran
          split at ran
          · cases ran
          · next result page =>
              have first := perform_policy page
              split at ran
              · cases ran
                exact first
              · obtain ⟨later, continued, rfl⟩ := Option.map_eq_some_iff.mp ran
                exact allWithinPolicy_append first (ih continued)

theorem operate_policy {jtiOf : CachedToken → Option String} {client : SendingClient}
    {operation : Operation} {scripts : List CallScript} {sent : List SentBy}
    (ran : client.operate jtiOf operation scripts = some sent) : AllWithinPolicy sent := by
  cases operation with
  | call call =>
      cases scripts with
      | nil => cases ran
      | cons script rest =>
          obtain ⟨result, performed, rfl⟩ := Option.map_eq_some_iff.mp ran
          exact perform_policy performed
  | searchAll query pageSize maxPages => exact searchPages_policy ran
  | resolve ctxId authorityMap =>
      cases scripts with
      | nil => cases ran
      | cons script rest =>
          obtain ⟨result, performed, rfl⟩ := Option.map_eq_some_iff.mp ran
          exact perform_policy performed
  | healthz =>
      cases ran
      intro one member
      rw [List.mem_singleton.mp member]
      exact bare_policy client
  | fetchDataRef world policy dataRef =>
      simp only [SendingClient.operate] at ran
      split at ran
      · cases ran
        exact fun one none => by cases none
      · cases ran
        exact fun one none => by cases none
      · cases ran
        intro one member
        obtain ⟨url, _, rfl⟩ := List.mem_map.mp member
        exact bare_policy client

theorem operateAll_policy {jtiOf : CachedToken → Option String} {client : SendingClient}
    {operations : List (Operation × List CallScript)} {sent : List SentBy}
    (ran : client.operateAll jtiOf operations = some sent) : AllWithinPolicy sent := by
  induction operations generalizing sent with
  | nil =>
      cases ran
      exact fun one none => by cases none
  | cons first rest ih =>
      obtain ⟨operation, scripts⟩ := first
      simp only [SendingClient.operateAll] at ran
      split at ran
      · cases ran
      · next here performed =>
          obtain ⟨later, continued, rfl⟩ := Option.map_eq_some_iff.mp ran
          exact allWithinPolicy_append (operate_policy performed) (ih continued)

theorem init_keeps {arguments : ClientArguments} {client : SendingClient}
    (constructed : SendingClient.init arguments = .ok client) :
    client.tenantId = arguments.tenantId ∧
      client.tenantHeaderMode = arguments.tenantHeaderMode := by
  unfold SendingClient.init at constructed
  split at constructed
  · cases constructed
    exact ⟨rfl, rfl⟩
  · cases constructed

/-- Both clients keep to the tenant policy over any sequence of operations; a request of
the registry client can only name the tenant its constructor was given. -/
theorem tenant_header_policy (jtiOf : CachedToken → Option String) {arguments : ClientArguments}
    {client : SendingClient} (constructed : SendingClient.init arguments = .ok client)
    {operations : List (Operation × List CallScript)} {sent : List SentBy}
    (ran : client.operateAll jtiOf operations = some sent)
    (platform : Bridge.Platform) (dumps : JsonValue.Json → TextEncoding.Bytes)
    (settings : Bridge.OperatorSettings)
    (bridgeOperations : List (Bridge.CpOperation × Bridge.PostScript)) :
    (∀ one ∈ sent, TenantPolicy one.client one.request.headers) ∧
      (client.tenantId = arguments.tenantId ∧
        client.tenantHeaderMode = arguments.tenantHeaderMode) ∧
      ∀ request ∈ Bridge.cpRequests platform dumps settings bridgeOperations,
        Bridge.TenantNotReserved request.headers :=
  ⟨operateAll_policy ran, init_keeps constructed, Bridge.cpRequests_notReserved bridgeOperations⟩

def tenantArguments : ClientArguments :=
  { baseUrl := "http://registry-a/"
    bearerToken := none
    runId := some "run-1"
    producer := some "did:web:a"
    hasTokenManager := true
    tenantId := some "tenant-a"
    tenantHeaderMode := .fallback }

/-- A publish that is answered 401 and sent again, and a health check. -/
def publishAndCheck : List (Operation × List CallScript) :=
  [(.call (.publish "\x7b\x7d" (some "key-1")),
      [{ tokens := .initial 30, retry := rejectedOnce, nextCursor := none }]),
    (.healthz, [])]

/-- A webhook that asserts the reserved tenant, and one that does not. -/
def forwardedTwice : List (Bridge.CpOperation × Bridge.PostScript) :=
  [(.forwardWebhook [] [(PythonText.text "X-Tenant-ID", PythonText.text "default")] none,
      { first := .httpError [], second := .httpError [], now := .finite 0 }),
    (.forwardWebhook [] [(PythonText.text "X-Tenant-ID", PythonText.text "tenant-a")] none,
      { first := .httpError [], second := .httpError [], now := .finite 0 })]

def bridgeSettings : Bridge.OperatorSettings :=
  { controlPlaneUrl := PythonText.text "http://cp"
    controlPlaneHmacSecret := ""
    controlPlaneAdminToken := [] }

theorem publish_and_check_policy :
    ∃ client sent,
      SendingClient.init tenantArguments = .ok client ∧
        client.operateAll (fun _ => none) publishAndCheck = some sent ∧ sent.length = 3 ∧
        (∀ one ∈ sent, TenantPolicy one.client one.request.headers) ∧
        (Bridge.cpRequests Bridge.utcPlatform (fun _ => []) bridgeSettings
          forwardedTwice).length = 1 ∧
        ∀ request ∈ Bridge.cpRequests Bridge.utcPlatform (fun _ => []) bridgeSettings
            forwardedTwice, Bridge.TenantNotReserved request.headers := by
  have runs : ((producingClient none).operateAll (fun _ => none) publishAndCheck).map
      (fun sent => sent.length) = some 3 := by decide +kernel
  obtain ⟨sent, ran, count⟩ := Option.map_eq_some_iff.mp runs
  have constructed : SendingClient.init tenantArguments = .ok (producingClient none) := by
    rfl
  obtain ⟨within, _, forwarded⟩ := tenant_header_policy (fun _ => none) constructed ran
    Bridge.utcPlatform (fun _ => []) bridgeSettings forwardedTwice
  exact ⟨producingClient none, sent, constructed, ran, count, within, by decide +kernel,
    forwarded⟩

end AcdpPlayground.Client

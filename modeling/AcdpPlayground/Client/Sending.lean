/-
How `AcdpClient` sends a request: the headers with their bearer token and tenant, and
`_retrying` with its one retry after a 401.

A client shares its token manager with other tasks. A script gives what `_retrying` does
not decide: when the clock is read, which segments of the manager run while the client
waits for a token or for an answer, and the answers. An answer is a status, or none when
the transport fails. Names of headers are as the client writes them.
-/

import AcdpPlayground.Auth.TokenCall
import AcdpPlayground.Foundation.KeyedTable

namespace AcdpPlayground.Client

open TransitionRun KeyedTable
open Auth (TokenState TokenAction TokenKey CachedToken TokenInvariant Wait Gone keyFor
  rstripSlashes tokenStep awaitTokenFor issuedTokens)

abbrev HttpHeaders := List (String × String)

inductive Method where
  | get
  | post
deriving DecidableEq

inductive ParamValue where
  | text (value : String)
  | number (value : Int)
deriving DecidableEq

structure Template where
  method : Method
  url : String
  params : List (String × ParamValue)
  content : Option String
deriving DecidableEq

structure HttpRequest where
  template : Template
  headers : HttpHeaders
deriving DecidableEq

/-! ### The client -/

inductive TenantHeaderMode where
  | fallback
  | always
  | never
deriving DecidableEq

def isReservedTenant (tenant : Option String) : Bool :=
  tenant == some "default"

/-- The constructor's arguments that sending depends on. -/
structure ClientArguments where
  baseUrl : String
  bearerToken : Option String
  runId : Option String
  /-- The producer by its `agent_did`. -/
  producer : Option String
  hasTokenManager : Bool
  tenantId : Option String
  tenantHeaderMode : TenantHeaderMode

structure SendingClient where
  base : String
  staticBearer : Option String
  runId : Option String
  producer : Option String
  hasTokenManager : Bool
  tenantId : Option String
  tenantHeaderMode : TenantHeaderMode
  tenantAllowed : isReservedTenant tenantId = false

/-- `AcdpClient.__init__`, which raises a `ValueError` for the reserved tenant. -/
def SendingClient.init (arguments : ClientArguments) : Except String SendingClient :=
  if reserved : isReservedTenant arguments.tenantId = false then
    .ok
      { base := rstripSlashes arguments.baseUrl
        staticBearer := arguments.bearerToken
        runId := arguments.runId
        producer := arguments.producer
        hasTokenManager := arguments.hasTokenManager
        tenantId := arguments.tenantId
        tenantHeaderMode := arguments.tenantHeaderMode
        tenantAllowed := reserved }
  else
    .error ("'default' is a reserved tenant sentinel and cannot be asserted via X-Tenant-Id or " ++
      "a token claim; omit the tenant entirely for untenanted access")

/-- A value Python takes as true: neither `None` nor the empty string. -/
def truthyText (value : Option String) : Option String :=
  value.filter (fun given => given ≠ "")

inductive Bearer where
  | static (token : String)
  | managed (token : String)
  | anonymous
deriving DecidableEq

def Bearer.token : Bearer → Option String
  | .static token => some token
  | .managed token => some token
  | .anonymous => none

/-- `raised` when `token_for` does. -/
inductive Resolved where
  | raised
  | bearer (bearer : Bearer)
deriving DecidableEq

namespace SendingClient

/-- `self._producer and self._token_manager`, by the producer's `agent_did`. -/
def managed (client : SendingClient) : Option String :=
  if client.hasTokenManager then client.producer else none

def bearerToken (jtiOf : CachedToken → Option String) (client : SendingClient) (wait : Wait)
    (tokens : TokenState) : Option (Resolved × TokenState) :=
  match truthyText client.staticBearer with
  | some token => some (.bearer (.static token), tokens)
  | none =>
      match client.managed with
      | none => some (.bearer .anonymous, tokens)
      | some agentDid =>
          match awaitTokenFor jtiOf agentDid client.base wait tokens with
          | none => none
          | some (none, next) => some (.raised, next)
          | some (some cached, next) => some (.bearer (.managed cached.token), next)

def tenantHeaderValue (client : SendingClient) (authenticated : Bool) : Option String :=
  match client.tenantId, client.tenantHeaderMode with
  | none, _ => none
  | some _, .never => none
  | some tenant, .always => some tenant
  | some tenant, .fallback => if authenticated then none else some tenant

/-- `h[name] = value` where there is a value. -/
def withHeader (headers : HttpHeaders) (name : String) (value : Option String) : HttpHeaders :=
  match value with
  | some given => insert headers name given
  | none => headers

/-- `_headers` with the token resolved. -/
def headers (client : SendingClient) (token : Option String) (extra : HttpHeaders) :
    HttpHeaders :=
  let plain : HttpHeaders :=
    [("Content-Type", "application/json"), ("Accept", "application/acdp+json, application/json")]
  let sentToken := truthyText token
  let authorized := withHeader plain "Authorization" (sentToken.map (fun given => "Bearer " ++ given))
  let correlated := withHeader authorized "X-Run-Id" (truthyText client.runId)
  let attributed := withHeader correlated "X-Tenant-Id" (client.tenantHeaderValue sentToken.isSome)
  extra.foldl (fun headers entry => insert headers entry.1 entry.2) attributed

end SendingClient

/-! ### Sending and retrying -/

structure Sent where
  bearer : Bearer
  request : HttpRequest
deriving DecidableEq

structure RetryScript where
  first : Wait
  /-- The segments of the manager until the first answer. -/
  travelling : List TokenAction
  answer : Option Nat
  second : Wait
  travellingAgain : List TokenAction
  answerAgain : Option Nat

/-- A response, with the manager when it arrives and when it has been handled. -/
structure Handled where
  status : Nat
  before : TokenState
  after : TokenState

structure Retried where
  sent : List Sent
  handled : List Handled
  tokens : TokenState

namespace SendingClient

def send (client : SendingClient) (bearer : Bearer) (template : Template)
    (extra : HttpHeaders) : Sent :=
  { bearer := bearer
    request :=
      { template := template
        headers := client.headers bearer.token extra } }

/-- The second attempt of `_retrying`, after a 401. -/
def retryOnce (jtiOf : CachedToken → Option String) (client : SendingClient)
    (template : Template) (extra : HttpHeaders) (script : RetryScript) (agentDid : String)
    (one : Sent) (arrived : TokenState) : Option Retried :=
  let dropped := arrived.drop (keyFor agentDid client.base) .reactive401
  let unauthorized : Handled := { status := 401, before := arrived, after := dropped }
  match client.bearerToken jtiOf script.second dropped with
  | none => none
  | some (.raised, tokens) => some { sent := [one], handled := [unauthorized], tokens := tokens }
  | some (.bearer bearer, tokens) =>
      match runFrom (tokenStep jtiOf) tokens script.travellingAgain with
      | none => none
      | some final =>
          some
            { sent := [one, client.send bearer template extra]
              handled := unauthorized :: (script.answerAgain.map (fun status =>
                { status := status, before := final, after := final })).toList
              tokens := final }

def retrying (jtiOf : CachedToken → Option String) (client : SendingClient)
    (template : Template) (extra : HttpHeaders) (script : RetryScript) (start : TokenState) :
    Option Retried :=
  match client.bearerToken jtiOf script.first start with
  | none => none
  | some (.raised, tokens) => some { sent := [], handled := [], tokens := tokens }
  | some (.bearer bearer, tokens) =>
      let one := client.send bearer template extra
      match runFrom (tokenStep jtiOf) tokens script.travelling with
      | none => none
      | some arrived =>
          match script.answer with
          | none => some { sent := [one], handled := [], tokens := arrived }
          | some status =>
              match if status = 401 then client.managed else none with
              | none =>
                  some
                    { sent := [one]
                      handled := [{ status := status, before := arrived, after := arrived }]
                      tokens := arrived }
              | some agentDid =>
                  client.retryOnce jtiOf template extra script agentDid one arrived

end SendingClient

/-- The extra headers of `publish`; the other operations have none. -/
def idempotencyHeader (idempotencyKey : Option String) : HttpHeaders :=
  ((truthyText idempotencyKey).map (fun key => ("Idempotency-Key", key))).toList

/-! ### What the headers hold -/

namespace SendingClient

theorem lookup_withHeader_self (headers : HttpHeaders) (name : String) (value : Option String) :
    (withHeader headers name value).lookup name = value.or (headers.lookup name) := by
  cases value with
  | none => rfl
  | some given => exact lookup_insert_self headers name given

theorem lookup_withHeader_ne {name asked : String} (different : asked ≠ name)
    (headers : HttpHeaders) (value : Option String) :
    (withHeader headers name value).lookup asked = headers.lookup asked := by
  cases value with
  | none => rfl
  | some given => exact lookup_insert_ne different headers given

theorem lookup_idempotency_ne {asked : String} (different : asked ≠ "Idempotency-Key")
    (headers : HttpHeaders) (key : Option String) :
    ((idempotencyHeader key).foldl (fun headers entry => insert headers entry.1 entry.2)
      headers).lookup asked = headers.lookup asked := by
  unfold idempotencyHeader
  cases truthyText key with
  | none => rfl
  | some given => exact lookup_insert_ne different headers given

theorem headers_authorization (client : SendingClient) (token key : Option String) :
    (client.headers token (idempotencyHeader key)).lookup "Authorization" =
      (truthyText token).map (fun given => "Bearer " ++ given) := by
  unfold headers
  rw [lookup_idempotency_ne (by decide), lookup_withHeader_ne (by decide),
    lookup_withHeader_ne (by decide), lookup_withHeader_self]
  exact Option.or_none

/-- The headers that a new token may change. -/
def keptOnRetry (name : String) : Bool :=
  name != "Authorization" && name != "X-Tenant-Id"

theorem filter_withHeader_dropped {name : String} (dropped : keptOnRetry name = false)
    (headers : HttpHeaders) (value : Option String) :
    (withHeader headers name value).filter (fun entry => keptOnRetry entry.1) =
      headers.filter (fun entry => keptOnRetry entry.1) := by
  cases value with
  | none => rfl
  | some given => exact filter_insert_dropped dropped headers given

theorem filter_withHeader_kept {name : String} (kept : keptOnRetry name = true)
    (headers : HttpHeaders) (value : Option String) :
    (withHeader headers name value).filter (fun entry => keptOnRetry entry.1) =
      withHeader (headers.filter (fun entry => keptOnRetry entry.1)) name value := by
  cases value with
  | none => rfl
  | some given => exact filter_insert_kept kept headers given

theorem filter_foldl_insert {first second : HttpHeaders} (extra : HttpHeaders)
    (same : first.filter (fun entry => keptOnRetry entry.1) =
      second.filter (fun entry => keptOnRetry entry.1)) :
    (extra.foldl (fun headers entry => insert headers entry.1 entry.2) first).filter
        (fun entry => keptOnRetry entry.1) =
      (extra.foldl (fun headers entry => insert headers entry.1 entry.2) second).filter
        (fun entry => keptOnRetry entry.1) := by
  induction extra generalizing first second with
  | nil => exact same
  | cons entry rest ih =>
      apply ih
      cases kept : keptOnRetry entry.1 with
      | false =>
          rw [filter_insert_dropped kept, filter_insert_dropped kept]
          exact same
      | true =>
          rw [filter_insert_kept kept, filter_insert_kept kept, same]

theorem headers_kept (client : SendingClient) (first second : Option String)
    (extra : HttpHeaders) :
    (client.headers first extra).filter (fun entry => keptOnRetry entry.1) =
      (client.headers second extra).filter (fun entry => keptOnRetry entry.1) := by
  apply filter_foldl_insert
  rw [filter_withHeader_dropped (by decide), filter_withHeader_kept (by decide),
    filter_withHeader_dropped (by decide), filter_withHeader_dropped (by decide),
    filter_withHeader_kept (by decide), filter_withHeader_dropped (by decide)]

end SendingClient

end AcdpPlayground.Client

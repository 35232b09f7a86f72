/-
The access gate of `playground/security.py`: header lookup, the comparison of the key, the
client address and `ApiKeyMiddleware`, with the validator of `Settings` that refuses to load
half-configured enforcement.

A connection is its ASGI scope. The host of the socket peer and the configured values are
well-formed Unicode; header names and values are bytes. Log lines are left out.
-/

import AcdpPlayground.Foundation.IpAddress
import AcdpPlayground.Webhooks.Receiver

namespace AcdpPlayground.Access

open PythonText TextEncoding IpAddress

/-! ### Settings -/

structure Settings extends Webhooks.Settings where
  playgroundApiKey : String
  playgroundRequireApiKey : Bool

def Settings.failClosedOnMissingApiKey (settings : Settings) : Except String Settings :=
  if settings.playgroundRequireApiKey && settings.playgroundApiKey = "" then
    .error "PLAYGROUND_REQUIRE_API_KEY=true but PLAYGROUND_API_KEY is empty"
  else if settings.playgroundRequireApiKey && settings.webhookSecret = "" then
    .error "PLAYGROUND_REQUIRE_API_KEY=true but WEBHOOK_SECRET is empty"
  else .ok settings

/-! ### Scopes -/

inductive Kind where
  | http
  | websocket
  | lifespan
  deriving DecidableEq

structure Scope where
  kind : Kind
  method : Text
  path : Text
  headers : List (List UInt8 × List UInt8)
  client : Option String

def decodeLatin1 (bytes : List UInt8) : Text :=
  bytes.map UInt8.toNat

/-- `bytes.lower`, which is about ASCII letters only. -/
def lowerByte (byte : UInt8) : UInt8 :=
  if 65 ≤ byte && byte ≤ 90 then byte + 32 else byte

/-- `_header`: the first header of that name, in any case. -/
def header (scope : Scope) (name : String) : Option Text :=
  (scope.headers.find? (fun entry => decodeLatin1 (entry.1.map lowerByte) = text name)).map
    (fun entry => decodeLatin1 entry.2)

def apiKeyHeader : String := "x-api-key"

def clientIpHeader : String := "x-acdp-client-ip"

def exemptPaths : List Text :=
  [text "/healthz", text "/webhooks/acdp"]

def keyMatches (presented : Option Text) (configured : String) : Bool :=
  match presented with
  | none => false
  | some given => configured ≠ "" && encodeUtf8 given = encodeUtf8 (text configured)

/-! ### The client address -/

/-- The subject an address is charged to. -/
def bucket : Address → Text
  | .v4 number => ipv4Text number
  | .v6 number scopeId =>
      match mapped number with
      | some inner => ipv4Text inner
      | none => networkText number scopeId

def parseIp : Option Text → Option Text
  | none | some [] => none
  | some value => (ipAddress (strip value)).map bucket

def resolveClientIp (scope : Scope) (trusted : Bool) : String :=
  match if trusted then parseIp (header scope clientIpHeader) else none with
  | some forwarded => string forwarded
  | none => scope.client.getD "unknown"

/-! ### The middleware -/

structure State where
  apiKeyValid : Bool
  clientIp : String
  perIpLimits : Bool
  deriving DecidableEq

inductive Message where
  | websocketClose (code : Nat)
  | httpResponseStart (status : Nat) (headers : List (Text × Text))
  | httpResponseBody (body : Text)
  deriving DecidableEq

inductive Verdict where
  | passed (state : Option State)
  | refused (messages : List Message)
  deriving DecidableEq

def refusalBody : Text :=
  text "\x7b\"detail\": \"missing or invalid x-api-key\"\x7d"

def httpRefusal : List Message :=
  [.httpResponseStart 401
    [(text "content-type", text "application/json"),
      (text "content-length", natText refusalBody.length),
      (text "www-authenticate", text "ApiKey header=\"x-api-key\"")],
    .httpResponseBody refusalBody]

def keyValid (settings : Settings) (scope : Scope) : Bool :=
  keyMatches (header scope apiKeyHeader) settings.playgroundApiKey

def stateOf (settings : Settings) (scope : Scope) : State :=
  { apiKeyValid := keyValid settings scope
    clientIp := resolveClientIp scope (keyValid settings scope)
    perIpLimits := keyValid settings scope || settings.playgroundRequireApiKey }

/-- `ApiKeyMiddleware.__call__`. -/
def apiKeyMiddleware (settings : Settings) (scope : Scope) : Verdict :=
  if scope.kind = .lifespan then .passed none
  else if exemptPaths.contains scope.path || keyValid settings scope then
    .passed (some (stateOf settings scope))
  else if !settings.playgroundRequireApiKey then .passed (some (stateOf settings scope))
  else if scope.kind = .websocket then .refused [.websocketClose 1008]
  else .refused httpRefusal

/-! ### What the key and the validator decide -/

/-- Comparing bytes compares the texts. -/
theorem keyMatches_iff {presented : Option Text} {configured : String} :
    keyMatches presented configured = true ↔
      configured ≠ "" ∧ presented = some (text configured) := by
  cases presented with
  | none => simp [keyMatches]
  | some given =>
      simp only [keyMatches, Bool.and_eq_true, decide_eq_true_eq, Option.some.injEq]
      constructor
      · rintro ⟨present, same⟩
        obtain ⟨bytes, encoded⟩ := encodeUtf8_text configured
        exact ⟨present, encodeUtf8_injective (same.trans encoded) encoded⟩
      · rintro ⟨present, same⟩
        exact ⟨present, congrArg encodeUtf8 same⟩

theorem loaded_iff {settings : Settings} :
    settings.failClosedOnMissingApiKey = .ok settings ↔
      (settings.playgroundRequireApiKey = true →
        settings.playgroundApiKey ≠ "" ∧ settings.webhookSecret ≠ "") := by
  unfold Settings.failClosedOnMissingApiKey
  cases required : settings.playgroundRequireApiKey with
  | false => simp
  | true =>
      by_cases noKey : settings.playgroundApiKey = ""
      · simp [noKey]
      · by_cases noSecret : settings.webhookSecret = ""
        · simp [noKey, noSecret]
        · simp [noKey, noSecret]

end AcdpPlayground.Access

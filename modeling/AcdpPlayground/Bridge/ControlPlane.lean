/-
The control-plane bridge of `playground/control_plane.py`: one POST with an optional
signature, one cooperative retry after `Retry-After`, and a log line for everything else.

The control plane is the answers it gives to the first and to the second request: a
response, or an error of the transport. The HTTP client, the digest and the clock are
parameters. So is the exception with which the client refuses to build a request, which is no
`httpx.HTTPError`; writing the log is taken to succeed.
-/

import AcdpPlayground.Bridge.RetryAfter
import AcdpPlayground.Foundation.TextEncoding

namespace AcdpPlayground.Bridge

open PythonText JsonValue HttpDate TextEncoding KeyedTable

abbrev Headers := List (Text × Text)

structure CpSettings where
  controlPlaneUrl : Text
  controlPlaneHmacSecret : String

structure Request where
  url : Text
  content : Bytes
  headers : Headers

structure Response where
  statusCode : Nat
  retryAfter : Option Text
  content : Bytes

inductive Answer where
  | response (response : Response)
  | httpError (message : Text)

/-- What the interpreter and the libraries bring along. -/
structure Platform extends Clockwork where
  hmacSha256 : Bytes → Bytes → List UInt8
  /-- Levels of nesting left to the JSON decoder. -/
  depth : Nat
  /-- Float literals that are 0.0. -/
  isZero : Text → Bool
  /-- What building a request raises: a header value must be ASCII, a URL well formed. -/
  refused : Request → Option PyError

def utf8Bytes (secret : String) : Bytes :=
  secret.toUTF8.toList.map UInt8.toNat

def sign (platform : Platform) (secret : String) (body : Bytes) : Text :=
  text "sha256=" ++ hexdigest (platform.hmacSha256 (utf8Bytes secret) body)

/-! ### Error envelopes -/

/-- `first or second or ""`, where only a string is kept. -/
def firstText (isZero : Text → Bool) (candidates : List (Option Json)) : Text :=
  match (candidates.filterMap id).find? (fun value => value.truthy isZero) with
  | some (.string value) => value
  | _ => []

def asText : Option Json → Option Text
  | some (.string value) => some value
  | _ => none

structure Envelope where
  code : Option Text
  message : Text
  details : Option Json

def parseErrorEnvelope (isZero : Text → Bool) (payload : Json) : Envelope :=
  match payload with
  | .object _ =>
      match payload.get? "error" with
      | some (.object members) =>
          let err := Json.object members
          { code := asText (err.get? "code")
            message := firstText isZero [err.get? "message", err.get? "detail"]
            details :=
              match err.get? "details" with
              | some (.object members) => some (.object members)
              | _ => none }
      | _ =>
          { code := asText (payload.get? "code")
            message := firstText isZero [payload.get? "message", payload.get? "detail"]
            details := none }
  | _ => { code := none, message := [], details := none }

def describeEnvelope (status : Text) (envelope : Envelope) : Text :=
  let code :=
    match envelope.code with
    | some code => if code = [] then [] else [text "code=" ++ code]
    | none => []
  let reason :=
    match envelope.details.bind (fun details => asText (details.get? "reason")) with
    | some reason => [text "reason=" ++ reason]
    | none => []
  let message :=
    if envelope.message = [] then [] else [text "message=" ++ envelope.message.take 120]
  (text " ").intercalate ([status] ++ code ++ reason ++ message)

/-- `_describe_cp_error`. Every `ValueError` of the decoder is caught. -/
def describeCpError (platform : Platform) (response : Response) : Except PyError Text :=
  let status := text "status=" ++ natText response.statusCode
  match loads platform.depth response.content with
  | .error .tooDeep => .error .recursionError
  | .error _ => .ok status
  | .ok payload => .ok (describeEnvelope status (parseErrorEnvelope platform.isZero payload))

/-! ### The POST -/

inductive Action where
  | sent (request : Request)
  | slept (delay : PyFloat)
  | warned (message : Text)

structure Posted where
  actions : List Action
  outcome : Except PyError Unit

def retryable (status : Nat) : Bool :=
  [429, 502, 503, 504].contains status

def isSuccess (status : Nat) : Bool :=
  200 ≤ status && status ≤ 299

/-- `min(delay, 30.0)`. -/
def capDelay (delay : PyFloat) : PyFloat :=
  if (PyFloat.finite 30).lt delay then .finite 30 else delay

/-- `url.rstrip("/") + path`, the signature when a secret is set, and the extra headers. -/
def buildRequest (platform : Platform) (settings : CpSettings) (path : Text) (body : Bytes)
    (extraHeaders : Headers) : Request :=
  let base := (settings.controlPlaneUrl.reverse.dropWhile (fun point => point = 47)).reverse
  let plain : Headers := [(text "Content-Type", text "application/json")]
  let signed :=
    if settings.controlPlaneHmacSecret = "" then plain
    else insert plain (text "X-ACDP-Signature") (sign platform settings.controlPlaneHmacSecret body)
  { url := base ++ path
    content := body
    headers := extraHeaders.foldl (fun table header => insert table header.1 header.2) signed }

/-- The last response is logged unless it is a success. -/
def conclude (platform : Platform) (path : Text) (actions : List Action) (response : Response) :
    Posted :=
  if isSuccess response.statusCode then { actions := actions, outcome := .ok () }
  else
    match describeCpError platform response with
    | .error failure => { actions := actions, outcome := .error failure }
    | .ok description =>
        { actions :=
            actions ++ [.warned (text "control-plane " ++ path ++ text " -> " ++ description)]
          outcome := .ok () }

/-- The answer to a request; an error of the transport is logged. -/
def receive (path : Text) (actions : List Action) (answer : Answer)
    (next : Response → Posted) : Posted :=
  match answer with
  | .httpError message =>
      { actions :=
          actions ++ [.warned (text "control-plane " ++ path ++ text " failed: " ++ message)]
        outcome := .ok () }
  | .response response => next response

def post (platform : Platform) (settings : CpSettings) (path : Text) (body : Bytes)
    (extraHeaders : Headers) (first second : Answer) (now : PyFloat) : Posted :=
  if settings.controlPlaneUrl = [] then { actions := [], outcome := .ok () }
  else
    let request := buildRequest platform settings path body extraHeaders
    match platform.refused request with
    | some failure => { actions := [], outcome := .error failure }
    | none =>
        receive path [.sent request] first fun response =>
          if retryable response.statusCode then
            match parseRetryAfter platform.toClockwork response.retryAfter now with
            | .error failure => { actions := [.sent request], outcome := .error failure }
            | .ok none => conclude platform path [.sent request] response
            | .ok (some delay) =>
                let again := [.sent request, .slept (capDelay delay), .sent request]
                receive path again second (conclude platform path again)
          else conclude platform path [.sent request] response

/-! ### Forwarding -/

def carriedHeaders : List (String × String) :=
  [("x-acdp-event", "X-ACDP-Event"), ("x-acdp-event-id", "X-ACDP-Event-Id"),
    ("x-run-id", "X-Run-Id")]

/-- A truthy value of `lower.get(name)`; names are in lower case. -/
def headerText (headers : Headers) (name : String) : Option Text :=
  (headers.lookup (text name)).filter (fun value => value ≠ [])

/-- The extra headers of `forward_webhook`; the reserved tenant raises. -/
def forwardHeaders (headers : Headers) (tenantId : Option Text) : Option Headers :=
  let carried := carriedHeaders.filterMap (fun header =>
    (headerText headers header.1).map (fun value => (text header.2, value)))
  match (tenantId.filter (fun tenant => tenant ≠ [])).or (headerText headers "x-tenant-id") with
  | none => some carried
  | some tenant =>
      if tenant = text "default" then none else some (carried ++ [(text "X-Tenant-Id", tenant)])

/-- The request that `forward_webhook` has built, when it has one. -/
def forwardWebhook (platform : Platform) (settings : CpSettings) (rawBody : Bytes)
    (headers : Headers) (tenantId : Option Text) : Option Request :=
  if settings.controlPlaneUrl = [] then none
  else
    (forwardHeaders headers tenantId).map
      (buildRequest platform settings (text "/ingest/acdp") rawBody)

/-! ### What a call promises -/

def sends (actions : List Action) : List Request :=
  actions.filterMap fun
    | .sent request => some request
    | _ => none

/-- A second request goes out only after an accepted `Retry-After`, unchanged, and after a
wait of at most half a minute. -/
def RetryLaw (platform : Platform) (first : Answer) (now : PyFloat) (actions : List Action) :
    Prop :=
  ∀ one two, sends actions = [one, two] →
    two = one ∧ ∃ response delay wait, first = .response response ∧
      retryable response.statusCode = true ∧
      parseRetryAfter platform.toClockwork response.retryAfter now = .ok (some delay) ∧
      [.sent one, .slept (.finite wait), .sent two] <+: actions ∧ 0 ≤ wait ∧ wait ≤ 30

/-- The call returns, after at most two requests. -/
structure PostLaw (platform : Platform) (first : Answer) (now : PyFloat) (posted : Posted) :
    Prop where
  returns : posted.outcome = .ok ()
  atMostTwo : (sends posted.actions).length ≤ 2
  retried : RetryLaw platform first now posted.actions

def lastResponse (first second : Answer) : Option Response :=
  match first with
  | .httpError _ => none
  | .response response =>
      if retryable response.statusCode && namesDelay response.retryAfter then
        match second with
        | .httpError _ => none
        | .response later => some later
      else some response

/-- A retryable response has a readable header, and the body of a last response that is no
success is not nested too deep for the decoder. -/
def ExchangeReadable (platform : Platform) (settings : CpSettings) (first second : Answer) :
    Prop :=
  settings.controlPlaneUrl ≠ [] →
    (∀ response, first = .response response → retryable response.statusCode = true →
      HeaderReadable platform.zone response.retryAfter) ∧
    ∀ response ∈ lastResponse first second, isSuccess response.statusCode = false →
      loads platform.depth response.content ≠ .error .tooDeep

/-- The client can build the request. -/
def Buildable (platform : Platform) (settings : CpSettings) (path : Text) (body : Bytes)
    (extraHeaders : Headers) : Prop :=
  settings.controlPlaneUrl ≠ [] →
    platform.refused (buildRequest platform settings path body extraHeaders) = none

theorem capDelay_bounds {delay : PyFloat} (nonneg : delay.nonneg = true) :
    ∃ wait, capDelay delay = .finite wait ∧ 0 ≤ wait ∧ wait ≤ 30 := by
  unfold capDelay
  cases delay with
  | nan => cases nonneg
  | infinite negative =>
      cases negative with
      | true => cases nonneg
      | false => exact ⟨30, rfl, by decide +kernel, le_refl _⟩
  | finite value =>
      simp only [PyFloat.nonneg, decide_eq_true_eq] at nonneg
      split
      · exact ⟨30, rfl, by decide +kernel, le_refl _⟩
      · next short =>
          simp only [PyFloat.lt, decide_eq_true_eq, not_lt] at short
          exact ⟨value, rfl, nonneg, short⟩

theorem describeCpError_raises (platform : Platform) (response : Response) :
    (∃ description, describeCpError platform response = .ok description) ↔
      loads platform.depth response.content ≠ .error .tooDeep := by
  unfold describeCpError
  cases loaded : loads platform.depth response.content with
  | ok payload => simp
  | error failure => cases failure <;> simp

theorem sends_conclude (platform : Platform) (path : Text) (actions : List Action)
    (response : Response) :
    sends (conclude platform path actions response).actions = sends actions := by
  unfold conclude
  split
  · rfl
  · split
    · rfl
    · simp [sends]

theorem conclude_extends (platform : Platform) (path : Text) (actions : List Action)
    (response : Response) : actions <+: (conclude platform path actions response).actions := by
  unfold conclude
  split
  · exact List.prefix_refl _
  · split
    · exact List.prefix_refl _
    · exact List.prefix_append _ _

theorem conclude_returns_iff (platform : Platform) (path : Text) (actions : List Action)
    (response : Response) :
    (conclude platform path actions response).outcome = .ok () ↔
      (isSuccess response.statusCode = false →
        loads platform.depth response.content ≠ .error .tooDeep) := by
  rw [← describeCpError_raises]
  unfold conclude
  cases success : isSuccess response.statusCode with
  | true => simp
  | false =>
      cases described : describeCpError platform response <;> simp

theorem retryLaw_of_single {platform : Platform} {first : Answer} {now : PyFloat}
    {actions : List Action} {request : Request} (single : sends actions = [request]) :
    RetryLaw platform first now actions := by
  intro one two double
  rw [single] at double
  cases double

theorem postLaw_conclude_iff {platform : Platform} {first : Answer} {now : PyFloat} {path : Text}
    {actions : List Action} {response : Response} (few : (sends actions).length ≤ 2)
    (lawful : RetryLaw platform first now (conclude platform path actions response).actions) :
    PostLaw platform first now (conclude platform path actions response) ↔
      (isSuccess response.statusCode = false →
        loads platform.depth response.content ≠ .error .tooDeep) := by
  rw [← conclude_returns_iff platform path actions]
  constructor
  · exact PostLaw.returns
  · intro returned
    exact ⟨returned, by rw [sends_conclude]; exact few, lawful⟩

/-- The two requests of a retry, and whatever is logged behind them. -/
theorem retryLaw_again {platform : Platform} {response : Response} {delay now : PyFloat}
    {request : Request} {actions : List Action}
    (status : retryable response.statusCode = true)
    (parsed : parseRetryAfter platform.toClockwork response.retryAfter now = .ok (some delay))
    (twice : sends actions = [request, request])
    (begins : [.sent request, .slept (capDelay delay), .sent request] <+: actions) :
    RetryLaw platform (.response response) now actions := by
  intro one two double
  rw [twice] at double
  cases double
  obtain ⟨wait, capped, low, high⟩ := capDelay_bounds ((parseRetryAfter_ok parsed).2 delay rfl)
  rw [capped] at begins
  exact ⟨rfl, response, delay, wait, rfl, status, parsed, begins, low, high⟩

theorem post_response_iff (platform : Platform) (settings : CpSettings) (path : Text) (body : Bytes)
    (extraHeaders : Headers) (response : Response) (second : Answer) (now : PyFloat)
    (enabled : settings.controlPlaneUrl ≠ [])
    (buildable : platform.refused (buildRequest platform settings path body extraHeaders) = none) :
    PostLaw platform (.response response) now
        (post platform settings path body extraHeaders (.response response) second now) ↔
      (retryable response.statusCode = true →
        HeaderReadable platform.zone response.retryAfter) ∧
      ∀ last ∈ lastResponse (.response response) second, isSuccess last.statusCode = false →
        loads platform.depth last.content ≠ .error .tooDeep := by
  simp only [post, if_neg enabled, buildable, receive, lastResponse]
  cases status : retryable response.statusCode with
  | false =>
      simp only [Bool.false_eq_true, if_false, Bool.false_and, Option.mem_def, Option.some.injEq,
        forall_eq', false_implies, true_and]
      apply postLaw_conclude_iff
      · exact Nat.le_succ 1
      · exact retryLaw_of_single (sends_conclude platform path _ response)
  | true =>
      simp only [if_true, Bool.true_and, true_implies]
      cases parsed : parseRetryAfter platform.toClockwork response.retryAfter now with
      | error failure =>
          constructor
          · intro lawful
            cases lawful.returns
          · intro readable
            exact absurd readable.1 (not_headerReadable_of_error parsed)
      | ok delay =>
          have readable : HeaderReadable platform.zone response.retryAfter :=
            headerReadable_of_ok parsed
          have named := (parseRetryAfter_ok parsed).1
          rw [← named]
          cases delay with
          | none =>
              simp only [Option.isSome_none, Bool.false_eq_true, if_false, Option.mem_def,
                Option.some.injEq, forall_eq', readable, true_and]
              apply postLaw_conclude_iff
              · exact Nat.le_succ 1
              · exact retryLaw_of_single (sends_conclude platform path _ response)
          | some delay =>
              simp only [Option.isSome_some, if_true, readable, true_and]
              cases second with
              | httpError message =>
                  simp only [Option.mem_def, reduceCtorEq, false_implies, implies_true, iff_true]
                  refine ⟨rfl, Nat.le_refl 2, ?_⟩
                  exact retryLaw_again status parsed rfl (List.prefix_append _ _)
              | response later =>
                  simp only [Option.mem_def, Option.some.injEq, forall_eq']
                  apply postLaw_conclude_iff
                  · exact Nat.le_refl 2
                  · exact retryLaw_again status parsed (sends_conclude platform path _ later)
                      (conclude_extends platform path _ later)

theorem post_law_iff (platform : Platform) (settings : CpSettings) (path : Text) (body : Bytes)
    (extraHeaders : Headers) (first second : Answer) (now : PyFloat) :
    PostLaw platform first now (post platform settings path body extraHeaders first second now) ↔
      Buildable platform settings path body extraHeaders ∧
        ExchangeReadable platform settings first second := by
  by_cases enabled : settings.controlPlaneUrl = []
  · simp only [post, Buildable, ExchangeReadable, enabled, ne_eq, not_true, false_implies,
      and_true, iff_true]
    refine ⟨rfl, Nat.zero_le 2, ?_⟩
    intro one two double
    cases double
  · cases buildable : platform.refused (buildRequest platform settings path body extraHeaders) with
    | some failure =>
        simp only [post, if_neg enabled, buildable, Buildable]
        refine iff_of_false ?_ ?_
        · intro lawful
          cases lawful.returns
        · intro both
          cases both.1 enabled
    | none =>
        have able : Buildable platform settings path body extraHeaders := fun _ => buildable
        rw [and_iff_right able]
        simp only [ExchangeReadable, ne_eq, enabled, not_false_eq_true, true_implies]
        cases first with
        | httpError message =>
            simp only [post, if_neg enabled, buildable, receive, lastResponse, reduceCtorEq,
              false_implies, implies_true, Option.mem_def, true_and, iff_true]
            refine ⟨rfl, Nat.le_succ 1, ?_⟩
            exact retryLaw_of_single rfl
        | response response =>
            rw [post_response_iff platform settings path body extraHeaders response second now
              enabled buildable]
            simp only [Answer.response.injEq, forall_eq']

/-- The bridge keeps its word exactly on the headers and bodies it can read, once its own
request can be built. -/
theorem bridge_safe_iff_readable (platform : Platform) :
    (∀ value now, ParsesSafely platform.toClockwork value now ↔
      HeaderReadable platform.zone value) ∧
    ∀ settings path body extraHeaders first second now,
      PostLaw platform first now (post platform settings path body extraHeaders first second now) ↔
        Buildable platform settings path body extraHeaders ∧
          ExchangeReadable platform settings first second := by
  constructor
  · intro value now
    exact parsesSafely_iff platform.toClockwork value now
  · intro settings path body extraHeaders first second now
    exact post_law_iff platform settings path body extraHeaders first second now

/-- A process at UTC; whole seconds are not rounded, and a request without a secret is not
signed. -/
def utcPlatform : Platform where
  rounding := ⟨.finite, fun _ nonneg => decide_eq_true nonneg⟩
  zone := fun _ => 0
  hmacSha256 := fun _ _ => []
  depth := 1000
  isZero := fun literal => literal = text "0.0"
  refused := fun request =>
    if request.headers.all (fun header => header.2.all (fun point => point < 128)) then none
    else some .valueError

/-- `Retry-After: ²` is a digit to `isdigit` and no number to `float`. -/
theorem superscript_header_breaks_post :
    ¬PostLaw utcPlatform
      (.response { statusCode := 429, retryAfter := some (text "²"), content := [] }) (.finite 0)
      (post utcPlatform
        { controlPlaneUrl := text "http://localhost:3100", controlPlaneHmacSecret := "" }
        (text "/runs/started") (text "\x7b\x7d") []
        (.response { statusCode := 429, retryAfter := some (text "²"), content := [] })
        (.response { statusCode := 200, retryAfter := none, content := [] }) (.finite 0)) := by
  intro lawful
  cases lawful.returns

end AcdpPlayground.Bridge

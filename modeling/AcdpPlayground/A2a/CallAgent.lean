/-
`call_agent` of `a2a/acdp_a2a_demo/client.py` over the transport that tampers with what the
agent answers.

The A2A client library is a parameter: what one of its calls sends next may depend on every
reply before, and it may raise at any point. So are the agent, with the inner transport, and
the failures of httpx. Headers stand for what `Headers.items` lists; the body of a rewritten
answer is given by the document that `json.dumps` writes.
-/

import AcdpPlayground.A2a.Tampering
import AcdpPlayground.Foundation.TextMethods

namespace AcdpPlayground.A2a

open PythonText JsonValue JsonPath TextEncoding

/-! ### The transport -/

structure HttpRequest where
  method : Text
  url : Text
  content : Bytes

structure AgentResponse where
  status : Nat
  headers : List (Text × Text)
  body : Except Text Bytes

/-- The body of a new response: given bytes, or what `json.dumps` writes. -/
inductive Content where
  | bytes (raw : Bytes)
  | dumps (doc : Json)

inductive Delivery where
  /-- The response of the agent itself. -/
  | passed (response : AgentResponse)
  /-- `httpx.Response(status, headers=headers, content=content)`. -/
  | built (status : Nat) (headers : List (Text × Text)) (content : Content)

inductive TransportError where
  | python (error : TamperError)
  | httpx (failure : Text)

structure TamperPlatform where
  isZero : Text → Bool
  /-- Levels of nesting that are left to `json.loads`, the search and `json.dumps`. -/
  depth : Nat
  levels : Nat
  dumpDepth : Nat
  /-- The failure of building a response, if it fails. -/
  refuses : Nat → List (Text × Text) → Content → Option Text

/-- A request, and what the inner transport returns or raises for it. -/
structure Asked where
  request : HttpRequest
  answer : Except Text AgentResponse

/-- A transport with its counter `rewrites`. -/
abbrev Transport :=
  Nat → Asked → Except TransportError Delivery × Nat

def withoutContentLength (headers : List (Text × Text)) : List (Text × Text) :=
  headers.filter (fun header => TextMethods.lower header.1 ≠ text "content-length")

def isWritable : Nat → Json → Bool
  | 0, .array _ | 0, .object _ => false
  | levels + 1, .array items => items.all (isWritable levels)
  | levels + 1, .object members => members.all (fun member => isWritable levels member.2)
  | _, _ => true

def buildResponse (platform : TamperPlatform) (status : Nat) (headers : List (Text × Text))
    (content : Content) : Except TransportError Delivery :=
  match platform.refuses status headers content with
  | some failure => .error (.httpx failure)
  | none => .ok (.built status headers content)

/-- The lines of `handle_async_request` behind `aread`. -/
def rewriteAnswer (platform : TamperPlatform) (rewrites : Nat) (response : AgentResponse)
    (raw : Bytes) : Except TransportError Delivery × Nat :=
  match loads platform.depth raw with
  | .error .tooDeep => (.error (.python .recursionError), rewrites)
  | .error _ => (buildResponse platform response.status response.headers (.bytes raw), rewrites)
  | .ok doc =>
      match tamperFirstTextPart platform.isZero platform.levels doc with
      | (.error error, _) => (.error (.python error), rewrites)
      | (.ok true, changed) =>
          if isWritable platform.dumpDepth changed then
            (buildResponse platform response.status (withoutContentLength response.headers)
              (.dumps changed), rewrites + 1)
          else (.error (.python .recursionError), rewrites + 1)
      | (.ok false, _) =>
          (buildResponse platform response.status (withoutContentLength response.headers)
            (.bytes raw), rewrites)

def handleAsyncRequest (platform : TamperPlatform) : Transport := fun rewrites asked =>
  match asked.answer with
  | .error failure => (.error (.httpx failure), rewrites)
  | .ok response =>
      if asked.request.method ≠ text "POST" then (.ok (.passed response), rewrites)
      else
        match response.body with
        | .error failure => (.error (.httpx failure), rewrites)
        | .ok raw => rewriteAnswer platform rewrites response raw

def plainTransport : Transport := fun rewrites asked =>
  match asked.answer with
  | .error failure => (.error (.httpx failure), rewrites)
  | .ok response => (.ok (.passed response), rewrites)

/-! ### Code that sends requests -/

/-- What a call of the library does, as far as the transport is concerned. -/
inductive Talk (Failure Value : Type) where
  | returned (value : Value)
  | raised (failure : Failure)
  | send (request : HttpRequest) (next : Except TransportError Delivery → Talk Failure Value)

structure Exchanged where
  asked : Asked
  reply : Except TransportError Delivery

structure Wire where
  rewrites : Nat
  log : List Exchanged

namespace Talk

variable {Failure Other First Value : Type}

def bind : Talk Failure First → (First → Talk Failure Value) → Talk Failure Value
  | .returned value, next => next value
  | .raised failure, _ => .raised failure
  | .send request after, next => .send request (fun reply => (after reply).bind next)

instance : Monad (Talk Failure) where
  pure := .returned
  bind := bind

def wrap (failed : Failure → Other) : Talk Failure Value → Talk Other Value
  | .returned value => .returned value
  | .raised failure => .raised (failed failure)
  | .send request next => .send request (fun reply => (next reply).wrap failed)

end Talk

def Wire.fresh : Wire :=
  { rewrites := 0
    log := [] }

def Wire.exchange (transport : Transport) (agent : List Exchanged → HttpRequest →
    Except Text AgentResponse) (wire : Wire) (request : HttpRequest) :
    Except TransportError Delivery × Wire :=
  let asked : Asked :=
    { request := request
      answer := agent wire.log request }
  let handled := transport wire.rewrites asked
  (handled.1, { rewrites := handled.2, log := wire.log ++ [⟨asked, handled.1⟩] })

/-- What the agent answers may depend on everything before. -/
def Talk.run {Failure Value : Type} (transport : Transport)
    (agent : List Exchanged → HttpRequest → Except Text AgentResponse) :
    Talk Failure Value → Wire → Except Failure Value × Wire
  | .returned value, wire => (.ok value, wire)
  | .raised failure, wire => (.error failure, wire)
  | .send request next, wire =>
      let received := wire.exchange transport agent request
      (next received.1).run transport agent received.2

/-! ### The call -/

inductive TaskState where
  | unspecified
  | submitted
  | working
  | completed
  | failed
  | canceled
  | inputRequired
  | rejected
  | authRequired

/-- `TERMINAL`. -/
def TaskState.isTerminal : TaskState → Bool
  | .completed | .failed | .canceled | .rejected => true
  | .unspecified | .submitted | .working | .inputRequired | .authRequired => false

structure UserMessage where
  messageId : Text
  parts : List Text
  metadata : List (Text × List Text)

/-- The calls of the `a2a` package; `sendMessage` gives the task of each response, if it has
one. -/
structure A2aLibrary (Card Client Task : Type) where
  getAgentCard : Text → Talk Text Card
  createClient : Card → Talk Text Client
  sendMessage : Client → UserMessage → Talk Text (List (Option Task))
  getTask : Client → Text → Talk Text Task
  taskId : Task → Text
  state : Task → TaskState

inductive CallError where
  | library (failure : Text)
  /-- `RuntimeError("the agent answered with a Message, not a Task")`. -/
  | answeredWithMessage
  /-- `RuntimeError("tamper requested but no response carried a text part")`. -/
  | nothingTampered

def inputsKey : Text :=
  text "io.agentcontextdistributionprotocol/inputs"

def userMessage (messageId given : Text) (inputs : List Text) : UserMessage :=
  { messageId := messageId
    parts := [given]
    metadata := if inputs.isEmpty then [] else [(inputsKey, inputs)] }

section Call

variable {Card Client Task : Type} (library : A2aLibrary Card Client Task)

/-- `call_agent` up to its last check. -/
def askAgent (agentUrl messageId given : Text) (inputs : List Text) :
    Talk CallError (Card × Task) := do
  let card ← (library.getAgentCard agentUrl).wrap .library
  let client ← (library.createClient card).wrap .library
  let responses ← (library.sendMessage client (userMessage messageId given inputs)).wrap .library
  match (responses.filterMap id).getLast? with
  | none => .raised .answeredWithMessage
  | some task =>
      if (library.state task).isTerminal then
        return (card, task)
      else
        let later ← (library.getTask client (library.taskId task)).wrap .library
        return (card, later)

/-- The check that a response was tampered with, for a call that got so far. -/
def checkRewrites (tamper : Bool) :
    Except CallError (Card × Task) × Wire → Except CallError (Card × Task) × Wire
  | (.error error, wire) => (.error error, wire)
  | (.ok exchange, wire) =>
      if tamper && wire.rewrites == 0 then (.error .nothingTampered, wire)
      else (.ok exchange, wire)

def callAgent (platform : TamperPlatform)
    (agent : List Exchanged → HttpRequest → Except Text AgentResponse) (tamper : Bool)
    (agentUrl messageId given : Text) (inputs : List Text) :
    Except CallError (Card × Task) × Wire :=
  let transport := if tamper then handleAsyncRequest platform else plainTransport
  checkRewrites tamper ((askAgent library agentUrl messageId given inputs).run transport agent .fresh)

end Call

/-! ### What the transport does with an answer -/

/-- The bytes of the answer to a POST. -/
structure Carries (platform : TamperPlatform) (asked : Asked) (response : AgentResponse)
    (raw : Bytes) : Prop where
  isPost : asked.request.method = text "POST"
  answered : asked.answer = .ok response
  read : response.body = .ok raw

/-- The first text that the search meets in the answer, before anything it cannot go through. -/
def Found (platform : TamperPlatform) (asked : Asked) (path : List PathStep) : Prop :=
  ∃ response raw doc, Carries platform asked response raw ∧ loads platform.depth raw = .ok doc ∧
    (documentMets platform.isZero platform.levels doc).head? = some (.ok path)

/-- What the transport builds a response from. -/
inductive Builds (platform : TamperPlatform) (asked : Asked) :
    Nat → List (Text × Text) → Content → Prop
  | unreadable {response : AgentResponse} {raw : Bytes} {failure : LoadFailure}
      (carries : Carries platform asked response raw)
      (failed : loads platform.depth raw = .error failure) (isValueError : failure ≠ .tooDeep) :
      Builds platform asked response.status response.headers (.bytes raw)
  | untouched {response : AgentResponse} {raw : Bytes} {doc : Json}
      (carries : Carries platform asked response raw) (loaded : loads platform.depth raw = .ok doc)
      (nothing : documentMets platform.isZero platform.levels doc = []) :
      Builds platform asked response.status (withoutContentLength response.headers) (.bytes raw)
  | tampered {response : AgentResponse} {raw : Bytes} {doc : Json} {path : List PathStep}
      (carries : Carries platform asked response raw) (loaded : loads platform.depth raw = .ok doc)
      (met : (documentMets platform.isZero platform.levels doc).head? = some (.ok path))
      (writable : isWritable platform.dumpDepth
        (tamperFirstTextPart platform.isZero platform.levels doc).2 = true) :
      Builds platform asked response.status (withoutContentLength response.headers)
        (.dumps (tamperFirstTextPart platform.isZero platform.levels doc).2)

/-- When the transport raises. -/
inductive Raises (platform : TamperPlatform) (asked : Asked) : TransportError → Prop
  | inner {failure : Text} (failed : asked.answer = .error failure) :
      Raises platform asked (.httpx failure)
  | body {response : AgentResponse} {failure : Text}
      (isPost : asked.request.method = text "POST") (answered : asked.answer = .ok response)
      (failed : response.body = .error failure) : Raises platform asked (.httpx failure)
  | nested {response : AgentResponse} {raw : Bytes} (carries : Carries platform asked response raw)
      (failed : loads platform.depth raw = .error .tooDeep) :
      Raises platform asked (.python .recursionError)
  | obstacle {response : AgentResponse} {raw : Bytes} {doc : Json} {error : TamperError}
      (carries : Carries platform asked response raw) (loaded : loads platform.depth raw = .ok doc)
      (met : (documentMets platform.isZero platform.levels doc).head? = some (.error error)) :
      Raises platform asked (.python error)
  | unwritable {response : AgentResponse} {raw : Bytes} {doc : Json} {path : List PathStep}
      (carries : Carries platform asked response raw) (loaded : loads platform.depth raw = .ok doc)
      (met : (documentMets platform.isZero platform.levels doc).head? = some (.ok path))
      (tooDeep : isWritable platform.dumpDepth
        (tamperFirstTextPart platform.isZero platform.levels doc).2 = false) :
      Raises platform asked (.python .recursionError)
  | refused {status : Nat} {headers : List (Text × Text)} {content : Content} {failure : Text}
      (builds : Builds platform asked status headers content)
      (refuses : platform.refuses status headers content = some failure) :
      Raises platform asked (.httpx failure)

/-- What reaches the client. -/
inductive Relayed (platform : TamperPlatform) (asked : Asked) : Delivery → Prop
  | passed {response : AgentResponse} (notPost : asked.request.method ≠ text "POST")
      (answered : asked.answer = .ok response) : Relayed platform asked (.passed response)
  /-- The bytes of the agent, which are no JSON or have no text in an artifact. -/
  | kept {response : AgentResponse} {raw : Bytes} {headers : List (Text × Text)}
      (carries : Carries platform asked response raw)
      (given : headers.Sublist response.headers)
      (nowhere : ∀ doc, loads platform.depth raw = .ok doc →
        ∀ path value, AnyPart path → valueAt doc path ≠ some (.string value)) :
      Relayed platform asked (.built response.status headers (.bytes raw))
  /-- The document of the agent with one text edited. -/
  | edited {response : AgentResponse} {raw : Bytes} {doc changed : Json} {path : List PathStep}
      {value : Text} (carries : Carries platform asked response raw)
      (loaded : loads platform.depth raw = .ok doc) (found : Found platform asked path)
      (place : AnyPart path)
      (change : ChangedAt path doc changed (.string value) (.string (editedText value))) :
      Relayed platform asked (.built response.status (withoutContentLength response.headers)
        (.dumps changed))

structure Relays (platform : TamperPlatform) (asked : Asked)
    (reply : Except TransportError Delivery) : Prop where
  raises : ∀ error, reply = .error error ↔ Raises platform asked error
  relays : ∀ delivery, reply = .ok delivery → Relayed platform asked delivery

section Reply

variable {platform : TamperPlatform} {asked : Asked} {response : AgentResponse} {raw : Bytes}
  {doc : Json}

theorem handleAsyncRequest_inner {failure : Text} (failed : asked.answer = .error failure)
    (rewrites : Nat) :
    handleAsyncRequest platform rewrites asked = (.error (.httpx failure), rewrites) := by
  unfold handleAsyncRequest
  rw [failed]

theorem handleAsyncRequest_passed (notPost : asked.request.method ≠ text "POST")
    (answered : asked.answer = .ok response) (rewrites : Nat) :
    handleAsyncRequest platform rewrites asked = (.ok (.passed response), rewrites) := by
  unfold handleAsyncRequest
  rw [answered]
  dsimp only
  rw [if_pos notPost]

theorem handleAsyncRequest_body {failure : Text} (isPost : asked.request.method = text "POST")
    (answered : asked.answer = .ok response) (failed : response.body = .error failure)
    (rewrites : Nat) :
    handleAsyncRequest platform rewrites asked = (.error (.httpx failure), rewrites) := by
  unfold handleAsyncRequest
  rw [answered]
  dsimp only
  rw [if_neg (not_not_intro isPost), failed]

theorem handleAsyncRequest_carries (carries : Carries platform asked response raw)
    (rewrites : Nat) :
    handleAsyncRequest platform rewrites asked = rewriteAnswer platform rewrites response raw := by
  unfold handleAsyncRequest
  rw [carries.answered]
  dsimp only
  rw [if_neg (not_not_intro carries.isPost), carries.read]

theorem rewriteAnswer_nested (failed : loads platform.depth raw = .error .tooDeep)
    (rewrites : Nat) :
    rewriteAnswer platform rewrites response raw =
      (.error (.python .recursionError), rewrites) := by
  unfold rewriteAnswer
  rw [failed]

theorem rewriteAnswer_malformed {failure : LoadFailure}
    (failed : loads platform.depth raw = .error failure) (isValueError : failure ≠ .tooDeep)
    (rewrites : Nat) :
    rewriteAnswer platform rewrites response raw =
      (buildResponse platform response.status response.headers (.bytes raw), rewrites) := by
  unfold rewriteAnswer
  rw [failed]
  cases failure with
  | tooDeep => exact (isValueError rfl).elim
  | undecodable | malformed | overlong => rfl

theorem search_eq (loaded : loads platform.depth raw = .ok doc) :
    tamperFirstTextPart platform.isZero platform.levels doc =
      (outcomeOf (documentMets platform.isZero platform.levels doc).head?,
        (tamperFirstTextPart platform.isZero platform.levels doc).2) :=
  Prod.ext (tamperFirstTextPart_searches platform.isZero platform.levels
    (loads_wellNamed loaded)).first rfl

theorem rewriteAnswer_obstacle {error : TamperError} (loaded : loads platform.depth raw = .ok doc)
    (met : (documentMets platform.isZero platform.levels doc).head? = some (.error error))
    (rewrites : Nat) :
    rewriteAnswer platform rewrites response raw = (.error (.python error), rewrites) := by
  unfold rewriteAnswer
  rw [loaded]
  dsimp only
  rw [search_eq loaded, met]
  rfl

theorem rewriteAnswer_untouched (loaded : loads platform.depth raw = .ok doc)
    (nothing : documentMets platform.isZero platform.levels doc = []) (rewrites : Nat) :
    rewriteAnswer platform rewrites response raw =
      (buildResponse platform response.status (withoutContentLength response.headers)
        (.bytes raw), rewrites) := by
  unfold rewriteAnswer
  rw [loaded]
  dsimp only
  rw [search_eq loaded, nothing]
  rfl

theorem rewriteAnswer_tampered {path : List PathStep}
    (loaded : loads platform.depth raw = .ok doc)
    (met : (documentMets platform.isZero platform.levels doc).head? = some (.ok path))
    (rewrites : Nat) :
    rewriteAnswer platform rewrites response raw =
      (if isWritable platform.dumpDepth
          (tamperFirstTextPart platform.isZero platform.levels doc).2 then
        buildResponse platform response.status (withoutContentLength response.headers)
          (.dumps (tamperFirstTextPart platform.isZero platform.levels doc).2)
      else .error (.python .recursionError), rewrites + 1) := by
  unfold rewriteAnswer
  rw [loaded]
  dsimp only
  rw [search_eq loaded, met]
  dsimp only [outcomeOf]
  split <;> rfl

/-- What is built is relayed, or httpx refuses it. -/
theorem builds_reply {status : Nat} {headers : List (Text × Text)} {content : Content}
    (builds : Builds platform asked status headers content) (rewrites : Nat) :
    (handleAsyncRequest platform rewrites asked).1 =
      buildResponse platform status headers content := by
  cases builds with
  | unreadable carries failed isValueError =>
      rw [handleAsyncRequest_carries carries, rewriteAnswer_malformed failed isValueError]
  | untouched carries loaded nothing =>
      rw [handleAsyncRequest_carries carries, rewriteAnswer_untouched loaded nothing]
  | tampered carries loaded met writable =>
      rw [handleAsyncRequest_carries carries, rewriteAnswer_tampered loaded met, writable]
      rfl

theorem raises_reply {error : TransportError} (raises : Raises platform asked error)
    (rewrites : Nat) : (handleAsyncRequest platform rewrites asked).1 = .error error := by
  cases raises with
  | inner failed => rw [handleAsyncRequest_inner failed]
  | body isPost answered failed => rw [handleAsyncRequest_body isPost answered failed]
  | nested carries failed =>
      rw [handleAsyncRequest_carries carries, rewriteAnswer_nested failed]
  | obstacle carries loaded met =>
      rw [handleAsyncRequest_carries carries, rewriteAnswer_obstacle loaded met]
  | unwritable carries loaded met tooDeep =>
      rw [handleAsyncRequest_carries carries, rewriteAnswer_tampered loaded met, tooDeep]
      rfl
  | refused builds refuses =>
      rw [builds_reply builds]
      unfold buildResponse
      rw [refuses]

theorem withoutContentLength_sublist (headers : List (Text × Text)) :
    (withoutContentLength headers).Sublist headers :=
  List.filter_sublist

theorem builds_relayed {status : Nat} {headers : List (Text × Text)} {content : Content}
    (builds : Builds platform asked status headers content) :
    Relayed platform asked (.built status headers content) := by
  cases builds with
  | unreadable carries failed isValueError =>
      refine .kept carries (List.Sublist.refl _) (fun doc loaded => ?_)
      rw [failed] at loaded
      cases loaded
  | untouched carries loaded nothing =>
      refine .kept carries (withoutContentLength_sublist _) (fun other again => ?_)
      rw [loaded] at again
      cases again
      exact (tamperFirstTextPart_searches _ _ (loads_wellNamed loaded)).missed nothing
  | @tampered response raw doc path carries loaded met _ =>
      have searches := tamperFirstTextPart_searches platform.isZero platform.levels
        (loads_wellNamed loaded)
      obtain ⟨place, value, change⟩ := searches.changed path met
      exact .edited carries loaded ⟨response, raw, doc, carries, loaded, met⟩ place change

/-- Every answer is built from, or is one of those at which the transport raises. -/
theorem handleAsyncRequest_settles (platform : TamperPlatform) (asked : Asked) :
    (∃ error, Raises platform asked error) ∨
      (∃ response, asked.request.method ≠ text "POST" ∧ asked.answer = .ok response) ∨
      ∃ status headers content, Builds platform asked status headers content := by
  cases answered : asked.answer with
  | error failure => exact .inl ⟨_, .inner answered⟩
  | ok response =>
      by_cases isPost : asked.request.method = text "POST"
      · cases read : response.body with
        | error failure => exact .inl ⟨_, .body isPost answered read⟩
        | ok raw =>
            have carries : Carries platform asked response raw := ⟨isPost, answered, read⟩
            cases loaded : loads platform.depth raw with
            | error failure =>
                by_cases deep : failure = .tooDeep
                · rw [deep] at loaded
                  exact .inl ⟨_, .nested carries loaded⟩
                · exact .inr (.inr ⟨_, _, _, .unreadable carries loaded deep⟩)
            | ok doc =>
                rcases met : (documentMets platform.isZero platform.levels doc).head? with
                  _ | error | path
                · exact .inr (.inr ⟨_, _, _,
                    .untouched carries loaded (List.head?_eq_none_iff.mp met)⟩)
                · exact .inl ⟨_, .obstacle carries loaded met⟩
                · cases writable : isWritable platform.dumpDepth
                    (tamperFirstTextPart platform.isZero platform.levels doc).2 with
                  | true => exact .inr (.inr ⟨_, _, _, .tampered carries loaded met writable⟩)
                  | false => exact .inl ⟨_, .unwritable carries loaded met writable⟩
      · exact .inr (.inl ⟨response, isPost, rfl⟩)

theorem handleAsyncRequest_relays (platform : TamperPlatform) (rewrites : Nat) (asked : Asked) :
    Relays platform asked (handleAsyncRequest platform rewrites asked).1 := by
  rcases handleAsyncRequest_settles platform asked with
    ⟨error, raises⟩ | ⟨response, notPost, answered⟩ | ⟨status, headers, content, builds⟩
  · rw [raises_reply raises]
    constructor
    · intro other
      constructor
      · rintro ⟨⟩
        exact raises
      · intro again
        rw [← raises_reply raises rewrites, raises_reply again]
    · rintro delivery ⟨⟩
  · constructor
    · intro error
      refine ⟨fun failed => ?_, fun raises => raises_reply raises rewrites⟩
      rw [handleAsyncRequest_passed notPost answered] at failed
      cases failed
    · intro delivery replied
      rw [handleAsyncRequest_passed notPost answered] at replied
      cases replied
      exact .passed notPost answered
  · constructor
    · intro error
      refine ⟨fun failed => ?_, fun raises => raises_reply raises rewrites⟩
      rw [builds_reply builds] at failed
      unfold buildResponse at failed
      split at failed
      · next refuses =>
          cases failed
          exact .refused builds refuses
      · cases failed
    · intro delivery replied
      rw [builds_reply builds] at replied
      unfold buildResponse at replied
      split at replied
      · cases replied
      · cases replied
        exact builds_relayed builds

theorem counts_of_found {path : List PathStep} (found : Found platform asked path)
    (rewrites : Nat) : (handleAsyncRequest platform rewrites asked).2 = rewrites + 1 := by
  obtain ⟨response, raw, doc, carries, loaded, met⟩ := found
  rw [handleAsyncRequest_carries carries, rewriteAnswer_tampered loaded met]

theorem counts_of_builds {status : Nat} {headers : List (Text × Text)} {content : Content}
    (missed : ∀ path, ¬Found platform asked path)
    (builds : Builds platform asked status headers content) (rewrites : Nat) :
    (handleAsyncRequest platform rewrites asked).2 = rewrites := by
  cases builds with
  | unreadable carries failed isValueError =>
      rw [handleAsyncRequest_carries carries, rewriteAnswer_malformed failed isValueError]
  | untouched carries loaded nothing =>
      rw [handleAsyncRequest_carries carries, rewriteAnswer_untouched loaded nothing]
  | tampered carries loaded met _ => exact (missed _ ⟨_, _, _, carries, loaded, met⟩).elim

theorem counts_of_missed (missed : ∀ path, ¬Found platform asked path) (rewrites : Nat) :
    (handleAsyncRequest platform rewrites asked).2 = rewrites := by
  rcases handleAsyncRequest_settles platform asked with
    ⟨error, raises⟩ | ⟨response, notPost, answered⟩ | ⟨status, headers, content, builds⟩
  · cases raises with
    | inner failed => rw [handleAsyncRequest_inner failed]
    | body isPost answered failed => rw [handleAsyncRequest_body isPost answered failed]
    | nested carries failed =>
        rw [handleAsyncRequest_carries carries, rewriteAnswer_nested failed]
    | obstacle carries loaded met =>
        rw [handleAsyncRequest_carries carries, rewriteAnswer_obstacle loaded met]
    | unwritable carries loaded met _ => exact (missed _ ⟨_, _, _, carries, loaded, met⟩).elim
    | refused builds _ => exact counts_of_builds missed builds rewrites
  · rw [handleAsyncRequest_passed notPost answered]
  · exact counts_of_builds missed builds rewrites

end Reply

/-! ### What the call does -/

/-- The rule for facts about the wire that every exchange keeps. -/
theorem Talk.run_invariant {Failure Value : Type} {transport : Transport}
    {agent : List Exchanged → HttpRequest → Except Text AgentResponse} {invariant : Wire → Prop}
    (preserved : ∀ wire request, invariant wire →
      invariant (wire.exchange transport agent request).2)
    (talk : Talk Failure Value) {wire : Wire} (holds : invariant wire) :
    invariant (talk.run transport agent wire).2 := by
  induction talk generalizing wire with
  | returned value => exact holds
  | raised failure => exact holds
  | send request next ih => exact ih _ (preserved wire request holds)

def Talk.Fails {Failure Value : Type} (holds : Failure → Prop) : Talk Failure Value → Prop
  | .returned _ => True
  | .raised failure => holds failure
  | .send _ next => ∀ reply, (next reply).Fails holds

theorem Talk.fails_bind {Failure First Value : Type} {holds : Failure → Prop}
    {first : Talk Failure First} {next : First → Talk Failure Value}
    (here : first.Fails holds) (later : ∀ value, (next value).Fails holds) :
    (first >>= next).Fails holds := by
  induction first with
  | returned value => exact later value
  | raised failure => exact here
  | send request after ih => exact fun reply => ih reply (here reply)

theorem Talk.fails_wrap {Failure Other Value : Type} {holds : Other → Prop}
    {failed : Failure → Other} (always : ∀ failure, holds (failed failure))
    (talk : Talk Failure Value) : (talk.wrap failed).Fails holds := by
  induction talk with
  | returned value => trivial
  | raised failure => exact always failure
  | send request next ih => exact ih

theorem Talk.run_fails {Failure Value : Type} {holds : Failure → Prop} {transport : Transport}
    {agent : List Exchanged → HttpRequest → Except Text AgentResponse}
    {talk : Talk Failure Value} (fails : talk.Fails holds) {wire : Wire} {failure : Failure}
    (raised : (talk.run transport agent wire).1 = .error failure) : holds failure := by
  induction talk generalizing wire with
  | returned value => cases raised
  | raised other =>
      cases raised
      exact fails
  | send request next ih => exact ih _ (fails _) raised

section Call

variable {Card Client Task : Type} (library : A2aLibrary Card Client Task)

theorem askAgent_fails (agentUrl messageId given : Text) (inputs : List Text) :
    (askAgent library agentUrl messageId given inputs).Fails
      (fun error => error ≠ .nothingTampered) := by
  have wrapped : ∀ {Value : Type} (talk : Talk Text Value),
      (talk.wrap CallError.library).Fails (fun error => error ≠ .nothingTampered) := by
    intro Value talk
    refine Talk.fails_wrap (fun failure => ?_) talk
    rintro ⟨⟩
  unfold askAgent
  refine Talk.fails_bind (wrapped _) (fun card => ?_)
  refine Talk.fails_bind (wrapped _) (fun client => ?_)
  refine Talk.fails_bind (wrapped _) (fun responses => ?_)
  cases (responses.filterMap id).getLast? with
  | none => rintro ⟨⟩
  | some task =>
      dsimp only
      split
      · trivial
      · exact Talk.fails_bind (wrapped _) (fun later => trivial)

/-- What the wire of a tampering client has seen. -/
structure Tampered (platform : TamperPlatform) (wire : Wire) : Prop where
  relays : ∀ entry ∈ wire.log, Relays platform entry.asked entry.reply
  counted : wire.rewrites = 0 ↔ ∀ entry ∈ wire.log, ∀ path, ¬Found platform entry.asked path

theorem tampered_exchange {platform : TamperPlatform}
    {agent : List Exchanged → HttpRequest → Except Text AgentResponse} {wire : Wire}
    (tampered : Tampered platform wire) (request : HttpRequest) :
    Tampered platform (wire.exchange (handleAsyncRequest platform) agent request).2 := by
  have asked := handleAsyncRequest_relays platform wire.rewrites
    ⟨request, agent wire.log request⟩
  constructor
  · intro entry member
    rcases List.mem_append.mp member with before | new
    · exact tampered.relays entry before
    · rw [List.mem_singleton.mp new]
      exact asked
  · change (handleAsyncRequest platform wire.rewrites ⟨request, agent wire.log request⟩).2 = 0 ↔
      ∀ entry ∈ wire.log ++ [_], _
    rw [List.forall_mem_append, List.forall_mem_singleton]
    by_cases found : ∃ path, Found platform ⟨request, agent wire.log request⟩ path
    · obtain ⟨path, here⟩ := found
      rw [counts_of_found here]
      exact iff_of_false (Nat.succ_ne_zero _) (fun both => both.2 path here)
    · have missed := not_exists.mp found
      rw [counts_of_missed missed, tampered.counted]
      exact (and_iff_left missed).symm

/-- The client that asks the agent over the tampering transport, up to its last check. -/
def tamperedRun (platform : TamperPlatform)
    (agent : List Exchanged → HttpRequest → Except Text AgentResponse)
    (agentUrl messageId given : Text) (inputs : List Text) :
    Except CallError (Card × Task) × Wire :=
  (askAgent library agentUrl messageId given inputs).run (handleAsyncRequest platform) agent .fresh

/-- A call that tampers, whatever the library and the agent do. -/
structure CallTampered (platform : TamperPlatform)
    (reached ended : Except CallError (Card × Task) × Wire) : Prop where
  /-- Each answer is relayed, or the transport raises at it. -/
  relays : ∀ entry ∈ ended.2.log, Relays platform entry.asked entry.reply
  complains : ended.1 = .error .nothingTampered ↔ (∃ exchange, reached.1 = .ok exchange) ∧
    ∀ entry ∈ ended.2.log, ∀ path, ¬Found platform entry.asked path
  returns : ∀ exchange, ended.1 = .ok exchange ↔ reached.1 = .ok exchange ∧
    ∃ entry ∈ ended.2.log, ∃ path, Found platform entry.asked path
  ends : ∀ error, reached.1 = .error error → ended.1 = .error error

theorem checkRewrites_tampered {platform : TamperPlatform}
    {reached : Except CallError (Card × Task) × Wire} (tampered : Tampered platform reached.2)
    (raised : ∀ error, reached.1 = .error error → error ≠ .nothingTampered) :
    CallTampered platform reached (checkRewrites true reached) := by
  obtain ⟨result, wire⟩ := reached
  cases result with
  | error error =>
      refine ⟨tampered.relays, ?_, ?_, fun _ same => same⟩
      · refine iff_of_false (fun same => raised error rfl (Except.error.inj same)) ?_
        rintro ⟨⟨exchange, ⟨⟩⟩, _⟩
      · intro exchange
        refine iff_of_false ?_ ?_
        · rintro ⟨⟩
        · rintro ⟨⟨⟩, _⟩
  | ok exchange =>
      by_cases unchanged : wire.rewrites = 0
      · have complains : checkRewrites true (.ok exchange, wire) =
            (.error CallError.nothingTampered, wire) := if_pos (by simp [unchanged])
        have missed := tampered.counted.mp unchanged
        rw [complains]
        refine ⟨tampered.relays, iff_of_true rfl ⟨⟨exchange, rfl⟩, missed⟩, ?_, ?_⟩
        · intro other
          refine iff_of_false ?_ ?_
          · rintro ⟨⟩
          · rintro ⟨_, entry, member, path, found⟩
            exact missed entry member path found
        · rintro error ⟨⟩
      · have returns : checkRewrites true (.ok exchange, wire) = (.ok exchange, wire) :=
          if_neg (by simp [unchanged])
        rw [returns]
        refine ⟨tampered.relays, ?_, ?_, fun _ same => same⟩
        · refine iff_of_false ?_ ?_
          · rintro ⟨⟩
          · rintro ⟨_, missed⟩
            exact unchanged (tampered.counted.mpr missed)
        · intro other
          refine (and_iff_left ?_).symm
          by_contra none
          refine unchanged (tampered.counted.mpr (fun entry member path found => ?_))
          exact none ⟨entry, member, path, found⟩

theorem exchange_tampered (platform : TamperPlatform)
    (agent : List Exchanged → HttpRequest → Except Text AgentResponse)
    (agentUrl messageId given : Text) (inputs : List Text) :
    CallTampered platform (tamperedRun library platform agent agentUrl messageId given inputs)
      (callAgent library platform agent true agentUrl messageId given inputs) := by
  have start : Tampered platform Wire.fresh :=
    ⟨fun _ absent => (List.not_mem_nil absent).elim,
      iff_of_true rfl (fun _ absent => (List.not_mem_nil absent).elim)⟩
  have step : ∀ (wire : Wire) (request : HttpRequest), Tampered platform wire →
      Tampered platform (wire.exchange (handleAsyncRequest platform) agent request).2 :=
    fun _ request holds => tampered_exchange holds request
  exact checkRewrites_tampered (Talk.run_invariant step _ start)
    (fun _ failed => Talk.run_fails (askAgent_fails library agentUrl messageId given inputs) failed)

end Call

end AcdpPlayground.A2a

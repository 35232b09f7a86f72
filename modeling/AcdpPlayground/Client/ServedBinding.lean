/-
The retrieval routes of `AcdpClient` and the binding of what they serve to what was
asked for. Each operation is given the registry's 2xx answer, an arbitrary decoded
payload, together with the URL it was asked at; sending, retrying and error statuses come
before that.

The comparison itself is `AcdpVerifier.verify_ctx_id_binding` of the SDK, called on
`json.dumps(body)`. It is a parameter with two refusals, a `ValueError` and a
`RuntimeError`. `lineage` iterates over whatever the payload is; a value that Python
cannot iterate would be a third kind of failure.
-/

import AcdpPlayground.Client.WireModels

namespace AcdpPlayground.Client

open PythonText JsonValue

/-! ### The SDK -/

inductive BindingVerdict where
  | bound
  | valueError (message : Text)
  | runtimeError (message : Text)

/-- `deserialises` is the SDK's `Body` schema and `parses` is `CtxId::parse`. -/
structure AcdpVerifier where
  deserialises : Json → Bool
  parses : Text → Bool
  verifyCtxIdBinding : Json → Text → BindingVerdict

def AcdpVerifier.BindsExactly (verifier : AcdpVerifier) : Prop :=
  ∀ body expected, verifier.verifyCtxIdBinding body expected = .bound ↔
    verifier.deserialises body = true ∧
      ∃ served, body.get? "ctx_id" = some (.string served) ∧ verifier.parses served = true ∧
        verifier.parses expected = true ∧ served = expected

/-! ### Served bodies -/

inductive BodyShape where
  | envelope
  | bare
  | envelopeList

def servedInEnvelope : Json → List Json
  | .object members => (members.lookup (text "body")).toList
  | payload => [payload]

def servedBodies (payload : Json) : BodyShape → List Json
  | .bare => [payload]
  | .envelopeList =>
      match payload with
      | .array items => items.flatMap servedInEnvelope
      | other => servedInEnvelope other
  | .envelope => servedInEnvelope payload

inductive CtxIdBindingReason where
  | mismatch
  | malformed
  | unverifiable
  deriving DecidableEq

structure CtxIdBindingError where
  reason : CtxIdBindingReason
  requested : Option Text
  served : Option Json
  url : Text
  detail : Text

inductive RetrievalError where
  | binding (error : CtxIdBindingError)
  | validation
  | notIterable

structure AcdpClient where
  verifyBinding : Bool

/-- A 2xx answer: its decoded payload and the URL it came from. -/
structure Answer where
  url : Text
  payload : Json

/-- One turn of the loop of `_bind_served_ctx_id`. -/
def bindBody (verifier : AcdpVerifier) (expectedCtxId : Option Text) (url : Text)
    (body : Json) : Except CtxIdBindingError Unit :=
  match body with
  | .object members =>
      match members.lookup (text "ctx_id") with
      | some (.string served) =>
          match verifier.verifyCtxIdBinding body (expectedCtxId.getD served) with
          | .bound => .ok ()
          | .valueError message =>
              .error
                { reason := .malformed
                  requested := expectedCtxId
                  served := some (.string served)
                  url := url
                  detail := message }
          | .runtimeError message =>
              .error
                { reason := .mismatch
                  requested := expectedCtxId
                  served := some (.string served)
                  url := url
                  detail := message }
      | _ =>
          .error
            { reason := .unverifiable
              requested := expectedCtxId
              served := none
              url := url
              detail := text "served body carries no ctx_id" }
  | other =>
      .error
        { reason := .unverifiable
          requested := expectedCtxId
          served := none
          url := url
          detail := text ("served body is " ++ other.typeName ++ ", not an object") }

def checkEach (check : Json → Except CtxIdBindingError Unit) :
    List Json → Except CtxIdBindingError Unit
  | [] => .ok ()
  | body :: rest =>
      match check body with
      | .error error => .error error
      | .ok () => checkEach check rest

def bindServedCtxId (verifier : AcdpVerifier) (client : AcdpClient) (answer : Answer)
    (shape : BodyShape) (expectedCtxId : Option Text) (verifyBinding : Option Bool) :
    Except CtxIdBindingError Unit :=
  if verifyBinding.getD client.verifyBinding then
    checkEach (bindBody verifier expectedCtxId answer.url) (servedBodies answer.payload shape)
  else .ok ()

/-- One turn of the loop of `_get_lineage`. -/
def bindLineage (lineageId url : Text) (body : Json) : Except CtxIdBindingError Unit :=
  match body with
  | .object members =>
      match members.lookup (text "lineage_id") with
      | some (.string served) =>
          if served = lineageId then .ok ()
          else
            .error
              { reason := .mismatch
                requested := some lineageId
                served := some (.string served)
                url := url
                detail :=
                  text "served body's lineage_id does not match the requested lineage_id" }
      | served =>
          .error
            { reason := .mismatch
              requested := some lineageId
              served := served
              url := url
              detail :=
                text "served body's lineage_id does not match the requested lineage_id" }
  | _ => .ok ()

/-! ### Operations -/

section Operations

variable {Datetime : Type} (verifier : AcdpVerifier) (lax : LaxMode Datetime)
  (client : AcdpClient)

def getFullContext (ctxId : Text) (shape : BodyShape) (verifyBinding : Option Bool)
    (answer : Answer) : Except RetrievalError Json :=
  match bindServedCtxId verifier client answer shape (some ctxId) verifyBinding with
  | .error error => .error (.binding error)
  | .ok () => .ok answer.payload

def validated {Input Model : Type} (modelValidate : Input → Option Model) (input : Input) :
    Except RetrievalError Model :=
  match modelValidate input with
  | some model => .ok model
  | none => .error .validation

def retrieve (ctxId : Text) (answer : Answer) : Except RetrievalError (FullContext Datetime) :=
  (getFullContext verifier client ctxId .envelope none answer).bind
    (validated (FullContext.modelValidate lax))

def retrieveRaw (ctxId : Text) (verifyBinding : Option Bool) (answer : Answer) :
    Except RetrievalError Json :=
  getFullContext verifier client ctxId .envelope verifyBinding answer

def retrieveBody (ctxId : Text) (answer : Answer) : Except RetrievalError (Body Datetime) :=
  (getFullContext verifier client ctxId .bare none answer).bind
    (validated (Body.modelValidate lax))

/-- The answer to the signed event posted to `/contexts/{id}/{action}`. -/
def lifecycle (ctxId : Text) (answer : Answer) : Except RetrievalError (FullContext Datetime) :=
  (getFullContext verifier client ctxId .envelope none answer).bind
    (validated (FullContext.modelValidate lax))

def retract (ctxId : Text) (answer : Answer) : Except RetrievalError (FullContext Datetime) :=
  lifecycle verifier lax client ctxId answer

def republish (ctxId : Text) (answer : Answer) :
    Except RetrievalError (FullContext Datetime) :=
  lifecycle verifier lax client ctxId answer

def getLineage (lineageId : Text) (shape : BodyShape) (answer : Answer) :
    Except RetrievalError Json :=
  match bindServedCtxId verifier client answer shape none none with
  | .error error => .error (.binding error)
  | .ok () =>
      match checkEach (bindLineage lineageId answer.url)
          (servedBodies answer.payload shape) with
      | .error error => .error (.binding error)
      | .ok () => .ok answer.payload

def lineage (lineageId : Text) (answer : Answer) :
    Except RetrievalError (List (FullContext Datetime)) :=
  (getLineage verifier client lineageId .envelopeList answer).bind (fun payload =>
    match payload.iterated with
    | none => .error .notIterable
    | some items => validated (List.mapM (FullContext.modelValidate lax)) items)

def current (lineageId : Text) (answer : Answer) :
    Except RetrievalError (FullContext Datetime) :=
  (getLineage verifier client lineageId .envelope answer).bind
    (validated (FullContext.modelValidate lax))

end Operations

/-! ### What a check that passes says -/

theorem checkEach_ok {check : Json → Except CtxIdBindingError Unit} {bodies : List Json}
    (passed : checkEach check bodies = .ok ()) : ∀ body ∈ bodies, check body = .ok () := by
  induction bodies with
  | nil =>
      intro body member
      cases member
  | cons first rest ih =>
      simp only [checkEach] at passed
      split at passed
      · cases passed
      · next firstPassed =>
          intro body member
          rcases List.mem_cons.mp member with same | later
          · rw [same]
            exact firstPassed
          · exact ih passed body later

theorem bindBody_ok {verifier : AcdpVerifier} (exact : verifier.BindsExactly)
    {expectedCtxId : Option Text} {url : Text} {body : Json}
    (passed : bindBody verifier expectedCtxId url body = .ok ()) :
    ∃ served, body.get? "ctx_id" = some (.string served) ∧ verifier.parses served = true ∧
      ∀ expected ∈ expectedCtxId, served = expected := by
  unfold bindBody at passed
  split at passed
  · next members =>
      split at passed
      · next served found =>
          split at passed
          · next bound =>
              obtain ⟨_, given, isGiven, parsed, _, same⟩ := (exact _ _).mp bound
              have given_served : given = served := by
                change members.lookup (text "ctx_id") = some (.string given) at isGiven
                rw [found] at isGiven
                exact (Json.string.inj (Option.some.inj isGiven)).symm
              rw [given_served] at parsed same
              refine ⟨served, found, parsed, ?_⟩
              intro expected requested
              rw [Option.mem_def.mp requested] at same
              exact same
          · cases passed
          · cases passed
      · cases passed
  · cases passed

theorem bindLineage_ok {lineageId url : Text} {members : Members}
    (passed : bindLineage lineageId url (.object members) = .ok ()) :
    (Json.object members).get? "lineage_id" = some (.string lineageId) := by
  simp only [bindLineage] at passed
  split at passed
  · next served found =>
      split at passed
      · next same =>
          rw [← same]
          exact found
      · cases passed
  · cases passed

theorem object_of_get? {value found : Json} {name : String} (has : value.get? name = some found) :
    ∃ members, value = .object members := by
  cases value with
  | object members => exact ⟨members, rfl⟩
  | null => cases has
  | boolean _ => cases has
  | integer _ => cases has
  | float _ => cases has
  | string _ => cases has
  | array _ => cases has

theorem mem_servedInEnvelope {envelope body : Json} (has : envelope.get? "body" = some body) :
    body ∈ servedInEnvelope envelope := by
  obtain ⟨members, rfl⟩ := object_of_get? has
  exact Option.mem_toList.mpr has

section Bound

variable {verifier : AcdpVerifier} {client : AcdpClient}

theorem bindServedCtxId_ok (exact : verifier.BindsExactly) (on : client.verifyBinding = true)
    {answer : Answer} {shape : BodyShape} {expectedCtxId : Option Text}
    (passed : bindServedCtxId verifier client answer shape expectedCtxId none = .ok ()) :
    ∀ body ∈ servedBodies answer.payload shape,
      ∃ served, body.get? "ctx_id" = some (.string served) ∧ verifier.parses served = true ∧
        ∀ expected ∈ expectedCtxId, served = expected := by
  unfold bindServedCtxId at passed
  rw [Option.getD_none, if_pos on] at passed
  intro body member
  exact bindBody_ok exact (checkEach_ok passed body member)

theorem getFullContext_ok (exact : verifier.BindsExactly) (on : client.verifyBinding = true)
    {ctxId : Text} {shape : BodyShape} {answer : Answer} {payload : Json}
    (answered : getFullContext verifier client ctxId shape none answer = .ok payload) :
    payload = answer.payload ∧
      ∀ body ∈ servedBodies payload shape, body.get? "ctx_id" = some (.string ctxId) := by
  unfold getFullContext at answered
  split at answered
  · cases answered
  · next passed =>
      cases answered
      refine ⟨rfl, ?_⟩
      intro body member
      obtain ⟨served, found, _, same⟩ := bindServedCtxId_ok exact on passed body member
      rw [found, same ctxId rfl]

theorem getLineage_ok (exact : verifier.BindsExactly) (on : client.verifyBinding = true)
    {lineageId : Text} {shape : BodyShape} {answer : Answer} {payload : Json}
    (answered : getLineage verifier client lineageId shape answer = .ok payload) :
    ∀ body ∈ servedBodies payload shape,
      (∃ served, body.get? "ctx_id" = some (.string served) ∧ verifier.parses served = true) ∧
        body.get? "lineage_id" = some (.string lineageId) := by
  unfold getLineage at answered
  split at answered
  · cases answered
  · next bound =>
      split at answered
      · cases answered
      · next checked =>
          cases answered
          intro body member
          obtain ⟨served, found, parsed, _⟩ := bindServedCtxId_ok exact on bound body member
          obtain ⟨members, rfl⟩ := object_of_get? found
          exact ⟨⟨served, found, parsed⟩, bindLineage_ok (checkEach_ok checked _ member)⟩

end Bound

/-! ### Every route -/

/-- The result is one of the two documented exceptions or a value that is `bound`. -/
def RaisesOr {Value : Type} (bound : Value → Prop) : Except RetrievalError Value → Prop
  | .error (.binding _) | .error .validation => True
  | .error .notIterable => False
  | .ok value => bound value

theorem raisesOr_bind {First Value : Type} {bound : Value → Prop}
    {first : Except RetrievalError First} {next : First → Except RetrievalError Value}
    (answered : RaisesOr (fun value => RaisesOr bound (next value)) first) :
    RaisesOr bound (first.bind next) := by
  cases first with
  | ok value => exact answered
  | error error =>
      cases error with
      | binding _ => trivial
      | validation => trivial
      | notIterable => exact answered

theorem raisesOr_validated {Input Model : Type} {bound : Model → Prop}
    {modelValidate : Input → Option Model} {input : Input}
    (valid : ∀ model, modelValidate input = some model → bound model) :
    RaisesOr bound (validated modelValidate input) := by
  unfold validated
  split
  · next model isValid => exact valid model isValid
  · trivial

structure ServedIdentity {Datetime : Type} (verifier : AcdpVerifier) (lax : LaxMode Datetime)
    (client : AcdpClient) (answer : Answer) : Prop where
  retrieve : ∀ ctxId, RaisesOr (fun full => full.body.ctxId = ctxId)
    (retrieve verifier lax client ctxId answer)
  retrieveRaw : ∀ ctxId, RaisesOr
    (fun payload => payload = answer.payload ∧ (∃ members, payload = .object members) ∧
      ∀ body, payload.get? "body" = some body → body.get? "ctx_id" = some (.string ctxId))
    (retrieveRaw verifier client ctxId none answer)
  retrieveBody : ∀ ctxId, RaisesOr (fun body => body.ctxId = ctxId)
    (retrieveBody verifier lax client ctxId answer)
  retract : ∀ ctxId, RaisesOr (fun full => full.body.ctxId = ctxId)
    (retract verifier lax client ctxId answer)
  republish : ∀ ctxId, RaisesOr (fun full => full.body.ctxId = ctxId)
    (republish verifier lax client ctxId answer)
  lineage : ∀ lineageId, RaisesOr
    (fun contexts => ∀ full ∈ contexts, verifier.parses full.body.ctxId = true ∧
      full.body.lineageId = lineageId)
    (lineage verifier lax client lineageId answer)
  current : ∀ lineageId, RaisesOr
    (fun full => verifier.parses full.body.ctxId = true ∧ full.body.lineageId = lineageId)
    (current verifier lax client lineageId answer)

section Routes

variable {Datetime : Type} {verifier : AcdpVerifier} {lax : LaxMode Datetime}
  {client : AcdpClient} {answer : Answer}

theorem ids_of_validated {served : Json} {body : Body Datetime} {ctxId : Text}
    (valid : Body.modelValidate lax served = some body)
    (bound : served.get? "ctx_id" = some (.string ctxId)) : body.ctxId = ctxId := by
  rw [(Body.modelValidate_ids body valid).1] at bound
  exact Json.string.inj (Option.some.inj bound)

theorem raisesOr_getFullContext (exact : verifier.BindsExactly)
    (on : client.verifyBinding = true) (ctxId : Text) (shape : BodyShape) :
    RaisesOr
      (fun payload => payload = answer.payload ∧
        ∀ body ∈ servedBodies payload shape, body.get? "ctx_id" = some (.string ctxId))
      (getFullContext verifier client ctxId shape none answer) := by
  cases answered : getFullContext verifier client ctxId shape none answer with
  | ok payload => exact getFullContext_ok exact on answered
  | error error =>
      unfold getFullContext at answered
      split at answered
      · cases answered
        trivial
      · cases answered

theorem raisesOr_mono {Value : Type} {first second : Value → Prop}
    {result : Except RetrievalError Value} (holds : RaisesOr first result)
    (weaker : ∀ value, first value → second value) : RaisesOr second result := by
  cases result with
  | ok value => exact weaker value holds
  | error error => cases error <;> exact holds

theorem envelope_bound (exact : verifier.BindsExactly) (on : client.verifyBinding = true)
    (ctxId : Text) :
    RaisesOr (fun full => full.body.ctxId = ctxId)
      (lifecycle verifier lax client ctxId answer) := by
  apply raisesOr_bind
  apply raisesOr_mono (raisesOr_getFullContext exact on ctxId .envelope)
  rintro payload ⟨_, bound⟩
  apply raisesOr_validated
  intro full valid
  obtain ⟨body, has, bodyValid⟩ := FullContext.modelValidate_body full valid
  exact ids_of_validated bodyValid (bound body (mem_servedInEnvelope has))

/-- An envelope that is not an object is itself taken for a body and refused. -/
theorem object_of_envelope_bound {payload : Json} {ctxId : Text}
    (bound : ∀ body ∈ servedBodies payload .envelope,
      body.get? "ctx_id" = some (.string ctxId)) : ∃ members, payload = .object members := by
  by_cases isObject : ∃ members, payload = .object members
  · exact isObject
  · have itself : payload ∈ servedBodies payload .envelope := by
      cases payload with
      | object members => exact absurd ⟨members, rfl⟩ isObject
      | null => exact List.mem_singleton_self _
      | boolean _ => exact List.mem_singleton_self _
      | integer _ => exact List.mem_singleton_self _
      | float _ => exact List.mem_singleton_self _
      | string _ => exact List.mem_singleton_self _
      | array _ => exact List.mem_singleton_self _
    exact object_of_get? (bound payload itself)

/-- What both lineage routes leave bound. -/
def LineageBound (verifier : AcdpVerifier) (lineageId : Text) (shape : BodyShape)
    (payload : Json) : Prop :=
  ∀ body ∈ servedBodies payload shape,
    (∃ served, body.get? "ctx_id" = some (.string served) ∧ verifier.parses served = true) ∧
      body.get? "lineage_id" = some (.string lineageId)

theorem raisesOr_getLineage (exact : verifier.BindsExactly) (on : client.verifyBinding = true)
    (lineageId : Text) (shape : BodyShape) :
    RaisesOr (LineageBound verifier lineageId shape)
      (getLineage verifier client lineageId shape answer) := by
  cases answered : getLineage verifier client lineageId shape answer with
  | ok payload => exact getLineage_ok exact on answered
  | error error =>
      unfold getLineage at answered
      split at answered
      · cases answered
        trivial
      · split at answered
        · cases answered
          trivial
        · cases answered

theorem lineage_ids_of_validated {envelope : Json} {full : FullContext Datetime}
    {lineageId : Text}
    (bound : ∀ body ∈ servedInEnvelope envelope,
      (∃ served, body.get? "ctx_id" = some (.string served) ∧ verifier.parses served = true) ∧
        body.get? "lineage_id" = some (.string lineageId))
    (valid : FullContext.modelValidate lax envelope = some full) :
    verifier.parses full.body.ctxId = true ∧ full.body.lineageId = lineageId := by
  obtain ⟨body, has, bodyValid⟩ := FullContext.modelValidate_body full valid
  obtain ⟨⟨served, found, parsed⟩, sameLineage⟩ := bound body (mem_servedInEnvelope has)
  obtain ⟨ctxKept, lineageKept⟩ := Body.modelValidate_ids full.body bodyValid
  constructor
  · rw [ids_of_validated bodyValid found]
    exact parsed
  · rw [lineageKept] at sameLineage
    exact Json.string.inj (Option.some.inj sameLineage)

theorem current_bound (exact : verifier.BindsExactly) (on : client.verifyBinding = true)
    (lineageId : Text) :
    RaisesOr
      (fun full => verifier.parses full.body.ctxId = true ∧ full.body.lineageId = lineageId)
      (current verifier lax client lineageId answer) := by
  apply raisesOr_bind
  apply raisesOr_mono (raisesOr_getLineage exact on lineageId .envelope)
  intro payload bound
  apply raisesOr_validated
  intro full valid
  exact lineage_ids_of_validated bound valid

/-- Only a list or an object gets past the binding, and an object yields its names. -/
theorem iterated_of_lineageBound {lineageId : Text} {payload : Json}
    (bound : LineageBound verifier lineageId .envelopeList payload) :
    ∃ items, payload.iterated = some items ∧ ∀ item ∈ items,
      (∃ name, item = .string name) ∨ ∀ body ∈ servedInEnvelope item,
        (∃ served, body.get? "ctx_id" = some (.string served) ∧
          verifier.parses served = true) ∧
        body.get? "lineage_id" = some (.string lineageId) := by
  have refused : ∀ value, value ∈ servedBodies payload .envelopeList →
      ∃ members, value = .object members := by
    intro value member
    obtain ⟨⟨served, found, _⟩, _⟩ := bound value member
    exact object_of_get? found
  cases payload with
  | array items =>
      refine ⟨items, rfl, ?_⟩
      intro item member
      right
      intro body served
      exact bound body (List.mem_flatMap.mpr ⟨item, member, served⟩)
  | object members =>
      refine ⟨_, rfl, ?_⟩
      intro item member
      obtain ⟨entry, _, rfl⟩ := List.mem_map.mp member
      exact .inl ⟨entry.1, rfl⟩
  | null =>
      obtain ⟨_, same⟩ := refused .null (List.mem_singleton_self _)
      cases same
  | boolean value =>
      obtain ⟨_, same⟩ := refused (.boolean value) (List.mem_singleton_self _)
      cases same
  | integer value =>
      obtain ⟨_, same⟩ := refused (.integer value) (List.mem_singleton_self _)
      cases same
  | float literal =>
      obtain ⟨_, same⟩ := refused (.float literal) (List.mem_singleton_self _)
      cases same
  | string value =>
      obtain ⟨_, same⟩ := refused (.string value) (List.mem_singleton_self _)
      cases same

theorem lineage_bound (exact : verifier.BindsExactly) (on : client.verifyBinding = true)
    (lineageId : Text) :
    RaisesOr
      (fun contexts => ∀ full ∈ contexts, verifier.parses full.body.ctxId = true ∧
        full.body.lineageId = lineageId)
      (lineage verifier lax client lineageId answer) := by
  apply raisesOr_bind
  apply raisesOr_mono (raisesOr_getLineage exact on lineageId .envelopeList)
  intro payload bound
  obtain ⟨items, iterates, each⟩ := iterated_of_lineageBound bound
  rw [iterates]
  apply raisesOr_validated
  intro contexts valid full member
  obtain ⟨item, present, itemValid⟩ := mem_of_mapM valid full member
  rcases each item present with ⟨name, rfl⟩ | itemBound
  · obtain ⟨_, impossible, _⟩ := FullContext.modelValidate_body full itemValid
    cases impossible
  · exact lineage_ids_of_validated itemBound itemValid

theorem served_identity_bound (exact : verifier.BindsExactly)
    (on : client.verifyBinding = true) : ServedIdentity verifier lax client answer where
  retrieve ctxId := envelope_bound exact on ctxId
  retract ctxId := envelope_bound exact on ctxId
  republish ctxId := envelope_bound exact on ctxId
  retrieveRaw ctxId := by
    apply raisesOr_mono (raisesOr_getFullContext exact on ctxId .envelope)
    rintro payload ⟨same, bound⟩
    refine ⟨same, object_of_envelope_bound bound, ?_⟩
    intro body has
    exact bound body (mem_servedInEnvelope has)
  retrieveBody ctxId := by
    apply raisesOr_bind
    apply raisesOr_mono (raisesOr_getFullContext exact on ctxId .bare)
    rintro payload ⟨_, bound⟩
    apply raisesOr_validated
    intro body valid
    exact ids_of_validated valid (bound payload (List.mem_singleton_self _))
  lineage lineageId := lineage_bound exact on lineageId
  current lineageId := current_bound exact on lineageId

end Routes

/-! ### A served envelope -/

def requiredBodyMembers : List String :=
  ["ctx_id", "lineage_id", "origin_registry", "created_at", "content_hash", "signature",
    "version", "agent_id", "title", "type", "visibility"]

def sampleVerifier : AcdpVerifier where
  deserialises body := requiredBodyMembers.all (fun name => (body.get? name).isSome)
  parses id := (text "acdp://").isPrefixOf id
  verifyCtxIdBinding body expected :=
    match body.get? "ctx_id" with
    | some (.string served) =>
        if requiredBodyMembers.all (fun name => (body.get? name).isSome) ∧
            (text "acdp://").isPrefixOf served ∧ (text "acdp://").isPrefixOf expected then
          if served = expected then .bound else .runtimeError (text "ctx_id differs")
        else .valueError (text "not a context")
    | _ => .valueError (text "missing field ctx_id")

theorem sampleVerifier_bindsExactly : sampleVerifier.BindsExactly := by
  intro body expected
  simp only [sampleVerifier]
  constructor
  · intro bound
    split at bound
    · next served found =>
        split at bound
        · next parsed =>
            split at bound
            · next same => exact ⟨parsed.1, served, found, parsed.2.1, parsed.2.2, same⟩
            · cases bound
        · cases bound
    · cases bound
  · rintro ⟨complete, served, found, servedParses, expectedParses, same⟩
    rw [found]
    simp only
    rw [if_pos ⟨complete, servedParses, expectedParses⟩, if_pos same]

def plainMode : LaxMode Text where
  acceptsStr _ := true
  int
    | .integer value => some value
    | _ => none
  datetime
    | .string value => some value
    | _ => none

def servedBody (ctxId : String) : Json :=
  .object
    [(text "ctx_id", .string (text ctxId)), (text "lineage_id", .string (text "lin-1")),
      (text "origin_registry", .string (text "registry-a")),
      (text "created_at", .string (text "2026-01-01T00:00:00Z")),
      (text "content_hash", .string (text "sha256:00")),
      (text "signature", .object
        [(text "algorithm", .string (text "ed25519")), (text "key_id", .string (text "k")),
          (text "value", .string (text "v"))]),
      (text "version", .integer 1), (text "agent_id", .string (text "did:web:a")),
      (text "title", .string (text "t")), (text "type", .string (text "note")),
      (text "visibility", .string (text "public"))]

def envelopeOf (ctxId : String) : Answer where
  url := text "http://registry-a/contexts/x"
  payload := .object
    [(text "body", servedBody ctxId),
      (text "registry_state", .object [(text "status", .string (text "active"))])]

theorem envelope_served_identity :
    sampleVerifier.BindsExactly ∧
      (retrieve sampleVerifier plainMode { verifyBinding := true }
        (text "acdp://registry-a/1") (envelopeOf "acdp://registry-a/1")).toOption.isSome = true ∧
      ServedIdentity sampleVerifier plainMode { verifyBinding := true }
        (envelopeOf "acdp://registry-a/1") :=
  ⟨sampleVerifier_bindsExactly, by decide +kernel,
    served_identity_bound sampleVerifier_bindsExactly rfl⟩

end AcdpPlayground.Client

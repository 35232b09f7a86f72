/-
`BasePlaygroundAgent.run`: one task of an agent, from the `agent.started` event over the
contexts it grounds in and the model's answer to the published context.

The registry, the model and the SDK are what an agent acts on; their answers may depend on
everything that was done before, and each of them may raise. Of a retrieved context the
agent reads three members. The JSON strings among the arguments of the SDK are kept as the
values they encode, and the time of an event is left out.
-/

import AcdpPlayground.Events
import AcdpPlayground.Foundation.JsonValue
import AcdpPlayground.Foundation.Strands

namespace AcdpPlayground.Agents

open PythonText JsonValue KeyedTable Strands

structure AgentTask where
  prompt : String
  title : String
  contextType : String := "data_snapshot"
  visibility : String := "public"
  domain : Option String := none
  tags : List String := []
  derivedFrom : List String := []
  audience : List String := []
  contributors : List String := []
  metadata : Option (List (Text × Json)) := none
  dataRefs : List Json := []
  dataPeriod : Option (List (Text × Json)) := none
  expiresAt : Option String := none
  schemaUri : Option String := none
  idempotencyKey : Option String := none
  summaryChars : Int := 500
  overrideResponse : Option String := none

/-- The keyword arguments of `build_publish_request`; `none` is an argument that is `None` or
that is not given. -/
structure PublishFields where
  title : String
  contextType : String
  visibility : String
  summary : String
  domain : Option String
  tags : Option (List String)
  derivedFrom : Option (List String)
  audience : Option (List String)
  contributors : Option (List String)
  schemaUri : Option String
  metadata : List (Text × Json)
  dataRefs : Option (List Json)
  dataPeriod : Option (List (Text × Json))
  expiresAt : Option String

structure PublishResponse where
  ctxId : String
  lineageId : String
  version : Int

structure AgentOutput where
  ctxId : String
  lineageId : String
  version : Int
  title : String
  llmResponse : String
  contentHash : String

structure GroundingContext where
  agentId : String
  title : String
  summary : Option String

structure AgentEvent where
  type : EventType
  runId : String
  agentId : String
  framework : String
  ctxId : Option String := none
  title : Option String := none
  derivedFrom : List String := []
  preview : Option String := none
deriving DecidableEq

inductive AgentEffect (Request : Type) where
  | event (event : AgentEvent)
  | resolve (agentId ctxId : String)
  | callLlm (agentId prompt : String)
  | post (agentId : String) (request : Request) (idempotencyKey : Option String)
  /-- `bundle.aclose()`. -/
  | closed

def AgentEffect.publishEvent {Request : Type} : AgentEffect Request → Option AgentEvent
  | .event step => if step.type = .acdpPublish then some step else none
  | _ => none

def AgentEffect.posted {Request : Type} : AgentEffect Request → Option Request
  | .post _ request _ => some request
  | _ => none

def AgentEffect.closing {Request : Type} : AgentEffect Request → Bool
  | .closed => true
  | _ => false

/-- An effect that neither announces nor sends a context, and does not close the clients. -/
def AgentEffect.preparing {Request : Type} (effect : AgentEffect Request) : Bool :=
  effect.publishEvent.isNone && effect.posted.isNone && !effect.closing

def publishEvents {Request : Type} (effects : List (AgentEffect Request)) : List AgentEvent :=
  effects.filterMap AgentEffect.publishEvent

def posts {Request : Type} (effects : List (AgentEffect Request)) : List Request :=
  effects.filterMap AgentEffect.posted

def closings {Request : Type} (effects : List (AgentEffect Request)) : Nat :=
  effects.countP AgentEffect.closing

structure Agent (Request Failure : Type) where
  agentDid : String
  framework : String
  runId : String
  slug : Option String
  /-- `self.client.resolve(ctx_id, self.authority_map)`. -/
  clientResolve : List (AgentEffect Request) → String → Except Failure GroundingContext
  callLlm : List (AgentEffect Request) → String → Except Failure String
  buildPublishRequest : PublishFields → Except Failure Request
  clientPublish : List (AgentEffect Request) → Request → Option String →
    Except Failure PublishResponse
  /-- `json.loads(req_json)["content_hash"]`. -/
  contentHash : Request → Except Failure String

/-- `given[:count]`. -/
def sliceTo (given : String) (count : Int) : String :=
  let points := given.toList
  String.ofList (points.take
    (if 0 ≤ count then count.toNat else points.length - count.natAbs))

/-- `value or None` of a list. -/
def orNone {Item : Type} (items : List Item) : Option (List Item) :=
  if items.isEmpty then none else some items

/-- `given.split(":")[-1]`. -/
def lastSegment (given : String) : String :=
  String.ofList ((given.toList.splitOn ':').getLastD [])

def groundingBlock (context : GroundingContext) : String :=
  "\n\n[ground: " ++ lastSegment context.agentId ++ " — " ++ context.title ++ "]\n" ++
    context.summary.getD ""

def groundedPrompt (task : AgentTask) (grounding : String) : String :=
  if grounding = "" then task.prompt
  else task.prompt ++ "\n\nUse this grounding material:" ++ grounding

namespace Agent

variable {Request Failure : Type} (agent : Agent Request Failure)

def stamped (type : EventType) : AgentEvent where
  type := type
  runId := agent.runId
  agentId := agent.agentDid
  framework := agent.framework

/-- The members of the task come after the agent's, the slug comes last. -/
def metadata (task : AgentTask) : List (Text × Json) :=
  let own := [(text "agent_framework", Json.string (text agent.framework)),
    (text "run_id", Json.string (text agent.runId))]
  let merged := (task.metadata.getD []).foldl
    (fun table member => insert table member.1 member.2) own
  match agent.slug with
  | some slug => if slug = "" then merged else
      insert merged (text "agent_slug") (.string (text slug))
  | none => merged

def publishFields (task : AgentTask) (llmResult : String) : PublishFields where
  title := task.title
  contextType := task.contextType
  visibility := task.visibility
  summary := sliceTo llmResult task.summaryChars
  domain := task.domain
  tags := orNone task.tags
  derivedFrom := orNone task.derivedFrom
  audience := orNone task.audience
  contributors := orNone task.contributors
  schemaUri := task.schemaUri
  metadata := agent.metadata task
  dataRefs := orNone task.dataRefs
  dataPeriod := task.dataPeriod.bind orNone
  expiresAt := task.expiresAt.filter (· ≠ "")

def publishEvent (task : AgentTask) (llmResult : String) (response : PublishResponse) :
    AgentEvent :=
  { agent.stamped .acdpPublish with
    ctxId := some response.ctxId
    title := some task.title
    derivedFrom := task.derivedFrom
    preview := some (sliceTo llmResult 100) }

def send (task : AgentTask) (llmResult : String) (built : Except Failure Request)
    (idempotencyKey : Option String) : Strand (AgentEffect Request) Failure AgentOutput := do
  let request ← attempt built
  let response ← ask (.post agent.agentDid request idempotencyKey)
    (fun history => agent.clientPublish history request idempotencyKey)
  let contentHash ← attempt (agent.contentHash request)
  emit (.event (agent.publishEvent task llmResult response))
  return {
    ctxId := response.ctxId
    lineageId := response.lineageId
    version := response.version
    title := task.title
    llmResponse := llmResult
    contentHash := contentHash }

def publish (task : AgentTask) (llmResult : String) :
    Strand (AgentEffect Request) Failure AgentOutput :=
  agent.send task llmResult (agent.buildPublishRequest (agent.publishFields task llmResult))
    task.idempotencyKey

def retrieveEvent (ctxId : String) : AgentEvent :=
  { agent.stamped .acdpRetrieve with ctxId := some ctxId }

def retrieve (ctxId : String) : Strand (AgentEffect Request) Failure GroundingContext := do
  let context ← ask (.resolve agent.agentDid ctxId)
    (fun history => agent.clientResolve history ctxId)
  emit (.event (agent.retrieveEvent ctxId))
  return context

def ground (grounding : String) : List String → Strand (AgentEffect Request) Failure String
  | [] => return grounding
  | ctxId :: rest => do
      let context ← agent.retrieve ctxId
      ground (grounding ++ groundingBlock context) rest

def startedEvent (task : AgentTask) : AgentEvent :=
  { agent.stamped .agentStarted with title := some task.title }

def thinkingEvent (prompt : String) : AgentEvent :=
  { agent.stamped .llmThinking with preview := some (sliceTo prompt 100) }

def answer (task : AgentTask) (prompt : String) :
    Strand (AgentEffect Request) Failure String :=
  match task.overrideResponse with
  | some given => return given
  | none => do
      emit (.event (agent.thinkingEvent prompt))
      ask (.callLlm agent.agentDid prompt) (fun history => agent.callLlm history prompt)

def run (task : AgentTask) : Strand (AgentEffect Request) Failure AgentOutput := do
  emit (.event (agent.startedEvent task))
  let grounding ← agent.ground "" (task.derivedFrom.take 2)
  let llmResult ← agent.answer task (groundedPrompt task grounding)
  agent.publish task llmResult

/-! ### What a run does -/

def retrieveEffects (ids : List String) : List (AgentEffect Request) :=
  ids.flatMap (fun ctxId =>
    [.resolve agent.agentDid ctxId, .event (agent.retrieveEvent ctxId)])

def answerEffects (task : AgentTask) (prompt : String) : List (AgentEffect Request) :=
  match task.overrideResponse with
  | some _ => []
  | none => [.event (agent.thinkingEvent prompt), .callLlm agent.agentDid prompt]

/-- The contexts that may be retrieved one after the other. -/
inductive Grounds (admits : List (AgentEffect Request) → List (AgentEffect Request) → Prop) :
    List (AgentEffect Request) → List String → List GroundingContext → Prop where
  | nil (own : List (AgentEffect Request)) : Grounds admits own [] []
  | cons {own : List (AgentEffect Request)} {ctxId : String} {ids : List String}
      {context : GroundingContext} {contexts : List GroundingContext}
      (found : Told admits own (agent.clientResolve · ctxId) (.ok context))
      (later : Grounds admits (own ++ agent.retrieveEffects [ctxId]) ids contexts) :
      Grounds admits own (ctxId :: ids) (context :: contexts)

def groundingOf (contexts : List GroundingContext) : String :=
  contexts.foldl (fun grounding context => grounding ++ groundingBlock context) ""

def prelude (task : AgentTask) (contexts : List GroundingContext) : List (AgentEffect Request) :=
  .event (agent.startedEvent task) :: (agent.retrieveEffects (task.derivedFrom.take 2) ++
    agent.answerEffects task (groundedPrompt task (groundingOf contexts)))

section Law

variable (admits : List (AgentEffect Request) → List (AgentEffect Request) → Prop)

/-- The answer that is published: the given one, or the model's. -/
def Answers (task : AgentTask) (own : List (AgentEffect Request)) (prompt llmResult : String) :
    Prop :=
  task.overrideResponse = some llmResult ∨
    task.overrideResponse = none ∧
      Told admits (own ++ [.event (agent.thinkingEvent prompt)]) (agent.callLlm · prompt)
        (.ok llmResult)

structure Sent (task : AgentTask) (llmResult : String) (built : Except Failure Request)
    (idempotencyKey : Option String) (own : List (AgentEffect Request)) (output : AgentOutput)
    (after : List (AgentEffect Request)) (request : Request) (response : PublishResponse) :
    Prop where
  built : built = .ok request
  accepted : Told admits own (agent.clientPublish · request idempotencyKey) (.ok response)
  hashed : agent.contentHash request = .ok output.contentHash
  identity : output = ⟨response.ctxId, response.lineageId, response.version, task.title,
    llmResult, output.contentHash⟩
  effects : after = own ++ [.post agent.agentDid request idempotencyKey,
    .event (agent.publishEvent task llmResult response)]

/-- The request was not built, or it was sent and no event tells of it. -/
inductive Unsent (built : Except Failure Request) (idempotencyKey : Option String)
    (own : List (AgentEffect Request)) (failure : Failure) : List (AgentEffect Request) → Prop where
  | building (raised : built = .error failure) : Unsent built idempotencyKey own failure own
  | refused {request : Request} (isBuilt : built = .ok request)
      (raised : Told admits own (agent.clientPublish · request idempotencyKey)
        (.error failure)) :
      Unsent built idempotencyKey own failure
        (own ++ [.post agent.agentDid request idempotencyKey])
  | unhashed {request : Request} {response : PublishResponse} (isBuilt : built = .ok request)
      (accepted : Told admits own (agent.clientPublish · request idempotencyKey) (.ok response))
      (missing : agent.contentHash request = .error failure) :
      Unsent built idempotencyKey own failure
        (own ++ [.post agent.agentDid request idempotencyKey])

/-- What an agent knows when it has an answer. -/
structure Prepared (task : AgentTask) (own : List (AgentEffect Request))
    (contexts : List GroundingContext) (llmResult : String) : Prop where
  grounded : agent.Grounds admits (own ++ [.event (agent.startedEvent task)])
    (task.derivedFrom.take 2) contexts
  answered : agent.Answers admits task (own ++ .event (agent.startedEvent task) ::
    agent.retrieveEffects (task.derivedFrom.take 2))
    (groundedPrompt task (groundingOf contexts)) llmResult

structure Published (task : AgentTask) (own : List (AgentEffect Request)) (output : AgentOutput)
    (after : List (AgentEffect Request)) (contexts : List GroundingContext) (request : Request)
    (response : PublishResponse) : Prop where
  prepared : agent.Prepared admits task own contexts output.llmResponse
  sent : agent.Sent admits task output.llmResponse
    (agent.buildPublishRequest (agent.publishFields task output.llmResponse))
    task.idempotencyKey (own ++ agent.prelude task contexts) output after request response

/-- A run that raised, with the call that did. -/
inductive Abandoned (task : AgentTask) (own : List (AgentEffect Request)) (failure : Failure) :
    List (AgentEffect Request) → Prop where
  | grounding {done : List String} {ctxId : String} {rest : List String}
      {contexts : List GroundingContext}
      (ids : task.derivedFrom.take 2 = done ++ ctxId :: rest)
      (grounded : agent.Grounds admits (own ++ [.event (agent.startedEvent task)]) done contexts)
      (raised : Told admits (own ++ .event (agent.startedEvent task) ::
        agent.retrieveEffects done) (agent.clientResolve · ctxId) (.error failure)) :
      Abandoned task own failure (own ++ .event (agent.startedEvent task) ::
        agent.retrieveEffects done ++ [.resolve agent.agentDid ctxId])
  | answering {contexts : List GroundingContext} (asked : task.overrideResponse = none)
      (grounded : agent.Grounds admits (own ++ [.event (agent.startedEvent task)])
        (task.derivedFrom.take 2) contexts)
      (raised : Told admits (own ++ .event (agent.startedEvent task) ::
        agent.retrieveEffects (task.derivedFrom.take 2) ++
          [.event (agent.thinkingEvent (groundedPrompt task (groundingOf contexts)))])
        (agent.callLlm · (groundedPrompt task (groundingOf contexts))) (.error failure)) :
      Abandoned task own failure (own ++ agent.prelude task contexts)
  | publishing {contexts : List GroundingContext} {llmResult : String}
      {after : List (AgentEffect Request)}
      (prepared : agent.Prepared admits task own contexts llmResult)
      (unsent : agent.Unsent admits
        (agent.buildPublishRequest (agent.publishFields task llmResult)) task.idempotencyKey
        (own ++ agent.prelude task contexts) failure after) :
      Abandoned task own failure after

/-! ### The parts of a run -/

variable {admits} {own : List (AgentEffect Request)} {task : AgentTask}

theorem retrieve_ensures (ctxId : String) :
    Ensures admits
      (fun context after => Told admits own (agent.clientResolve · ctxId) (.ok context) ∧
        after = own ++ agent.retrieveEffects [ctxId])
      (fun failure after => Told admits own (agent.clientResolve · ctxId) (.error failure) ∧
        after = own ++ [.resolve agent.agentDid ctxId])
      (agent.retrieve ctxId) own := by
  apply ensures_bind
  apply ensures_ask
  · intro context found
    apply ensures_bind
    apply ensures_emit
    apply ensures_pure
    exact ⟨found, List.append_assoc _ _ _⟩
  · intro failure refused
    exact ⟨refused, rfl⟩

theorem retrieveEffects_cons (ctxId : String) (ids : List String) :
    agent.retrieveEffects (ctxId :: ids) =
      agent.retrieveEffects [ctxId] ++ agent.retrieveEffects ids := by
  simp [retrieveEffects]

theorem ground_ensures (ids : List String) (grounding : String) :
    Ensures admits
      (fun result after => ∃ contexts, agent.Grounds admits own ids contexts ∧
        result = contexts.foldl (fun sofar context => sofar ++ groundingBlock context)
          grounding ∧
        after = own ++ agent.retrieveEffects ids)
      (fun failure after => ∃ done ctxId rest, ids = done ++ ctxId :: rest ∧
        (∃ contexts, agent.Grounds admits own done contexts) ∧
        Told admits (own ++ agent.retrieveEffects done) (agent.clientResolve · ctxId)
          (.error failure) ∧
        after = own ++ agent.retrieveEffects done ++ [.resolve agent.agentDid ctxId])
      (agent.ground grounding ids) own := by
  induction ids generalizing own grounding with
  | nil =>
      apply ensures_pure
      exact ⟨[], .nil own, rfl, (List.append_nil own).symm⟩
  | cons ctxId rest ih =>
      apply ensures_bind
      refine (agent.retrieve_ensures ctxId).weaken ?_ ?_
      · rintro context middle ⟨found, rfl⟩
        refine (ih (grounding ++ groundingBlock context)).weaken ?_ ?_
        · rintro result after ⟨contexts, grounds, rfl, rfl⟩
          refine ⟨context :: contexts, .cons found grounds, rfl, ?_⟩
          rw [agent.retrieveEffects_cons ctxId rest, List.append_assoc]
        · rintro failure after ⟨done, other, later, rfl, ⟨contexts, grounds⟩, raised, rfl⟩
          refine ⟨ctxId :: done, other, later, rfl, ⟨context :: contexts, .cons found grounds⟩,
            ?_, ?_⟩
          · rw [agent.retrieveEffects_cons ctxId done, ← List.append_assoc]
            exact raised
          · rw [agent.retrieveEffects_cons ctxId done]
            simp only [List.append_assoc]
      · rintro failure after ⟨raised, rfl⟩
        have none_done : own ++ agent.retrieveEffects [] = own := List.append_nil own
        refine ⟨[], ctxId, rest, rfl, ⟨[], .nil own⟩, ?_, ?_⟩
        · rw [none_done]
          exact raised
        · rw [none_done]

theorem answer_ensures (prompt : String) :
    Ensures admits
      (fun llmResult after => agent.Answers admits task own prompt llmResult ∧
        after = own ++ agent.answerEffects task prompt)
      (fun failure after => task.overrideResponse = none ∧
        Told admits (own ++ [.event (agent.thinkingEvent prompt)]) (agent.callLlm · prompt)
          (.error failure) ∧
        after = own ++ agent.answerEffects task prompt)
      (agent.answer task prompt) own := by
  unfold answer answerEffects
  cases given : task.overrideResponse with
  | some response =>
      apply ensures_pure
      exact ⟨.inl given, (List.append_nil own).symm⟩
  | none =>
      apply ensures_bind
      apply ensures_emit
      apply ensures_ask
      · intro llmResult answered
        exact ⟨.inr ⟨given, answered⟩, List.append_assoc _ _ _⟩
      · intro failure refused
        exact ⟨rfl, refused, List.append_assoc _ _ _⟩

theorem send_ensures (llmResult : String) (built : Except Failure Request)
    (idempotencyKey : Option String) :
    Ensures admits
      (fun output after => ∃ request response,
        agent.Sent admits task llmResult built idempotencyKey own output after request response)
      (fun failure after => agent.Unsent admits built idempotencyKey own failure after)
      (agent.send task llmResult built idempotencyKey) own := by
  apply ensures_bind
  apply ensures_attempt
  · intro request isBuilt
    apply ensures_bind
    apply ensures_ask
    · intro response accepted
      apply ensures_bind
      apply ensures_attempt
      · intro contentHash hashed
        apply ensures_bind
        apply ensures_emit
        apply ensures_pure
        exact ⟨request, response,
          { built := isBuilt, accepted := accepted, hashed := hashed, identity := rfl
            effects := List.append_assoc _ _ _ }⟩
      · intro failure missing
        exact .unhashed isBuilt accepted missing
    · intro failure refused
      exact .refused isBuilt refused
  · intro failure notBuilt
    exact .building notBuilt

theorem run_ensures :
    Ensures admits
      (fun output after => ∃ contexts request response,
        agent.Published admits task own output after contexts request response)
      (fun failure after => agent.Abandoned admits task own failure after)
      (agent.run task) own := by
  have started (ids : List String) : own ++ [.event (agent.startedEvent task)] ++
      agent.retrieveEffects ids =
      own ++ .event (agent.startedEvent task) :: agent.retrieveEffects ids := by
    simp only [List.append_assoc, List.singleton_append]
  apply ensures_bind
  apply ensures_emit
  apply ensures_bind
  refine (agent.ground_ensures (task.derivedFrom.take 2) "").weaken ?_ ?_
  · rintro grounding middle ⟨contexts, grounded, rfl, rfl⟩
    rw [started]
    have before : own ++ .event (agent.startedEvent task) ::
        agent.retrieveEffects (task.derivedFrom.take 2) ++
          agent.answerEffects task (groundedPrompt task (groundingOf contexts)) =
        own ++ agent.prelude task contexts := by
      simp only [prelude, List.append_assoc, List.cons_append]
    apply ensures_bind
    refine (agent.answer_ensures (groundedPrompt task (groundingOf contexts))).weaken ?_ ?_
    · rintro llmResult middle ⟨answered, rfl⟩
      rw [before]
      have prepared : agent.Prepared admits task own contexts llmResult :=
        ⟨grounded, answered⟩
      refine (agent.send_ensures llmResult _ task.idempotencyKey).weaken ?_ ?_
      · rintro output after ⟨request, response, sent⟩
        have sameAnswer : output.llmResponse = llmResult := by rw [sent.identity]
        subst sameAnswer
        exact ⟨contexts, request, response, prepared, sent⟩
      · intro failure after unsent
        exact .publishing prepared unsent
    · rintro failure after ⟨asked, raised, rfl⟩
      rw [before]
      exact .answering asked grounded raised
  · rintro failure after ⟨done, ctxId, rest, ids, ⟨contexts, grounded⟩, raised, rfl⟩
    rw [started] at raised ⊢
    exact .grounding ids grounded raised

/-! ### Events and requests -/

@[simp] theorem publishEvents_append (first second : List (AgentEffect Request)) :
    publishEvents (first ++ second) = publishEvents first ++ publishEvents second :=
  List.filterMap_append

@[simp] theorem posts_append (first second : List (AgentEffect Request)) :
    posts (first ++ second) = posts first ++ posts second :=
  List.filterMap_append

@[simp] theorem closings_append (first second : List (AgentEffect Request)) :
    closings (first ++ second) = closings first + closings second :=
  List.countP_append

structure Quiet (own after : List (AgentEffect Request)) : Prop where
  events : publishEvents after = publishEvents own
  requests : posts after = posts own
  closes : closings after = closings own

theorem quiet_append {more : List (AgentEffect Request)}
    (preparing : ∀ effect ∈ more, effect.preparing = true) : Quiet own (own ++ more) := by
  have each (effect : AgentEffect Request) (member : effect ∈ more) :
      effect.publishEvent = none ∧ effect.posted = none ∧ effect.closing = false := by
    have holds := preparing effect member
    simp only [AgentEffect.preparing, Bool.and_eq_true, Option.isNone_iff_eq_none,
      Bool.not_eq_true'] at holds
    exact ⟨holds.1.1, holds.1.2, holds.2⟩
  have noEvent : publishEvents more = [] :=
    List.filterMap_eq_nil_iff.mpr (fun effect member => (each effect member).1)
  have noPost : posts more = [] :=
    List.filterMap_eq_nil_iff.mpr (fun effect member => (each effect member).2.1)
  have noClose : closings more = 0 := by
    apply List.countP_eq_zero.mpr
    intro effect member closes
    rw [(each effect member).2.2] at closes
    cases closes
  constructor
  · rw [publishEvents_append, noEvent, List.append_nil]
  · rw [posts_append, noPost, List.append_nil]
  · rw [closings_append, noClose, Nat.add_zero]

theorem preparing_retrieveEffects (ids : List String) :
    ∀ effect ∈ agent.retrieveEffects ids, effect.preparing = true := by
  intro effect member
  obtain ⟨ctxId, _, inPair⟩ := List.mem_flatMap.mp member
  simp only [List.mem_cons, List.not_mem_nil, or_false] at inPair
  rcases inPair with rfl | rfl
  · rfl
  · rfl

theorem preparing_started : (AgentEffect.event (agent.startedEvent task) :
    AgentEffect Request).preparing = true := rfl

theorem preparing_answerEffects (prompt : String) :
    ∀ effect ∈ agent.answerEffects task prompt, effect.preparing = true := by
  intro effect member
  unfold answerEffects at member
  cases given : task.overrideResponse with
  | some response =>
      rw [given] at member
      exact absurd member List.not_mem_nil
  | none =>
      rw [given] at member
      simp only [List.mem_cons, List.not_mem_nil, or_false] at member
      rcases member with rfl | rfl
      · rfl
      · rfl

theorem quiet_prelude (contexts : List GroundingContext) :
    Quiet own (own ++ agent.prelude task contexts) := by
  apply quiet_append
  intro effect member
  rcases List.mem_cons.mp member with rfl | later
  · exact agent.preparing_started
  · rcases List.mem_append.mp later with retrieving | answering
    · exact agent.preparing_retrieveEffects _ effect retrieving
    · exact agent.preparing_answerEffects _ effect answering

/-- One more context was announced, the one that was sent last. -/
structure Announces (own after : List (AgentEffect Request)) (event : AgentEvent)
    (request : Request) : Prop where
  events : publishEvents after = publishEvents own ++ [event]
  requests : posts after = posts own ++ [request]
  closes : closings after = closings own

/-- Nothing was announced, and one request was sent at most. -/
structure Fails (own after : List (AgentEffect Request)) : Prop where
  events : publishEvents after = publishEvents own
  requests : ∃ sent, sent.length ≤ 1 ∧ posts after = posts own ++ sent
  closes : closings after = closings own

theorem Quiet.fails {after : List (AgentEffect Request)} (quiet : Quiet own after) :
    Fails own after :=
  ⟨quiet.events, ⟨[], Nat.zero_le 1, by rw [quiet.requests, List.append_nil]⟩, quiet.closes⟩

variable {agent} {llmResult : String} {built : Except Failure Request}
  {idempotencyKey : Option String} {output : AgentOutput} {after : List (AgentEffect Request)}
  {contexts : List GroundingContext} {request : Request} {response : PublishResponse}
  {failure : Failure}

theorem Sent.announces
    (sent : agent.Sent admits task llmResult built idempotencyKey own output after request
      response) :
    Announces own after (agent.publishEvent task llmResult response) request := by
  constructor
  · rw [sent.effects, publishEvents_append]
    rfl
  · rw [sent.effects, posts_append]
    rfl
  · rw [sent.effects, closings_append]
    rfl

theorem fails_post (request : Request) (idempotencyKey : Option String) :
    Fails own (own ++ [.post agent.agentDid request idempotencyKey]) := by
  constructor
  · rw [publishEvents_append]
    exact List.append_nil _
  · refine ⟨[request], Nat.le_refl 1, ?_⟩
    rw [posts_append]
    rfl
  · rw [closings_append]
    rfl

theorem Unsent.fails (unsent : agent.Unsent admits built idempotencyKey own failure after) :
    Fails own after := by
  cases unsent with
  | building raised => exact Quiet.fails ⟨rfl, rfl, rfl⟩
  | @refused request isBuilt raised => exact fails_post request idempotencyKey
  | @unhashed request response isBuilt accepted missing => exact fails_post request idempotencyKey

theorem Published.announces
    (published : agent.Published admits task own output after contexts request response) :
    Announces own after (agent.publishEvent task output.llmResponse response) request := by
  have sent := published.sent.announces
  have quiet : Quiet own (own ++ agent.prelude task contexts) := agent.quiet_prelude contexts
  constructor
  · rw [sent.events, quiet.events]
  · rw [sent.requests, quiet.requests]
  · rw [sent.closes, quiet.closes]

theorem Published.extends
    (published : agent.Published admits task own output after contexts request response) :
    ∃ more, after = own ++ more := by
  rw [published.sent.effects, List.append_assoc]
  exact ⟨_, rfl⟩

theorem Published.ctxId
    (published : agent.Published admits task own output after contexts request response) :
    output.ctxId = response.ctxId := by
  rw [published.sent.identity]

theorem Published.title
    (published : agent.Published admits task own output after contexts request response) :
    output.title = task.title := by
  rw [published.sent.identity]

theorem Published.resolved {ctxId : String} (cited : ctxId ∈ task.derivedFrom.take 2)
    (published : agent.Published admits task own output after contexts request response) :
    ∃ before later, after = before ++ .resolve agent.agentDid ctxId :: later ∧
      (∃ more, before = own ++ more) ∧
      publishEvents later = [agent.publishEvent task output.llmResponse response] := by
  obtain ⟨first, last, ids⟩ := List.append_of_mem cited
  have retrieving : agent.retrieveEffects (task.derivedFrom.take 2) =
      agent.retrieveEffects first ++ .resolve agent.agentDid ctxId ::
        .event (agent.retrieveEvent ctxId) :: agent.retrieveEffects last := by
    rw [ids]
    simp [retrieveEffects]
  refine ⟨own ++ .event (agent.startedEvent task) :: agent.retrieveEffects first,
    .event (agent.retrieveEvent ctxId) :: (agent.retrieveEffects last ++
      agent.answerEffects task (groundedPrompt task (groundingOf contexts)) ++
      [.post agent.agentDid request task.idempotencyKey,
        .event (agent.publishEvent task output.llmResponse response)]), ?_, ⟨_, rfl⟩, ?_⟩
  · rw [published.sent.effects, prelude, retrieving]
    simp only [List.append_assoc, List.cons_append]
  · have quiet : Quiet [] ([] ++ (.event (agent.retrieveEvent ctxId) ::
        (agent.retrieveEffects last ++
          agent.answerEffects task (groundedPrompt task (groundingOf contexts))))) := by
      apply quiet_append
      intro effect member
      rcases List.mem_cons.mp member with rfl | later
      · rfl
      · rcases List.mem_append.mp later with retrieves | answers
        · exact agent.preparing_retrieveEffects _ effect retrieves
        · exact agent.preparing_answerEffects _ effect answers
    rw [← List.cons_append, publishEvents_append]
    rw [List.nil_append] at quiet
    rw [quiet.events]
    rfl

theorem retrieveEffects_length (ids : List String) :
    (agent.retrieveEffects ids).length = 2 * ids.length := by
  induction ids with
  | nil => rfl
  | cons ctxId rest ih =>
      rw [agent.retrieveEffects_cons ctxId rest, List.length_append, ih, List.length_cons]
      change 2 + 2 * rest.length = 2 * (rest.length + 1)
      omega

theorem prelude_length (contexts : List GroundingContext) :
    (agent.prelude task contexts).length ≤ 3 + 2 * (task.derivedFrom.take 2).length := by
  unfold prelude answerEffects
  rw [List.length_cons, List.length_append, retrieveEffects_length]
  cases task.overrideResponse with
  | some response =>
      rw [List.length_nil]
      omega
  | none =>
      rw [List.length_cons, List.length_singleton]
      omega

theorem Published.length
    (published : agent.Published admits task own output after contexts request response) :
    after.length ≤ own.length + (5 + 2 * (task.derivedFrom.take 2).length) := by
  have before : (agent.prelude task contexts).length ≤ _ := agent.prelude_length contexts
  rw [published.sent.effects]
  simp only [List.length_append, List.length_cons, List.length_nil]
  omega

theorem Unsent.length (unsent : agent.Unsent admits built idempotencyKey own failure after) :
    after.length ≤ own.length + 1 := by
  cases unsent with
  | building raised => exact Nat.le_succ _
  | refused isBuilt raised => exact List.length_append.le
  | unhashed isBuilt accepted missing => exact List.length_append.le

theorem Abandoned.length (abandoned : agent.Abandoned admits task own failure after) :
    after.length ≤ own.length + (5 + 2 * (task.derivedFrom.take 2).length) := by
  cases abandoned with
  | @grounding done ctxId rest contexts ids grounded raised =>
      rw [ids]
      simp only [List.length_append, List.length_cons, List.length_nil, retrieveEffects_length]
      omega
  | @answering contexts asked grounded raised =>
      have before : (agent.prelude task contexts).length ≤ _ := agent.prelude_length contexts
      rw [List.length_append]
      omega
  | @publishing contexts _ _ prepared unsent =>
      have before : (agent.prelude task contexts).length ≤ _ := agent.prelude_length contexts
      have last := unsent.length
      rw [List.length_append] at last
      omega

theorem Abandoned.fails (abandoned : agent.Abandoned admits task own failure after) :
    Fails own after := by
  cases abandoned with
  | @grounding done ctxId rest contexts ids grounded raised =>
      rw [List.append_assoc]
      apply (quiet_append _).fails
      intro effect member
      simp only [List.cons_append, List.mem_cons, List.mem_append, List.not_mem_nil,
        or_false] at member
      rcases member with rfl | retrieving | rfl
      · exact agent.preparing_started
      · exact agent.preparing_retrieveEffects _ effect retrieving
      · rfl
  | answering asked grounded raised => exact (agent.quiet_prelude _).fails
  | @publishing contexts llmResult _ prepared unsent =>
      have fails := unsent.fails
      have quiet : Quiet own (own ++ agent.prelude task contexts) := agent.quiet_prelude contexts
      obtain ⟨sent, few, arePosts⟩ := fails.requests
      refine ⟨?_, ⟨sent, few, ?_⟩, ?_⟩
      · rw [fails.events, quiet.events]
      · rw [arePosts, quiet.requests]
      · rw [fails.closes, quiet.closes]

end Law

/-- An agent that runs alone: what it returned is the context it announced last, and a run that
raised announced nothing, although its request may have reached the registry. -/
theorem run_announces_what_it_returns (agent : Agent Request Failure) (task : AgentTask)
    (history : List (AgentEffect Request)) :
    (∀ output after, (agent.run task).run history = (.ok output, history ++ after) →
      ∃ contexts request response,
        agent.Published (Alone history) task [] output after contexts request response ∧
        publishEvents after = [agent.publishEvent task output.llmResponse response] ∧
        posts after = [request]) ∧
    (∀ failure after, (agent.run task).run history = (.error failure, history ++ after) →
      agent.Abandoned (Alone history) task [] failure after ∧
        publishEvents after = [] ∧ (posts after).length ≤ 1) ∧
    ∃ after, ((agent.run task).run history).2 = history ++ after := by
  have ensured : Ensures (Alone history) _ _ (agent.run task) [] := agent.run_ensures
  obtain ⟨final, did, returned, raised⟩ := ensures_run ensured
  rw [List.append_nil] at did returned raised
  refine ⟨?_, ?_, final, did⟩
  · intro output after ran
    rw [ran] at did returned
    have sameAfter : after = final := List.append_cancel_left did
    subst sameAfter
    obtain ⟨contexts, request, response, published⟩ := returned output rfl
    have announces := published.announces
    exact ⟨contexts, request, response, published, announces.events, announces.requests⟩
  · intro failure after ran
    rw [ran] at did raised
    have sameAfter : after = final := List.append_cancel_left did
    subst sameAfter
    have abandoned := raised failure rfl
    obtain ⟨noEvent, ⟨sent, few, arePosts⟩, _⟩ := abandoned.fails
    refine ⟨abandoned, noEvent, ?_⟩
    rw [arePosts]
    exact few

end Agent

end AcdpPlayground.Agents

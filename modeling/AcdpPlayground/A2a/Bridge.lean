/-
The bridge of `a2a/sidecar/src/main.rs`: the operations a request line may name, the table of
the task sessions and what is replied.

What an agent and a session are belongs to the crate behind the bridge and is a parameter,
together with whatever a registry answers while an artifact is published. Requests are
served one at a time, so that a request finds the table as the one before left it.
-/

import AcdpPlayground.A2a.Sidecar
import AcdpPlayground.Foundation.CallSequence

namespace AcdpPlayground.A2a

open PythonText JsonValue

/-! ### The crate -/

structure AgentConfig where
  seed : List UInt8
  registryUrl : Text
  allowLocalHttp : Bool
  protocolVersion : Text
  bodyType : Json
  visibility : Option Json
  domain : Option Text
  tags : List Text

inductive ChunkOutput where
  | emit (chunk : Json)
  | withhold (artifactId : Json) (failure : Json)

structure TaskOutput where
  task : Json
  withheld : List (Json × Json)

/-- The crates `acdp` and `acdp_a2a`. An operation that publishes depends on the world. -/
structure Crate (Agent Session World : Type) where
  hexDecode : Text → Except Text (List UInt8)
  /-- `Producer::new_did_key(SigningKey::from_bytes(&seed)).key_id()`. -/
  keyId : List UInt8 → Text
  /-- Building the `RegistryClient`. -/
  connect : Bool → Text → World → Except Text Unit
  readContextType : Json → Except Text Unit
  readVisibility : Json → Except Text Unit
  newAgent : AgentConfig → Agent
  parseAgentDid : Text → Except Text Unit
  cardExtension : Text → Text → Json
  newSession : Text → Text → Session
  observeClientMessage : Session → Json → Session
  citedInputs : Session → List Text
  parseCtxId : Text → Except Text Text
  markInputsVerified : Session → List Text → Session
  onChunk : Agent → Session → Json → World → Session × Except Text ChunkOutput
  onTask : Agent → Session → Json → World → Session × Except Text TaskOutput

/-! ### The bridge -/

structure Bridge (Agent Session : Type) where
  agent : Option Agent
  sessions : List (Text × Session)

def strField (request : Json) (name : String) : Except Text Text :=
  match request.get? name with
  | some (.string value) => .ok value
  | _ => .error (text ("missing string field `" ++ name ++ "`"))

/-- `req[name]`. -/
def field (request : Json) (name : String) : Json :=
  (request.get? name).getD .null

def asStr : Json → Option Text
  | .string value => some value
  | _ => none

def noSession (taskId : Text) : Text :=
  text "no session for task " ++ taskId

def notInitialised : Text :=
  text "not initialised"

/-- `split_once('#')`, the part in front. -/
def beforeFragment (keyId : Text) : Option Text :=
  if keyId.contains 35 then some (keyId.takeWhile (· != 35)) else none

namespace Bridge

variable {Agent Session World : Type} (crate : Crate Agent Session World)

/-- `init` up to the assignment of the agent: what is assigned, the agent's DID, its key and
the registry. -/
def configure (request : Json) (world : World) :
    Except Text (AgentConfig × Text × Text × Text) := do
  let seed ← crate.hexDecode (← strField request "seed_hex")
  if seed.length ≠ 32 then throw (text "seed_hex is not 32 bytes")
  let keyId := crate.keyId seed
  let agentId ←
    match beforeFragment keyId with
    | some did => .ok did
    | none => .error (text "did:key key_id has no fragment")
  let registryUrl ← strField request "registry_url"
  let registry ← strField request "registry"
  let allowLocalHttp :=
    match field request "allow_local_http" with
    | .boolean value => value
    | _ => false
  crate.connect allowLocalHttp registryUrl world
  crate.readContextType (field request "body_type")
  let visibility :=
    match request.get? "visibility" with
    | some .null | none => none
    | some value => some value
  visibility.forM crate.readVisibility
  let tags :=
    match field request "tags" with
    | .array items => items.filterMap asStr
    | _ => []
  let version ← strField request "a2a_protocol_version"
  return (
    { seed := seed
      registryUrl := registryUrl
      allowLocalHttp := allowLocalHttp
      protocolVersion := version
      bodyType := field request "body_type"
      visibility := visibility
      domain := asStr (field request "domain")
      tags := tags }, agentId, keyId, registry)

/-- The agent is assigned before its own DID is parsed. -/
def init (bridge : Bridge Agent Session) (request : Json) (world : World) :
    Handled × Bridge Agent Session :=
  match configure crate request world with
  | .error error => (.error error, bridge)
  | .ok (config, agentId, keyId, registry) =>
      let assigned := { bridge with agent := some (crate.newAgent config) }
      match crate.parseAgentDid agentId with
      | .error error => (.error error, assigned)
      | .ok _ =>
          (.ok (.object [(text "agent_id", .string agentId), (text "key_id", .string keyId),
            (text "card_extension", crate.cardExtension registry agentId)]), assigned)

/-- `self.sessions.entry(task_id).or_insert_with(..)`. -/
def openSession (bridge : Bridge Agent Session) (taskId contextId : Text) :
    Bridge Agent Session :=
  match bridge.sessions.lookup taskId with
  | some _ => bridge
  | none =>
      { bridge with
        sessions := KeyedTable.insert bridge.sessions taskId (crate.newSession taskId contextId) }

def setSession (bridge : Bridge Agent Session) (taskId : Text) (session : Session) :
    Bridge Agent Session :=
  { bridge with sessions := KeyedTable.insert bridge.sessions taskId session }

/-- An operation on the session that a request names: its new state and the reply. -/
def withSession (bridge : Bridge Agent Session) (request : Json)
    (operation : Session → Handled × Session) : Handled × Bridge Agent Session :=
  match strField request "task_id" with
  | .error error => (.error error, bridge)
  | .ok taskId =>
      match bridge.sessions.lookup taskId with
      | none => (.error (noSession taskId), bridge)
      | some session =>
          ((operation session).1, bridge.setSession taskId (operation session).2)

def begin (bridge : Bridge Agent Session) (request : Json) : Handled × Bridge Agent Session :=
  match strField request "task_id", strField request "context_id" with
  | .error error, _ => (.error error, bridge)
  | .ok _, .error error => (.error error, bridge)
  | .ok taskId, .ok contextId => (.ok .null, openSession crate bridge taskId contextId)

def message (bridge : Bridge Agent Session) (request : Json) : Handled × Bridge Agent Session :=
  bridge.withSession request (fun session =>
    let observed := crate.observeClientMessage session (field request "message")
    (.ok (.object [(text "cited", .array ((crate.citedInputs observed).map .string))]), observed))

def readIds (request : Json) : Except Text (List Text) :=
  match field request "ids" with
  | .array items => items.mapM (fun item => crate.parseCtxId ((asStr item).getD []))
  | _ => .error (text "missing array field `ids`")

def verifiedInputs (bridge : Bridge Agent Session) (request : Json) :
    Handled × Bridge Agent Session :=
  match readIds crate request with
  | .error error => (.error error, bridge)
  | .ok ids =>
      bridge.withSession request (fun session =>
        (.ok .null, crate.markInputsVerified session ids))

def chunkReply : ChunkOutput → Json
  | .emit chunk => .object [(text "emit", chunk)]
  | .withhold artifactId failure =>
      .object [(text "withhold", .object
        [(text "artifact_id", artifactId), (text "failure", failure)])]

def taskReply (output : TaskOutput) : Json :=
  .object [(text "task", output.task), (text "withheld", .array (output.withheld.map
    (fun pair => .object [(text "artifact_id", pair.1), (text "failure", pair.2)])))]

/-- `chunk` and `task`: the session is looked up before the agent. -/
def withAgent {Output : Type} (bridge : Bridge Agent Session) (request : Json)
    (operation : Agent → Session → Session × Except Text Output) (reply : Output → Json) :
    Handled × Bridge Agent Session :=
  bridge.withSession request (fun session =>
    match bridge.agent with
    | none => (.error notInitialised, session)
    | some agent => ((operation agent session).2.map reply, (operation agent session).1))

def chunk (bridge : Bridge Agent Session) (request : Json) (world : World) :
    Handled × Bridge Agent Session :=
  bridge.withAgent request
    (fun agent session => crate.onChunk agent session (field request "chunk") world) chunkReply

def task (bridge : Bridge Agent Session) (request : Json) (world : World) :
    Handled × Bridge Agent Session :=
  bridge.withAgent request
    (fun agent session => crate.onTask agent session (field request "task") world) taskReply

/-- `end`. -/
def endSession (bridge : Bridge Agent Session) (request : Json) : Handled × Bridge Agent Session :=
  match bridge.agent, strField request "task_id" with
  | none, _ => (.error notInitialised, bridge)
  | some _, .error error => (.error error, bridge)
  | some _, .ok taskId =>
      (.ok .null, { bridge with sessions := KeyedTable.remove bridge.sessions taskId })

def handle (bridge : Bridge Agent Session) (line : Json × World) :
    Handled × Bridge Agent Session :=
  let request := line.1
  match strField request "op" with
  | .error error => (.error error, bridge)
  | .ok op =>
      if op = text "init" then bridge.init crate request line.2
      else if op = text "begin" then bridge.begin crate request
      else if op = text "message" then bridge.message crate request
      else if op = text "verified_inputs" then bridge.verifiedInputs crate request
      else if op = text "chunk" then bridge.chunk crate request line.2
      else if op = text "task" then bridge.task crate request line.2
      else if op = text "end" then bridge.endSession request
      else (.error (text "unknown op `" ++ op ++ text "`"), bridge)

/-! ### One task's view -/

def concerns (taskId : Text) (line : Json × World) : Bool :=
  asStr (field line.1 "op") == some (text "init") ||
    asStr (field line.1 "task_id") == some taskId

/-- Two bridges with the same agent and the same session of the task. -/
def Alike (taskId : Text) (bridge twin : Bridge Agent Session) : Prop :=
  bridge.agent = twin.agent ∧ bridge.sessions.lookup taskId = twin.sessions.lookup taskId

theorem strField_eq_ok {request : Json} {name : String} {value : Text}
    (read : strField request name = .ok value) : asStr (field request name) = some value := by
  unfold strField at read
  unfold field
  split at read
  · next found =>
      cases read
      rw [found]
      rfl
  · cases read

variable {crate} {taskId : Text} {bridge twin : Bridge Agent Session} {request : Json}

theorem lookup_setSession (bridge : Bridge Agent Session) (named asked : Text)
    (session : Session) :
    (bridge.setSession named session).sessions.lookup asked =
      if asked = named then some session else bridge.sessions.lookup asked := by
  by_cases same : asked = named
  · rw [if_pos same, same]
    exact KeyedTable.lookup_insert_self _ _ _
  · rw [if_neg same]
    exact KeyedTable.lookup_insert_ne same _ _

theorem lookup_openSession (bridge : Bridge Agent Session) (named contextId asked : Text) :
    (openSession crate bridge named contextId).sessions.lookup asked =
      if asked = named then
        some ((bridge.sessions.lookup named).getD (crate.newSession named contextId))
      else bridge.sessions.lookup asked := by
  unfold openSession
  cases found : bridge.sessions.lookup named with
  | some session =>
      by_cases same : asked = named
      · rw [if_pos same, same]
        exact found
      · rw [if_neg same]
  | none => exact lookup_setSession bridge named asked _

theorem openSession_agent (bridge : Bridge Agent Session) (named contextId : Text) :
    (openSession crate bridge named contextId).agent = bridge.agent := by
  unfold openSession
  split <;> rfl

theorem withSession_alike (alike : Alike taskId bridge twin)
    (named : asStr (field request "task_id") = some taskId)
    (operation : Session → Handled × Session) :
    (bridge.withSession request operation).1 = (twin.withSession request operation).1 ∧
      Alike taskId (bridge.withSession request operation).2
        (twin.withSession request operation).2 := by
  unfold withSession
  cases read : strField request "task_id" with
  | error error => exact ⟨rfl, alike⟩
  | ok found =>
      have same := strField_eq_ok read
      rw [named] at same
      cases same
      simp only [alike.2]
      cases twin.sessions.lookup taskId with
      | none => exact ⟨rfl, alike⟩
      | some session =>
          refine ⟨rfl, alike.1, ?_⟩
          rw [lookup_setSession, lookup_setSession, if_pos rfl, if_pos rfl]

theorem withSession_unseen (alike : Alike taskId bridge twin)
    (other : asStr (field request "task_id") ≠ some taskId)
    (operation : Session → Handled × Session) :
    Alike taskId (bridge.withSession request operation).2 twin := by
  unfold withSession
  cases read : strField request "task_id" with
  | error error => exact alike
  | ok found =>
      dsimp only
      have different : taskId ≠ found := by
        intro same
        exact other (same ▸ strField_eq_ok read)
      cases bridge.sessions.lookup found with
      | none => exact alike
      | some session =>
          refine ⟨alike.1, ?_⟩
          rw [lookup_setSession, if_neg different]
          exact alike.2

theorem begin_alike (alike : Alike taskId bridge twin)
    (named : asStr (field request "task_id") = some taskId) :
    (bridge.begin crate request).1 = (twin.begin crate request).1 ∧
      Alike taskId (bridge.begin crate request).2 (twin.begin crate request).2 := by
  unfold begin
  cases read : strField request "task_id" with
  | error error => exact ⟨rfl, alike⟩
  | ok found =>
      have same := strField_eq_ok read
      rw [named] at same
      cases same
      cases strField request "context_id" with
      | error error => exact ⟨rfl, alike⟩
      | ok contextId =>
          refine ⟨rfl, ?_, ?_⟩
          · rw [openSession_agent, openSession_agent]
            exact alike.1
          · rw [lookup_openSession, lookup_openSession, if_pos rfl, if_pos rfl, alike.2]

theorem begin_unseen (alike : Alike taskId bridge twin)
    (other : asStr (field request "task_id") ≠ some taskId) :
    Alike taskId (bridge.begin crate request).2 twin := by
  unfold begin
  cases read : strField request "task_id" with
  | error error => exact alike
  | ok found =>
      have different : taskId ≠ found := by
        intro same
        exact other (same ▸ strField_eq_ok read)
      cases strField request "context_id" with
      | error error => exact alike
      | ok contextId =>
          refine ⟨(openSession_agent _ _ _).trans alike.1, ?_⟩
          rw [lookup_openSession, if_neg different]
          exact alike.2

theorem endSession_alike (alike : Alike taskId bridge twin)
    (named : asStr (field request "task_id") = some taskId) :
    (bridge.endSession request).1 = (twin.endSession request).1 ∧
      Alike taskId (bridge.endSession request).2 (twin.endSession request).2 := by
  unfold endSession
  rw [alike.1]
  cases started : twin.agent with
  | none => exact ⟨rfl, alike⟩
  | some agent =>
      cases read : strField request "task_id" with
      | error error => exact ⟨rfl, alike⟩
      | ok found =>
          have same := strField_eq_ok read
          rw [named] at same
          cases same
          refine ⟨rfl, rfl, ?_⟩
          change (KeyedTable.remove _ _).lookup _ = (KeyedTable.remove _ _).lookup _
          rw [KeyedTable.lookup_remove_self, KeyedTable.lookup_remove_self]

theorem endSession_unseen (alike : Alike taskId bridge twin)
    (other : asStr (field request "task_id") ≠ some taskId) :
    Alike taskId (bridge.endSession request).2 twin := by
  unfold endSession
  cases started : bridge.agent with
  | none => exact alike
  | some agent =>
      cases read : strField request "task_id" with
      | error error => exact alike
      | ok found =>
          have different : taskId ≠ found := by
            intro same
            exact other (same ▸ strField_eq_ok read)
          refine ⟨started.symm.trans alike.1, ?_⟩
          change (KeyedTable.remove _ _).lookup _ = _
          rw [KeyedTable.lookup_remove_ne different]
          exact alike.2

theorem verifiedInputs_alike (alike : Alike taskId bridge twin)
    (named : asStr (field request "task_id") = some taskId) :
    (bridge.verifiedInputs crate request).1 = (twin.verifiedInputs crate request).1 ∧
      Alike taskId (bridge.verifiedInputs crate request).2
        (twin.verifiedInputs crate request).2 := by
  unfold verifiedInputs
  cases readIds crate request with
  | error error => exact ⟨rfl, alike⟩
  | ok ids => exact withSession_alike alike named _

theorem verifiedInputs_unseen (alike : Alike taskId bridge twin)
    (other : asStr (field request "task_id") ≠ some taskId) :
    Alike taskId (bridge.verifiedInputs crate request).2 twin := by
  unfold verifiedInputs
  cases readIds crate request with
  | error error => exact alike
  | ok ids => exact withSession_unseen alike other _

theorem withAgent_alike {Output : Type} (alike : Alike taskId bridge twin)
    (named : asStr (field request "task_id") = some taskId)
    (operation : Agent → Session → Session × Except Text Output) (reply : Output → Json) :
    (bridge.withAgent request operation reply).1 = (twin.withAgent request operation reply).1 ∧
      Alike taskId (bridge.withAgent request operation reply).2
        (twin.withAgent request operation reply).2 := by
  unfold withAgent
  rw [alike.1]
  exact withSession_alike alike named _

theorem init_alike (alike : Alike taskId bridge twin) (world : World) :
    (bridge.init crate request world).1 = (twin.init crate request world).1 ∧
      Alike taskId (bridge.init crate request world).2 (twin.init crate request world).2 := by
  unfold init
  cases configure crate request world with
  | error error => exact ⟨rfl, alike⟩
  | ok configured =>
      obtain ⟨config, agentId, keyId, registry⟩ := configured
      dsimp only
      cases crate.parseAgentDid agentId with
      | error error => exact ⟨rfl, rfl, alike.2⟩
      | ok _ => exact ⟨rfl, rfl, alike.2⟩

theorem handle_alike (line : Json × World) (concerned : concerns taskId line = true)
    (alike : Alike taskId bridge twin) :
    (bridge.handle crate line).1 = (twin.handle crate line).1 ∧
      Alike taskId (bridge.handle crate line).2 (twin.handle crate line).2 := by
  obtain ⟨request, world⟩ := line
  unfold handle
  dsimp only
  cases read : strField request "op" with
  | error error => exact ⟨rfl, alike⟩
  | ok op =>
      dsimp only
      by_cases isInit : op = text "init"
      · rw [if_pos isInit, if_pos isInit]
        exact init_alike alike world
      rw [if_neg isInit, if_neg isInit]
      have named : asStr (field request "task_id") = some taskId := by
        rcases Bool.or_eq_true_iff.mp concerned with started | naming
        · rw [strField_eq_ok read, beq_iff_eq] at started
          exact absurd (Option.some.inj started) isInit
        · exact beq_iff_eq.mp naming
      by_cases isBegin : op = text "begin"
      · rw [if_pos isBegin, if_pos isBegin]
        exact begin_alike alike named
      rw [if_neg isBegin, if_neg isBegin]
      by_cases isMessage : op = text "message"
      · rw [if_pos isMessage, if_pos isMessage]
        exact withSession_alike alike named _
      rw [if_neg isMessage, if_neg isMessage]
      by_cases isVerified : op = text "verified_inputs"
      · rw [if_pos isVerified, if_pos isVerified]
        exact verifiedInputs_alike alike named
      rw [if_neg isVerified, if_neg isVerified]
      by_cases isChunk : op = text "chunk"
      · rw [if_pos isChunk, if_pos isChunk]
        exact withAgent_alike alike named _ _
      rw [if_neg isChunk, if_neg isChunk]
      by_cases isTask : op = text "task"
      · rw [if_pos isTask, if_pos isTask]
        exact withAgent_alike alike named _ _
      rw [if_neg isTask, if_neg isTask]
      by_cases isEnd : op = text "end"
      · rw [if_pos isEnd, if_pos isEnd]
        exact endSession_alike alike named
      rw [if_neg isEnd, if_neg isEnd]
      exact ⟨rfl, alike⟩

theorem handle_unseen (line : Json × World) (unconcerned : concerns taskId line = false)
    (alike : Alike taskId bridge twin) : Alike taskId (bridge.handle crate line).2 twin := by
  obtain ⟨request, world⟩ := line
  obtain ⟨notInit, notNamed⟩ := Bool.or_eq_false_iff.mp unconcerned
  have other := beq_eq_false_iff_ne.mp notNamed
  unfold handle
  dsimp only
  cases read : strField request "op" with
  | error error => exact alike
  | ok op =>
      dsimp only
      have isOther : op ≠ text "init" := by
        rw [strField_eq_ok read] at notInit
        intro same
        exact beq_eq_false_iff_ne.mp notInit (congrArg some same)
      rw [if_neg isOther]
      split
      · exact begin_unseen alike other
      split
      · exact withSession_unseen alike other _
      split
      · exact verifiedInputs_unseen alike other
      split
      · exact withSession_unseen alike other _
      split
      · exact withSession_unseen alike other _
      split
      · exact endSession_unseen alike other
      · exact alike

/-- Of the requests that name other tasks nothing shows in the replies to one task's. -/
theorem replies_to_task_eq (crate : Crate Agent Session World) (bridge : Bridge Agent Session)
    (taskId : Text) (lines : List (Json × World)) :
    ((lines.zip (CallSequence.replies (handle crate) bridge lines)).filter
        (fun pair => concerns taskId pair.1)).map Prod.snd =
      CallSequence.replies (handle crate) bridge (lines.filter (concerns taskId)) :=
  CallSequence.replies_filter_of_unseen
    (fun line _ _ concerned alike => handle_alike line concerned alike)
    (fun line _ _ unconcerned alike => handle_unseen line unconcerned alike) ⟨rfl, rfl⟩

end Bridge

end AcdpPlayground.A2a

/-
What the executions of a service leave in the table of sessions. Every interleaving of the
executions, of the calls on the sidecar and of the process is a run; callers may be cancelled
at any await, and the pipes may be disturbed.

A line that needs a session finds it. When the pipe is drained, a task has a session left
exactly when the `begin` of one of its executions was served and no `end` of this or a later
one: an execution that raises in `begin`, or is cancelled while its `end` waits for the lock,
leaves the session of its task behind.
-/

import AcdpPlayground.A2a.ExecutionCalls

namespace AcdpPlayground.A2a

open PythonText JsonValue TransitionRun

variable {Agent Session World Reading : Type}

/-! ### What a line does to the table -/

/-- The task whose session a request opens (`true`) or drops (`false`). -/
def sessionEffect (body : Json) : Option (Text × Bool) :=
  match strField body "op", strField body "task_id" with
  | .ok op, .ok taskId =>
      if op = text "begin" then some (taskId, true)
      else if op = text "end" then some (taskId, false)
      else none
  | _, _ => none

/-- The task whose session a request needs. -/
def neededSession (body : Json) : Option Text :=
  match strField body "op", strField body "task_id" with
  | .ok op, .ok taskId =>
      if op = text "message" ∨ op = text "verified_inputs" ∨ op = text "chunk" then some taskId
      else none
  | _, _ => none

def applyEffect (present : Text → Bool) : Option (Text × Bool) → Text → Bool
  | none => present
  | some (taskId, value) => Function.update present taskId value

/-- The tasks with a session when all the lines are served. -/
def presentAfter : (Text → Bool) → List RequestLine → Text → Bool
  | present, [] => present
  | present, line :: rest => presentAfter (applyEffect present (sessionEffect line.body)) rest

def Fed : (Text → Bool) → List RequestLine → Prop
  | _, [] => True
  | present, line :: rest =>
      (∀ taskId ∈ neededSession line.body, present taskId = true) ∧
        Fed (applyEffect present (sessionEffect line.body)) rest

theorem presentAfter_concat (present : Text → Bool) (lines : List RequestLine)
    (last : RequestLine) :
    presentAfter present (lines ++ [last]) =
      applyEffect (presentAfter present lines) (sessionEffect last.body) := by
  induction lines generalizing present with
  | nil => rfl
  | cons line rest ih => exact ih _

theorem fed_concat (present : Text → Bool) (lines : List RequestLine) (last : RequestLine) :
    Fed present (lines ++ [last]) ↔ Fed present lines ∧
      ∀ taskId ∈ neededSession last.body, presentAfter present lines taskId = true := by
  induction lines generalizing present with
  | nil =>
      constructor
      · rintro ⟨needed, _⟩
        exact ⟨trivial, needed⟩
      · rintro ⟨_, needed⟩
        exact ⟨needed, trivial⟩
  | cons line rest ih =>
      change _ ∧ Fed _ (rest ++ [last]) ↔ (_ ∧ Fed _ rest) ∧ _
      rw [ih, and_assoc]
      rfl

/-- What a request of an execution does, by the request. -/
def TaskRequest.effect (taskId : Text) : TaskRequest → Option (Text × Bool)
  | .begin _ => some (taskId, true)
  | .endTask => some (taskId, false)
  | .message _ | .verifiedInputs _ | .chunk _ => none

theorem sessionEffect_body (request : TaskRequest) (taskId : Text) (number : Nat) :
    sessionEffect ((request.request taskId).body number) = request.effect taskId := by
  cases request <;> rfl

theorem neededSession_body (request : TaskRequest) (taskId : Text) (number : Nat) :
    neededSession ((request.request taskId).body number) =
      if request.usesSession then some taskId else none := by
  cases request <;> rfl

def Bridge.present (bridge : Bridge Agent Session) (taskId : Text) : Bool :=
  (bridge.sessions.lookup taskId).isSome

namespace Bridge

variable {crate : Crate Agent Session World} {bridge : Bridge Agent Session}

theorem setSession_present (bridge : Bridge Agent Session) (taskId : Text) (session : Session) :
    (bridge.setSession taskId session).present =
      Function.update bridge.present taskId true := by
  funext asked
  unfold present
  rw [lookup_setSession, Function.update_apply]
  split <;> rfl

theorem withSession_present (bridge : Bridge Agent Session) (request : Json)
    (operation : Session → Handled × Session) :
    (bridge.withSession request operation).2.present = bridge.present := by
  unfold withSession
  cases strField request "task_id" with
  | error error => rfl
  | ok taskId =>
      dsimp only
      cases found : bridge.sessions.lookup taskId with
      | none => rfl
      | some session =>
          dsimp only
          rw [setSession_present]
          apply Function.update_eq_self_iff.mpr
          unfold present
          rw [found]
          rfl

theorem withSession_agent (bridge : Bridge Agent Session) (request : Json)
    (operation : Session → Handled × Session) :
    (bridge.withSession request operation).2.agent = bridge.agent := by
  unfold withSession
  cases strField request "task_id" with
  | error error => rfl
  | ok taskId =>
      dsimp only
      cases bridge.sessions.lookup taskId <;> rfl

theorem handle_message (content : Json) (taskId : Text) (number : Nat) (world : World) :
    bridge.handle crate (((TaskRequest.message content).request taskId).body number, world) =
      bridge.message crate (((TaskRequest.message content).request taskId).body number) := rfl

theorem handle_verifiedInputs (ids : List Text) (taskId : Text) (number : Nat) (world : World) :
    bridge.handle crate (((TaskRequest.verifiedInputs ids).request taskId).body number, world) =
      bridge.verifiedInputs crate
        (((TaskRequest.verifiedInputs ids).request taskId).body number) := rfl

theorem handle_chunk (content : Json) (taskId : Text) (number : Nat) (world : World) :
    bridge.handle crate (((TaskRequest.chunk content).request taskId).body number, world) =
      bridge.chunk crate (((TaskRequest.chunk content).request taskId).body number) world := rfl

/-- Serving a request of an execution changes the table by its effect. -/
theorem handle_request (ready : bridge.agent.isSome = true) (request : TaskRequest)
    (taskId : Text) (number : Nat) (world : World) :
    (bridge.handle crate ((request.request taskId).body number, world)).2.agent = bridge.agent ∧
      (bridge.handle crate ((request.request taskId).body number, world)).2.present =
        applyEffect bridge.present (request.effect taskId) := by
  obtain ⟨agent, isAgent⟩ := Option.isSome_iff_exists.mp ready
  cases request with
  | begin contextId =>
      change (openSession crate bridge taskId contextId).agent = _ ∧
        (openSession crate bridge taskId contextId).present = _
      refine ⟨openSession_agent _ _ _, ?_⟩
      funext asked
      unfold present
      rw [lookup_openSession]
      change _ = Function.update bridge.present taskId true asked
      rw [Function.update_apply]
      split <;> rfl
  | message content =>
      rw [handle_message]
      exact ⟨withSession_agent _ _ _, withSession_present _ _ _⟩
  | verifiedInputs ids =>
      rw [handle_verifiedInputs]
      unfold verifiedInputs
      cases readIds crate _ with
      | error error => exact ⟨rfl, rfl⟩
      | ok read => exact ⟨withSession_agent _ _ _, withSession_present _ _ _⟩
  | chunk content =>
      rw [handle_chunk]
      exact ⟨withSession_agent _ _ _, withSession_present _ _ _⟩
  | endTask =>
      have dropped : bridge.handle crate ((TaskRequest.endTask.request taskId).body number, world) =
          (.ok .null, { bridge with sessions := KeyedTable.remove bridge.sessions taskId }) := by
        change bridge.endSession _ = _
        unfold endSession
        rw [isAgent]
        rfl
      rw [dropped]
      refine ⟨rfl, ?_⟩
      funext asked
      change (List.lookup asked (KeyedTable.remove bridge.sessions taskId)).isSome =
        Function.update bridge.present taskId false asked
      rw [Function.update_apply]
      by_cases same : asked = taskId
      · rw [if_pos same, same, KeyedTable.lookup_remove_self]
        rfl
      · rw [if_neg same, KeyedTable.lookup_remove_ne same]
        rfl

end Bridge

/-! ### The sessions that are open -/

namespace Service

/-- A request of the task that was written, by the execution it belongs to. -/
def WrittenEntry (service : Service Agent Session) (index : Nat) (taskId : Text) (call : Nat)
    (request : TaskRequest) : Prop :=
  ∃ execution, service.At index execution ∧ execution.taskId = taskId ∧
    (call, request) ∈ execution.entered ∧ service.Written call

/-- An execution of the task wrote its `begin`, and neither it nor a later one an `end`. -/
def Open (service : Service Agent Session) (taskId : Text) : Prop :=
  ∃ index call contextId, service.WrittenEntry index taskId call (.begin contextId) ∧
    ∀ later other, index ≤ later → ¬service.WrittenEntry later taskId other .endTask

structure Tabled (service : Service Agent Session) : Prop where
  ready : service.bridge.agent.isSome = true
  exclusive : ∀ index other execution second, index < other → service.At index execution →
    service.At other second → execution.taskId = second.taskId → execution.stage = .finished
  presence : ∀ taskId, presentAfter service.bridge.present service.sidecar.stdin taskId = true ↔
    service.Open taskId
  fed : Fed service.bridge.present service.sidecar.stdin

theorem tabled_started (agent : Agent) : (started agent : Service Agent Session).Tabled where
  ready := rfl
  exclusive := by rintro _ _ _ _ _ ⟨⟩
  presence := by
    intro taskId
    refine iff_of_false Bool.false_ne_true ?_
    rintro ⟨_, _, _, ⟨_, ⟨⟩, _⟩, _⟩
  fed := trivial

variable {service next : Service Agent Session}

theorem open_congr (same : ∀ index taskId call request,
      next.WrittenEntry index taskId call request ↔
        service.WrittenEntry index taskId call request) (taskId : Text) :
    next.Open taskId ↔ service.Open taskId := by
  unfold Open
  simp only [same]

theorem Tabled.quiet (tabled : service.Tabled)
    (bridge : next.bridge = service.bridge) (stdin : next.sidecar.stdin = service.sidecar.stdin)
    (same : ∀ index taskId call request, next.WrittenEntry index taskId call request ↔
      service.WrittenEntry index taskId call request)
    (exclusive : ∀ index other execution second, index < other → next.At index execution →
      next.At other second → execution.taskId = second.taskId → execution.stage = .finished) :
    next.Tabled := by
  refine ⟨by rw [bridge]; exact tabled.ready, exclusive, ?_, ?_⟩
  · intro taskId
    rw [bridge, stdin, open_congr same]
    exact tabled.presence taskId
  · rw [bridge, stdin]
    exact tabled.fed

theorem Tabled.arrive (tabled : service.Tabled) {taskId : Text}
    (exclusive : ∀ execution ∈ service.executions, execution.taskId = taskId →
      execution.stage = .finished) (contextId : Text) (message : Json) :
    (service.arrive taskId contextId message).Tabled := by
  refine tabled.quiet rfl rfl ?_ ?_
  · intro index asked call request
    constructor
    · rintro ⟨execution, there, isTask, entered, written⟩
      rcases arrive_at there with ⟨_, rfl⟩ | before
      · cases entered
      · exact ⟨execution, before, isTask, entered, written⟩
    · rintro ⟨execution, there, isTask, entered, written⟩
      exact ⟨execution, there.arrive _ _ _, isTask, entered, written⟩
  · intro index other execution second earlier there also same
    rcases arrive_at there with ⟨isLast, _⟩ | before
    · have inside := (List.getElem?_eq_some_iff.mp also).1
      unfold Service.arrive at inside
      rw [List.length_append, List.length_singleton] at inside
      omega
    · rcases arrive_at also with ⟨_, rfl⟩ | behind
      · exact exclusive execution (List.mem_of_getElem? before) same
      · exact tabled.exclusive index other execution second earlier before behind same

theorem Tabled.register (tabled : service.Tabled) (booked : service.Booked) {index : Nat}
    {execution : Execution} {request : TaskRequest} {stage : Stage}
    (ready : service.Ready index execution request stage)
    (last : execution.stage = .finished → index + 1 = service.executions.length) :
    (service.register index execution request stage).Tabled := by
  refine tabled.quiet rfl rfl ?_ ?_
  · intro other taskId call asked
    constructor
    · rintro ⟨second, there, isTask, entered, written⟩
      rcases register_at there with ⟨rfl, rfl⟩ | ⟨_, before⟩
      · rcases List.mem_append.mp entered with old | new
        · exact ⟨execution, ready.found, isTask, old, written⟩
        · cases List.mem_singleton.mp new
          exact absurd (booked.known _ written) (Nat.lt_irrefl _)
      · exact ⟨second, before, isTask, entered, written⟩
    · rintro ⟨second, there, isTask, entered, written⟩
      by_cases same : other = index
      · subst other
        cases there.unique ready.found
        exact ⟨_, ready.at_self, isTask, List.mem_append_left _ entered, written⟩
      · exact ⟨second, (List.getElem?_set_ne (Ne.symm same)).trans there, isTask, entered, written⟩
  · intro first other one two earlier there also sameTask
    rcases register_at there with ⟨rfl, rfl⟩ | ⟨_, before⟩
    · rcases register_at also with ⟨rfl, _⟩ | ⟨_, behind⟩
      · exact absurd earlier (Nat.lt_irrefl _)
      · have finished := tabled.exclusive first other execution two earlier ready.found behind sameTask
        have inside := (List.getElem?_eq_some_iff.mp behind).1
        have isLast := last finished
        omega
    · rcases register_at also with ⟨rfl, rfl⟩ | ⟨_, behind⟩
      · exact tabled.exclusive first other one execution earlier before ready.found sameTask
      · exact tabled.exclusive first other one two earlier before behind sameTask

theorem Tabled.leave (tabled : service.Tabled) {index : Nat} {execution : Execution}
    {stage : Stage} (leaves : service.Leaves index execution stage) :
    (service.setStage index execution stage).Tabled := by
  have atSelf : (service.setStage index execution stage).At index
      { execution with stage := stage } :=
    List.getElem?_set_self (List.getElem?_eq_some_iff.mp leaves.found).1
  refine tabled.quiet rfl rfl ?_ ?_
  · intro other taskId call asked
    constructor
    · rintro ⟨second, there, isTask, entered, written⟩
      rcases setStage_at there with ⟨rfl, rfl⟩ | ⟨_, before⟩
      · exact ⟨execution, leaves.found, isTask, entered, written⟩
      · exact ⟨second, before, isTask, entered, written⟩
    · rintro ⟨second, there, isTask, entered, written⟩
      by_cases same : other = index
      · subst other
        cases there.unique leaves.found
        exact ⟨_, atSelf, isTask, entered, written⟩
      · exact ⟨second, (List.getElem?_set_ne (Ne.symm same)).trans there, isTask, entered, written⟩
  · intro first other one two earlier there also sameTask
    rcases setStage_at there with ⟨rfl, rfl⟩ | ⟨_, before⟩
    · rcases setStage_at also with ⟨rfl, _⟩ | ⟨_, behind⟩
      · exact absurd earlier (Nat.lt_irrefl _)
      · have finished := tabled.exclusive first other execution two earlier leaves.found behind sameTask
        refine Classical.byContradiction fun live => ?_
        have inside := (leaves.inside live).1
        rw [finished] at inside
        cases inside
    · rcases setStage_at also with ⟨rfl, rfl⟩ | ⟨_, behind⟩
      · exact tabled.exclusive first other one execution earlier before leaves.found sameTask
      · exact tabled.exclusive first other one two earlier before behind sameTask

theorem Tabled.shift (tabled : service.Tabled) {state : SidecarState}
    (shifted : Shifted service.sidecar state) (stdin : state.stdin = service.sidecar.stdin) :
    ({ service with sidecar := state } : Service Agent Session).Tabled := by
  refine tabled.quiet rfl stdin ?_ tabled.exclusive
  intro index taskId call request
  have written : ({ service with sidecar := state } : Service Agent Session).Written call ↔
      service.Written call := by
    unfold Written
    rw [shifted.handled, stdin]
  unfold WrittenEntry
  rw [written]
  rfl

/-- The bridge serves the head of the pipe by its effect. -/
theorem Tabled.serve (tabled : service.Tabled) (booked : service.Booked)
    {crate : Crate Agent Session World} {platform : SidecarPlatform} {line : RequestLine}
    {later : List RequestLine} {world : World}
    (stdin : service.sidecar.stdin = line :: later) :
    (Service.serve crate platform service line later world).Tabled := by
  obtain ⟨index, execution, request, number, _, _, isBody⟩ :=
    booked.lines line (stdin ▸ List.mem_cons_self)
  have served : (service.bridge.handle crate (line.body, world)).2.agent =
        service.bridge.agent ∧
      (service.bridge.handle crate (line.body, world)).2.present =
        applyEffect service.bridge.present (request.effect execution.taskId) := by
    rw [isBody]
    exact Bridge.handle_request tabled.ready request execution.taskId number world
  obtain ⟨sameAgent, present⟩ := served
  have effect : applyEffect service.bridge.present (sessionEffect line.body) =
      (service.bridge.handle crate (line.body, world)).2.present := by
    rw [present, isBody, sessionEffect_body]
  have same : ∀ index taskId call request,
      (Service.serve crate platform service line later world).WrittenEntry index taskId call
        request ↔ service.WrittenEntry index taskId call request := by
    intro index taskId call request
    unfold WrittenEntry
    simp only [serve_written stdin]
    rfl
  refine ⟨by rw [← tabled.ready]; exact congrArg Option.isSome sameAgent, tabled.exclusive, ?_, ?_⟩
  · intro taskId
    have before := tabled.presence taskId
    rw [stdin] at before
    change presentAfter (applyEffect _ _) later taskId = true ↔ _ at before
    rw [effect] at before
    rw [open_congr same]
    exact before
  · have before := tabled.fed
    rw [stdin] at before
    have behind := before.2
    rw [effect] at behind
    exact behind

/-! ### Writing a line -/

/-- The execution that writes is the last one of its task. -/
theorem Tabled.latest (tabled : service.Tabled) {index call : Nat} {execution : Execution}
    (there : service.At index execution) (awaits : execution.stage.call? = some call)
    {other : Nat} {second : Execution} (also : service.At other second)
    (same : execution.taskId = second.taskId) : other ≤ index := by
  by_contra behind
  have finished := tabled.exclusive index other execution second (Nat.lt_of_not_le behind) there also
    same
  rw [finished] at awaits
  cases awaits

theorem writtenEntry_write (booked : service.Booked) {state : SidecarState} {line : RequestLine}
    (new : service.NewLine state line) {index : Nat} {execution : Execution}
    {request : TaskRequest} (there : service.At index execution)
    (entered : (line.call, request) ∈ execution.entered) (other : Nat) (taskId : Text)
    (call : Nat) (asked : TaskRequest) :
    ({ service with sidecar := state } : Service Agent Session).WrittenEntry other taskId call
        asked ↔
      service.WrittenEntry other taskId call asked ∨
        (other = index ∧ taskId = execution.taskId ∧ call = line.call ∧ asked = request) := by
  unfold WrittenEntry
  simp only [new.written]
  constructor
  · rintro ⟨second, also, isTask, listed, before | rfl⟩
    · exact .inl ⟨second, also, isTask, listed, before⟩
    · obtain ⟨rfl, rfl⟩ := booked.once other index second execution also there _ _ _ listed entered
      cases At.unique also there
      exact .inr ⟨rfl, isTask.symm, rfl, rfl⟩
  · rintro (⟨second, also, isTask, listed, before⟩ | ⟨rfl, rfl, rfl, rfl⟩)
    · exact ⟨second, also, isTask, listed, .inl before⟩
    · exact ⟨execution, there, rfl, entered, .inr rfl⟩

/-- What the line of a request does to the open sessions is its effect on the table. -/
theorem open_write (tabled : service.Tabled) (booked : service.Booked) {state : SidecarState}
    {line : RequestLine} (new : service.NewLine state line) {index : Nat}
    {execution : Execution} {request : TaskRequest} (there : service.At index execution)
    (awaits : execution.stage.call? = some line.call)
    (entered : (line.call, request) ∈ execution.entered)
    (sends : execution.stage.sends request = true) (taskId : Text) :
    applyEffect (presentAfter service.bridge.present service.sidecar.stdin)
        (request.effect execution.taskId) taskId = true ↔
      ({ service with sidecar := state } : Service Agent Session).Open taskId := by
  have entries := writtenEntry_write booked new there entered
  have elsewhere : (∀ contextId, request ≠ .begin contextId) ∧ request ≠ .endTask ∨
      taskId ≠ execution.taskId →
      (({ service with sidecar := state } : Service Agent Session).Open taskId ↔
        service.Open taskId) := by
    intro untouched
    have begins : ∀ other call contextId,
        ({ service with sidecar := state } : Service Agent Session).WrittenEntry other taskId call
          (.begin contextId) ↔ service.WrittenEntry other taskId call (.begin contextId) := by
      intro other call contextId
      rw [entries]
      refine or_iff_left ?_
      rintro ⟨_, isTask, _, isRequest⟩
      rcases untouched with neither | different
      · exact neither.1 contextId isRequest.symm
      · exact different isTask
    have ends : ∀ other call,
        ({ service with sidecar := state } : Service Agent Session).WrittenEntry other taskId call
          .endTask ↔ service.WrittenEntry other taskId call .endTask := by
      intro other call
      rw [entries]
      refine or_iff_left ?_
      rintro ⟨_, isTask, _, isRequest⟩
      rcases untouched with neither | different
      · exact neither.2 isRequest.symm
      · exact different isTask
    unfold Open
    simp only [begins, ends]
  have shaped := booked.shaped index execution there
  cases request with
  | message _ | verifiedInputs _ | chunk _ =>
      rw [elsewhere (.inl ⟨by rintro _ ⟨⟩, by rintro ⟨⟩⟩)]
      exact tabled.presence taskId
  | begin contextId =>
      change Function.update (presentAfter service.bridge.present service.sidecar.stdin)
        execution.taskId true taskId = true ↔ _
      by_cases same : taskId = execution.taskId
      · subst same
        rw [Function.update_self]
        refine iff_of_true rfl ⟨index, line.call, contextId,
          (entries _ _ _ _).mpr (.inr ⟨rfl, rfl, rfl, rfl⟩), ?_⟩
        intro later other notEarlier isWritten
        rcases (entries _ _ _ _).mp isWritten with ⟨second, also, isTask, listed, _⟩ | ⟨_, _, _, ⟨⟩⟩
        have notLater := tabled.latest there awaits also isTask.symm
        have same : later = index := Nat.le_antisymm notLater notEarlier
        subst same
        cases also.unique there
        rcases shaped.ends other listed with ending | finished
        · rw [ending] at sends
          cases sends
        · rw [finished] at awaits
          cases awaits
      · rw [Function.update_of_ne same, elsewhere (.inr same)]
        exact tabled.presence taskId
  | endTask =>
      change Function.update (presentAfter service.bridge.present service.sidecar.stdin)
        execution.taskId false taskId = true ↔ _
      by_cases same : taskId = execution.taskId
      · subst same
        rw [Function.update_self]
        refine iff_of_false Bool.false_ne_true ?_
        rintro ⟨first, call, contextId, began, unended⟩
        rcases (entries _ _ _ _).mp began with ⟨second, also, isTask, _, _⟩ | ⟨_, _, _, ⟨⟩⟩
        exact unended index line.call (tabled.latest there awaits also isTask.symm)
          ((entries _ _ _ _).mpr (.inr ⟨rfl, rfl, rfl, rfl⟩))
      · rw [Function.update_of_ne same, elsewhere (.inr same)]
        exact tabled.presence taskId

/-- An execution that sends a request on its session has its session open. -/
theorem open_of_inside (tabled : service.Tabled) (booked : service.Booked) {index call : Nat}
    {execution : Execution} {request : TaskRequest} (there : service.At index execution)
    (awaits : execution.stage.call? = some call)
    (sends : execution.stage.sends request = true) (uses : request.usesSession = true) :
    service.Open execution.taskId := by
  have shaped := booked.shaped index execution there
  have stages : execution.stage.isInside = true ∧ (∀ other, execution.stage ≠ .ending other) ∧
      execution.stage ≠ .finished := by
    cases stage : execution.stage with
    | noting _ | marking _ | publishing _ _ => exact ⟨rfl, by rintro _ ⟨⟩, by rintro ⟨⟩⟩
    | beginning _ | ending _ =>
        rw [stage] at sends
        cases request with
        | begin _ | endTask => cases uses
        | message _ | verifiedInputs _ | chunk _ => cases sends
    | verifying _ | emitting _ | finished =>
        rw [stage] at awaits
        cases awaits
  obtain ⟨inside, notEnding, notOver⟩ := stages
  obtain ⟨first, contextId, opened⟩ := shaped.opens notOver
  refine ⟨index, first, contextId, ⟨execution, there, rfl, opened,
    booked.opened index execution there inside first contextId opened⟩, ?_⟩
  rintro later other notEarlier ⟨second, also, isTask, listed, _⟩
  have same : later = index :=
    Nat.le_antisymm (tabled.latest there awaits also isTask.symm) notEarlier
  subst same
  cases also.unique there
  rcases shaped.ends other listed with ending | finished
  · exact notEnding other ending
  · exact notOver finished

theorem Tabled.write (tabled : service.Tabled) (booked : service.Booked) {state : SidecarState}
    {line : RequestLine} (new : service.NewLine state line) :
    ({ service with sidecar := state } : Service Agent Session).Tabled := by
  obtain ⟨index, execution, request, number, there, awaits, entered, sends, isBody⟩ :=
    booked.writer new
  refine ⟨tabled.ready, tabled.exclusive, ?_, ?_⟩
  · intro taskId
    rw [new.stdin, presentAfter_concat, isBody, sessionEffect_body]
    exact open_write tabled booked new there awaits entered sends taskId
  · change Fed service.bridge.present state.stdin
    rw [new.stdin, fed_concat]
    refine ⟨tabled.fed, ?_⟩
    intro taskId needed
    rw [isBody, neededSession_body] at needed
    cases uses : request.usesSession with
    | false =>
        rw [uses] at needed
        cases needed
    | true =>
        rw [uses] at needed
        cases needed
        exact (tabled.presence _).mpr (open_of_inside tabled booked there awaits sends uses)

theorem Tabled.move {crate : Crate Agent Session World} {platform : SidecarPlatform}
    {analyst : Analyst Reading} {steps : Service Agent Session → ServiceAction World → Prop}
    (tabled : service.Tabled) (booked : service.Booked)
    (move : Move crate platform analyst steps service next) : next.Tabled := by
  cases move with
  | register ready _ last => exact tabled.register booked ready last
  | leave leaves _ => exact tabled.leave leaves
  | shift shifted stdin => exact tabled.shift shifted stdin
  | write new => exact tabled.write booked new
  | serve world _ stdin => exact tabled.serve booked stdin

/-! ### Whole runs -/

def Served (service : Service Agent Session) (call : Nat) : Prop :=
  ∃ result, (call, result) ∈ service.sidecar.handled

/-- The `begin` of an execution of the task was served, and no `end` of this or a later one. -/
def LeftOpen (service : Service Agent Session) (taskId : Text) : Prop :=
  ∃ index execution call contextId, service.At index execution ∧ execution.taskId = taskId ∧
    (call, .begin contextId) ∈ execution.entered ∧ service.Served call ∧
    ∀ later second other, index ≤ later → service.At later second → second.taskId = taskId →
      (other, .endTask) ∈ second.entered → ¬service.Served other

structure SessionsKept (service : Service Agent Session) : Prop where
  /-- The line that is served next finds the session it needs. -/
  found : ∀ line later index execution request, service.sidecar.stdin = line :: later →
    service.At index execution → (line.call, request) ∈ execution.entered →
    request.usesSession = true → service.bridge.present execution.taskId = true
  left : service.sidecar.stdin = [] → ∀ taskId,
    service.bridge.present taskId = true ↔ service.LeftOpen taskId

theorem written_iff_served (empty : service.sidecar.stdin = []) (call : Nat) :
    service.Written call ↔ service.Served call := by
  unfold Written
  rw [empty]
  refine or_iff_left ?_
  rintro ⟨_, ⟨⟩, _⟩

theorem open_iff_leftOpen (empty : service.sidecar.stdin = []) (taskId : Text) :
    service.Open taskId ↔ service.LeftOpen taskId := by
  unfold Open WrittenEntry LeftOpen
  simp only [written_iff_served empty]
  constructor
  · rintro ⟨index, call, contextId, ⟨execution, there, isTask, entered, served⟩, unended⟩
    refine ⟨index, execution, call, contextId, there, isTask, entered, served, ?_⟩
    intro later second other notEarlier also sameTask listed ended
    exact unended later other notEarlier ⟨second, also, sameTask, listed, ended⟩
  · rintro ⟨index, execution, call, contextId, there, isTask, entered, served, unended⟩
    refine ⟨index, call, contextId, ⟨execution, there, isTask, entered, served⟩, ?_⟩
    rintro later other notEarlier ⟨second, also, sameTask, listed, ended⟩
    exact unended later second other notEarlier also sameTask listed ended

theorem Tabled.sessionsKept (tabled : service.Tabled) (booked : service.Booked) :
    service.SessionsKept := by
  constructor
  · intro line later index execution request stdin there entered uses
    obtain ⟨other, second, asked, number, also, listed, isBody⟩ :=
      booked.lines line (stdin ▸ List.mem_cons_self)
    obtain ⟨rfl, rfl⟩ := booked.once index other execution second there also _ _ _ entered listed
    cases there.unique also
    have fed := tabled.fed
    rw [stdin] at fed
    refine fed.1 execution.taskId ?_
    rw [isBody, neededSession_body, uses]
    rfl
  · intro empty taskId
    have presence := tabled.presence taskId
    rw [empty, open_iff_leftOpen empty] at presence
    exact presence

end Service

open Service

/-- In every run that executes a task again only when its last execution is over: a request on
a session finds it, and the sessions left behind are those of `LeftOpen`. -/
theorem executions_keep_sessions (crate : Crate Agent Session World) (platform : SidecarPlatform)
    (analyst : Analyst Reading) (agent : Agent) {schedule : List (ServiceAction World)}
    {final : Service Agent Session}
    (exclusive : StepsMeet (serviceStep crate platform analyst) Exclusive (started agent) schedule)
    (ran : runFrom (serviceStep crate platform analyst) (started agent) schedule = some final) :
    final.SessionsKept := by
  have step : ∀ (service : Service Agent Session) (action : ServiceAction World)
      (next : Service Agent Session), service.Booked ∧ service.Tabled → Exclusive service action →
      serviceStep crate platform analyst service action = some next →
      next.Booked ∧ next.Tabled := by
    rintro service action next ⟨booked, tabled⟩ isExclusive taken
    have arrived : (service.afterArrival action).Tabled := by
      cases action with
      | execute taskId contextId message => exact tabled.arrive isExclusive contextId message
      | granted | drained _ | readline _ _ | cancel _ | serve _ | resume _ _ | proceed _ _
      | raised _ => exact tabled
    exact (booked.afterArrival action).moves (fun _ _ itsBooked holds move =>
      holds.move itsBooked move) arrived (step_moves (fun _ _ => True) booked trivial taken)
  have kept : final.Booked ∧ final.Tabled :=
    runFrom_conditional_invariant step ⟨booked_started agent, tabled_started agent⟩ exclusive ran
  exact kept.2.sessionsKept kept.1


/-! ### An execution that leaves its session -/

/-- What the crate keeps of a task: the cited and the verified inputs. -/
structure DemoSession where
  taskId : Text
  cited : List Text
  verified : List Text

/-- A crate that reads the cited ids off a message that is a list, and publishes everything. -/
def demoCrate : Crate Unit DemoSession Unit where
  hexDecode := fun _ => .ok (List.replicate 32 0)
  keyId := fun _ => text "did:key:z6Mk#z6Mk"
  connect := fun _ _ _ => .ok ()
  readContextType := fun _ => .ok ()
  readVisibility := fun _ => .ok ()
  newAgent := fun _ => ()
  parseAgentDid := fun _ => .ok ()
  cardExtension := fun _ _ => .null
  newSession := fun taskId _ => { taskId := taskId, cited := [], verified := [] }
  observeClientMessage := fun session message =>
    match message with
    | .array items => { session with cited := session.cited ++ items.filterMap asStr }
    | _ => session
  citedInputs := DemoSession.cited
  parseCtxId := .ok
  markInputsVerified := fun session ids => { session with verified := session.verified ++ ids }
  onChunk := fun _ session chunk _ => (session, .ok (.emit chunk))
  onTask := fun _ session task _ => (session, .ok { task := task, withheld := [] })

/-- The steps of a call from its line to its reply. -/
def callOver (call : Nat) : List (ServiceAction Unit) :=
  [.drained call, .serve (), .readline call none]

/-- Two executions. Both fail after their message; the first is cancelled while its `end` waits
for the lock, the second ends. -/
def interleavedExecutions : List (ServiceAction Unit) :=
  List.flatten [
    [.execute (text "a") (text "c") (.array []), .execute (text "b") (text "c") (.array [])],
    callOver 0, [.granted], callOver 1, [.resume 0 [], .resume 1 []], callOver 2,
    [.resume 0 [], .granted, .raised 0, .cancel 4], callOver 3, [.resume 1 [], .raised 1],
    callOver 5, [.resume 0 [], .resume 1 []]]

theorem interleaved_executions_keep_sessions :
    ∃ final : Service Unit DemoSession,
      runFrom (serviceStep demoCrate demoSidecar demoAnalyst) (started ()) interleavedExecutions =
        some final ∧
      final.bridge.present (text "a") = true ∧ final.bridge.present (text "b") = false ∧
      final.SessionsKept := by
  have runs : (runFrom (serviceStep demoCrate demoSidecar demoAnalyst) (started ())
      interleavedExecutions).any (fun final =>
        final.bridge.present (text "a") && !final.bridge.present (text "b")) = true := by
    decide +kernel
  obtain ⟨final, ran, sessions⟩ := (Option.any_eq_true _ _).mp runs
  obtain ⟨left, dropped⟩ := Bool.and_eq_true_iff.mp sessions
  refine ⟨final, ran, left, by simpa using dropped, ?_⟩
  exact executions_keep_sessions demoCrate demoSidecar demoAnalyst () (by decide +kernel) ran

end AcdpPlayground.A2a

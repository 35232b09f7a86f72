/-
Which inputs an execution reports as verified, and when: the ids it sends in
`verified_inputs` are those of the citations of its own session, in their order, that the
allowlisted registry served bound and verified when the execution asked. No chunk goes to the
bridge before the process has acknowledged them.

The cited ids come back through the shared sidecar, so this rests on the reply being the
execution's own.
-/

import AcdpPlayground.A2a.SessionTable

namespace AcdpPlayground.A2a

open PythonText JsonValue TransitionRun TaskTable Client

variable {Agent Session World Reading : Type}

def citedReply (cited : List Text) : Json :=
  .object [(text "cited", .array (cited.map .string))]

theorem citedOf_citedReply (cited : List Text) : citedOf (citedReply cited) = some cited := by
  change (cited.map Json.string).mapM asStr = _
  induction cited with
  | nil => rfl
  | cons ctxId rest ih =>
      rw [List.map_cons, List.mapM_cons, ih]
      rfl

namespace Service

def Noted (service : Service Agent Session) (execution : Execution) (cited : List Text) : Prop :=
  ∃ call noted, (call, .message execution.message) ∈ execution.entered ∧
    (call, .ok noted) ∈ service.sidecar.handled ∧ citedOf noted = some cited

/-- The session that the bridge holds for the task in the step that serves the line of the
call. -/
def HeldAt (steps : Service Agent Session → ServiceAction World → Prop) (call : Nat)
    (taskId : Text) (session : Session) : Prop :=
  ∃ service world line later, steps service (.serve world) ∧
    service.sidecar.stdin = line :: later ∧ line.call = call ∧
    service.bridge.sessions.lookup taskId = some session

structure Cited (crate : Crate Agent Session World) (analyst : Analyst Reading)
    (steps : Service Agent Session → ServiceAction World → Prop)
    (service : Service Agent Session) : Prop where
  messages : ∀ index execution, service.At index execution → ∀ call content,
    (call, .message content) ∈ execution.entered → content = execution.message
  replied : ∀ index execution, service.At index execution → ∀ call content result,
    (call, .message content) ∈ execution.entered → (call, .ok result) ∈ service.sidecar.handled →
    ∃ session, HeldAt steps call execution.taskId session ∧
      result = citedReply (crate.citedInputs (crate.observeClientMessage session content))
  verifying : ∀ index execution cited, service.At index execution →
    execution.stage = .verifying cited → service.Noted execution cited
  verified : ∀ index execution, service.At index execution → ∀ call ids,
    (call, .verifiedInputs ids) ∈ execution.entered → ∃ cited served inputs,
      service.Noted execution cited ∧ AnsweredAt steps index cited served ∧
      analyst.verifyInputs served cited = .ok inputs ∧ ids = inputs.map Input.ctxId
  marked : ∀ index execution, service.At index execution →
    ((∃ call rest, execution.stage = .publishing call rest) ∨
      ∃ rest, execution.stage = .emitting rest) → ∃ call ids result,
      (call, .verifiedInputs ids) ∈ execution.entered ∧
        (call, .ok result) ∈ service.sidecar.handled
  chunks : ∀ index execution, service.At index execution → ∀ before call content after,
    execution.entered = before ++ (call, .chunk content) :: after → ∃ other ids result,
      (other, .verifiedInputs ids) ∈ before ∧ (other, .ok result) ∈ service.sidecar.handled

variable {crate : Crate Agent Session World} {platform : SidecarPlatform}
  {analyst : Analyst Reading} {steps : Service Agent Session → ServiceAction World → Prop}
  {service next : Service Agent Session}

theorem cited_started (agent : Agent) :
    Cited crate analyst steps (started agent : Service Agent Session) := by
  have nobody : ∀ index execution,
      ¬(started agent : Service Agent Session).At index execution := by
    rintro _ _ ⟨⟩
  exact ⟨fun _ _ there => absurd there (nobody _ _), fun _ _ there => absurd there (nobody _ _),
    fun _ _ _ there => absurd there (nobody _ _), fun _ _ there => absurd there (nobody _ _),
    fun _ _ there => absurd there (nobody _ _), fun _ _ there => absurd there (nobody _ _)⟩

theorem Noted.later {execution second : Execution} {cited : List Text}
    (noted : service.Noted execution cited)
    (handled : ∀ entry ∈ service.sidecar.handled, entry ∈ next.sidecar.handled)
    (message : second.message = execution.message)
    (entered : ∀ entry ∈ execution.entered, entry ∈ second.entered) :
    next.Noted second cited := by
  obtain ⟨call, reply, listed, known, isCited⟩ := noted
  exact ⟨call, reply, message ▸ entered _ listed, handled _ known, isCited⟩

theorem Cited.grow (cited : Cited crate analyst steps service)
    (executions : next.executions = service.executions)
    (handled : ∀ entry ∈ service.sidecar.handled, entry ∈ next.sidecar.handled)
    (replied : ∀ index execution, service.At index execution → ∀ call content result,
      (call, .message content) ∈ execution.entered →
      (call, .ok result) ∈ next.sidecar.handled → ∃ session,
        HeldAt steps call execution.taskId session ∧
        result = citedReply (crate.citedInputs (crate.observeClientMessage session content))) :
    Cited crate analyst steps next := by
  have before : ∀ {index execution}, next.At index execution → service.At index execution := by
    intro index execution there
    unfold At at there ⊢
    rw [← executions]
    exact there
  refine ⟨?_, ?_, ?_, ?_, ?_, ?_⟩
  · intro index execution there
    exact cited.messages index execution (before there)
  · intro index execution there
    exact replied index execution (before there)
  · intro index execution ids there stage
    exact (cited.verifying index execution ids (before there) stage).later handled rfl
      (fun _ listed => listed)
  · intro index execution there call ids entered
    obtain ⟨asked, served, inputs, noted, answered, isInputs, same⟩ :=
      cited.verified index execution (before there) call ids entered
    exact ⟨asked, served, inputs, noted.later handled rfl (fun _ listed => listed), answered,
      isInputs, same⟩
  · intro index execution there stage
    obtain ⟨call, ids, result, entered, known⟩ :=
      cited.marked index execution (before there) stage
    exact ⟨call, ids, result, entered, handled _ known⟩
  · intro index execution there first call content after same
    obtain ⟨other, ids, result, entered, known⟩ :=
      cited.chunks index execution (before there) first call content after same
    exact ⟨other, ids, result, entered, handled _ known⟩

/-- The reply to a message lists what the session has cited then. -/
theorem message_reply {bridge : Bridge Agent Session} {content result : Json} {taskId : Text}
    {number : Nat} {world : World}
    (replied : (bridge.handle crate
      (((TaskRequest.message content).request taskId).body number, world)).1 = .ok result) :
    ∃ session, bridge.sessions.lookup taskId = some session ∧
      result = citedReply (crate.citedInputs (crate.observeClientMessage session content)) := by
  rw [Bridge.handle_message] at replied
  unfold Bridge.message Bridge.withSession at replied
  have named : strField (((TaskRequest.message content).request taskId).body number) "task_id" =
      .ok taskId := rfl
  rw [named] at replied
  dsimp only at replied
  cases present : bridge.sessions.lookup taskId with
  | none =>
      rw [present] at replied
      cases replied
  | some session =>
      rw [present] at replied
      exact ⟨session, rfl, (Except.ok.inj replied).symm⟩

theorem Cited.serve (cited : Cited crate analyst steps service) (booked : service.Booked)
    {line : RequestLine} {later : List RequestLine} {world : World}
    (serves : steps service (.serve world)) (stdin : service.sidecar.stdin = line :: later) :
    Cited crate analyst steps (Service.serve crate platform service line later world) := by
  refine cited.grow rfl (fun _ member => List.mem_append_left _ member) ?_
  intro index execution there call content result entered known
  rcases List.mem_append.mp known with before | new
  · exact cited.replied index execution there call content result entered before
  · obtain ⟨sameCall, isResult⟩ := Prod.mk.inj (List.mem_singleton.mp new)
    obtain ⟨other, second, request, number, also, listed, isBody⟩ :=
      booked.lines line (stdin ▸ List.mem_cons_self)
    rw [sameCall] at entered
    obtain ⟨rfl, rfl⟩ := booked.once index other execution second there also _ _ _ entered listed
    cases there.unique also
    rw [isBody] at isResult
    obtain ⟨session, held, isReply⟩ := message_reply isResult.symm
    exact ⟨session, ⟨service, world, line, later, serves, stdin, sameCall.symm, held⟩, isReply⟩

theorem Cited.leave (cited : Cited crate analyst steps service) (booked : service.Booked) {index : Nat}
    {execution : Execution} {stage : Stage} (leaves : service.Leaves index execution stage)
    (reason : Reason service execution stage) :
    Cited crate analyst steps (service.setStage index execution stage) := by
  have origin : ∀ {other second}, (service.setStage index execution stage).At other second →
      ∃ old, service.At other old ∧ second.entered = old.entered ∧
        (second.message = old.message ∧ second.taskId = old.taskId) ∧
        (second.stage = old.stage ∨ old = execution ∧ second.stage = stage) := by
    intro other second present
    rcases setStage_at present with ⟨rfl, rfl⟩ | ⟨_, before⟩
    · exact ⟨execution, leaves.found, rfl, ⟨rfl, rfl⟩, .inr ⟨rfl, rfl⟩⟩
    · exact ⟨second, before, rfl, ⟨rfl, rfl⟩, .inl rfl⟩
  have noted : ∀ {old second : Execution} {ids : List Text}, service.Noted old ids →
      second.entered = old.entered → second.message = old.message →
      (service.setStage index execution stage).Noted second ids := by
    intro old second ids noted sameCalls sameMessage
    exact noted.later (fun _ member => member) sameMessage
      (fun _ listed => sameCalls ▸ listed)
  refine ⟨?_, ?_, ?_, ?_, ?_, ?_⟩
  · intro other second there call content entered
    obtain ⟨old, before, sameCalls, ⟨sameMessage, _⟩, _⟩ := origin there
    rw [sameMessage]
    exact cited.messages other old before call content (sameCalls ▸ entered)
  · intro other second there call content result entered known
    obtain ⟨old, before, sameCalls, ⟨_, sameTask⟩, _⟩ := origin there
    rw [sameTask]
    exact cited.replied other old before call content result (sameCalls ▸ entered) known
  · intro other second ids there isStage
    obtain ⟨old, before, sameCalls, ⟨sameMessage, _⟩, sameStage | ⟨rfl, isNew⟩⟩ := origin there
    · exact noted (cited.verifying other old ids before (sameStage ▸ isStage)) sameCalls
        sameMessage
    · rw [isNew] at isStage
      subst isStage
      cases reason with
      | @verifying call reply _ noting returned isCited =>
          have shaped := booked.shaped index old leaves.found
          obtain ⟨request, entered, sends⟩ := shaped.current call (by rw [noting]; rfl)
          rw [noting] at sends
          cases request with
          | message content =>
              rw [cited.messages index old leaves.found call content entered] at entered
              exact noted ⟨call, reply, entered, booked.numbered.own call reply returned, isCited⟩
                sameCalls sameMessage
          | begin _ | verifiedInputs _ | chunk _ | endTask => cases sends
  · intro other second there call ids entered
    obtain ⟨old, before, sameCalls, ⟨sameMessage, _⟩, _⟩ := origin there
    obtain ⟨asked, served, inputs, isNoted, answered, isInputs, same⟩ :=
      cited.verified other old before call ids (sameCalls ▸ entered)
    exact ⟨asked, served, inputs, noted isNoted sameCalls sameMessage, answered, isInputs, same⟩
  · intro other second there isStage
    obtain ⟨old, before, sameCalls, _, sameStage | ⟨rfl, isNew⟩⟩ := origin there
    · obtain ⟨call, ids, result, entered, known⟩ :=
        cited.marked other old before (by rw [← sameStage]; exact isStage)
      exact ⟨call, ids, result, sameCalls ▸ entered, known⟩
    · rw [isNew] at isStage
      cases reason with
      | emitting publishing =>
          obtain ⟨call, ids, result, entered, known⟩ :=
            cited.marked index old leaves.found (.inl ⟨_, _, publishing⟩)
          exact ⟨call, ids, result, sameCalls ▸ entered, known⟩
      | verifying _ _ _ | finished => rcases isStage with ⟨_, _, ⟨⟩⟩ | ⟨_, ⟨⟩⟩
  · intro other second there first call content after same
    obtain ⟨old, before, sameCalls, _, _⟩ := origin there
    exact cited.chunks other old before first call content after (sameCalls ▸ same)

/-- An execution that may send a chunk has its verified inputs acknowledged. -/
theorem Cited.acknowledged (cited : Cited crate analyst steps service) (booked : service.Booked)
    {index : Nat} {execution : Execution} (found : service.At index execution) {content : Json}
    (cause : Cause analyst steps service index execution (.chunk content)) :
    ∃ call ids result, (call, .verifiedInputs ids) ∈ execution.entered ∧
      (call, .ok result) ∈ service.sidecar.handled := by
  cases cause with
  | @firstChunk call result _ marking returned =>
      have shaped := booked.shaped index execution found
      obtain ⟨request, entered, sends⟩ := shaped.current call (by rw [marking]; rfl)
      rw [marking] at sends
      cases request with
      | verifiedInputs ids =>
          exact ⟨call, ids, result, entered, booked.numbered.own call result returned⟩
      | begin _ | message _ | chunk _ | endTask => cases sends
  | nextChunk emitting => exact cited.marked index execution found (.inr ⟨_, emitting⟩)

theorem Cited.register (cited : Cited crate analyst steps service) (booked : service.Booked)
    {index : Nat} {execution : Execution} {request : TaskRequest} {stage : Stage}
    (ready : service.Ready index execution request stage)
    (cause : Cause analyst steps service index execution request) :
    Cited crate analyst steps (service.register index execution request stage) := by
  have noted : ∀ {ids : List Text}, service.Noted execution ids →
      (service.register index execution request stage).Noted { execution with
        stage := stage
        entered := execution.entered ++ [(service.sidecar.calls.length, request)] } ids := by
    intro ids isNoted
    exact isNoted.later (fun _ member => member) rfl
      (fun _ listed => List.mem_append_left _ listed)
  refine ⟨?_, ?_, ?_, ?_, ?_, ?_⟩
  · intro other second there call content entered
    rcases register_at there with ⟨_, rfl⟩ | ⟨_, before⟩
    · rcases List.mem_append.mp entered with old | new
      · exact cited.messages index execution ready.found call content old
      · cases List.mem_singleton.mp new
        cases cause
        rfl
    · exact cited.messages other second before call content entered
  · intro other second there call content result entered known
    rcases register_at there with ⟨_, rfl⟩ | ⟨_, before⟩
    · rcases List.mem_append.mp entered with old | new
      · exact cited.replied index execution ready.found call content result old known
      · cases List.mem_singleton.mp new
        exact absurd (booked.known _ (.inl ⟨_, known⟩)) (Nat.lt_irrefl _)
    · exact cited.replied other second before call content result entered known
  · intro other second ids there isStage
    rcases register_at there with ⟨_, rfl⟩ | ⟨_, before⟩
    · have awaits := ready.awaits
      dsimp only at isStage
      rw [isStage] at awaits
      cases awaits
    · exact (cited.verifying other second ids before isStage).later (fun _ member => member) rfl
        (fun _ listed => listed)
  · intro other second there call ids entered
    rcases register_at there with ⟨rfl, rfl⟩ | ⟨_, before⟩
    · rcases List.mem_append.mp entered with old | new
      · obtain ⟨asked, served, inputs, isNoted, answered, isInputs, same⟩ :=
          cited.verified other execution ready.found call ids old
        exact ⟨asked, served, inputs, noted isNoted, answered, isInputs, same⟩
      · cases List.mem_singleton.mp new
        cases cause with
        | @verifiedInputs asked served inputs verifying answered isInputs =>
            exact ⟨asked, served, inputs,
              noted (cited.verifying other execution asked ready.found verifying), answered,
              isInputs, rfl⟩
    · obtain ⟨asked, served, inputs, isNoted, answered, isInputs, same⟩ :=
        cited.verified other second before call ids entered
      exact ⟨asked, served, inputs, isNoted.later (fun _ member => member) rfl
        (fun _ listed => listed), answered, isInputs, same⟩
  · intro other second there isStage
    rcases register_at there with ⟨_, rfl⟩ | ⟨_, before⟩
    · have sends := ready.sends
      dsimp only at isStage
      rcases isStage with ⟨call, rest, rfl⟩ | ⟨rest, rfl⟩
      · cases request with
        | chunk content =>
            obtain ⟨first, ids, result, entered, known⟩ :=
              cited.acknowledged booked ready.found cause
            exact ⟨first, ids, result, List.mem_append_left _ entered, known⟩
        | begin _ | message _ | verifiedInputs _ | endTask => cases sends
      · cases sends
    · exact cited.marked other second before isStage
  · intro other second there first call content after same
    rcases register_at there with ⟨_, rfl⟩ | ⟨_, before⟩
    · rcases marker_in_append same with ⟨rest, old, _⟩ | ⟨middle, isFirst, isNew⟩
      · exact cited.chunks index execution ready.found first call content rest old
      · have isChunk : request = .chunk content := by
          have member : (call, TaskRequest.chunk content) ∈
              [(service.sidecar.calls.length, request)] := by
            rw [isNew]
            exact List.mem_append_right _ List.mem_cons_self
          exact (congrArg Prod.snd (List.mem_singleton.mp member)).symm
        subst isChunk
        obtain ⟨earlier, ids, result, entered, known⟩ :=
          cited.acknowledged booked ready.found cause
        refine ⟨earlier, ids, result, ?_, known⟩
        rw [isFirst]
        exact List.mem_append_left _ entered
    · exact cited.chunks other second before first call content after same

theorem Cited.arrive (cited : Cited crate analyst steps service) (taskId contextId : Text)
    (message : Json) : Cited crate analyst steps (service.arrive taskId contextId message) := by
  refine ⟨?_, ?_, ?_, ?_, ?_, ?_⟩
  · intro other second there call content entered
    rcases arrive_at there with ⟨_, rfl⟩ | before
    · cases entered
    · exact cited.messages other second before call content entered
  · intro other second there call content result entered known
    rcases arrive_at there with ⟨_, rfl⟩ | before
    · cases entered
    · exact cited.replied other second before call content result entered known
  · intro other second ids there stage
    rcases arrive_at there with ⟨_, rfl⟩ | before
    · cases stage
    · exact (cited.verifying other second ids before stage).later (fun _ member => member) rfl
        (fun _ listed => listed)
  · intro other second there call ids entered
    rcases arrive_at there with ⟨_, rfl⟩ | before
    · cases entered
    · obtain ⟨asked, served, inputs, isNoted, answered, isInputs, same⟩ :=
        cited.verified other second before call ids entered
      exact ⟨asked, served, inputs, isNoted.later (fun _ member => member) rfl
        (fun _ listed => listed), answered, isInputs, same⟩
  · intro other second there stage
    rcases arrive_at there with ⟨_, rfl⟩ | before
    · rcases stage with ⟨_, _, ⟨⟩⟩ | ⟨_, ⟨⟩⟩
    · exact cited.marked other second before stage
  · intro other second there first call content after same
    rcases arrive_at there with ⟨_, rfl⟩ | before
    · cases first <;> cases same
    · exact cited.chunks other second before first call content after same

theorem Cited.move (cited : Cited crate analyst steps service) (booked : service.Booked)
    (move : Move crate platform analyst steps service next) : Cited crate analyst steps next := by
  cases move with
  | register ready cause _ => exact cited.register booked ready cause
  | leave leaves reason => exact cited.leave booked leaves reason
  | shift shifted _ =>
      refine cited.grow rfl (fun _ member => ?_) ?_
      · rw [shifted.handled]
        exact member
      · intro index execution there call content result entered known
        exact cited.replied index execution there call content result entered
          (shifted.handled ▸ known)
  | write new =>
      refine cited.grow rfl (fun _ member => ?_) ?_
      · rw [new.shifted.handled]
        exact member
      · intro index execution there call content result entered known
        exact cited.replied index execution there call content result entered
          (new.shifted.handled ▸ known)
  | serve world serves stdin => exact cited.serve booked serves stdin

theorem Cited.widen (cited : Cited crate analyst steps service)
    {more : Service Agent Session → ServiceAction World → Prop}
    (wider : ∀ service action, steps service action → more service action) :
    Cited crate analyst more service := by
  refine ⟨cited.messages, ?_, cited.verifying, ?_, cited.marked, cited.chunks⟩
  · intro index execution there call content result entered known
    obtain ⟨session, held, isReply⟩ :=
      cited.replied index execution there call content result entered known
    obtain ⟨before, world, line, later, serves, stdin, sameCall, present⟩ := held
    exact ⟨session, ⟨before, world, line, later, wider _ _ serves, stdin, sameCall, present⟩,
      isReply⟩
  · intro index execution there call ids entered
    obtain ⟨asked, served, inputs, noted, answered, isInputs, same⟩ :=
      cited.verified index execution there call ids entered
    obtain ⟨before, second, proceeds, present, stage⟩ := answered
    exact ⟨asked, served, inputs, noted, ⟨before, second, wider _ _ proceeds, present, stage⟩,
      isInputs, same⟩

end Service

open Service

/-- A report of an execution: the ids are those that `_verify_inputs` keeps of what the session
of the task cites after the message, with the answers that the registry gave it. -/
structure Reported (crate : Crate Agent Session World) (analyst : Analyst Reading)
    (steps : Service Agent Session → ServiceAction World → Prop) (index : Nat)
    (execution : Execution) (ids : List Text) (session : Session)
    (served : Nat → Text → Option Answer) (inputs : List (Input Reading)) : Prop where
  observed : ∃ call, (call, .message execution.message) ∈ execution.entered ∧
    HeldAt steps call execution.taskId session
  answered : AnsweredAt steps index
    (crate.citedInputs (crate.observeClientMessage session execution.message)) served
  verified : analyst.verifyInputs served
    (crate.citedInputs (crate.observeClientMessage session execution.message)) = .ok inputs
  listed : ids = inputs.map Input.ctxId
  exactly : ids = analyst.verifiedIds served
    (crate.citedInputs (crate.observeClientMessage session execution.message))
  filtered : analyst.Filtered served 0
    (crate.citedInputs (crate.observeClientMessage session execution.message)) inputs

theorem Service.Cited.reported {crate : Crate Agent Session World} {analyst : Analyst Reading}
    {steps : Service Agent Session → ServiceAction World → Prop} {service : Service Agent Session}
    (cited : Cited crate analyst steps service) (exact : analyst.verifier.BindsExactly)
    {index : Nat} {execution : Execution} (there : service.At index execution) {call : Nat}
    {ids : List Text} (entered : (call, .verifiedInputs ids) ∈ execution.entered) :
    ∃ session served inputs,
      Reported crate analyst steps index execution ids session served inputs := by
  obtain ⟨asked, served, inputs, noted, answered, isInputs, same⟩ :=
    cited.verified index execution there call ids entered
  obtain ⟨message, reply, listed, known, isCited⟩ := noted
  obtain ⟨session, held, rfl⟩ :=
    cited.replied index execution there message execution.message reply listed known
  rw [citedOf_citedReply] at isCited
  cases isCited
  refine ⟨session, served, inputs, ⟨message, listed, held⟩, answered, isInputs, same, ?_, ?_⟩
  · rw [same]
    exact Analyst.verifyInputsFrom_ids served _ 0 inputs isInputs
  · exact Analyst.verifyInputsFrom_filtered exact served _ 0 inputs isInputs

/-- What an execution reports as verified, in every run. -/
structure ReportsVerified (crate : Crate Agent Session World) (analyst : Analyst Reading)
    (steps : Service Agent Session → ServiceAction World → Prop)
    (service : Service Agent Session) (index : Nat) (execution : Execution) : Prop where
  inputs : ∀ call ids, (call, .verifiedInputs ids) ∈ execution.entered → ∃ session served inputs,
    Reported crate analyst steps index execution ids session served inputs
  chunks : ∀ before call content after,
    execution.entered = before ++ (call, .chunk content) :: after → ∃ other ids result,
      (other, .verifiedInputs ids) ∈ before ∧ (other, .ok result) ∈ service.sidecar.handled

theorem executions_report_verified (crate : Crate Agent Session World)
    (platform : SidecarPlatform) (analyst : Analyst Reading)
    (exact : analyst.verifier.BindsExactly) (agent : Agent)
    {schedule : List (ServiceAction World)} {final : Service Agent Session}
    (ran : runFrom (serviceStep crate platform analyst) (started agent) schedule = some final)
    (index : Nat) (execution : Execution) (there : final.At index execution) :
    ReportsVerified crate analyst
      (TakenIn (serviceStep crate platform analyst) (started agent) schedule) final index
      execution := by
  have step : ∀ (steps : Service Agent Session → ServiceAction World → Prop)
      (service : Service Agent Session) (action : ServiceAction World)
      (next : Service Agent Session), steps service action →
      service.Booked ∧ Cited crate analyst steps service →
      serviceStep crate platform analyst service action = some next →
      next.Booked ∧ Cited crate analyst steps next := by
    rintro steps service action next now ⟨booked, cited⟩ taken
    have arrived : Cited crate analyst steps (service.afterArrival action) := by
      cases action with
      | execute taskId contextId message => exact cited.arrive taskId contextId message
      | granted | drained _ | readline _ _ | cancel _ | serve _ | resume _ _ | proceed _ _
      | raised _ => exact cited
    exact (booked.afterArrival action).moves (fun _ _ itsBooked holds move =>
      holds.move itsBooked move) arrived (step_moves steps booked now taken)
  have kept : final.Booked ∧ Cited crate analyst
      (TakenIn (serviceStep crate platform analyst) (started agent) schedule) final :=
    runFrom_takenIn_invariant (fun _ _ wider _ both => ⟨both.1, both.2.widen wider⟩) step
      (fun _ => ⟨booked_started agent, cited_started agent⟩) ran
  exact ⟨fun call ids entered => kept.2.reported exact there entered,
    kept.2.chunks index execution there⟩

/-- One execution from `begin` to `end`, with four citations and two chunks, and another one
of the same context that cites nothing. -/
def wholeExecution : List (ServiceAction Unit) :=
  List.flatten [
    [.execute (text "a") (text "c")
      (.array [.string foreignId, .string citedId, .string forgedId, .string citedId]),
      .execute (text "b") (text "c") (.array [])],
    callOver 0, [.granted], callOver 1, [.resume 0 [], .resume 1 []], callOver 2,
    [.resume 0 [], .granted], callOver 3,
    [.resume 1 [], .proceed 0 servesMixed, .proceed 1 (fun _ _ => none)], callOver 4, [.granted],
    callOver 5, [.resume 0 [.null, .boolean true]], callOver 6,
    [.resume 0 [], .proceed 0 (fun _ _ => none)], callOver 7,
    [.resume 0 [], .proceed 0 (fun _ _ => none)], callOver 8, [.resume 0 []]]

/-- The ids that an execution sends in `verified_inputs`. -/
def reportedIds (execution : Execution) : List (List Text) :=
  execution.entered.filterMap (fun sent =>
    match sent.2 with
    | .verifiedInputs ids => some ids
    | _ => none)

theorem whole_execution_reports_verified :
    demoAnalyst.verifier.BindsExactly ∧ ∃ final execution,
      runFrom (serviceStep demoCrate demoSidecar demoAnalyst) (started ()) wholeExecution =
        some final ∧
      final.At 0 execution ∧ execution.entered.length = 6 ∧
      reportedIds execution = [[citedId, citedId]] ∧
      ReportsVerified demoCrate demoAnalyst
        (TakenIn (serviceStep demoCrate demoSidecar demoAnalyst) (started ()) wholeExecution) final
        0 execution := by
  have runs : (runFrom (serviceStep demoCrate demoSidecar demoAnalyst) (started ())
      wholeExecution).any (fun final => final.executions[0]?.any
        (fun execution => execution.entered.length == 6 &&
          reportedIds execution == [[citedId, citedId]])) = true := by
    decide +kernel
  obtain ⟨final, ran, whole⟩ := (Option.any_eq_true _ _).mp runs
  obtain ⟨execution, there, seen⟩ := (Option.any_eq_true _ _).mp whole
  obtain ⟨length, reported⟩ := Bool.and_eq_true_iff.mp seen
  exact ⟨sampleVerifier_bindsExactly, final, execution, ran, there, beq_iff_eq.mp length,
    beq_iff_eq.mp reported,
    executions_report_verified demoCrate demoSidecar demoAnalyst sampleVerifier_bindsExactly () ran
      0 execution there⟩

end AcdpPlayground.A2a

/-
The calls on the sidecar and the executions that made them. Every call has one execution, a
call that has not ended is the one its execution awaits, and every line in the pipe is the
request of such a call, with its number.
-/

import AcdpPlayground.A2a.Executor
import AcdpPlayground.A2a.OwnReplies
import Mathlib.Logic.Relation

namespace AcdpPlayground.A2a

open PythonText JsonValue TransitionRun TaskTable

variable {Agent Session World Reading : Type}

theorem unnumbered_request (request : TaskRequest) (taskId : Text) :
    Unnumbered (request.request taskId) := by
  cases request with
  | begin _ =>
      change text "id" ∉ [text "task_id", text "context_id"]
      decide
  | message _ =>
      change text "id" ∉ [text "task_id", text "message"]
      decide
  | verifiedInputs _ =>
      change text "id" ∉ [text "task_id", text "ids"]
      decide
  | chunk _ =>
      change text "id" ∉ [text "task_id", text "chunk"]
      decide
  | endTask =>
      change text "id" ∉ [text "task_id"]
      decide

/-! ### Shape of an execution -/

def Stage.sends : Stage → TaskRequest → Bool
  | .beginning _, .begin _ | .noting _, .message _ | .marking _, .verifiedInputs _
  | .publishing _ _, .chunk _ | .ending _, .endTask => true
  | _, _ => false

/-- The call of `begin` has returned and the execution is not over. -/
def Stage.isInside : Stage → Bool
  | .beginning _ | .finished => false
  | _ => true

structure Execution.Shaped (execution : Execution) : Prop where
  current : ∀ call, execution.stage.call? = some call →
    ∃ request, (call, request) ∈ execution.entered ∧ execution.stage.sends request = true
  opens : execution.stage ≠ .finished → ∃ call contextId, (call, .begin contextId) ∈ execution.entered
  ends : ∀ call, (call, .endTask) ∈ execution.entered →
    execution.stage = .ending call ∨ execution.stage = .finished
  first : ∀ call, execution.stage = .beginning call → ∀ other contextId,
    (other, .begin contextId) ∈ execution.entered → other = call

namespace Service

/-- The execution that was started as the one of this number. -/
def At (service : Service Agent Session) (index : Nat) (execution : Execution) : Prop :=
  service.executions[index]? = some execution

/-- The line of the call is in the pipe or was served. -/
def Written (service : Service Agent Session) (call : Nat) : Prop :=
  (∃ result, (call, result) ∈ service.sidecar.handled) ∨
    ∃ line ∈ service.sidecar.stdin, line.call = call

structure Booked (service : Service Agent Session) : Prop where
  numbered : service.sidecar.Numbered
  queued : service.sidecar.Queued
  owned : ∀ index execution, service.At index execution → ∀ call request,
    (call, request) ∈ execution.entered → ∃ entry, service.sidecar.calls[call]? = some entry ∧
      entry.request = request.request execution.taskId
  once : ∀ index other execution second, service.At index execution →
    service.At other second → ∀ call request twin, (call, request) ∈ execution.entered →
      (call, twin) ∈ second.entered → index = other ∧ request = twin
  awaited : ∀ call phase, service.sidecar.phaseAt call = some phase → phase.isOver = false →
    ∃ index execution, service.At index execution ∧ execution.stage.call? = some call
  lines : ∀ line ∈ service.sidecar.stdin, ∃ index execution request number,
    service.At index execution ∧ (line.call, request) ∈ execution.entered ∧
      line.body = (request.request execution.taskId).body number
  known : ∀ call, service.Written call → call < service.sidecar.calls.length
  shaped : ∀ index execution, service.At index execution → execution.Shaped
  opened : ∀ index execution, service.At index execution → execution.stage.isInside = true →
    ∀ call contextId, (call, .begin contextId) ∈ execution.entered → service.Written call

theorem booked_started (agent : Agent) : (started agent : Service Agent Session).Booked where
  numbered := SidecarState.numbered_initial 2
  queued := SidecarState.queued_initial 2
  owned := by rintro _ _ ⟨⟩
  once := by rintro _ _ _ _ ⟨⟩
  awaited := by rintro _ _ ⟨⟩
  lines := fun _ absent => absurd absent List.not_mem_nil
  known := by
    rintro _ (⟨_, absent⟩ | ⟨_, absent, _⟩)
    · cases absent
    · cases absent
  shaped := by rintro _ _ ⟨⟩
  opened := by rintro _ _ ⟨⟩

variable {service : Service Agent Session}

structure Shifted (state next : SidecarState) : Prop where
  numbered : next.Numbered
  queued : next.Queued
  length : next.calls.length = state.calls.length
  requests : ∀ (call : Nat) (old : SidecarCall), state.calls[call]? = some old →
    ∃ new, next.calls[call]? = some new ∧ new.request = old.request
  phases : ∀ call phase, next.phaseAt call = some phase → phase.isOver = false →
    ∃ old, state.phaseAt call = some old ∧ old.isOver = false
  handled : next.handled = state.handled

theorem Booked.shift (booked : service.Booked) {next : SidecarState}
    (shifted : Shifted service.sidecar next) (stdin : next.stdin = service.sidecar.stdin) :
    ({ service with sidecar := next } : Service Agent Session).Booked := by
  have written : ∀ call, ({ service with sidecar := next } : Service Agent Session).Written call ↔
      service.Written call := by
    intro call
    unfold Written
    rw [shifted.handled, stdin]
  refine ⟨shifted.numbered, shifted.queued, ?_, booked.once, ?_, ?_, ?_, booked.shaped, ?_⟩
  · intro index execution found call request entered
    obtain ⟨old, present, same⟩ := booked.owned index execution found call request entered
    obtain ⟨new, there, kept⟩ := shifted.requests call old present
    exact ⟨new, there, kept.trans same⟩
  · intro call phase present live
    obtain ⟨old, before, wasLive⟩ := shifted.phases call phase present live
    exact booked.awaited call old before wasLive
  · intro line member
    exact booked.lines line (stdin ▸ member)
  · intro call isWritten
    rw [shifted.length]
    exact booked.known call ((written call).mp isWritten)
  · intro index execution found inside call contextId entered
    exact (written call).mpr (booked.opened index execution found inside call contextId entered)

structure NewLine (service : Service Agent Session) (next : SidecarState)
    (line : RequestLine) : Prop where
  shifted : Shifted service.sidecar next
  stdin : next.stdin = service.sidecar.stdin ++ [line]
  waiting : service.sidecar.phaseAt line.call = some .waiting
  asks : ∃ entry number, service.sidecar.calls[line.call]? = some entry ∧
    line.body = entry.request.body number

theorem NewLine.written {next : SidecarState} {line : RequestLine}
    (new : service.NewLine next line) (call : Nat) :
    ({ service with sidecar := next } : Service Agent Session).Written call ↔
      service.Written call ∨ call = line.call := by
  unfold Written
  rw [new.shifted.handled, new.stdin]
  constructor
  · rintro (known | ⟨other, member, same⟩)
    · exact .inl (.inl known)
    · rcases List.mem_append.mp member with before | last
      · exact .inl (.inr ⟨other, before, same⟩)
      · rw [List.mem_singleton.mp last] at same
        exact .inr same.symm
  · rintro ((known | ⟨other, member, same⟩) | same)
    · exact .inl known
    · exact .inr ⟨other, List.mem_append_left _ member, same⟩
    · exact .inr ⟨line, List.mem_append_right _ (List.mem_singleton_self _), same.symm⟩

theorem At.unique {index : Nat} {execution other : Execution}
    (first : service.At index execution) (second : service.At index other) :
    execution = other :=
  Option.some.inj (first.symm.trans second)

/-! ### Entering a call -/

structure Ready (service : Service Agent Session) (index : Nat) (execution : Execution)
    (request : TaskRequest) (stage : Stage) : Prop where
  found : service.At index execution
  idle : ∀ call phase, execution.stage.call? = some call →
    service.sidecar.phaseAt call = some phase → phase.isOver = true
  unended : ∀ call, (call, .endTask) ∉ execution.entered
  awaits : stage.call? = some service.sidecar.calls.length
  sends : stage.sends request = true
  inside : stage.isInside = true →
    (∃ call contextId, (call, .begin contextId) ∈ execution.entered) ∧
      ∀ call contextId, (call, .begin contextId) ∈ execution.entered → service.Written call
  blank : stage.isInside = false → execution.entered = []

def register (service : Service Agent Session) (index : Nat) (execution : Execution)
    (request : TaskRequest) (stage : Stage) : Service Agent Session :=
  { service with
    sidecar := service.sidecar.arrive (request.request execution.taskId)
    executions := service.executions.set index
      { execution with
        stage := stage
        entered := execution.entered ++ [(service.sidecar.calls.length, request)] } }

theorem register_at {index other : Nat} {execution second : Execution} {request : TaskRequest}
    {stage : Stage}
    (present : (service.register index execution request stage).At other second) :
    (other = index ∧ second = { execution with
      stage := stage
      entered := execution.entered ++ [(service.sidecar.calls.length, request)] }) ∨
    (other ≠ index ∧ service.At other second) :=
  getElem?_set_eq_some present

theorem Ready.at_self {index : Nat} {execution : Execution} {request : TaskRequest}
    {stage : Stage} (ready : service.Ready index execution request stage) :
    (service.register index execution request stage).At index { execution with
      stage := stage
      entered := execution.entered ++ [(service.sidecar.calls.length, request)] } :=
  List.getElem?_set_self (List.getElem?_eq_some_iff.mp ready.found).1

theorem Booked.fresh (booked : service.Booked) {index : Nat} {execution : Execution}
    (found : service.At index execution) {request : TaskRequest} :
    (service.sidecar.calls.length, request) ∉ execution.entered := by
  intro entered
  obtain ⟨entry, present, _⟩ := booked.owned index execution found _ request entered
  exact Nat.lt_irrefl _ (List.getElem?_eq_some_iff.mp present).1

theorem Ready.shaped {index : Nat} {execution : Execution} {request : TaskRequest}
    {stage : Stage} (ready : service.Ready index execution request stage) :
    Execution.Shaped { execution with
      stage := stage
      entered := execution.entered ++ [(service.sidecar.calls.length, request)] } := by
  have awaits := ready.awaits
  have sends := ready.sends
  constructor
  · intro call isCall
    have same := isCall.symm.trans awaits
    cases same
    exact ⟨request, List.mem_append_right _ (List.mem_singleton_self _), sends⟩
  · intro _
    cases inside : stage.isInside with
    | true =>
        obtain ⟨⟨call, contextId, entered⟩, _⟩ := ready.inside inside
        exact ⟨call, contextId, List.mem_append_left _ entered⟩
    | false =>
        cases stage with
        | beginning call =>
            cases request with
            | begin contextId =>
                exact ⟨_, contextId, List.mem_append_right _ (List.mem_singleton_self _)⟩
            | message _ | verifiedInputs _ | chunk _ | endTask => cases sends
        | finished => cases awaits
        | noting _ | verifying _ | marking _ | publishing _ _ | emitting _ | ending _ =>
            cases inside
  · intro call entered
    rcases List.mem_append.mp entered with before | new
    · exact absurd before (ready.unended call)
    · cases List.mem_singleton.mp new
      cases stage with
      | ending other =>
          cases awaits
          exact .inl rfl
      | beginning _ | noting _ | verifying _ | marking _ | publishing _ _ | emitting _ | finished =>
          cases sends
  · intro call isBeginning other contextId entered
    dsimp only at isBeginning
    rw [isBeginning] at awaits
    rcases List.mem_append.mp entered with before | new
    · rw [ready.blank (by rw [isBeginning]; rfl)] at before
      cases before
    · cases List.mem_singleton.mp new
      exact (Option.some.inj awaits).symm

theorem Booked.register (booked : service.Booked) {index : Nat} {execution : Execution}
    {request : TaskRequest} {stage : Stage}
    (ready : service.Ready index execution request stage) :
    (service.register index execution request stage).Booked := by
  have phases := service.sidecar.arrive_phaseAt (request.request execution.taskId)
  refine ⟨SidecarState.arrive_numbered booked.numbered (unnumbered_request _ _),
    SidecarState.arrive_queued booked.queued _, ?_, ?_, ?_, ?_, ?_, ?_, ?_⟩
  · intro other second present call asked entered
    have kept : ∀ entry, service.sidecar.calls[call]? = some entry →
        (service.sidecar.arrive (request.request execution.taskId)).calls[call]? = some entry := by
      intro entry found
      exact (List.getElem?_append_left (List.getElem?_eq_some_iff.mp found).1).trans found
    rcases register_at present with ⟨_, rfl⟩ | ⟨_, before⟩
    · rcases List.mem_append.mp entered with old | new
      · obtain ⟨entry, found, same⟩ := booked.owned index execution ready.found call asked old
        exact ⟨entry, kept entry found, same⟩
      · cases List.mem_singleton.mp new
        exact ⟨_, service.sidecar.arrive_found _, rfl⟩
    · obtain ⟨entry, found, same⟩ := booked.owned other second before call asked entered
      exact ⟨entry, kept entry found, same⟩
  · intro first other one two atFirst atOther call asked twin entered also
    rcases register_at atFirst with ⟨rfl, rfl⟩ | ⟨_, before⟩
    · rcases register_at atOther with ⟨rfl, rfl⟩ | ⟨different, there⟩
      · rcases List.mem_append.mp entered with old | new
        · rcases List.mem_append.mp also with oldToo | newToo
          · exact booked.once _ _ _ _ ready.found ready.found call asked twin old oldToo
          · cases List.mem_singleton.mp newToo
            exact absurd old (booked.fresh ready.found)
        · cases List.mem_singleton.mp new
          rcases List.mem_append.mp also with oldToo | newToo
          · exact absurd oldToo (booked.fresh ready.found)
          · cases List.mem_singleton.mp newToo
            exact ⟨rfl, rfl⟩
      · rcases List.mem_append.mp entered with old | new
        · exact booked.once _ _ _ _ ready.found there call asked twin old also
        · cases List.mem_singleton.mp new
          exact absurd also (booked.fresh there)
    · rcases register_at atOther with ⟨rfl, rfl⟩ | ⟨_, there⟩
      · rcases List.mem_append.mp also with oldToo | newToo
        · exact booked.once _ _ _ _ before ready.found call asked twin entered oldToo
        · cases List.mem_singleton.mp newToo
          exact absurd entered (booked.fresh before)
      · exact booked.once _ _ _ _ before there call asked twin entered also
  · intro call phase present live
    rcases SidecarState.phaseAt_of_moved phases present with ⟨rfl, _⟩ | ⟨_, earlier⟩
    · exact ⟨index, _, ready.at_self, ready.awaits⟩
    · obtain ⟨other, second, there, awaits⟩ := booked.awaited call phase earlier live
      by_cases same : other = index
      · subst other
        cases there.unique ready.found
        rw [ready.idle call phase awaits earlier] at live
        cases live
      · exact ⟨other, second, (List.getElem?_set_ne (Ne.symm same)).trans there, awaits⟩
  · intro line member
    obtain ⟨other, second, asked, number, there, entered, isBody⟩ := booked.lines line member
    by_cases same : other = index
    · subst other
      cases there.unique ready.found
      exact ⟨index, _, asked, number, ready.at_self, List.mem_append_left _ entered, isBody⟩
    · exact ⟨other, second, asked, number, (List.getElem?_set_ne (Ne.symm same)).trans there,
        entered, isBody⟩
  · intro call written
    change call < (service.sidecar.calls ++ [_]).length
    rw [List.length_append]
    exact Nat.lt_succ_of_lt (booked.known call written)
  · intro other second present
    rcases register_at present with ⟨_, rfl⟩ | ⟨_, before⟩
    · exact ready.shaped
    · exact booked.shaped other second before
  · intro other second present inside call contextId entered
    rcases register_at present with ⟨_, rfl⟩ | ⟨_, before⟩
    · rcases List.mem_append.mp entered with old | new
      · exact (ready.inside inside).2 call contextId old
      · cases List.mem_singleton.mp new
        have sends := ready.sends
        cases stage with
        | beginning _ | finished => cases inside
        | noting _ | verifying _ | marking _ | publishing _ _ | emitting _ | ending _ =>
            cases sends
    · exact booked.opened other second before inside call contextId entered

theorem Booked.writer (booked : service.Booked) {next : SidecarState} {line : RequestLine}
    (new : service.NewLine next line) :
    ∃ index execution request number, service.At index execution ∧
      execution.stage.call? = some line.call ∧ (line.call, request) ∈ execution.entered ∧
      execution.stage.sends request = true ∧
      line.body = (request.request execution.taskId).body number := by
  obtain ⟨entry, number, found, isBody⟩ := new.asks
  obtain ⟨index, execution, there, awaits⟩ := booked.awaited line.call .waiting new.waiting rfl
  obtain ⟨request, entered, sends⟩ := (booked.shaped index execution there).current _ awaits
  obtain ⟨other, present, same⟩ := booked.owned index execution there _ _ entered
  rw [found] at present
  cases present
  exact ⟨index, execution, request, number, there, awaits, entered, sends, by rw [isBody, same]⟩

theorem Booked.write (booked : service.Booked) {next : SidecarState} {line : RequestLine}
    (new : service.NewLine next line) :
    ({ service with sidecar := next } : Service Agent Session).Booked := by
  obtain ⟨index, execution, request, number, there, _, entered, _, isBody⟩ := booked.writer new
  refine ⟨new.shifted.numbered, new.shifted.queued, ?_, booked.once, ?_, ?_, ?_, booked.shaped, ?_⟩
  · intro other second found call asked listed
    obtain ⟨old, present, same⟩ := booked.owned other second found call asked listed
    obtain ⟨later, isLater, kept⟩ := new.shifted.requests call old present
    exact ⟨later, isLater, kept.trans same⟩
  · intro call phase present live
    obtain ⟨old, before, wasLive⟩ := new.shifted.phases call phase present live
    exact booked.awaited call old before wasLive
  · intro other member
    change other ∈ next.stdin at member
    rw [new.stdin] at member
    rcases List.mem_append.mp member with before | last
    · exact booked.lines other before
    · rw [List.mem_singleton.mp last]
      exact ⟨index, execution, request, number, there, entered, isBody⟩
  · intro call written
    rw [new.shifted.length]
    rcases (new.written call).mp written with before | rfl
    · exact booked.known call before
    · obtain ⟨entry, _, found, _⟩ := new.asks
      exact (List.getElem?_eq_some_iff.mp found).1
  · intro other second found inside call contextId listed
    exact (new.written call).mpr
      (.inl (booked.opened other second found inside call contextId listed))

/-! ### Serving a line -/

def serve (crate : Crate Agent Session World) (platform : SidecarPlatform)
    (service : Service Agent Session) (line : RequestLine) (later : List RequestLine)
    (world : World) : Service Agent Session :=
  let handled := service.bridge.handle crate (line.body, world)
  { service with
    sidecar := { service.sidecar with
      stdin := later
      stdout := service.sidecar.stdout ++ [platform.answer line handled.1]
      handled := service.sidecar.handled ++ [(line.call, handled.1)] }
    bridge := handled.2 }

variable {crate : Crate Agent Session World} {platform : SidecarPlatform} {line : RequestLine}
  {later : List RequestLine} {world : World}

theorem serve_written (stdin : service.sidecar.stdin = line :: later) (call : Nat) :
    (serve crate platform service line later world).Written call ↔ service.Written call := by
  constructor
  · rintro (⟨result, known⟩ | ⟨other, member, same⟩)
    · rcases List.mem_append.mp known with before | last
      · exact .inl ⟨result, before⟩
      · cases List.mem_singleton.mp last
        exact .inr ⟨line, stdin ▸ List.mem_cons_self, rfl⟩
    · exact .inr ⟨other, stdin ▸ List.mem_cons_of_mem _ member, same⟩
  · rintro (⟨result, known⟩ | ⟨other, member, same⟩)
    · exact .inl ⟨result, List.mem_append_left _ known⟩
    · rw [stdin] at member
      rcases List.mem_cons.mp member with rfl | behind
      · subst same
        exact .inl ⟨_, List.mem_append_right _ (List.mem_singleton_self _)⟩
      · exact .inr ⟨other, behind, same⟩

theorem Booked.serve (booked : service.Booked) (stdin : service.sidecar.stdin = line :: later) :
    (serve crate platform service line later world).Booked := by
  refine ⟨SidecarState.handled_numbered booked.numbered stdin _,
    ⟨booked.queued.waiting, booked.queued.distinct⟩, booked.owned, booked.once, booked.awaited, ?_, ?_, booked.shaped, ?_⟩
  · intro other member
    exact booked.lines other (stdin ▸ List.mem_cons_of_mem _ member)
  · intro call written
    exact booked.known call ((serve_written stdin call).mp written)
  · intro index execution found inside call contextId entered
    exact (serve_written stdin call).mpr
      (booked.opened index execution found inside call contextId entered)

/-! ### Stages without a call -/

structure Leaves (service : Service Agent Session) (index : Nat) (execution : Execution)
    (stage : Stage) : Prop where
  found : service.At index execution
  idle : ∀ call phase, execution.stage.call? = some call →
    service.sidecar.phaseAt call = some phase → phase.isOver = true
  free : stage.call? = none
  inside : stage ≠ .finished → execution.stage.isInside = true ∧
    ∀ call, (call, .endTask) ∉ execution.entered

theorem setStage_at {index other : Nat} {execution second : Execution} {stage : Stage}
    (present : (service.setStage index execution stage).At other second) :
    (other = index ∧ second = { execution with stage := stage }) ∨
      (other ≠ index ∧ service.At other second) :=
  getElem?_set_eq_some present

theorem Leaves.shaped {index : Nat} {execution : Execution} {stage : Stage}
    (leaves : service.Leaves index execution stage) (shaped : execution.Shaped) :
    Execution.Shaped { execution with stage := stage } := by
  constructor
  · intro call isCall
    rw [leaves.free] at isCall
    cases isCall
  · intro live
    refine shaped.opens ?_
    intro finished
    obtain ⟨inside, _⟩ := leaves.inside live
    rw [finished] at inside
    cases inside
  · intro call entered
    refine .inr (Classical.byContradiction fun live => ?_)
    exact (leaves.inside live).2 call entered
  · intro call isBeginning
    have free := leaves.free
    dsimp only at isBeginning
    rw [isBeginning] at free
    cases free

theorem Booked.setStage (booked : service.Booked) {index : Nat} {execution : Execution}
    {stage : Stage} (leaves : service.Leaves index execution stage) :
    (service.setStage index execution stage).Booked := by
  have origin : ∀ other second, (service.setStage index execution stage).At other second →
      ∃ old, service.At other old ∧ second.taskId = old.taskId ∧ second.entered = old.entered := by
    intro other second present
    rcases setStage_at present with ⟨rfl, rfl⟩ | ⟨_, before⟩
    · exact ⟨execution, leaves.found, rfl, rfl⟩
    · exact ⟨second, before, rfl, rfl⟩
  have atSelf : (service.setStage index execution stage).At index
      { execution with stage := stage } :=
    List.getElem?_set_self (List.getElem?_eq_some_iff.mp leaves.found).1
  refine ⟨booked.numbered, booked.queued, ?_, ?_, ?_, ?_, booked.known, ?_, ?_⟩
  · intro other second present call request entered
    obtain ⟨old, before, sameTask, sameCalls⟩ := origin other second present
    rw [sameTask]
    exact booked.owned other old before call request (sameCalls ▸ entered)
  · intro first other one two atFirst atOther call request twin entered also
    obtain ⟨old, before, _, sameCalls⟩ := origin first one atFirst
    obtain ⟨also', there, _, sameToo⟩ := origin other two atOther
    exact booked.once first other old also' before there call request twin (sameCalls ▸ entered)
      (sameToo ▸ also)
  · intro call phase present live
    obtain ⟨other, second, there, awaits⟩ := booked.awaited call phase present live
    by_cases same : other = index
    · subst other
      cases there.unique leaves.found
      rw [leaves.idle call phase awaits present] at live
      cases live
    · exact ⟨other, second, (List.getElem?_set_ne (Ne.symm same)).trans there, awaits⟩
  · intro line member
    obtain ⟨other, second, request, number, there, entered, isBody⟩ := booked.lines line member
    by_cases same : other = index
    · subst other
      cases there.unique leaves.found
      exact ⟨index, _, request, number, atSelf, entered, isBody⟩
    · exact ⟨other, second, request, number, (List.getElem?_set_ne (Ne.symm same)).trans there,
        entered, isBody⟩
  · intro other second present
    rcases setStage_at present with ⟨_, rfl⟩ | ⟨_, before⟩
    · exact leaves.shaped (booked.shaped index execution leaves.found)
    · exact booked.shaped other second before
  · intro other second present inside call contextId entered
    rcases setStage_at present with ⟨_, rfl⟩ | ⟨_, before⟩
    · have live : stage ≠ .finished := by
        rintro rfl
        cases inside
      exact booked.opened index execution leaves.found (leaves.inside live).1 call contextId
        entered
    · exact booked.opened other second before inside call contextId entered

/-! ### A new execution -/

/-- `execute` is called and has entered no call yet. -/
def arrive (service : Service Agent Session) (taskId contextId : Text) (message : Json) :
    Service Agent Session :=
  { service with
    executions := service.executions ++
      [{ taskId := taskId
         contextId := contextId
         message := message
         stage := .finished
         entered := [] }] }

theorem arrive_at {taskId contextId : Text} {message : Json} {other : Nat} {second : Execution}
    (present : (service.arrive taskId contextId message).At other second) :
    (other = service.executions.length ∧ second = Execution.mk taskId contextId message .finished []) ∨
      service.At other second :=
  getElem?_concat_eq_some present

theorem At.arrive {index : Nat} {execution : Execution} (there : service.At index execution)
    (taskId contextId : Text) (message : Json) :
    (service.arrive taskId contextId message).At index execution :=
  (List.getElem?_append_left (List.getElem?_eq_some_iff.mp there).1).trans there

theorem Booked.arrive (booked : service.Booked) (taskId contextId : Text) (message : Json) :
    (service.arrive taskId contextId message).Booked := by
  refine ⟨booked.numbered, booked.queued, ?_, ?_, ?_, ?_, booked.known, ?_, ?_⟩
  · intro other second present call request entered
    rcases arrive_at present with ⟨_, rfl⟩ | before
    · cases entered
    · exact booked.owned other second before call request entered
  · intro first other one two atFirst atOther call request twin entered also
    rcases arrive_at atFirst with ⟨_, rfl⟩ | before
    · cases entered
    · rcases arrive_at atOther with ⟨_, rfl⟩ | there
      · cases also
      · exact booked.once first other one two before there call request twin entered also
  · intro call phase present live
    obtain ⟨other, second, there, awaits⟩ := booked.awaited call phase present live
    exact ⟨other, second, there.arrive _ _ _, awaits⟩
  · intro line member
    obtain ⟨other, second, request, number, there, entered, isBody⟩ := booked.lines line member
    exact ⟨other, second, request, number, there.arrive _ _ _, entered, isBody⟩
  · intro other second present
    rcases arrive_at present with ⟨_, rfl⟩ | before
    · exact ⟨by rintro _ ⟨⟩, fun live => absurd rfl live, by rintro _ ⟨⟩, by rintro _ ⟨⟩⟩
    · exact booked.shaped other second before
  · intro other second present inside call contextId entered
    rcases arrive_at present with ⟨_, rfl⟩ | before
    · cases inside
    · exact booked.opened other second before inside call contextId entered

/-! ### Moves -/

def Returned (service : Service Agent Session) (call : Nat) (result : Json) : Prop :=
  service.sidecar.phaseAt call = some (.ended (.returned result))

/-- What the registry answers in the step of the run that verifies the cited inputs. -/
def AnsweredAt (steps : Service Agent Session → ServiceAction World → Prop) (index : Nat)
    (cited : List Text) (served : Nat → Text → Option Client.Answer) : Prop :=
  ∃ service execution, steps service (.proceed index served) ∧ service.At index execution ∧
    execution.stage = .verifying cited

/-- Why an execution enters a call in a run with these steps. -/
inductive Cause (analyst : Analyst Reading)
    (steps : Service Agent Session → ServiceAction World → Prop)
    (service : Service Agent Session) (index : Nat) (execution : Execution) : TaskRequest → Prop
  | begin {contextId : Text} (blank : execution.entered = []) :
      Cause analyst steps service index execution (.begin contextId)
  | message {call : Nat} {result : Json} (stage : execution.stage = .beginning call)
      (returned : service.Returned call result) :
      Cause analyst steps service index execution (.message execution.message)
  | verifiedInputs {cited : List Text} {served : Nat → Text → Option Client.Answer}
      {inputs : List (Input Reading)} (stage : execution.stage = .verifying cited)
      (answered : AnsweredAt steps index cited served)
      (verified : analyst.verifyInputs served cited = .ok inputs) :
      Cause analyst steps service index execution (.verifiedInputs (inputs.map Input.ctxId))
  | firstChunk {call : Nat} {result content : Json} (stage : execution.stage = .marking call)
      (returned : service.Returned call result) :
      Cause analyst steps service index execution (.chunk content)
  | nextChunk {rest : List Json} {content : Json} (stage : execution.stage = .emitting rest) :
      Cause analyst steps service index execution (.chunk content)
  | endTask : Cause analyst steps service index execution .endTask

/-- Why an execution enters a stage without a call. -/
inductive Reason (service : Service Agent Session) (execution : Execution) : Stage → Prop
  | verifying {call : Nat} {noted : Json} {cited : List Text}
      (stage : execution.stage = .noting call) (returned : service.Returned call noted)
      (isCited : citedOf noted = some cited) : Reason service execution (.verifying cited)
  | emitting {call : Nat} {rest later : List Json}
      (stage : execution.stage = .publishing call rest) : Reason service execution (.emitting later)
  | finished : Reason service execution .finished

/-- What a step is made of, apart from the arrival of an execution. -/
inductive Move (crate : Crate Agent Session World) (platform : SidecarPlatform)
    (analyst : Analyst Reading) (steps : Service Agent Session → ServiceAction World → Prop)
    (service : Service Agent Session) : Service Agent Session → Prop
  | register {index : Nat} {execution : Execution} {request : TaskRequest} {stage : Stage}
      (ready : service.Ready index execution request stage)
      (cause : Cause analyst steps service index execution request)
      (last : execution.stage = .finished → index + 1 = service.executions.length) :
      Move crate platform analyst steps service (service.register index execution request stage)
  | leave {index : Nat} {execution : Execution} {stage : Stage}
      (leaves : service.Leaves index execution stage) (reason : Reason service execution stage) :
      Move crate platform analyst steps service (service.setStage index execution stage)
  | shift {next : SidecarState} (shifted : Shifted service.sidecar next)
      (stdin : next.stdin = service.sidecar.stdin) :
      Move crate platform analyst steps service { service with sidecar := next }
  | write {next : SidecarState} {line : RequestLine} (new : service.NewLine next line) :
      Move crate platform analyst steps service { service with sidecar := next }
  | serve {line : RequestLine} {later : List RequestLine} (world : World)
      (serves : steps service (.serve world)) (stdin : service.sidecar.stdin = line :: later) :
      Move crate platform analyst steps service (serve crate platform service line later world)

theorem Booked.move {analyst : Analyst Reading}
    {steps : Service Agent Session → ServiceAction World → Prop} {next : Service Agent Session}
    (booked : service.Booked) (move : Move crate platform analyst steps service next) : next.Booked := by
  cases move with
  | register ready _ _ => exact booked.register ready
  | leave leaves _ => exact booked.setStage leaves
  | shift shifted stdin => exact booked.shift shifted stdin
  | write new => exact booked.write new
  | serve world _ stdin => exact booked.serve stdin

/-- The rule for facts that every move keeps. -/
theorem Booked.moves {analyst : Analyst Reading}
    {steps : Service Agent Session → ServiceAction World → Prop} {invariant : Service Agent Session → Prop}
    (preserved : ∀ service next : Service Agent Session, service.Booked → invariant service →
      Move crate platform analyst steps service next → invariant next)
    {next : Service Agent Session} (booked : service.Booked) (holds : invariant service)
    (moves : Relation.ReflTransGen (Move crate platform analyst steps) service next) :
    next.Booked ∧ invariant next := by
  induction moves with
  | refl => exact ⟨booked, holds⟩
  | tail _ move ih => exact ⟨ih.1.move move, preserved _ _ ih.1 ih.2 move⟩

/-! ### Steps are moves -/

theorem shifted_of_setPhase {state next : SidecarState} {index : Nat} {call : SidecarCall}
    (phase : SidecarPhase) (numbered : next.Numbered) (queued : next.Queued) (found : state.calls[index]? = some call)
    (calls : next.calls = (state.setPhase index call phase).calls)
    (live : phase.isOver = false → call.phase.isOver = false)
    (handled : next.handled = state.handled) : Shifted state next := by
  refine ⟨numbered, queued, ?_, ?_, ?_, handled⟩
  · rw [calls]
    exact List.length_set
  · intro other old present
    rw [calls]
    by_cases same : other = index
    · subst other
      rw [found] at present
      cases present
      exact ⟨_, List.getElem?_set_self (List.getElem?_eq_some_iff.mp found).1, rfl⟩
    · exact ⟨old, (List.getElem?_set_ne (Ne.symm same)).trans present, rfl⟩
  · intro other old present notOver
    have phases := SidecarState.setPhase_phaseAt found phase
    have same : next.phaseAt other = (state.setPhase index call phase).phaseAt other := by
      unfold SidecarState.phaseAt
      rw [calls]
    rw [same] at present
    rcases SidecarState.phaseAt_of_moved phases present with ⟨rfl, rfl⟩ | ⟨_, earlier⟩
    · exact ⟨call.phase, SidecarState.phaseAt_of_found found, live notOver⟩
    · exact ⟨old, earlier, notOver⟩

variable {analyst : Analyst Reading} {steps : Service Agent Session → ServiceAction World → Prop}

/-- A waiting call that gets the lock writes its line, or fails to build it. -/
theorem move_write (numbered : service.sidecar.Numbered) {index : Nat} {call : SidecarCall}
    (found : service.sidecar.calls[index]? = some call) (waiting : call.phase = .waiting)
    {waiters : List Nat} (queued : (service.sidecar.write platform index call waiters).Queued) :
    Move crate platform analyst steps service
      { service with sidecar := service.sidecar.write platform index call waiters } := by
  have after : (service.sidecar.write platform index call waiters).Numbered :=
    SidecarState.write_numbered numbered found waiters
  have live : ∀ phase : SidecarPhase, phase.isOver = false → call.phase.isOver = false := by
    intro _ _
    rw [waiting]
    rfl
  by_cases encodes : platform.encodes call.request = true
  · have written : service.sidecar.write platform index call waiters =
        { service.sidecar.setPhase index call (.draining service.sidecar.nextId) with
          lock := { holder := some index, waiters := waiters }
          nextId := service.sidecar.nextId + 1
          stdin := service.sidecar.stdin ++
            [{ call := index, body := call.request.body service.sidecar.nextId }] } := if_pos encodes
    have new : service.NewLine (service.sidecar.write platform index call waiters)
        ⟨index, call.request.body service.sidecar.nextId⟩ := by
      refine ⟨?_, ?_, ?_, ?_⟩
      · exact shifted_of_setPhase (.draining service.sidecar.nextId) after queued found
          (by rw [written]) (live _) (by rw [written]; rfl)
      · rw [written]
      · rw [SidecarState.phaseAt_of_found found, waiting]
      · exact ⟨call, _, found, rfl⟩
    exact .write new
  · have refused : service.sidecar.write platform index call waiters =
        { service.sidecar.setPhase index call (.ended .unencodable) with
          lock := { holder := none, waiters := waiters }
          nextId := service.sidecar.nextId + 1 } := if_neg encodes
    refine .shift ?_ (by rw [refused]; rfl)
    exact shifted_of_setPhase (.ended .unencodable) after queued found (by rw [refused])
      (by rintro ⟨⟩) (by rw [refused]; rfl)

/-- A call from the `await` on: it is registered, and writes at once if nobody is before it. -/
theorem moves_call (booked : service.Booked) {index : Nat} {execution : Execution}
    {request : TaskRequest} {stage : Nat → Stage}
    (ready : service.Ready index execution request (stage service.sidecar.calls.length))
    (cause : Cause analyst steps service index execution request)
    (last : execution.stage = .finished → index + 1 = service.executions.length) :
    Relation.ReflTransGen (Move crate platform analyst steps) service
      (service.call platform index execution request stage) := by
  have registered := booked.register ready
  refine .tail (.single (.register ready cause last)) ?_
  unfold call SidecarState.enter
  have found := service.sidecar.arrive_found (request.request execution.taskId)
  split
  · exact move_write registered.numbered found rfl
      (SidecarState.write_queued registered.queued found (List.nil_sublist _) List.not_mem_nil)
  · refine .shift ⟨registered.numbered.ofLock _, SidecarState.wait_queued booked.queued _, rfl, ?_,
      ?_, rfl⟩ rfl
    · intro call old present
      exact ⟨old, present, rfl⟩
    · intro call phase present live
      exact ⟨phase, present, live⟩

/-- A step of the calls on the sidecar, apart from a new call and from serving. -/
theorem move_sidecar (booked : service.Booked) {action : SidecarAction} {next : SidecarState}
    (inner : ∀ request, action ≠ .call request) (unserved : ∀ result, action ≠ .handled result)
    (taken : sidecarStep platform service.sidecar action = some next) :
    Move crate platform analyst steps service { service with sidecar := next } := by
  have after : next.Numbered := by
    refine SidecarState.step_numbered booked.numbered ?_ taken
    cases action with
    | call request => exact absurd rfl (inner request)
    | granted | drained _ | handled _ | readline _ _ | cancel _ => trivial
  cases action with
  | call request => exact absurd rfl (inner request)
  | handled result => exact absurd rfl (unserved result)
  | granted =>
      obtain ⟨index, rest, call, _, waiters, found, rfl⟩ := granted_eq_some taken
      have waiting := booked.queued.waiting index (waiters ▸ List.mem_cons_self)
      rw [SidecarState.phaseAt_of_found found] at waiting
      exact move_write booked.numbered found (Option.some.inj waiting)
        (SidecarState.granted_queued booked.queued waiters found)
  | drained index =>
      obtain ⟨call, reqId, found, draining, rfl⟩ := drained_eq_some taken
      have pending : call.phase.pending = some reqId := by
        rw [draining]
        rfl
      have queued := booked.queued.movedPending found pending
        (SidecarState.setPhase_phaseAt found (.reading reqId)) rfl
      refine .shift (shifted_of_setPhase (.reading reqId) after queued found rfl ?_ rfl) rfl
      intro _
      rw [draining]
      rfl
  | readline index arrived =>
      obtain ⟨call, reqId, item, later, found, reading, _, rfl⟩ := readline_eq_some taken
      have queued : (service.sidecar.readline platform index call reqId item later arrived).Queued :=
        SidecarState.readline_queued booked.queued found reading
      obtain ⟨outcome, calls, stdin, handled⟩ := SidecarState.readline_ends platform
        service.sidecar index call reqId item later arrived
      exact .shift (shifted_of_setPhase (.ended outcome) after queued found calls (by rintro ⟨⟩)
        handled) stdin
  | cancel index =>
      obtain ⟨call, found, cancelled⟩ := cancel_eq_some taken
      rcases cancelled with ⟨_, rfl⟩ | ⟨reqId, pending, rfl⟩
      · exact .shift (shifted_of_setPhase .cancelled after
          (SidecarState.cancel_queued booked.queued found) found rfl (by rintro ⟨⟩) rfl) rfl
      · have queued : SidecarState.Queued { service.sidecar.setPhase index call .cancelled with
            lock := service.sidecar.lock.release } :=
          booked.queued.movedPending found pending
            (SidecarState.setPhase_phaseAt found .cancelled) rfl
        exact .shift (shifted_of_setPhase .cancelled after queued found rfl (by rintro ⟨⟩) rfl) rfl

theorem Booked.ready (booked : service.Booked) {index : Nat} {execution : Execution}
    (found : service.At index execution) (inside : execution.stage.isInside = true)
    (unended : ∀ call, execution.stage ≠ .ending call)
    (idle : ∀ call phase, execution.stage.call? = some call →
      service.sidecar.phaseAt call = some phase → phase.isOver = true)
    {request : TaskRequest} {stage : Stage}
    (awaits : stage.call? = some service.sidecar.calls.length)
    (sends : stage.sends request = true) (later : stage.isInside = true) :
    service.Ready index execution request stage := by
  have shaped := booked.shaped index execution found
  have live : execution.stage ≠ .finished := by
    intro finished
    rw [finished] at inside
    cases inside
  refine ⟨found, idle, ?_, awaits, sends, ?_, ?_⟩
  · intro call entered
    rcases shaped.ends call entered with ending | finished
    · exact unended call ending
    · exact live finished
  · intro _
    exact ⟨shaped.opens live, booked.opened index execution found inside⟩
  · intro outside
    rw [later] at outside
    cases outside

theorem Booked.ready_message (booked : service.Booked) {index call : Nat} {execution : Execution}
    {result : Json} (found : service.At index execution)
    (beginning : execution.stage = .beginning call) (returned : service.Returned call result) :
    service.Ready index execution (.message execution.message)
      (.noting service.sidecar.calls.length) := by
  have shaped := booked.shaped index execution found
  refine ⟨found, ?_, ?_, rfl, rfl, ?_, by rintro ⟨⟩⟩
  · intro other phase awaits present
    rw [beginning] at awaits
    cases awaits
    rw [returned] at present
    cases present
    rfl
  · intro other entered
    rcases shaped.ends other entered with ending | finished
    · rw [beginning] at ending
      cases ending
    · rw [beginning] at finished
      cases finished
  · intro _
    refine ⟨shaped.opens (by rw [beginning]; rintro ⟨⟩), ?_⟩
    intro other contextId entered
    rw [shaped.first call beginning other contextId entered]
    exact .inl ⟨_, booked.numbered.own call result returned⟩

theorem moves_finish (booked : service.Booked) {index : Nat} {execution : Execution}
    (found : service.At index execution) (inside : execution.stage.isInside = true)
    (unended : ∀ call, execution.stage ≠ .ending call)
    (idle : ∀ call phase, execution.stage.call? = some call →
      service.sidecar.phaseAt call = some phase → phase.isOver = true) :
    Relation.ReflTransGen (Move crate platform analyst steps) service
      (service.finish platform index execution) := by
  refine moves_call booked (booked.ready found inside unended idle rfl rfl rfl) .endTask ?_
  intro finished
  rw [finished] at inside
  cases inside

theorem moves_nextChunk (booked : service.Booked) {index : Nat} {execution : Execution}
    (found : service.At index execution) (inside : execution.stage.isInside = true)
    (unended : ∀ call, execution.stage ≠ .ending call)
    (idle : ∀ call phase, execution.stage.call? = some call →
      service.sidecar.phaseAt call = some phase → phase.isOver = true)
    (cause : ∀ content, Cause analyst steps service index execution (.chunk content)) (chunks : List Json) :
    Relation.ReflTransGen (Move crate platform analyst steps) service
      (service.nextChunk platform index execution chunks) := by
  cases chunks with
  | nil => exact moves_finish booked found inside unended idle
  | cons chunk rest =>
      unfold nextChunk
      refine moves_call booked ?_ (cause chunk) ?_
      · exact booked.ready found inside unended idle rfl rfl rfl
      · intro finished
        rw [finished] at inside
        cases inside

theorem moves_resume (booked : service.Booked) {index call : Nat} {execution : Execution}
    {phase : SidecarPhase} {result : Option Json} (found : service.At index execution)
    (awaits : execution.stage.call? = some call)
    (present : service.sidecar.phaseAt call = some phase) (ended : phase.result = some result)
    (chunks : List Json) :
    Relation.ReflTransGen (Move crate platform analyst steps) service
      (service.resume platform index execution chunks result) := by
  have isOver : phase.isOver = true := by
    cases phase with
    | ended _ | cancelled => rfl
    | waiting | draining _ | reading _ => cases ended
  have idle : ∀ other old, execution.stage.call? = some other →
      service.sidecar.phaseAt other = some old → old.isOver = true := by
    intro other old isCall there
    rw [awaits] at isCall
    cases isCall
    rw [present] at there
    cases there
    exact isOver
  have finish : execution.stage.isInside = true → (∀ call, execution.stage ≠ .ending call) →
      Relation.ReflTransGen (Move crate platform analyst steps) service
        (service.finish platform index execution) :=
    fun inside unended => moves_finish booked found inside unended idle
  have finished : Relation.ReflTransGen (Move crate platform analyst steps) service
      (service.setStage index execution .finished) :=
    .single (.leave ⟨found, idle, rfl, fun live => absurd rfl live⟩ .finished)
  have unended : (∀ call, execution.stage ≠ .ending call) → execution.stage ≠ .finished →
      ∀ call, (call, .endTask) ∉ execution.entered := by
    intro notEnding notOver other entered
    rcases (booked.shaped index execution found).ends other entered with ending | isOver
    · exact notEnding other ending
    · exact notOver isOver
  cases result with
  | none =>
      unfold resume
      cases stage : execution.stage with
      | beginning _ | ending _ => exact finished
      | noting _ | marking _ | publishing _ _ =>
          exact finish (by rw [stage]; rfl) (by rw [stage]; rintro _ ⟨⟩)
      | verifying _ | emitting _ | finished =>
          rw [stage] at awaits
          cases awaits
  | some value =>
      have returned : service.Returned call value := by
        unfold Returned
        rw [present]
        cases phase with
        | ended outcome =>
            cases outcome with
            | returned given =>
                cases ended
                rfl
            | failed _ | mismatch _ _ | overrun | garbled | unencodable => cases ended
        | waiting | draining _ | reading _ | cancelled => cases ended
      unfold resume
      cases stage : execution.stage with
      | beginning other =>
          rw [stage] at awaits
          cases awaits
          refine moves_call booked (booked.ready_message found stage returned)
            (.message stage returned) ?_
          rw [stage]
          rintro ⟨⟩
      | noting other =>
          rw [stage] at awaits
          cases awaits
          dsimp only
          cases isCited : citedOf value with
          | none => exact finish (by rw [stage]; rfl) (by rw [stage]; rintro _ ⟨⟩)
          | some cited =>
              refine .single (.leave ⟨found, idle, rfl, ?_⟩ (.verifying stage returned isCited))
              intro _
              exact ⟨by rw [stage]; rfl,
                unended (by rw [stage]; rintro _ ⟨⟩) (by rw [stage]; rintro ⟨⟩)⟩
      | marking other =>
          rw [stage] at awaits
          cases awaits
          exact moves_nextChunk booked found (by rw [stage]; rfl) (by rw [stage]; rintro _ ⟨⟩) idle
            (fun _ => .firstChunk stage returned) chunks
      | publishing other rest =>
          have leaves : ∀ later, Relation.ReflTransGen (Move crate platform analyst steps) service
              (service.setStage index execution (.emitting later)) := by
            intro later
            refine .single (.leave ⟨found, idle, rfl, ?_⟩ (.emitting stage))
            intro _
            exact ⟨by rw [stage]; rfl,
              unended (by rw [stage]; rintro _ ⟨⟩) (by rw [stage]; rintro ⟨⟩)⟩
          dsimp only
          cases value.get? "withhold" with
          | some _ => exact leaves []
          | none =>
              cases value.get? "emit" with
              | some _ => exact leaves rest
              | none => exact finish (by rw [stage]; rfl) (by rw [stage]; rintro _ ⟨⟩)
      | ending _ => exact finished
      | verifying _ | emitting _ | finished =>
          rw [stage] at awaits
          cases awaits

/-- The service with the execution that an action starts. -/
def afterArrival (service : Service Agent Session) :
    ServiceAction World → Service Agent Session
  | .execute taskId contextId message => service.arrive taskId contextId message
  | _ => service

theorem moves_execute (booked : service.Booked) (taskId contextId : Text) (message : Json) :
    Relation.ReflTransGen (Move crate platform analyst steps)
      (service.arrive taskId contextId message)
      (service.execute platform taskId contextId message) := by
  have arrived := booked.arrive taskId contextId message
  unfold execute
  refine moves_call arrived ⟨?_, by rintro _ _ ⟨⟩, by rintro _ ⟨⟩, rfl, rfl, by rintro ⟨⟩, fun _ => rfl⟩
    (.begin rfl) ?_
  · exact List.getElem?_concat_length
  · intro _
    unfold Service.arrive
    rw [List.length_append]
    rfl

/-- Every step is a sequence of moves, from where the new execution is there. -/
theorem step_moves (steps : Service Agent Session → ServiceAction World → Prop)
    (booked : service.Booked) {action : ServiceAction World} {next : Service Agent Session}
    (now : steps service action)
    (taken : serviceStep crate platform analyst service action = some next) :
    Relation.ReflTransGen (Move crate platform analyst steps) (service.afterArrival action) next := by
  have sidecar : ∀ inner : SidecarAction, (∀ request, inner ≠ .call request) →
      (∀ result, inner ≠ .handled result) →
      (sidecarStep platform service.sidecar inner).map
        (fun sidecar => { service with sidecar := sidecar }) = some next →
      Relation.ReflTransGen (Move crate platform analyst steps) service next := by
    intro inner notCall notServed moved
    obtain ⟨state, stepped, rfl⟩ := Option.map_eq_some_iff.mp moved
    exact .single (move_sidecar booked notCall notServed stepped)
  cases action with
  | execute taskId contextId message =>
      cases taken
      exact moves_execute booked taskId contextId message
  | granted => exact sidecar .granted (by rintro _ ⟨⟩) (by rintro _ ⟨⟩) taken
  | drained index => exact sidecar (.drained index) (by rintro _ ⟨⟩) (by rintro _ ⟨⟩) taken
  | readline index arrived =>
      exact sidecar (.readline index arrived) (by rintro _ ⟨⟩) (by rintro _ ⟨⟩) taken
  | cancel index => exact sidecar (.cancel index) (by rintro _ ⟨⟩) (by rintro _ ⟨⟩) taken
  | serve world =>
      simp only [serviceStep] at taken
      split at taken
      · cases taken
      · next line later stdin =>
          obtain ⟨state, stepped, rfl⟩ := Option.map_eq_some_iff.mp taken
          obtain ⟨first, behind, split, rfl⟩ := handled_eq_some stepped
          rw [stdin] at split
          cases split
          exact .single (.serve world now stdin)
  | resume index chunks =>
      simp only [serviceStep] at taken
      split at taken
      · cases taken
      · next execution found =>
          split at taken
          · cases taken
          · next phase isPhase =>
              obtain ⟨call, awaits, present⟩ := Option.bind_eq_some_iff.mp isPhase
              obtain ⟨result, ended, rfl⟩ := Option.map_eq_some_iff.mp taken
              exact moves_resume booked found awaits present ended chunks
  | proceed index served =>
      simp only [serviceStep] at taken
      split at taken
      · cases taken
      · next execution found =>
          split at taken
          · next cited stage =>
              have idle : ∀ other old, execution.stage.call? = some other →
                  service.sidecar.phaseAt other = some old → old.isOver = true := by
                rw [stage]
                rintro _ _ ⟨⟩
              split at taken
              · next inputs verified =>
                  cases taken
                  refine moves_call booked (booked.ready found (by rw [stage]; rfl)
                    (by rw [stage]; rintro _ ⟨⟩) idle rfl rfl rfl)
                    (.verifiedInputs stage ⟨service, execution, now, found, stage⟩ verified) (by rw [stage]; rintro ⟨⟩)
              · cases taken
                exact moves_finish booked found (by rw [stage]; rfl)
                  (by rw [stage]; rintro _ ⟨⟩) idle
          · next rest stage =>
              cases taken
              exact moves_nextChunk booked found (by rw [stage]; rfl)
                (by rw [stage]; rintro _ ⟨⟩) (by rw [stage]; rintro _ _ ⟨⟩)
                (fun _ => .nextChunk stage) rest
          · cases taken
  | raised index =>
      simp only [serviceStep] at taken
      split at taken
      · cases taken
      · next execution found =>
          split at taken
          · next cited stage =>
              cases taken
              exact moves_finish booked found (by rw [stage]; rfl)
                (by rw [stage]; rintro _ ⟨⟩) (by rw [stage]; rintro _ _ ⟨⟩)
          · next rest stage =>
              cases taken
              exact moves_finish booked found (by rw [stage]; rfl)
                (by rw [stage]; rintro _ ⟨⟩) (by rw [stage]; rintro _ _ ⟨⟩)
          · cases taken

theorem Booked.afterArrival (booked : service.Booked) (action : ServiceAction World) :
    (service.afterArrival action).Booked := by
  cases action with
  | execute taskId contextId message => exact booked.arrive taskId contextId message
  | granted | drained _ | readline _ _ | cancel _ | serve _ | resume _ _ | proceed _ _
  | raised _ => exact booked

end Service

end AcdpPlayground.A2a

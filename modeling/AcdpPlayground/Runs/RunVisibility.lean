/-
A run that was started stays visible. The streams drop the queue and the runner
stores the result, in different coroutines; what connects them is that the terminal
event and the result appear in one segment of the runner, and that each of the three
places that drop the queue is reached with a result in the store.

The scenario emits no terminal events of its own. Any number of streams may be open
at once.
-/

import AcdpPlayground.Runs.Delivery

namespace AcdpPlayground.Runs

open TransitionRun TaskTable

def QuietScenario (_ : RunState) : RunAction → Prop
  | .runner (.emit event) => event.type.terminal = false
  | _ => True

instance (state : RunState) (action : RunAction) : Decidable (QuietScenario state action) :=
  match action with
  | .runner (.emit event) => inferInstanceAs (Decidable (event.type.terminal = false))
  | .runner (.start _) | .runner .startNotified | .runner (.close _ _ _ _) | .runner .stop
  | .runner (.webhook _ _) | .openStream | .stream _ _ | .getRun => .isTrue trivial

/-- What `GET /runs/{id}` and `/runs/{id}/events` have answered and would answer. -/
structure RunKept (state : RunState) : Prop where
  visible : state.bus.onBus = true ∨ state.bus.result.isSome = true
  found : state.bus.getRun ≠ .notFound
  statuses : ∃ early late status,
    state.statuses = List.replicate early .running ++ List.replicate late (.concluded status) ∧
      (0 < late → ∃ entry ∈ state.bus.put, entry.terminal = true) ∧
      ∀ entry ∈ state.bus.put, entry.terminal = true → entry.event.status = some status
  opens : .notFound ∉ state.opens
  opensNow : state.bus.streamEvents.2.1 ≠ .notFound

/-! ### The invariant -/

def StatusLog (statuses : List GetReply) : Option RunResult → Prop
  | none => ∃ early, statuses = List.replicate early .running
  | some result => ∃ early late,
      statuses = List.replicate early .running ++ List.replicate late (.concluded result.status)

structure Keeping (state : RunState) : Prop where
  pending : state.bus.runner.open = true → state.bus.result = none
  outcome : ∀ entry ∈ state.bus.put, entry.terminal = true →
    ∃ result, state.bus.result = some result ∧ entry.event.status = some result.status
  outcomePut : state.bus.result.isSome = true → ∃ entry ∈ state.bus.put, entry.terminal = true
  queued : ∀ entry ∈ state.bus.queue, entry ∈ state.bus.put
  taken : ∀ stream ∈ state.streams, ∀ entry ∈ stream.taken, entry ∈ state.bus.put
  dropping : ∀ stream ∈ state.streams, stream.phase.dropping = true →
    state.bus.result.isSome = true
  visible : state.bus.onBus = true ∨ state.bus.result.isSome = true
  statuses : StatusLog state.statuses state.bus.result
  opens : .notFound ∉ state.opens

theorem keeping_accepted : Keeping RunState.accepted where
  pending := fun _ => rfl
  outcome := fun _ member => absurd member List.not_mem_nil
  outcomePut := fun missing => by cases missing
  queued := fun _ member => absurd member List.not_mem_nil
  taken := fun _ member => absurd member List.not_mem_nil
  dropping := fun _ member => absurd member List.not_mem_nil
  visible := .inl rfl
  statuses := ⟨0, rfl⟩
  opens := List.not_mem_nil

theorem statusLog_close {statuses : List GetReply} (result : RunResult)
    (log : StatusLog statuses none) : StatusLog statuses (some result) := by
  obtain ⟨early, same⟩ := log
  exact ⟨early, 0, by rw [same, List.replicate_zero, List.append_nil]⟩

theorem mem_putEvent {bus : RunBus} {event : StepEvent} {entry : PutEvent}
    (member : entry ∈ (bus.putEvent event).put) : entry ∈ bus.put ∨ entry.event = event := by
  rcases List.mem_append.mp member with old | new
  · exact .inl old
  · right
    rw [List.mem_singleton.mp new]

theorem queued_putEvent {bus : RunBus} (event : StepEvent)
    (queued : ∀ entry ∈ bus.queue, entry ∈ bus.put) :
    ∀ entry ∈ (bus.putEvent event).queue, entry ∈ (bus.putEvent event).put := by
  intro entry member
  rcases List.mem_append.mp member with old | new
  · exact List.mem_append_left _ (queued entry old)
  · exact List.mem_append_right _ new

theorem keeping_busStep {state : RunState} {bus : RunBus} {action : RunnerAction}
    (keeping : Keeping state) (quiet : QuietScenario state (.runner action))
    (step : BusStep state.bus action bus) : Keeping { state with bus := bus } := by
  have taken_put (event : StepEvent) : ∀ stream ∈ state.streams, ∀ entry ∈ stream.taken,
      entry ∈ (state.bus.putEvent event).put := fun stream member entry held =>
    List.mem_append_left _ (keeping.taken stream member entry held)
  cases step with
  | put event phase source kept =>
      have ordinary : event.type.terminal = false := by
        cases terminal : event.type.terminal with
        | false => rfl
        | true =>
            rw [source terminal] at quiet
            rw [show event.type.terminal = false from quiet] at terminal
            cases terminal
      refine ⟨fun early => keeping.pending (kept early), ?_, ?_,
        queued_putEvent event keeping.queued, taken_put event, keeping.dropping,
        keeping.visible, keeping.statuses, keeping.opens⟩
      · intro entry member terminal
        rcases mem_putEvent member with old | new
        · exact keeping.outcome entry old terminal
        · rw [PutEvent.terminal, new, ordinary] at terminal
          cases terminal
      · intro persisted
        obtain ⟨entry, member, terminal⟩ := keeping.outcomePut persisted
        exact ⟨entry, List.mem_append_left _ member, terminal⟩
  | idle phase kept =>
      exact ⟨fun early => keeping.pending (kept early), keeping.outcome, keeping.outcomePut,
        keeping.queued, keeping.taken, keeping.dropping, keeping.visible, keeping.statuses,
        keeping.opens⟩
  | close event result wasOpen terminal status =>
      have before := keeping.pending wasOpen
      refine ⟨fun early => (by cases early), ?_, ?_, queued_putEvent event keeping.queued,
        taken_put event, fun _ _ _ => rfl, .inr rfl, ?_, keeping.opens⟩
      · intro entry member ends
        rcases mem_putEvent member with old | new
        · obtain ⟨earlier, persisted, _⟩ := keeping.outcome entry old ends
          rw [before] at persisted
          cases persisted
        · exact ⟨result, rfl, by rw [new]; exact status⟩
      · intro _
        exact ⟨_, List.mem_append_right _ List.mem_cons_self, terminal⟩
      · have log := keeping.statuses
        rw [before] at log
        exact statusLog_close result log

theorem not_mem_opens {opens : List OpenReply} {reply : OpenReply}
    (before : .notFound ∉ opens) (answered : reply ≠ .notFound) :
    .notFound ∉ opens ++ [reply] := by
  intro member
  rcases List.mem_append.mp member with old | new
  · exact before old
  · exact answered (List.mem_singleton.mp new).symm

theorem keeping_opens {state : RunState} {opened : RunBus × OpenReply × Option EventStream}
    (keeping : Keeping state) (opens : Opens state.bus opened) :
    Keeping
      { state with
        bus := opened.1
        streams := state.streams ++ opened.2.2.toList
        opens := state.opens ++ [opened.2.1] } := by
  cases opens with
  | streaming _ _ =>
      refine ⟨keeping.pending, keeping.outcome, keeping.outcomePut, keeping.queued, ?_, ?_,
        keeping.visible, keeping.statuses,
        not_mem_opens keeping.opens (fun same => by cases same)⟩
      · exact forall_mem_append_singleton keeping.taken (fun _ held => by cases held)
      · exact forall_mem_append_singleton keeping.dropping (fun impossible => by cases impossible)
  | replay result persisted _ =>
      refine ⟨keeping.pending, keeping.outcome, keeping.outcomePut, keeping.queued, ?_, ?_,
        .inr ?_, keeping.statuses, not_mem_opens keeping.opens (fun same => by cases same)⟩
      · exact forall_mem_append_singleton keeping.taken (fun _ held => by cases held)
      · exact forall_mem_append_singleton keeping.dropping (fun impossible => by cases impossible)
      · change state.bus.result.isSome = true
        rw [persisted]
        rfl
  | missing off pending =>
      rcases keeping.visible with onBus | persisted
      · rw [off] at onBus
        cases onBus
      · rw [pending] at persisted
        cases persisted

theorem keeping_moves {state : RunState} {index : Nat} {stream : EventStream}
    {move : StreamMove} {moved : RunBus × EventStream} (keeping : Keeping state)
    (found : state.streams[index]? = some stream) (moves : Moves state.bus stream move moved) :
    Keeping
      { state with
        bus := moved.1
        streams := state.streams.set index moved.2 } := by
  have here : stream ∈ state.streams := List.mem_of_getElem? found
  obtain ⟨put, result, runner⟩ := moves_bus moves
  obtain ⟨fresh, grown, shifted⟩ := taken_moves moves
  refine ⟨?_, ?_, ?_, ?_, ?_, ?_, ?_, ?_, keeping.opens⟩
  · change moved.1.runner.open = true → moved.1.result = none
    rw [runner, result]
    exact keeping.pending
  · change ∀ entry ∈ moved.1.put, entry.terminal = true →
      ∃ outcome, moved.1.result = some outcome ∧ entry.event.status = some outcome.status
    rw [put, result]
    exact keeping.outcome
  · change moved.1.result.isSome = true → ∃ entry ∈ moved.1.put, entry.terminal = true
    rw [put, result]
    exact keeping.outcomePut
  · change ∀ entry ∈ moved.1.queue, entry ∈ moved.1.put
    rw [put]
    intro entry member
    apply keeping.queued entry
    rw [shifted]
    exact List.mem_append_right _ member
  · change ∀ other ∈ state.streams.set index moved.2, ∀ entry ∈ other.taken,
      entry ∈ moved.1.put
    rw [put]
    apply forall_mem_set keeping.taken
    rw [grown]
    intro entry member
    rcases List.mem_append.mp member with old | new
    · exact keeping.taken stream here entry old
    · apply keeping.queued entry
      rw [shifted]
      exact List.mem_append_left _ new
  · change ∀ other ∈ state.streams.set index moved.2, other.phase.dropping = true →
      moved.1.result.isSome = true
    rw [result]
    apply forall_mem_set keeping.dropping
    intro dropping
    rcases moves_dropping moves dropping with already | ⟨_, persisted⟩ | ⟨entry, held, terminal⟩
    · exact keeping.dropping stream here already
    · exact persisted
    · obtain ⟨outcome, persisted, _⟩ :=
        keeping.outcome entry (keeping.taken stream here entry held) terminal
      rw [persisted]
      rfl
  · change moved.1.onBus = true ∨ moved.1.result.isSome = true
    rw [result]
    rcases moves_onBus moves with same | ⟨phase, _, _⟩
    · rw [same]
      exact keeping.visible
    · exact .inr (keeping.dropping stream here (by rw [phase]; rfl))
  · change StatusLog state.statuses moved.1.result
    rw [result]
    exact keeping.statuses

theorem statusLog_getRun {state : RunState} (keeping : Keeping state) :
    StatusLog (state.statuses ++ [state.bus.getRun]) state.bus.result := by
  have log := keeping.statuses
  unfold RunBus.getRun
  cases persisted : state.bus.result with
  | none =>
      rw [persisted] at log
      obtain ⟨early, same⟩ := log
      have onBus : state.bus.onBus = true := by
        rcases keeping.visible with onBus | impossible
        · exact onBus
        · rw [persisted] at impossible
          cases impossible
      simp only [onBus, if_true]
      refine ⟨early + 1, ?_⟩
      rw [same, List.replicate_succ']
  | some result =>
      rw [persisted] at log
      obtain ⟨early, late, same⟩ := log
      refine ⟨early, late + 1, ?_⟩
      rw [same, List.append_assoc, List.replicate_succ']

theorem keeping_runStep {spec : RunSpec} {state next : RunState} {action : RunAction}
    (keeping : Keeping state) (quiet : QuietScenario state action)
    (taken : runStep spec state action = some next) : Keeping next := by
  cases runStep_cases taken with
  | runner _ bus step => exact keeping_busStep keeping quiet step
  | opened opened opens => exact keeping_opens keeping opens
  | stream index move stream moved found moves => exact keeping_moves keeping found moves
  | getRun =>
      exact ⟨keeping.pending, keeping.outcome, keeping.outcomePut, keeping.queued,
        keeping.taken, keeping.dropping, keeping.visible, statusLog_getRun keeping,
        keeping.opens⟩

/-! ### Every reachable state -/

theorem Keeping.found {state : RunState} (keeping : Keeping state) :
    state.bus.getRun ≠ .notFound := by
  unfold RunBus.getRun
  rcases keeping.visible with onBus | persisted
  · cases state.bus.result with
    | some result => exact fun same => by cases same
    | none =>
        simp only [onBus, if_true]
        exact fun same => by cases same
  · obtain ⟨result, same⟩ := Option.isSome_iff_exists.mp persisted
    simp only [same]
    exact fun impossible => by cases impossible

theorem Keeping.opensNow {state : RunState} (keeping : Keeping state) :
    state.bus.streamEvents.2.1 ≠ .notFound := by
  intro refused
  have reopened := keeping_opens keeping (opens_streamEvents state.bus)
  exact reopened.opens (List.mem_append_right _ (by rw [refused]; exact List.mem_cons_self))

theorem Keeping.statusSequence {state : RunState} (keeping : Keeping state) :
    ∃ early late status,
      state.statuses = List.replicate early .running ++ List.replicate late (.concluded status) ∧
        (0 < late → ∃ entry ∈ state.bus.put, entry.terminal = true) ∧
        ∀ entry ∈ state.bus.put, entry.terminal = true → entry.event.status = some status := by
  have log := keeping.statuses
  cases persisted : state.bus.result with
  | none =>
      rw [persisted] at log
      obtain ⟨early, same⟩ := log
      refine ⟨early, 0, .complete, ?_, fun positive => absurd positive (Nat.lt_irrefl 0), ?_⟩
      · rw [same, List.replicate_zero, List.append_nil]
      · intro entry member terminal
        obtain ⟨result, stored, _⟩ := keeping.outcome entry member terminal
        rw [persisted] at stored
        cases stored
  | some result =>
      rw [persisted] at log
      obtain ⟨early, late, same⟩ := log
      refine ⟨early, late, result.status, same, ?_, ?_⟩
      · intro _
        exact keeping.outcomePut (by rw [persisted]; rfl)
      · intro entry member terminal
        obtain ⟨stored, is_stored, status⟩ := keeping.outcome entry member terminal
        rw [persisted] at is_stored
        cases is_stored
        exact status

theorem started_run_kept (spec : RunSpec) {schedule : List RunAction} {state : RunState}
    (quiet : StepsMeet (runStep spec) QuietScenario RunState.accepted schedule)
    (ran : runFrom (runStep spec) RunState.accepted schedule = some state) :
    RunKept state := by
  have keeping : Keeping state :=
    runFrom_conditional_invariant
      (fun _ _ _ keeping quiet taken => keeping_runStep keeping quiet taken)
      keeping_accepted quiet ran
  exact ⟨keeping.visible, keeping.found, keeping.statusSequence, keeping.opens,
    keeping.opensNow⟩

/-- Two streams at once, a status request before and after the outcome, a stream that
drops the queue and a late subscriber. -/
def splitSubscribers : List RunAction :=
  [.openStream, .openStream, .getRun] ++ shortRunner ++ turn 0 ++ turn 1 ++
    [.getRun, .stream 1 .sent, .stream 1 .resumed, .getRun, .openStream]

theorem split_subscribers_run_kept :
    ∃ state,
      runFrom (runStep shortRun) RunState.accepted splitSubscribers = some state ∧
        state.bus.onBus = false ∧ RunKept state := by
  have quiet : StepsMeet (runStep shortRun) QuietScenario RunState.accepted
      splitSubscribers := by decide
  exact ⟨_, rfl, rfl, started_run_kept shortRun quiet rfl⟩

end AcdpPlayground.Runs

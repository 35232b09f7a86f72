/-
What a stream has told its subscriber before it sends `event: end`. Three paths
reach that marker: the terminal event, the replay of the persisted result and the
expiry of the 15 s wait once a result is persisted. The last one sends nothing
before it.

The statements hold for any number of streams, overlapping or not, and for every
scenario; a run that stops without an outcome ends no stream.
-/

import AcdpPlayground.Runs.EventStream

namespace AcdpPlayground.Runs

open TransitionRun TaskTable

def Chunk.tellsOutcome : Chunk → Bool
  | .data entry => entry.terminal
  | .result _ => true
  | .keepalive => false
  | .finish => false

def ToldBeforeEnd (stream : EventStream) : Prop :=
  ∀ before after, stream.sent = before ++ .finish :: after →
    ∃ chunk ∈ before, chunk.tellsOutcome = true

/-- No wait of a stream expires once the result of the run is persisted. -/
def NoExpiryAfterResult (state : RunState) : RunAction → Prop
  | .stream _ .timeout => state.bus.result = none
  | _ => True

instance (state : RunState) (action : RunAction) :
    Decidable (NoExpiryAfterResult state action) :=
  match action with
  | .stream _ .timeout => inferInstanceAs (Decidable (state.bus.result = none))
  | .stream _ (.polled _) | .stream _ .woken | .stream _ .sent | .stream _ .resumed
  | .stream _ .disconnect | .runner _ | .openStream | .getRun => .isTrue trivial

/-! ### Streams that have not reached the marker -/

def StreamPhase.beforeEnd : StreamPhase → Bool
  | .polling | .waiting | .sending _ | .keepingAlive | .replaying _ | .ending _ => true
  | .ended _ | .finished | .disconnected _ => false

structure Telling (stream : EventStream) : Prop where
  told : ToldBeforeEnd stream
  unended : stream.phase.beforeEnd = true → Chunk.finish ∉ stream.sent
  ready : ∀ drops, stream.phase = .ending drops →
    ∃ chunk ∈ stream.sent, chunk.tellsOutcome = true

theorem toldBeforeEnd_of_not_mem {stream : EventStream} (unended : Chunk.finish ∉ stream.sent) :
    ToldBeforeEnd stream := by
  intro before after same
  exact absurd (by rw [same]; exact List.mem_append_right _ List.mem_cons_self) unended

theorem telling_opened (phase : StreamPhase) (started : ∀ drops, phase ≠ .ending drops) :
    Telling { phase := phase, sent := [] } := by
  have unended : Chunk.finish ∉ ([] : List Chunk) := List.not_mem_nil
  exact ⟨toldBeforeEnd_of_not_mem unended, fun _ => unended,
    fun drops same => absurd same (started drops)⟩

theorem telling_goto {stream : EventStream} {phase : StreamPhase} (telling : Telling stream)
    (kept : phase.beforeEnd = true → stream.phase.beforeEnd = true)
    (started : ∀ drops, phase ≠ .ending drops) : Telling (stream.goto phase) :=
  ⟨telling.told, fun early => telling.unended (kept early),
    fun drops same => absurd same (started drops)⟩

/-- A chunk other than the marker; it opens the way to the marker only when it tells
the outcome. -/
theorem telling_send {stream : EventStream} {chunk : Chunk} {phase : StreamPhase}
    (telling : Telling stream) (early : stream.phase.beforeEnd = true)
    (other : chunk ≠ .finish)
    (tells : ∀ drops, phase = .ending drops → chunk.tellsOutcome = true) :
    Telling (stream.send chunk phase) := by
  have unended : Chunk.finish ∉ (stream.send chunk phase).sent := by
    intro member
    rcases List.mem_append.mp member with old | last
    · exact telling.unended early old
    · exact other (List.mem_singleton.mp last).symm
  refine ⟨toldBeforeEnd_of_not_mem unended, fun _ => unended, ?_⟩
  intro drops same
  exact ⟨chunk, List.mem_append_right _ List.mem_cons_self, tells drops same⟩

theorem telling_finish {stream : EventStream} {drops : Bool} (telling : Telling stream)
    (phase : stream.phase = .ending drops) :
    Telling (stream.send .finish (.ended drops)) := by
  have unended := telling.unended (by rw [phase]; rfl)
  refine ⟨?_, fun early => (by cases early), fun _ same => (by cases same)⟩
  intro before after same
  change stream.sent ++ [Chunk.finish] = before ++ .finish :: after at same
  rw [(marker_appended unended same).1]
  exact telling.ready drops phase

/-! ### Steps and runs -/

theorem telling_moves {bus : RunBus} {stream : EventStream} {move : StreamMove}
    {moved : RunBus × EventStream} (telling : Telling stream)
    (expires : move = .timeout → bus.result = none) (moves : Moves bus stream move moved) :
    Telling moved.2 := by
  cases moves with
  | wait phase _ =>
      exact telling_goto telling (fun _ => by rw [phase]; rfl) (fun _ same => by cases same)
  | take _ entry rest phase _ =>
      refine telling_goto telling ?_ (fun _ same => by cases same)
      intro _
      rcases phase with phase | phase <;> rw [phase] <;> rfl
  | expire _ persisted =>
      rw [expires rfl] at persisted
      cases persisted
  | keepAlive phase _ =>
      exact telling_goto telling (fun _ => by rw [phase]; rfl) (fun _ same => by cases same)
  | deliver entry phase =>
      refine telling_send telling (by rw [phase]; rfl) (fun same => by cases same) ?_
      intro drops same
      change entry.terminal = true
      cases terminal : entry.terminal with
      | true => rfl
      | false =>
          rw [terminal] at same
          cases same
  | keptAlive phase =>
      exact telling_send telling (by rw [phase]; rfl) (fun same => by cases same)
        (fun _ same => by cases same)
  | replay result phase =>
      exact telling_send telling (by rw [phase]; rfl) (fun same => by cases same)
        (fun _ _ => rfl)
  | finish drops phase => exact telling_finish telling phase
  | drop phase =>
      exact telling_goto telling (fun early => by cases early) (fun _ same => by cases same)
  | leave phase =>
      exact telling_goto telling (fun early => by cases early) (fun _ same => by cases same)
  | lose entry phase =>
      exact telling_goto telling (fun early => by cases early) (fun _ same => by cases same)
  | disconnect _ live free =>
      exact telling_goto telling (fun early => by cases early) (fun _ same => by cases same)

theorem telling_runStep {spec : RunSpec} {state next : RunState} {action : RunAction}
    (telling : ∀ stream ∈ state.streams, Telling stream)
    (expires : NoExpiryAfterResult state action)
    (taken : runStep spec state action = some next) :
    ∀ stream ∈ next.streams, Telling stream := by
  cases runStep_cases taken with
  | runner _ bus _ => exact telling
  | opened opened opens =>
      cases opens with
      | streaming _ _ =>
          exact forall_mem_append_singleton telling
            (telling_opened .polling (fun _ same => by cases same))
      | replay result _ _ =>
          exact forall_mem_append_singleton telling
            (telling_opened (.replaying result) (fun _ same => by cases same))
      | missing _ _ =>
          change ∀ stream ∈ state.streams ++ [], Telling stream
          rw [List.append_nil]
          exact telling
  | stream index move stream moved found moves =>
      apply forall_mem_set telling
      refine telling_moves (telling stream (List.mem_of_getElem? found)) ?_ moves
      intro same
      subst same
      exact expires
  | getRun => exact telling

/-- In a run in which no wait expires after the result is persisted, every stream
tells the outcome before it ends. -/
theorem streams_tell_before_end (spec : RunSpec) {schedule : List RunAction} {state : RunState}
    (meets : StepsMeet (runStep spec) NoExpiryAfterResult RunState.accepted schedule)
    (ran : runFrom (runStep spec) RunState.accepted schedule = some state) :
    ∀ stream ∈ state.streams, ToldBeforeEnd stream := by
  have telling : ∀ stream ∈ state.streams, Telling stream :=
    runFrom_conditional_invariant
      (fun _ _ _ telling expires taken => telling_runStep telling expires taken)
      (fun _ member => absurd member List.not_mem_nil) meets ran
  intro stream member
  exact (telling stream member).told

/-- A stream whose wait expires before the run starts and that delivers the terminal event,
and a late one that gets the replay. -/
def toldOutcome : List RunAction :=
  .openStream :: [.stream 0 (.polled false), .stream 0 .timeout, .stream 0 .sent] ++ shortRunner ++
    turn 0 ++ turn 0 ++
    [.stream 0 .sent, .stream 0 .resumed, .openStream, .stream 1 .sent, .stream 1 .sent]

theorem told_outcome_tells_before_end :
    ∃ state,
      runFrom (runStep shortRun) RunState.accepted toldOutcome = some state ∧
        ∀ stream ∈ state.streams, ToldBeforeEnd stream := by
  have meets : StepsMeet (runStep shortRun) NoExpiryAfterResult RunState.accepted
      toldOutcome := by decide
  have runs : (runFrom (runStep shortRun) RunState.accepted toldOutcome).isSome = true := rfl
  obtain ⟨state, ran⟩ := Option.isSome_iff_exists.mp runs
  exact ⟨state, ran, streams_tell_before_end shortRun meets ran⟩

/-- The terminal event is lost at a disconnect, a webhook refills the queue, and the
reconnected stream waits on it until its wait expires. -/
def lostOutcome : List RunAction :=
  shortRunner ++ .openStream :: turn 0 ++
    [.stream 0 (.polled false), .stream 0 .disconnect,
      .runner (.webhook "2026-01-01T00:00:02Z" { type := .contextPublished }), .openStream] ++
    turn 1 ++ [.stream 1 (.polled false), .stream 1 .timeout, .stream 1 .sent]

theorem stream_ends_without_outcome :
    StepsMeet (runStep shortRun) OneSubscriber RunState.accepted lostOutcome ∧
      ∃ state stream,
        runFrom (runStep shortRun) RunState.accepted lostOutcome = some state ∧
          state.bus.result.isSome = true ∧ stream ∈ state.streams ∧ ¬ ToldBeforeEnd stream := by
  refine ⟨by decide, _, _, rfl, rfl, List.mem_cons_of_mem _ List.mem_cons_self, ?_⟩
  intro told
  obtain ⟨chunk, member, tells⟩ := told [_] [] rfl
  rw [List.mem_singleton.mp member] at tells
  cases tells

end AcdpPlayground.Runs

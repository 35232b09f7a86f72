/-
The event bus entry of one run, its runner task and the streams of
`GET /runs/{id}/events`, as one interleaving of atomic segments: `create_queue` /
`get_queue` / `drop_queue` of `playground/events.py`, `start_run`, `get_run` and
`stream_events` of `playground/api/runs.py`, `_execute` of the runner and the
fan-in of `receive_acdp_webhook`.

Every dictionary involved is keyed by the run id and run ids are distinct, so one
run is modelled alone. Its queue object is one and unbounded: a `put` never
suspends, and the scenario and the open streams keep using the object after the
bus has dropped it. The state begins where `POST /runs` has answered 202.

A stream may be cancelled wherever it awaits or yields. A timed-out or cancelled
`queue.get` removes nothing; the timer may win over an event that has already
been put, so a wait can time out whatever the queue holds.
-/

import AcdpPlayground.Foundation.TransitionRun
import AcdpPlayground.Foundation.TaskTable
import AcdpPlayground.Runs.Runner

namespace AcdpPlayground.Runs

open TransitionRun TaskTable

/-- An event with its place in the sequence of puts. -/
structure PutEvent where
  position : Nat
  event : StepEvent
  deriving DecidableEq

def PutEvent.terminal (entry : PutEvent) : Bool := entry.event.type.terminal

/-! ### The run as its coroutines share it -/

inductive RunnerPhase where
  | created
  | notifyingStart
  | runningScenario
  | notifyingComplete
  | ended
  deriving DecidableEq

/-- `put` is the sequence of all puts, kept for the statements only. -/
structure RunBus where
  queue : List PutEvent
  onBus : Bool
  result : Option RunResult
  runner : RunnerPhase
  put : List PutEvent

def RunBus.accepted : RunBus :=
  { queue := []
    onBus := true
    result := none
    runner := .created
    put := [] }

def RunBus.putEvent (bus : RunBus) (event : StepEvent) : RunBus :=
  { bus with
    queue := bus.queue ++ [{ position := bus.put.length, event := event }]
    put := bus.put ++ [{ position := bus.put.length, event := event }] }

def RunBus.dropQueue (bus : RunBus) : RunBus :=
  { bus with onBus := false }

inductive RunnerAction where
  | start (ts : String)
  | startNotified
  | emit (event : StepEvent)
  | close (timeoutSeconds ts : String) (summary : Fields) (outcome : ScenarioOutcome)
  | stop
  | webhook (ts : String) (event : WebhookEvent)

/-- The runner task, the scenario with the tasks it leaves behind, and the registry. -/
def RunBus.advance (spec : RunSpec) (bus : RunBus) : RunnerAction → Option RunBus
  | .start ts =>
      match bus.runner with
      | .created => some { bus.putEvent (runStarted spec ts) with runner := .notifyingStart }
      | _ => none
  | .startNotified =>
      match bus.runner with
      | .notifyingStart => some { bus with runner := .runningScenario }
      | _ => none
  | .emit event =>
      match bus.runner with
      | .created | .notifyingStart => none
      | _ => some (bus.putEvent event)
  | .close timeoutSeconds ts summary outcome =>
      match bus.runner with
      | .runningScenario =>
          -- No suspension point lies between the put and the store.
          let closing := closeRun spec timeoutSeconds ts summary outcome
          some
            { bus.putEvent closing.1 with
              result := some closing.2
              runner := .notifyingComplete }
      | _ => none
  | .stop =>
      match bus.runner with
      | .ended => none
      | _ => some { bus with runner := .ended }
  | .webhook ts event =>
      if bus.onBus then some (bus.putEvent (StepEvent.fromWebhook spec.runId ts event))
      else some bus

/-! ### Streams -/

inductive Chunk where
  | data (entry : PutEvent)
  | result (result : RunResult)
  | keepalive
  | finish
  deriving DecidableEq

/-- Where a stream is suspended. `drops` says whether the generator drops the queue
when it is resumed after `event: end`; the replay does not. -/
inductive StreamPhase where
  | polling
  | waiting
  | sending (entry : PutEvent)
  | keepingAlive
  | replaying (result : RunResult)
  | ending (drops : Bool)
  | ended (drops : Bool)
  | finished
  | disconnected (held : Option PutEvent)
  deriving DecidableEq

structure EventStream where
  phase : StreamPhase
  sent : List Chunk
  deriving DecidableEq

inductive StreamMove where
  | polled (isDisconnected : Bool)
  | woken
  | timeout
  | sent
  | resumed
  | disconnect
  deriving DecidableEq

def EventStream.goto (stream : EventStream) (phase : StreamPhase) : EventStream :=
  { stream with phase := phase }

def EventStream.send (stream : EventStream) (chunk : Chunk) (phase : StreamPhase) :
    EventStream :=
  { phase := phase
    sent := stream.sent ++ [chunk] }

/-- `queue.get()` when the queue holds an event. -/
def EventStream.take (bus : RunBus) (stream : EventStream) : Option (RunBus × EventStream) :=
  match bus.queue with
  | [] => none
  | entry :: rest => some ({ bus with queue := rest }, stream.goto (.sending entry))

def EventStream.advance (bus : RunBus) (stream : EventStream) :
    StreamMove → Option (RunBus × EventStream)
  | .polled isDisconnected =>
      match stream.phase with
      | .polling =>
          if isDisconnected then some (bus, stream.goto (.disconnected none))
          else
            -- A queue that holds an event answers without suspending.
            some ((stream.take bus).getD (bus, stream.goto .waiting))
      | _ => none
  | .woken =>
      match stream.phase with
      | .waiting => stream.take bus
      | _ => none
  | .timeout =>
      match stream.phase with
      | .waiting =>
          if bus.result.isSome then some (bus, stream.goto (.ending true))
          else some (bus, stream.goto .keepingAlive)
      | _ => none
  | .sent =>
      match stream.phase with
      | .sending entry =>
          some (bus, stream.send (.data entry)
            (if entry.terminal then .ending true else .polling))
      | .keepingAlive => some (bus, stream.send .keepalive .polling)
      | .replaying result => some (bus, stream.send (.result result) (.ending false))
      | .ending drops => some (bus, stream.send .finish (.ended drops))
      | _ => none
  | .resumed =>
      match stream.phase with
      | .ended true => some (bus.dropQueue, stream.goto .finished)
      | .ended false => some (bus, stream.goto .finished)
      | _ => none
  | .disconnect =>
      match stream.phase with
      | .finished | .disconnected _ => none
      | .sending entry => some (bus, stream.goto (.disconnected (some entry)))
      | _ => some (bus, stream.goto (.disconnected none))

/-! ### The whole run -/

inductive GetReply where
  | notFound
  | running
  | concluded (status : RunStatus)
  deriving DecidableEq

inductive OpenReply where
  | notFound
  | streaming
  | replay
  deriving DecidableEq

/-- `streams` in the order they were opened; the replies of both GET routes, oldest
first. -/
structure RunState where
  bus : RunBus
  streams : List EventStream
  statuses : List GetReply
  opens : List OpenReply

inductive RunAction where
  | runner (action : RunnerAction)
  | openStream
  | stream (index : Nat) (move : StreamMove)
  | getRun

def RunState.accepted : RunState :=
  { bus := RunBus.accepted
    streams := []
    statuses := []
    opens := [] }

def RunBus.getRun (bus : RunBus) : GetReply :=
  match bus.result with
  | some result => .concluded result.status
  | none => if bus.onBus then .running else .notFound

/-- The handler `stream_events` up to the response it returns. -/
def RunBus.streamEvents (bus : RunBus) : RunBus × OpenReply × Option EventStream :=
  let replay (bus : RunBus) : RunBus × OpenReply × Option EventStream :=
    match bus.result with
    | none => (bus, .notFound, none)
    | some result => (bus, .replay, some { phase := .replaying result, sent := [] })
  if bus.onBus then
    if bus.queue.isEmpty && bus.result.isSome then replay bus.dropQueue
    else (bus, .streaming, some { phase := .polling, sent := [] })
  else replay bus

def runStep (spec : RunSpec) (state : RunState) : RunAction → Option RunState
  | .runner action => (state.bus.advance spec action).map (fun bus => { state with bus := bus })
  | .openStream =>
      let opened := state.bus.streamEvents
      some
        { state with
          bus := opened.1
          streams := state.streams ++ opened.2.2.toList
          opens := state.opens ++ [opened.2.1] }
  | .stream index move =>
      match state.streams[index]? with
      | none => none
      | some stream =>
          (stream.advance state.bus move).map (fun moved =>
            { state with
              bus := moved.1
              streams := state.streams.set index moved.2 })
  | .getRun => some { state with statuses := state.statuses ++ [state.bus.getRun] }

/-! ### What one step can do -/

def RunnerPhase.open : RunnerPhase → Bool
  | .created => true
  | .notifyingStart => true
  | .runningScenario => true
  | .notifyingComplete => false
  | .ended => false

inductive BusStep (bus : RunBus) : RunnerAction → RunBus → Prop where
  | put (action : RunnerAction) (event : StepEvent) (phase : RunnerPhase)
      (source : event.type.terminal = true → action = .emit event)
      (kept : phase.open = true → bus.runner.open = true) :
      BusStep bus action { bus.putEvent event with runner := phase }
  | idle (action : RunnerAction) (phase : RunnerPhase)
      (kept : phase.open = true → bus.runner.open = true) :
      BusStep bus action { bus with runner := phase }
  | close (action : RunnerAction) (event : StepEvent) (result : RunResult)
      (wasOpen : bus.runner.open = true) (terminal : event.type.terminal = true)
      (status : event.status = some result.status) :
      BusStep bus action
        { bus.putEvent event with
          result := some result
          runner := .notifyingComplete }

theorem busStep_of_advance {spec : RunSpec} {bus next : RunBus} {action : RunnerAction}
    (taken : bus.advance spec action = some next) : BusStep bus action next := by
  cases action with
  | start ts =>
      simp only [RunBus.advance] at taken
      split at taken
      · next phase =>
          cases taken
          exact .put _ _ _ (fun terminal => by cases terminal) (fun _ => by rw [phase]; rfl)
      · cases taken
  | startNotified =>
      simp only [RunBus.advance] at taken
      split at taken
      · next phase =>
          cases taken
          exact .idle _ _ (fun _ => by rw [phase]; rfl)
      · cases taken
  | emit event =>
      simp only [RunBus.advance] at taken
      split at taken
      · cases taken
      · cases taken
      · cases taken
        exact .put _ event bus.runner (fun _ => rfl) (fun same => same)
  | close timeoutSeconds ts summary outcome =>
      simp only [RunBus.advance] at taken
      split at taken
      · next phase =>
          cases taken
          exact .close _ _ _ (by rw [phase]; rfl)
            (closeRun_terminal spec timeoutSeconds ts summary outcome)
            (closeRun_status spec timeoutSeconds ts summary outcome)
      · cases taken
  | stop =>
      simp only [RunBus.advance] at taken
      split at taken
      · cases taken
      · cases taken
        exact .idle _ _ (fun impossible => by cases impossible)
  | webhook ts event =>
      simp only [RunBus.advance] at taken
      split at taken
      · cases taken
        refine .put _ _ bus.runner ?_ (fun same => same)
        intro terminal
        rw [fromWebhook_not_terminal] at terminal
        cases terminal
      · cases taken
        exact .idle _ bus.runner (fun same => same)

def StreamPhase.live : StreamPhase → Bool
  | .finished => false
  | .disconnected _ => false
  | _ => true

inductive Moves (bus : RunBus) (stream : EventStream) :
    StreamMove → RunBus × EventStream → Prop where
  | wait (phase : stream.phase = .polling) (empty : bus.queue = []) :
      Moves bus stream (.polled false) (bus, stream.goto .waiting)
  | take (move : StreamMove) (entry : PutEvent) (rest : List PutEvent)
      (phase : stream.phase = .polling ∨ stream.phase = .waiting)
      (queue : bus.queue = entry :: rest) :
      Moves bus stream move ({ bus with queue := rest }, stream.goto (.sending entry))
  | expire (phase : stream.phase = .waiting) (persisted : bus.result.isSome = true) :
      Moves bus stream .timeout (bus, stream.goto (.ending true))
  | keepAlive (phase : stream.phase = .waiting) (pending : bus.result = none) :
      Moves bus stream .timeout (bus, stream.goto .keepingAlive)
  | deliver (entry : PutEvent) (phase : stream.phase = .sending entry) :
      Moves bus stream .sent (bus, stream.send (.data entry)
        (if entry.terminal then .ending true else .polling))
  | keptAlive (phase : stream.phase = .keepingAlive) :
      Moves bus stream .sent (bus, stream.send .keepalive .polling)
  | replay (result : RunResult) (phase : stream.phase = .replaying result) :
      Moves bus stream .sent (bus, stream.send (.result result) (.ending false))
  | finish (drops : Bool) (phase : stream.phase = .ending drops) :
      Moves bus stream .sent (bus, stream.send .finish (.ended drops))
  | drop (phase : stream.phase = .ended true) :
      Moves bus stream .resumed (bus.dropQueue, stream.goto .finished)
  | leave (phase : stream.phase = .ended false) :
      Moves bus stream .resumed (bus, stream.goto .finished)
  | lose (entry : PutEvent) (phase : stream.phase = .sending entry) :
      Moves bus stream .disconnect (bus, stream.goto (.disconnected (some entry)))
  | disconnect (move : StreamMove) (live : stream.phase.live = true)
      (free : ∀ entry, stream.phase ≠ .sending entry) :
      Moves bus stream move (bus, stream.goto (.disconnected none))

theorem moves_of_take {bus : RunBus} {stream : EventStream} {move : StreamMove}
    {moved : RunBus × EventStream}
    (phase : stream.phase = .polling ∨ stream.phase = .waiting)
    (taken : stream.take bus = some moved) : Moves bus stream move moved := by
  unfold EventStream.take at taken
  split at taken
  · cases taken
  · next entry rest queue =>
      cases taken
      exact .take move entry rest phase queue

theorem moves_of_advance {bus : RunBus} {stream : EventStream} {move : StreamMove}
    {moved : RunBus × EventStream} (taken : stream.advance bus move = some moved) :
    Moves bus stream move moved := by
  cases move with
  | polled isDisconnected =>
      simp only [EventStream.advance] at taken
      split at taken
      · next phase =>
          cases isDisconnected with
          | true =>
              cases taken
              exact .disconnect _ (by rw [phase]; rfl) (fun entry same => by
                rw [phase] at same
                cases same)
          | false =>
              simp only [Bool.false_eq_true, if_false, Option.some.injEq] at taken
              cases found : stream.take bus with
              | some result =>
                  rw [found] at taken
                  rw [← taken]
                  exact moves_of_take (.inl phase) found
              | none =>
                  rw [found] at taken
                  rw [← taken]
                  refine .wait phase ?_
                  unfold EventStream.take at found
                  split at found
                  · assumption
                  · cases found
      · cases taken
  | woken =>
      simp only [EventStream.advance] at taken
      split at taken
      · next phase => exact moves_of_take (.inr phase) taken
      · cases taken
  | timeout =>
      simp only [EventStream.advance] at taken
      split at taken
      · next phase =>
          split at taken
          · next persisted =>
              cases taken
              exact .expire phase persisted
          · next pending =>
              cases taken
              exact .keepAlive phase (by simpa using pending)
      · cases taken
  | sent =>
      simp only [EventStream.advance] at taken
      split at taken
      · next entry phase =>
          cases taken
          exact .deliver entry phase
      · next phase =>
          cases taken
          exact .keptAlive phase
      · next result phase =>
          cases taken
          exact .replay result phase
      · next drops phase =>
          cases taken
          exact .finish drops phase
      · cases taken
  | resumed =>
      simp only [EventStream.advance] at taken
      split at taken
      · next phase =>
          cases taken
          exact .drop phase
      · next phase =>
          cases taken
          exact .leave phase
      · cases taken
  | disconnect =>
      simp only [EventStream.advance] at taken
      split at taken
      · cases taken
      · cases taken
      · next entry phase =>
          cases taken
          exact .lose entry phase
      · next notFinished notGone notSending =>
          cases taken
          refine .disconnect _ ?_ notSending
          cases same : stream.phase with
          | finished => exact absurd same notFinished
          | disconnected held => exact absurd same (notGone held)
          | _ => rfl

inductive Opens (bus : RunBus) : RunBus × OpenReply × Option EventStream → Prop where
  | streaming (onBus : bus.onBus = true) (unfinished : bus.queue ≠ [] ∨ bus.result = none) :
      Opens bus (bus, .streaming, some { phase := .polling, sent := [] })
  | replay (result : RunResult) (persisted : bus.result = some result)
      (drained : bus.onBus = false ∨ bus.queue = []) :
      Opens bus (bus.dropQueue, .replay, some { phase := .replaying result, sent := [] })
  | missing (dropped : bus.onBus = false) (pending : bus.result = none) :
      Opens bus (bus, .notFound, none)

theorem opens_streamEvents (bus : RunBus) : Opens bus bus.streamEvents := by
  unfold RunBus.streamEvents
  cases onBus : bus.onBus with
  | true =>
      simp only [if_true]
      split
      · next concluded =>
          rw [Bool.and_eq_true] at concluded
          obtain ⟨result, persisted⟩ := Option.isSome_iff_exists.mp concluded.2
          have same : bus.dropQueue.result = some result := persisted
          simp only [same]
          exact .replay result persisted (.inr (List.isEmpty_iff.mp concluded.1))
      · next unfinished =>
          refine .streaming onBus ?_
          by_cases empty : bus.queue = []
          · right
            cases result : bus.result with
            | none => rfl
            | some value =>
                rw [empty, result] at unfinished
                exact absurd rfl unfinished
          · exact .inl empty
  | false =>
      simp only [Bool.false_eq_true, if_false]
      cases result : bus.result with
      | none => exact .missing onBus result
      | some value =>
          have same : bus.dropQueue = bus := by
            rw [RunBus.dropQueue, ← onBus]
          have opens : Opens bus (bus.dropQueue, .replay,
              some { phase := .replaying value, sent := [] }) :=
            .replay value result (.inl onBus)
          rw [same] at opens
          exact opens

inductive RunStep (state : RunState) : RunAction → RunState → Prop where
  | runner (action : RunnerAction) (bus : RunBus) (step : BusStep state.bus action bus) :
      RunStep state (.runner action) { state with bus := bus }
  | opened (opened : RunBus × OpenReply × Option EventStream) (opens : Opens state.bus opened) :
      RunStep state .openStream
        { state with
          bus := opened.1
          streams := state.streams ++ opened.2.2.toList
          opens := state.opens ++ [opened.2.1] }
  | stream (index : Nat) (move : StreamMove) (stream : EventStream)
      (moved : RunBus × EventStream) (found : state.streams[index]? = some stream)
      (moves : Moves state.bus stream move moved) :
      RunStep state (.stream index move)
        { state with
          bus := moved.1
          streams := state.streams.set index moved.2 }
  | getRun :
      RunStep state .getRun { state with statuses := state.statuses ++ [state.bus.getRun] }

theorem runStep_cases {spec : RunSpec} {state next : RunState} {action : RunAction}
    (taken : runStep spec state action = some next) : RunStep state action next := by
  cases action with
  | runner action =>
      obtain ⟨bus, advanced, same⟩ := Option.map_eq_some_iff.mp taken
      rw [← same]
      exact .runner action bus (busStep_of_advance advanced)
  | openStream =>
      cases taken
      exact .opened _ (opens_streamEvents state.bus)
  | stream index move =>
      simp only [runStep] at taken
      split at taken
      · cases taken
      · next stream found =>
          obtain ⟨moved, advanced, same⟩ := Option.map_eq_some_iff.mp taken
          rw [← same]
          exact .stream index move stream moved found (moves_of_advance advanced)
  | getRun =>
      cases taken
      exact .getRun

/-! ### One subscriber -/

/-- A stream is opened only after the streams before it are over. -/
def OneSubscriber (state : RunState) : RunAction → Prop
  | .openStream => ∀ stream ∈ state.streams, stream.phase.live = false
  | _ => True

instance (state : RunState) (action : RunAction) : Decidable (OneSubscriber state action) :=
  match action with
  | .openStream =>
      inferInstanceAs (Decidable (∀ stream ∈ state.streams, stream.phase.live = false))
  | .runner _ | .stream _ _ | .getRun => .isTrue trivial

/-! ### A short run -/

def shortRun : RunSpec :=
  { runId := "run-92"
    scenarioId := "s1" }

def shortResult : RunResult :=
  { runId := "run-92"
    scenarioId := "s1" }

/-- The scenario publishes nothing and returns. -/
def shortRunner : List RunAction :=
  [.runner (.start "2026-01-01T00:00:00Z"), .runner .startNotified,
    .runner (.close "300" "2026-01-01T00:00:01Z" [] (.returned shortResult))]

def turn (index : Nat) : List RunAction :=
  [.stream index (.polled false), .stream index .sent]

end AcdpPlayground.Runs

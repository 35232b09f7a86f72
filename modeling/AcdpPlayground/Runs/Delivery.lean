/-
What one subscriber receives over all its streams, against everything put on the
queue of the run. The accounting invariant says where each put event is: taken by
a stream, in the order of the puts, or still in the queue. A taken event has been
delivered, is being sent, or was held when its stream was disconnected.

The scenario may emit any events, terminal ones included; replays of the result are
not deliveries.
-/

import AcdpPlayground.Runs.EventStream
import Mathlib.Data.List.Nodup

namespace AcdpPlayground.Runs

open TransitionRun TaskTable

def Chunk.entry? : Chunk → Option PutEvent
  | .data entry => some entry
  | _ => none

def EventStream.delivered (stream : EventStream) : List PutEvent :=
  stream.sent.filterMap Chunk.entry?

/-- The event a stream took and has not sent, or will never send. -/
def StreamPhase.held : StreamPhase → List PutEvent
  | .sending entry => [entry]
  | .disconnected (some entry) => [entry]
  | _ => []

def EventStream.taken (stream : EventStream) : List PutEvent :=
  stream.delivered ++ stream.phase.held

def deliveredEvents (state : RunState) : List PutEvent :=
  state.streams.flatMap EventStream.delivered

/-- The stream was disconnected with an event in hand. -/
def EventStream.lost (stream : EventStream) : Bool :=
  match stream.phase with
  | .disconnected (some _) => true
  | _ => false

def disconnectsInHand (state : RunState) : Nat := state.streams.countP EventStream.lost

/-- The puts up to and including the first terminal event. -/
def upToTerminal : List PutEvent → List PutEvent
  | [] => []
  | entry :: rest => if entry.terminal then [entry] else entry :: upToTerminal rest

def missingEvents (state : RunState) : List PutEvent :=
  (upToTerminal state.bus.put).filter (fun entry => decide (entry ∉ deliveredEvents state))

structure OrderedDelivery (state : RunState) : Prop where
  ordered : (deliveredEvents state).Sublist state.bus.put
  once : (deliveredEvents state).Nodup
  lossBound : (∃ stream ∈ state.streams, stream.phase = .finished) →
    (missingEvents state).length ≤ disconnectsInHand state

/-- A wait that expires once the result is persisted does so after a terminal event
has left the queue. -/
def TerminalTaken (state : RunState) : RunAction → Prop
  | .stream _ .timeout => state.bus.result.isSome = true →
      ∃ entry ∈ state.bus.put, entry.terminal = true ∧ entry ∉ state.bus.queue
  | _ => True

instance (state : RunState) (action : RunAction) : Decidable (TerminalTaken state action) :=
  match action with
  | .stream _ .timeout =>
      inferInstanceAs (Decidable (state.bus.result.isSome = true →
        ∃ entry ∈ state.bus.put, entry.terminal = true ∧ entry ∉ state.bus.queue))
  | .stream _ (.polled _) | .stream _ .woken | .stream _ .sent | .stream _ .resumed
  | .stream _ .disconnect | .runner _ | .openStream | .getRun => .isTrue trivial

/-! ### Where every put event is -/

structure Custody (state : RunState) : Prop where
  numbered : state.bus.put.map PutEvent.position = List.range state.bus.put.length
  accounted : state.bus.put = state.streams.flatMap EventStream.taken ++ state.bus.queue
  alone : ∀ (index : Nat) (stream : EventStream), state.streams[index]? = some stream →
    stream.phase.live = true → index + 1 = state.streams.length

theorem Custody.put_nodup {state : RunState} (custody : Custody state) :
    state.bus.put.Nodup := by
  apply List.Nodup.of_map PutEvent.position
  rw [custody.numbered]
  exact List.nodup_range

theorem moves_live {bus : RunBus} {stream : EventStream} {move : StreamMove}
    {moved : RunBus × EventStream} (moves : Moves bus stream move moved) :
    stream.phase.live = true := by
  cases moves with
  | take _ entry rest phase _ => rcases phase with phase | phase <;> rw [phase] <;> rfl
  | disconnect _ live _ => exact live
  | wait phase _ | expire phase _ | keepAlive phase _ | deliver _ phase | keptAlive phase
  | replay _ phase | finish _ phase | drop phase | leave phase | lose _ phase =>
      rw [phase]
      rfl

theorem delivered_send (stream : EventStream) (chunk : Chunk) (phase : StreamPhase) :
    (stream.send chunk phase).delivered = stream.delivered ++ chunk.entry?.toList := by
  unfold EventStream.delivered EventStream.send
  rw [List.filterMap_append]
  cases chunk <;> rfl

theorem taken_goto {stream : EventStream} {phase : StreamPhase} :
    (stream.goto phase).taken = stream.delivered ++ phase.held := rfl

theorem taken_of_phase {stream : EventStream} {phase : StreamPhase}
    (same : stream.phase = phase) : stream.taken = stream.delivered ++ phase.held := by
  rw [EventStream.taken, same]

theorem held_of_free {phase : StreamPhase} (live : phase.live = true)
    (free : ∀ entry, phase ≠ .sending entry) : phase.held = [] := by
  cases phase with
  | sending entry => exact absurd rfl (free entry)
  | disconnected held => cases live
  | _ => rfl

/-- One move shifts events from the front of the queue to the stream and changes
nothing else of what was put. -/
theorem taken_moves {bus : RunBus} {stream : EventStream} {move : StreamMove}
    {moved : RunBus × EventStream} (moves : Moves bus stream move moved) :
    ∃ fresh, moved.2.taken = stream.taken ++ fresh ∧ bus.queue = fresh ++ moved.1.queue := by
  cases moves with
  | take _ entry rest phase queue =>
      refine ⟨[entry], ?_, queue⟩
      have held : stream.phase.held = [] := by
        rcases phase with phase | phase <;> rw [phase] <;> rfl
      rw [taken_goto, EventStream.taken, held, List.append_nil]
      rfl
  | deliver entry phase =>
      refine ⟨[], ?_, rfl⟩
      have held : (if entry.terminal then StreamPhase.ending true else .polling).held = [] := by
        split <;> rfl
      rw [EventStream.taken, delivered_send, taken_of_phase phase, List.append_nil]
      change stream.delivered ++ [entry] ++
        (if entry.terminal then StreamPhase.ending true else .polling).held = _
      rw [held, List.append_nil]
      rfl
  | keptAlive phase | replay _ phase | finish _ phase =>
      refine ⟨[], ?_, rfl⟩
      rw [EventStream.taken, delivered_send, taken_of_phase phase]
      simp only [Chunk.entry?, Option.toList_none, List.append_nil]
      rfl
  | wait phase _ | expire phase _ | keepAlive phase _ | drop phase | leave phase
  | lose _ phase =>
      refine ⟨[], ?_, rfl⟩
      rw [taken_goto, taken_of_phase phase, List.append_nil]
      rfl
  | disconnect _ live free =>
      refine ⟨[], ?_, rfl⟩
      rw [taken_goto, EventStream.taken, held_of_free live free, List.append_nil]
      rfl

theorem moves_bus {bus : RunBus} {stream : EventStream} {move : StreamMove}
    {moved : RunBus × EventStream} (moves : Moves bus stream move moved) :
    moved.1.put = bus.put ∧ moved.1.result = bus.result ∧ moved.1.runner = bus.runner := by
  cases moves <;> exact ⟨rfl, rfl, rfl⟩

theorem numbered_putEvent {bus : RunBus} (event : StepEvent)
    (numbered : bus.put.map PutEvent.position = List.range bus.put.length) :
    (bus.putEvent event).put.map PutEvent.position =
      List.range (bus.putEvent event).put.length := by
  simp only [RunBus.putEvent, List.map_append, List.map_cons, List.map_nil, List.length_append,
    List.length_cons, List.length_nil, Nat.zero_add]
  rw [List.range_succ, numbered]

theorem custody_busStep {state : RunState} {bus : RunBus} {action : RunnerAction}
    (custody : Custody state) (step : BusStep state.bus action bus) :
    Custody { state with bus := bus } := by
  have put_accounted (event : StepEvent) : (state.bus.putEvent event).put =
      state.streams.flatMap EventStream.taken ++ (state.bus.putEvent event).queue := by
    simp only [RunBus.putEvent]
    rw [← List.append_assoc, ← custody.accounted]
  cases step with
  | put event phase _ _ =>
      exact ⟨numbered_putEvent event custody.numbered, put_accounted event, custody.alone⟩
  | idle phase _ => exact ⟨custody.numbered, custody.accounted, custody.alone⟩
  | close event result _ _ _ =>
      exact ⟨numbered_putEvent event custody.numbered, put_accounted event, custody.alone⟩

theorem custody_open {state : RunState} {bus : RunBus} {phase : StreamPhase}
    {opens : List OpenReply} (custody : Custody state)
    (concluded : ∀ stream ∈ state.streams, stream.phase.live = false)
    (put : bus.put = state.bus.put) (queue : bus.queue = state.bus.queue)
    (empty : phase.held = []) :
    Custody
      { state with
        bus := bus
        streams := state.streams ++ [{ phase := phase, sent := [] }]
        opens := opens } := by
  refine ⟨?_, ?_, ?_⟩
  · change bus.put.map PutEvent.position = List.range bus.put.length
    rw [put]
    exact custody.numbered
  · change bus.put = (state.streams ++ [_]).flatMap EventStream.taken ++ bus.queue
    rw [put, queue, List.flatMap_append, custody.accounted]
    simp [EventStream.taken, EventStream.delivered, empty]
  · intro index stream found live
    change (state.streams ++ [_])[index]? = some stream at found
    change index + 1 = (state.streams ++ [_]).length
    rw [List.length_append, List.length_singleton]
    have bound := (List.getElem?_eq_some_iff.mp found).1
    rw [List.length_append, List.length_singleton] at bound
    by_cases old : index < state.streams.length
    · rw [List.getElem?_append_left old] at found
      rw [concluded stream (List.mem_of_getElem? found)] at live
      cases live
    · omega

theorem custody_moves {state : RunState} {index : Nat} {stream : EventStream}
    {move : StreamMove} {moved : RunBus × EventStream} (custody : Custody state)
    (found : state.streams[index]? = some stream) (moves : Moves state.bus stream move moved) :
    Custody
      { state with
        bus := moved.1
        streams := state.streams.set index moved.2 } := by
  have last := custody.alone index stream found (moves_live moves)
  obtain ⟨before, split, rewritten⟩ := set_last_split found last
  obtain ⟨fresh, grown, shifted⟩ := taken_moves moves
  obtain ⟨put, _, _⟩ := moves_bus moves
  refine ⟨?_, ?_, ?_⟩
  · change moved.1.put.map PutEvent.position = List.range moved.1.put.length
    rw [put]
    exact custody.numbered
  · change moved.1.put =
      (state.streams.set index moved.2).flatMap EventStream.taken ++ moved.1.queue
    rw [put, custody.accounted, rewritten, split, shifted]
    simp only [List.flatMap_append, List.flatMap_cons, List.flatMap_nil, List.append_nil]
    rw [grown]
    simp only [List.append_assoc]
  · intro other current at_other live
    change (state.streams.set index moved.2)[other]? = some current at at_other
    change other + 1 = (state.streams.set index moved.2).length
    rw [List.length_set]
    by_cases same : index = other
    · rw [← same]
      exact last
    · rw [List.getElem?_set_ne same] at at_other
      exact custody.alone other current at_other live

theorem custody_runStep {spec : RunSpec} {state next : RunState} {action : RunAction}
    (custody : Custody state) (single : OneSubscriber state action)
    (taken : runStep spec state action = some next) : Custody next := by
  cases runStep_cases taken with
  | runner _ bus step => exact custody_busStep custody step
  | opened opened opens =>
      cases opens with
      | streaming _ _ => exact custody_open custody single rfl rfl rfl
      | replay result _ _ => exact custody_open custody single rfl rfl rfl
      | missing _ _ =>
          simp only [Option.toList_none, List.append_nil]
          exact ⟨custody.numbered, custody.accounted, custody.alone⟩
  | stream index move stream moved found moves => exact custody_moves custody found moves
  | getRun => exact ⟨custody.numbered, custody.accounted, custody.alone⟩

theorem custody_accepted : Custody RunState.accepted :=
  ⟨rfl, rfl, fun index stream found => by cases found⟩

/-! ### Streams that end -/

def StreamPhase.pulls : StreamPhase → Bool
  | .polling | .waiting | .sending _ | .keepingAlive => true
  | _ => false

theorem pulls_of_over {phase : StreamPhase} (concluded : phase.live = false) :
    phase.pulls = false := by
  cases phase with
  | finished => rfl
  | disconnected held => rfl
  | _ => cases concluded

def StreamPhase.dropping : StreamPhase → Bool
  | .ending drops => drops
  | .ended drops => drops
  | _ => false

/-- Only reached when the queue is off the bus. -/
def StreamPhase.afterDrop : StreamPhase → Bool
  | .replaying _ => true
  | .ending drops => !drops
  | .ended drops => !drops
  | .finished => true
  | _ => false

structure Closing (state : RunState) : Prop where
  outcomePut : state.bus.result.isSome = true → ∃ entry ∈ state.bus.put, entry.terminal = true
  dropped : ∀ stream ∈ state.streams, stream.phase.afterDrop = true → state.bus.onBus = false
  terminalTaken :
    (state.bus.onBus = false ∨ ∃ stream ∈ state.streams, stream.phase.dropping = true) →
      ∃ entry ∈ state.streams.flatMap EventStream.taken, entry.terminal = true
  quiet : state.bus.onBus = false → ∀ stream ∈ state.streams, stream.phase.pulls = false

theorem closing_busStep {state : RunState} {bus : RunBus} {action : RunnerAction}
    (closing : Closing state) (step : BusStep state.bus action bus) :
    Closing { state with bus := bus } := by
  cases step with
  | put event phase _ _ =>
      refine ⟨?_, closing.dropped, closing.terminalTaken, closing.quiet⟩
      intro persisted
      obtain ⟨entry, member, terminal⟩ := closing.outcomePut persisted
      exact ⟨entry, List.mem_append_left _ member, terminal⟩
  | idle phase _ =>
      exact ⟨closing.outcomePut, closing.dropped, closing.terminalTaken, closing.quiet⟩
  | close event result _ terminal _ =>
      refine ⟨?_, closing.dropped, closing.terminalTaken, closing.quiet⟩
      intro _
      exact ⟨_, List.mem_append_right _ List.mem_cons_self, terminal⟩

theorem mem_taken_of_put {state : RunState} {entry : PutEvent} (custody : Custody state)
    (member : entry ∈ state.bus.put) (gone : entry ∉ state.bus.queue) :
    entry ∈ state.streams.flatMap EventStream.taken := by
  rw [custody.accounted] at member
  rcases List.mem_append.mp member with here | queued
  · exact here
  · exact absurd queued gone

theorem closing_opens {state : RunState} {opened : RunBus × OpenReply × Option EventStream}
    (custody : Custody state) (closing : Closing state)
    (concluded : ∀ stream ∈ state.streams, stream.phase.live = false)
    (opens : Opens state.bus opened) :
    Closing
      { state with
        bus := opened.1
        streams := state.streams ++ opened.2.2.toList
        opens := state.opens ++ [opened.2.1] } := by
  have old_quiet : ∀ stream ∈ state.streams, stream.phase.pulls = false :=
    fun stream member => pulls_of_over (concluded stream member)
  cases opens with
  | streaming onBus _ =>
      refine ⟨closing.outcomePut, ?_, ?_, ?_⟩
      · apply forall_mem_append_singleton closing.dropped
        intro impossible
        cases impossible
      · rintro (off | ⟨stream, member, dropping⟩)
        · rw [show state.bus.onBus = true from onBus] at off
          cases off
        · rcases List.mem_append.mp member with old | new
          · obtain ⟨entry, taken, terminal⟩ :=
              closing.terminalTaken (.inr ⟨stream, old, dropping⟩)
            refine ⟨entry, ?_, terminal⟩
            rw [List.flatMap_append]
            exact List.mem_append_left _ taken
          · rw [List.mem_singleton.mp new] at dropping
            cases dropping
      · intro off
        rw [show state.bus.onBus = true from onBus] at off
        cases off
  | replay result persisted drained =>
      refine ⟨closing.outcomePut, fun _ _ _ => rfl, ?_, ?_⟩
      · intro _
        have known : ∃ entry ∈ state.streams.flatMap EventStream.taken, entry.terminal = true := by
          rcases drained with off | empty
          · exact closing.terminalTaken (.inl off)
          · obtain ⟨entry, member, terminal⟩ := closing.outcomePut (by rw [persisted]; rfl)
            refine ⟨entry, mem_taken_of_put custody member ?_, terminal⟩
            rw [empty]
            exact List.not_mem_nil
        obtain ⟨entry, member, terminal⟩ := known
        refine ⟨entry, ?_, terminal⟩
        rw [List.flatMap_append]
        exact List.mem_append_left _ member
      · intro _
        exact forall_mem_append_singleton old_quiet rfl
  | missing off pending =>
      simp only [Option.toList_none, List.append_nil]
      exact ⟨closing.outcomePut, closing.dropped, closing.terminalTaken, closing.quiet⟩

theorem moves_pulls {bus : RunBus} {stream : EventStream} {move : StreamMove}
    {moved : RunBus × EventStream} (moves : Moves bus stream move moved)
    (pulls : moved.2.phase.pulls = true) : stream.phase.pulls = true := by
  cases moves with
  | take _ _ _ phase _ => rcases phase with phase | phase <;> rw [phase] <;> rfl
  | wait phase _ | keepAlive phase _ | deliver _ phase | keptAlive phase =>
      rw [phase]
      rfl
  | expire | replay | finish | drop | leave | lose | disconnect => cases pulls

theorem moves_afterDrop {bus : RunBus} {stream : EventStream} {move : StreamMove}
    {moved : RunBus × EventStream} (moves : Moves bus stream move moved)
    (after : moved.2.phase.afterDrop = true) :
    stream.phase.afterDrop = true ∨ moved.1.onBus = false := by
  cases moves with
  | drop => exact .inr rfl
  | replay _ phase | finish _ phase | leave phase =>
      left
      rw [phase]
      exact after
  | deliver entry phase =>
      change (if entry.terminal then StreamPhase.ending true else .polling).afterDrop = true
        at after
      split at after <;> cases after
  | wait | take | expire | keepAlive | keptAlive | lose | disconnect => cases after

theorem moves_dropping {bus : RunBus} {stream : EventStream} {move : StreamMove}
    {moved : RunBus × EventStream} (moves : Moves bus stream move moved)
    (dropping : moved.2.phase.dropping = true) :
    stream.phase.dropping = true ∨ (move = .timeout ∧ bus.result.isSome = true) ∨
      ∃ entry ∈ stream.taken, entry.terminal = true := by
  cases moves with
  | expire _ persisted => exact .inr (.inl ⟨rfl, persisted⟩)
  | finish drops phase =>
      left
      rw [phase]
      exact dropping
  | deliver entry phase =>
      right
      right
      refine ⟨entry, ?_, ?_⟩
      · rw [taken_of_phase phase]
        exact List.mem_append_right _ List.mem_cons_self
      · cases terminal : entry.terminal with
        | true => rfl
        | false =>
            change (if entry.terminal then StreamPhase.ending true else .polling).dropping = true
              at dropping
            rw [terminal] at dropping
            cases dropping
  | wait | take | keepAlive | keptAlive | replay | drop | leave | lose | disconnect =>
      cases dropping

theorem moves_onBus {bus : RunBus} {stream : EventStream} {move : StreamMove}
    {moved : RunBus × EventStream} (moves : Moves bus stream move moved) :
    moved.1.onBus = bus.onBus ∨
      (stream.phase = .ended true ∧ moved.1.onBus = false ∧ moved.2.phase = .finished) := by
  cases moves with
  | drop phase => exact .inr ⟨phase, rfl, rfl⟩
  | _ => exact .inl rfl

theorem Custody.others_over {state : RunState} {before : List EventStream} {last : EventStream}
    (custody : Custody state) (split : state.streams = before ++ [last]) :
    ∀ stream ∈ before, stream.phase.live = false := by
  intro stream member
  obtain ⟨index, bound, same⟩ := List.getElem_of_mem member
  have found : state.streams[index]? = some stream := by
    rw [split, List.getElem?_append_left bound, List.getElem?_eq_getElem bound, same]
  cases live : stream.phase.live with
  | false => rfl
  | true =>
      have latest := custody.alone index stream found live
      rw [split, List.length_append, List.length_singleton] at latest
      omega

theorem taken_kept {state : RunState} {index : Nat} {stream : EventStream}
    {move : StreamMove} {moved : RunBus × EventStream} {entry : PutEvent}
    (found : state.streams[index]? = some stream) (moves : Moves state.bus stream move moved)
    (member : entry ∈ state.streams.flatMap EventStream.taken) :
    entry ∈ (state.streams.set index moved.2).flatMap EventStream.taken := by
  obtain ⟨fresh, grown, _⟩ := taken_moves moves
  obtain ⟨holder, holds, taken⟩ := List.mem_flatMap.mp member
  obtain ⟨place, bound, same⟩ := List.getElem_of_mem holds
  rw [List.mem_flatMap]
  by_cases here : index = place
  · subst here
    rw [List.getElem?_eq_getElem bound, same] at found
    cases found
    refine ⟨moved.2, List.mem_set bound _, ?_⟩
    rw [grown]
    exact List.mem_append_left _ taken
  · refine ⟨holder, ?_, taken⟩
    apply List.mem_of_getElem?
    rw [List.getElem?_set_ne here, List.getElem?_eq_getElem bound, same]

theorem onBus_stays_off {bus : RunBus} {stream : EventStream} {move : StreamMove}
    {moved : RunBus × EventStream} (moves : Moves bus stream move moved)
    (off : bus.onBus = false) : moved.1.onBus = false := by
  rcases moves_onBus moves with same | ⟨_, dropped, _⟩
  · rw [same]
    exact off
  · exact dropped

theorem terminalTaken_moves {state : RunState} {index : Nat} {stream : EventStream}
    {move : StreamMove} {moved : RunBus × EventStream} (custody : Custody state)
    (closing : Closing state) (found : state.streams[index]? = some stream)
    (expiry : move = .timeout → state.bus.result.isSome = true →
      ∃ entry ∈ state.bus.put, entry.terminal = true ∧ entry ∉ state.bus.queue)
    (moves : Moves state.bus stream move moved)
    (reason : moved.1.onBus = false ∨
      ∃ other ∈ state.streams.set index moved.2, other.phase.dropping = true) :
    ∃ entry ∈ state.streams.flatMap EventStream.taken, entry.terminal = true := by
  have here : stream ∈ state.streams := List.mem_of_getElem? found
  rcases reason with off | ⟨other, member, dropping⟩
  · rcases moves_onBus moves with same | ⟨phase, _, _⟩
    · rw [same] at off
      exact closing.terminalTaken (.inl off)
    · exact closing.terminalTaken (.inr ⟨stream, here, by rw [phase]; rfl⟩)
  · rcases List.mem_or_eq_of_mem_set member with old | new
    · exact closing.terminalTaken (.inr ⟨other, old, dropping⟩)
    · rw [new] at dropping
      rcases moves_dropping moves dropping with already | ⟨timeout, persisted⟩ | ⟨entry, taken⟩
      · exact closing.terminalTaken (.inr ⟨stream, here, already⟩)
      · obtain ⟨entry, putBefore, terminal, gone⟩ := expiry timeout persisted
        exact ⟨entry, mem_taken_of_put custody putBefore gone, terminal⟩
      · exact ⟨entry, List.mem_flatMap.mpr ⟨stream, here, taken.1⟩, taken.2⟩

theorem quiet_moves {state : RunState} {index : Nat} {stream : EventStream}
    {move : StreamMove} {moved : RunBus × EventStream} (custody : Custody state)
    (closing : Closing state) (found : state.streams[index]? = some stream)
    (moves : Moves state.bus stream move moved) (off : moved.1.onBus = false) :
    ∀ other ∈ state.streams.set index moved.2, other.phase.pulls = false := by
  rcases moves_onBus moves with same | ⟨_, _, finished⟩
  · rw [same] at off
    apply forall_mem_set (closing.quiet off)
    cases pulls : moved.2.phase.pulls with
    | false => rfl
    | true =>
        have pulled := moves_pulls moves pulls
        rw [closing.quiet off stream (List.mem_of_getElem? found)] at pulled
        cases pulled
  · obtain ⟨before, split, rewritten⟩ :=
      set_last_split found (custody.alone index stream found (moves_live moves))
    rw [rewritten]
    apply forall_mem_append_singleton
    · intro other member
      exact pulls_of_over (custody.others_over split other member)
    · rw [finished]
      rfl

theorem closing_moves {state : RunState} {index : Nat} {stream : EventStream}
    {move : StreamMove} {moved : RunBus × EventStream} (custody : Custody state)
    (closing : Closing state) (found : state.streams[index]? = some stream)
    (expiry : move = .timeout → state.bus.result.isSome = true →
      ∃ entry ∈ state.bus.put, entry.terminal = true ∧ entry ∉ state.bus.queue)
    (moves : Moves state.bus stream move moved) :
    Closing
      { state with
        bus := moved.1
        streams := state.streams.set index moved.2 } := by
  obtain ⟨put, result, _⟩ := moves_bus moves
  refine ⟨?_, ?_, ?_, quiet_moves custody closing found moves⟩
  · change moved.1.result.isSome = true → ∃ entry ∈ moved.1.put, entry.terminal = true
    rw [put, result]
    exact closing.outcomePut
  · change ∀ other ∈ state.streams.set index moved.2,
      other.phase.afterDrop = true → moved.1.onBus = false
    apply forall_mem_set
    · intro other member after
      exact onBus_stays_off moves (closing.dropped other member after)
    · intro after
      rcases moves_afterDrop moves after with already | now
      · exact onBus_stays_off moves
          (closing.dropped stream (List.mem_of_getElem? found) already)
      · exact now
  · intro reason
    obtain ⟨entry, member, terminal⟩ :=
      terminalTaken_moves custody closing found expiry moves reason
    exact ⟨entry, taken_kept found moves member, terminal⟩

theorem closing_runStep {spec : RunSpec} {state next : RunState} {action : RunAction}
    (custody : Custody state) (closing : Closing state) (single : OneSubscriber state action)
    (expiry : TerminalTaken state action) (taken : runStep spec state action = some next) :
    Closing next := by
  cases runStep_cases taken with
  | runner _ bus step => exact closing_busStep closing step
  | opened opened opens => exact closing_opens custody closing single opens
  | stream index move stream moved found moves =>
      refine closing_moves custody closing found ?_ moves
      intro same
      subst same
      exact expiry
  | getRun => exact ⟨closing.outcomePut, closing.dropped, closing.terminalTaken, closing.quiet⟩

theorem closing_accepted : Closing RunState.accepted := by
  refine ⟨fun missing => (by cases missing), fun _ member => absurd member List.not_mem_nil,
    ?_, fun _ _ member => absurd member List.not_mem_nil⟩
  rintro (off | ⟨_, member, _⟩)
  · cases off
  · exact absurd member List.not_mem_nil

/-! ### Order and loss -/

theorem delivered_sublist_taken (streams : List EventStream) :
    (streams.flatMap EventStream.delivered).Sublist (streams.flatMap EventStream.taken) := by
  induction streams with
  | nil => exact List.Sublist.refl _
  | cons stream rest ih =>
      simp only [List.flatMap_cons]
      exact List.Sublist.append (List.sublist_append_left _ _) ih

theorem ordered_of_custody {state : RunState} (custody : Custody state) :
    (deliveredEvents state).Sublist state.bus.put := by
  rw [custody.accounted]
  exact (delivered_sublist_taken state.streams).trans (List.sublist_append_left _ _)

theorem upToTerminal_prefix {first : List PutEvent} (second : List PutEvent)
    (terminal : ∃ entry ∈ first, entry.terminal = true) :
    (upToTerminal (first ++ second)).Sublist first := by
  induction first with
  | nil =>
      obtain ⟨_, member, _⟩ := terminal
      cases member
  | cons head tail ih =>
      rw [List.cons_append]
      unfold upToTerminal
      split
      · exact List.Sublist.cons_cons head (List.nil_sublist tail)
      · next ordinary =>
          obtain ⟨entry, member, ends⟩ := terminal
          have later : ∃ entry ∈ tail, entry.terminal = true := by
            rcases List.mem_cons.mp member with same | inTail
            · rw [same] at ends
              exact absurd ends ordinary
            · exact ⟨entry, inTail, ends⟩
          exact List.Sublist.cons_cons head (ih later)

theorem undelivered_le_lost {delivered : List PutEvent} {streams : List EventStream}
    (known : ∀ stream ∈ streams, ∀ entry ∈ stream.delivered, entry ∈ delivered)
    (quiet : ∀ stream ∈ streams, stream.phase.pulls = false) :
    ((streams.flatMap EventStream.taken).filter
      (fun entry => decide (entry ∉ delivered))).length ≤ streams.countP EventStream.lost := by
  induction streams with
  | nil => exact Nat.le_refl _
  | cons stream rest ih =>
      have later := ih (fun other member => known other (List.mem_cons_of_mem _ member))
        (fun other member => quiet other (List.mem_cons_of_mem _ member))
      have none_delivered :
          stream.delivered.filter (fun entry => decide (entry ∉ delivered)) = [] := by
        rw [List.filter_eq_nil_iff]
        intro entry member
        simp [known stream List.mem_cons_self entry member]
      have held : stream.phase.held.length ≤ if stream.lost then 1 else 0 := by
        have calm := quiet stream List.mem_cons_self
        unfold EventStream.lost
        cases phase : stream.phase with
        | sending entry =>
            rw [phase] at calm
            cases calm
        | disconnected kept => cases kept <;> exact Nat.le_refl _
        | _ => exact Nat.le_refl _
      have bounded := List.length_filter_le (fun entry => decide (entry ∉ delivered))
        stream.phase.held
      simp only [List.flatMap_cons, EventStream.taken, List.filter_append, none_delivered,
        List.nil_append, List.length_append, List.countP_cons]
      change _ + ((rest.flatMap EventStream.taken).filter _).length ≤ _
      omega

theorem loss_bound {state : RunState} (custody : Custody state) (closing : Closing state)
    (concluded : ∃ stream ∈ state.streams, stream.phase = .finished) :
    (missingEvents state).length ≤ disconnectsInHand state := by
  obtain ⟨finished, member, phase⟩ := concluded
  have off : state.bus.onBus = false :=
    closing.dropped finished member (by rw [phase]; rfl)
  have within : (upToTerminal state.bus.put).Sublist
      (state.streams.flatMap EventStream.taken) := by
    rw [custody.accounted]
    exact upToTerminal_prefix state.bus.queue (closing.terminalTaken (.inl off))
  calc (missingEvents state).length
      ≤ ((state.streams.flatMap EventStream.taken).filter
          (fun entry => decide (entry ∉ deliveredEvents state))).length :=
        (within.filter _).length_le
    _ ≤ disconnectsInHand state := by
        apply undelivered_le_lost _ (closing.quiet off)
        intro stream here entry sent
        exact List.mem_flatMap.mpr ⟨stream, here, sent⟩

/-- The order needs one subscriber and nothing else. -/
theorem delivered_in_order_once (spec : RunSpec) {schedule : List RunAction} {state : RunState}
    (single : StepsMeet (runStep spec) OneSubscriber RunState.accepted schedule)
    (ran : runFrom (runStep spec) RunState.accepted schedule = some state) :
    (deliveredEvents state).Sublist state.bus.put ∧ (deliveredEvents state).Nodup := by
  have custody := runFrom_conditional_invariant
    (fun _ _ _ known allowed taken => custody_runStep known allowed taken)
    custody_accepted single ran
  have ordered := ordered_of_custody custody
  exact ⟨ordered, ordered.nodup custody.put_nodup⟩

/-- A wait expires before the run starts. The stream is disconnected with the terminal event
in hand; the next one delivers a webhook event and finishes when its wait expires. -/
def oneLoss : List RunAction :=
  .openStream :: [.stream 0 (.polled false), .stream 0 .timeout, .stream 0 .sent] ++ shortRunner ++
    turn 0 ++ [.stream 0 (.polled false), .stream 0 .disconnect,
      .runner (.webhook "2026-01-01T00:00:02Z" { type := .contextPublished }), .openStream] ++
    turn 1 ++ [.stream 1 (.polled false), .stream 1 .timeout, .stream 1 .sent, .stream 1 .resumed]

/-- The scenario ends in the turn of the loop in which the wait of the stream expires:
the terminal event is in the queue when the expiry is handled, and is dropped with it. -/
def expiryOverTerminal : List RunAction :=
  .openStream :: .runner (.start "2026-01-01T00:00:00Z") :: turn 0 ++
    [.runner .startNotified, .stream 0 (.polled false),
      .runner (.close "300" "2026-01-01T00:00:15Z" [] (.returned shortResult)),
      .stream 0 .timeout, .stream 0 .sent, .stream 0 .resumed]

end AcdpPlayground.Runs

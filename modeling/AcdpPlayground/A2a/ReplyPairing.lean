/-
Which reply a call gets. The pairing is by position, so it rests on one thing: between
two calls nothing is left in the two pipes. A call that leaves after it wrote, a reply
that does not fit the reader and a field named `id` break this; without them every call
gets the reply to its own line, and as long as one has not ended some step is possible.
-/

import AcdpPlayground.A2a.Sidecar
import Mathlib.Data.List.Nodup

namespace AcdpPlayground.A2a

open PythonText JsonValue TaskTable TransitionRun

/-! ### Phases of the calls -/

def SidecarState.phaseAt (state : SidecarState) (index : Nat) : Option SidecarPhase :=
  state.calls[index]?.map SidecarCall.phase

/-- The number of the request a call has written and not read the reply to. -/
def SidecarPhase.pending : SidecarPhase → Option Nat
  | .draining reqId | .reading reqId => some reqId
  | _ => none

def SidecarPhase.isOver : SidecarPhase → Bool
  | .ended _ | .cancelled => true
  | _ => false

namespace SidecarState

theorem phaseAt_of_found {state : SidecarState} {index : Nat} {call : SidecarCall}
    (found : state.calls[index]? = some call) : state.phaseAt index = some call.phase := by
  rw [phaseAt, found]
  rfl

theorem found_of_phaseAt {state : SidecarState} {index : Nat} {phase : SidecarPhase}
    (present : state.phaseAt index = some phase) :
    ∃ call, state.calls[index]? = some call ∧ call.phase = phase :=
  Option.map_eq_some_iff.mp present

theorem setPhase_phaseAt {state : SidecarState} {index : Nat} {call : SidecarCall}
    (found : state.calls[index]? = some call) (phase : SidecarPhase) (other : Nat) :
    (state.setPhase index call phase).phaseAt other =
      if other = index then some phase else state.phaseAt other := by
  by_cases same : other = index
  · subst other
    have inside := (List.getElem?_eq_some_iff.mp found).1
    rw [if_pos rfl, phaseAt, setPhase, List.getElem?_set_self inside]
    rfl
  · rw [if_neg same, phaseAt, setPhase, List.getElem?_set_ne (Ne.symm same), phaseAt]

theorem arrive_found (state : SidecarState) (request : Request) :
    (state.arrive request).calls[state.calls.length]? =
      some { request := request, phase := .waiting } :=
  List.getElem?_concat_length

theorem arrive_phaseAt (state : SidecarState) (request : Request) (other : Nat) :
    (state.arrive request).phaseAt other =
      if other = state.calls.length then some .waiting else state.phaseAt other := by
  by_cases same : other = state.calls.length
  · subst other
    rw [if_pos rfl, phaseAt_of_found (state.arrive_found request)]
  · rw [if_neg same, phaseAt, phaseAt, arrive]
    rcases Nat.lt_or_gt_of_ne same with before | after
    · rw [List.getElem?_append_left before]
    · rw [List.getElem?_eq_none (by rw [List.length_append]; exact after),
        List.getElem?_eq_none (Nat.le_of_lt after)]

/-- Where a step moves one call, a phase afterwards is the new one or was there before. -/
theorem phaseAt_of_moved {state next : SidecarState} {index other : Nat}
    {phase found : SidecarPhase}
    (phases : ∀ other, next.phaseAt other =
      if other = index then some phase else state.phaseAt other)
    (present : next.phaseAt other = some found) :
    (other = index ∧ found = phase) ∨ (other ≠ index ∧ state.phaseAt other = some found) := by
  rw [phases] at present
  by_cases same : other = index
  · rw [if_pos same] at present
    exact .inl ⟨same, (Option.some.inj present).symm⟩
  · rw [if_neg same] at present
    exact .inr ⟨same, present⟩

theorem phaseAt_length (state : SidecarState) : state.phaseAt state.calls.length = none := by
  rw [phaseAt, List.getElem?_eq_none (Nat.le_refl _)]
  rfl

end SidecarState

/-! ### Steps that keep the streams in order -/

/-- The line can be built, and its `id` is the number the call took. -/
def Sendable (platform : SidecarPlatform) (reqId : Nat) (request : Request) : Prop :=
  platform.encodes request = true ∧
    equalsNumber platform reqId (((request.body reqId).get? "id").getD .null) = true

/-- No caller leaves once its line is written, no reply is longer than the limit of the
reader, and what is written is sendable. -/
def Undisturbed (platform : SidecarPlatform) (state : SidecarState) : SidecarAction → Prop
  | .call request =>
      state.lock.holder = none ∧ state.lock.waiters = [] →
        Sendable platform state.nextId request
  | .granted =>
      ∀ index ∈ state.lock.waiters.head?, ∀ call ∈ state.calls[index]?,
        Sendable platform state.nextId call.request
  | .handled result =>
      ∀ line ∈ state.stdin.head?, (platform.answer line result).size ≤ readLimit
  | .cancel index => ∀ call ∈ state.calls[index]?, call.phase.pending = none
  | .drained _ | .readline _ _ => True

instance decidableSendable (platform : SidecarPlatform) (reqId : Nat) (request : Request) :
    Decidable (Sendable platform reqId request) :=
  inferInstanceAs (Decidable (_ ∧ _))

instance decidableUndisturbed (platform : SidecarPlatform) (state : SidecarState) :
    ∀ action, Decidable (Undisturbed platform state action)
  | .call request =>
      inferInstanceAs (Decidable (state.lock.holder = none ∧ state.lock.waiters = [] →
        Sendable platform state.nextId request))
  | .granted =>
      inferInstanceAs (Decidable (∀ index ∈ state.lock.waiters.head?,
        ∀ call ∈ state.calls[index]?, Sendable platform state.nextId call.request))
  | .handled result =>
      inferInstanceAs (Decidable (∀ line ∈ state.stdin.head?,
        (platform.answer line result).size ≤ readLimit))
  | .cancel index =>
      inferInstanceAs (Decidable (∀ call ∈ state.calls[index]?, call.phase.pending = none))
  | .drained _ => .isTrue trivial
  | .readline _ _ => .isTrue trivial

def CallOutcome.own : Handled → CallOutcome
  | .ok result => .returned result
  | .error error => .failed (.string error)

theorem ofReply_own {platform : SidecarPlatform} {reqId : Nat} {body : Json}
    (kept : equalsNumber platform reqId ((body.get? "id").getD .null) = true)
    (result : Handled) :
    CallOutcome.ofReply platform reqId (replyTo body result) = CallOutcome.own result := by
  cases result with
  | ok result =>
      change (if !equalsNumber platform reqId ((body.get? "id").getD .null) then _ else _) = _
      rw [kept]
      rfl
  | error error =>
      change (if !equalsNumber platform reqId ((body.get? "id").getD .null) then _ else _) = _
      rw [kept]
      rfl

/-! ### What each step does -/

theorem granted_eq_some {platform : SidecarPlatform} {state next : SidecarState}
    (taken : sidecarStep platform state .granted = some next) :
    ∃ index rest call, state.lock.holder = none ∧ state.lock.waiters = index :: rest ∧
      state.calls[index]? = some call ∧ next = state.write platform index call rest := by
  simp only [sidecarStep] at taken
  split at taken
  · next index rest free waiters =>
      split at taken
      · next call found =>
          cases taken
          exact ⟨index, rest, call, free, waiters, found, rfl⟩
      · cases taken
  · cases taken

theorem drained_eq_some {platform : SidecarPlatform} {state next : SidecarState} {index : Nat}
    (taken : sidecarStep platform state (.drained index) = some next) :
    ∃ call reqId, state.calls[index]? = some call ∧ call.phase = .draining reqId ∧
      next = state.setPhase index call (.reading reqId) := by
  simp only [sidecarStep] at taken
  split at taken
  · next call found =>
      split at taken
      · next reqId draining =>
          cases taken
          exact ⟨call, reqId, found, draining, rfl⟩
      · cases taken
  · cases taken

theorem handled_eq_some {platform : SidecarPlatform} {state next : SidecarState}
    {result : Handled} (taken : sidecarStep platform state (.handled result) = some next) :
    ∃ line later, state.stdin = line :: later ∧
      next = { state with
        stdin := later
        stdout := state.stdout ++ [platform.answer line result]
        handled := state.handled ++ [(line.call, result)] } := by
  simp only [sidecarStep] at taken
  split at taken
  · next line later stdin =>
      cases taken
      exact ⟨line, later, stdin, rfl⟩
  · cases taken

theorem readline_eq_some {platform : SidecarPlatform} {state next : SidecarState} {index : Nat}
    {arrived : Option Nat}
    (taken : sidecarStep platform state (.readline index arrived) = some next) :
    ∃ call reqId item later, state.calls[index]? = some call ∧ call.phase = .reading reqId ∧
      state.stdout = item :: later ∧
      next = state.readline platform index call reqId item later arrived := by
  simp only [sidecarStep] at taken
  split at taken
  · next call item later found stdout =>
      split at taken
      · next reqId reading =>
          split at taken
          · cases taken
            exact ⟨call, reqId, item, later, found, reading, stdout, rfl⟩
          · cases taken
      · cases taken
  · cases taken

theorem cancel_eq_some {platform : SidecarPlatform} {state next : SidecarState} {index : Nat}
    (taken : sidecarStep platform state (.cancel index) = some next) :
    ∃ call, state.calls[index]? = some call ∧
      ((call.phase = .waiting ∧
        next = { state.setPhase index call .cancelled with lock := state.lock.forget index }) ∨
      (∃ reqId, call.phase.pending = some reqId ∧
        next = { state.setPhase index call .cancelled with lock := state.lock.release })) := by
  simp only [sidecarStep] at taken
  split at taken
  · next call found =>
      refine ⟨call, found, ?_⟩
      unfold SidecarState.cancel at taken
      split at taken
      · next waiting =>
          cases taken
          exact .inl ⟨waiting, rfl⟩
      · next reqId draining =>
          cases taken
          exact .inr ⟨reqId, by rw [draining]; rfl, rfl⟩
      · next reqId reading =>
          cases taken
          exact .inr ⟨reqId, by rw [reading]; rfl, rfl⟩
      · cases taken
      · cases taken
  · cases taken

/-! ### The invariant -/

/-- The call that holds the lock is the one whose request is under way. -/
structure Flight (platform : SidecarPlatform) (state : SidecarState) (line : RequestLine)
    (reqId : Nat) : Prop where
  held : state.lock.holder = some line.call
  kept : equalsNumber platform reqId ((line.body.get? "id").getD .null) = true
  flying : ∃ phase, state.phaseAt line.call = some phase ∧ phase.pending = some reqId
  quiet : ∀ other phase, other ≠ line.call → state.phaseAt other = some phase →
    phase.pending = none

/-- What stands in the two pipes: nothing, or the line or reply of that call. -/
inductive Pipes (platform : SidecarPlatform) (state : SidecarState) : Prop
  | idle (free : state.lock.holder = none) (stdin : state.stdin = []) (stdout : state.stdout = [])
      (quiet : ∀ index phase, state.phaseAt index = some phase → phase.pending = none)
  | asked (line : RequestLine) (reqId : Nat) (flight : Flight platform state line reqId)
      (stdin : state.stdin = [line]) (stdout : state.stdout = [])
  | answered (line : RequestLine) (reqId : Nat) (result : Handled)
      (flight : Flight platform state line reqId) (stdin : state.stdin = [])
      (stdout : state.stdout = [platform.answer line result])
      (fits : (platform.answer line result).size ≤ readLimit)
      (known : (line.call, result) ∈ state.handled)

structure Orderly (platform : SidecarPlatform) (state : SidecarState) : Prop where
  queue : ∀ index, index ∈ state.lock.waiters ↔ state.phaseAt index = some .waiting
  distinct : state.lock.waiters.Nodup
  pipes : Pipes platform state
  own : ∀ index outcome, state.phaseAt index = some (.ended outcome) →
    ∃ result, (index, result) ∈ state.handled ∧ outcome = CallOutcome.own result

theorem orderly_initial (platform : SidecarPlatform) : Orderly platform .initial where
  queue := by
    intro index
    refine iff_of_false (by rintro ⟨⟩) ?_
    intro present
    cases present
  distinct := List.nodup_nil
  pipes := .idle rfl rfl rfl (by rintro _ _ ⟨⟩)
  own := by rintro _ _ ⟨⟩

/-- A call with the lock writes into empty pipes. -/
theorem write_orderly {platform : SidecarPlatform} {state : SidecarState} {index : Nat}
    {call : SidecarCall} {waiters : List Nat} (found : state.calls[index]? = some call)
    (sendable : Sendable platform state.nextId call.request)
    (stdin : state.stdin = []) (stdout : state.stdout = [])
    (quiet : ∀ other phase, state.phaseAt other = some phase → phase.pending = none)
    (queue : ∀ other, other ∈ waiters ↔ other ≠ index ∧ state.phaseAt other = some .waiting)
    (distinct : waiters.Nodup)
    (own : ∀ other outcome, state.phaseAt other = some (.ended outcome) →
      ∃ result, (other, result) ∈ state.handled ∧ outcome = CallOutcome.own result) :
    Orderly platform (state.write platform index call waiters) := by
  have phases : ∀ other, (state.write platform index call waiters).phaseAt other =
      if other = index then some (.draining state.nextId) else state.phaseAt other := by
    intro other
    rw [← SidecarState.setPhase_phaseAt found, SidecarState.write, if_pos sendable.1]
    rfl
  have pipes : Pipes platform (state.write platform index call waiters) := by
    refine .asked ⟨index, call.request.body state.nextId⟩ state.nextId ⟨?_, ?_, ?_, ?_⟩ ?_ ?_
    · rw [SidecarState.write, if_pos sendable.1]
    · exact sendable.2
    · exact ⟨.draining state.nextId, by rw [phases, if_pos rfl], rfl⟩
    · intro other phase different present
      rw [phases, if_neg different] at present
      exact quiet other phase present
    · rw [SidecarState.write, if_pos sendable.1]
      change state.stdin ++ _ = _
      rw [stdin]
      rfl
    · rw [SidecarState.write, if_pos sendable.1]
      exact stdout
  have lock : (state.write platform index call waiters).lock =
      { holder := some index, waiters := waiters } := by
    rw [SidecarState.write, if_pos sendable.1]
  have handled : (state.write platform index call waiters).handled = state.handled := by
    rw [SidecarState.write, if_pos sendable.1]
    rfl
  refine ⟨?_, ?_, pipes, ?_⟩
  · intro other
    rw [lock, phases]
    by_cases same : other = index
    · rw [if_pos same]
      refine iff_of_false (fun member => ((queue other).mp member).1 same) (by rintro ⟨⟩)
    · rw [if_neg same]
      exact (queue other).trans (and_iff_right same)
  · rw [lock]
    exact distinct
  · intro other outcome present
    rw [handled]
    rcases SidecarState.phaseAt_of_moved phases present with ⟨_, ⟨⟩⟩ | ⟨_, earlier⟩
    exact own other outcome earlier

theorem Orderly.quiet_of_free {platform : SidecarPlatform} {state : SidecarState}
    (orderly : Orderly platform state) (free : state.lock.holder = none) :
    state.stdin = [] ∧ state.stdout = [] ∧
      ∀ index phase, state.phaseAt index = some phase → phase.pending = none := by
  cases orderly.pipes with
  | idle _ stdin stdout quiet => exact ⟨stdin, stdout, quiet⟩
  | asked line reqId flight _ _ =>
      rw [flight.held] at free
      cases free
  | answered line reqId result flight _ _ _ _ =>
      rw [flight.held] at free
      cases free

theorem Pipes.of_quiet {platform : SidecarPlatform} {state next : SidecarState} {index : Nat}
    {phase : SidecarPhase} (pipes : Pipes platform state)
    (holder : next.lock.holder = state.lock.holder) (stdin : next.stdin = state.stdin)
    (stdout : next.stdout = state.stdout) (handled : next.handled = state.handled)
    (phases : ∀ other, next.phaseAt other =
      if other = index then some phase else state.phaseAt other)
    (idle : phase.pending = none)
    (before : ∀ old, state.phaseAt index = some old → old.pending = none) :
    Pipes platform next := by
  have carried : ∀ {line reqId}, Flight platform state line reqId →
      Flight platform next line reqId := by
    intro line reqId flight
    obtain ⟨flown, present, pending⟩ := flight.flying
    have elsewhere : line.call ≠ index := by
      intro same
      rw [same] at present
      rw [before flown present] at pending
      cases pending
    refine ⟨by rw [holder, flight.held], flight.kept, ⟨flown, ?_, pending⟩, ?_⟩
    · rw [phases, if_neg elsewhere]
      exact present
    · intro other old different found
      rcases SidecarState.phaseAt_of_moved phases found with ⟨_, rfl⟩ | ⟨_, earlier⟩
      · exact idle
      · exact flight.quiet other old different earlier
  cases pipes with
  | idle free noIn noOut quiet =>
      refine .idle (by rw [holder, free]) (by rw [stdin, noIn]) (by rw [stdout, noOut]) ?_
      intro other old found
      rcases SidecarState.phaseAt_of_moved phases found with ⟨_, rfl⟩ | ⟨_, earlier⟩
      · exact idle
      · exact quiet other old earlier
  | asked line reqId flight isIn noOut =>
      exact .asked line reqId (carried flight) (by rw [stdin, isIn]) (by rw [stdout, noOut])
  | answered line reqId result flight noIn isOut fits known =>
      exact .answered line reqId result (carried flight) (by rw [stdin, noIn])
        (by rw [stdout, isOut]) fits (by rw [handled]; exact known)

theorem enter_orderly {platform : SidecarPlatform} {state : SidecarState} {request : Request}
    (orderly : Orderly platform state) (undisturbed : Undisturbed platform state (.call request)) :
    Orderly platform (state.enter platform request) := by
  have phases := state.arrive_phaseAt request
  have absent := state.phaseAt_length
  have fresh : ∀ other phase, state.phaseAt other = some phase → other ≠ state.calls.length := by
    intro other phase present same
    rw [same, absent] at present
    cases present
  unfold SidecarState.enter
  by_cases free : state.lock.holder = none ∧ state.lock.waiters = []
  · rw [if_pos free]
    obtain ⟨stdin, stdout, quiet⟩ := orderly.quiet_of_free free.1
    refine write_orderly (state.arrive_found request) (undisturbed free) stdin stdout ?_ ?_
      List.nodup_nil ?_
    · intro other phase present
      rcases SidecarState.phaseAt_of_moved phases present with ⟨_, rfl⟩ | ⟨_, earlier⟩
      · rfl
      · exact quiet other phase earlier
    · intro other
      refine iff_of_false (by rintro ⟨⟩) ?_
      rintro ⟨different, present⟩
      rw [phases, if_neg different, ← orderly.queue, free.2] at present
      cases present
    · intro other outcome present
      rcases SidecarState.phaseAt_of_moved phases present with ⟨_, ⟨⟩⟩ | ⟨_, earlier⟩
      exact orderly.own other outcome earlier
  · rw [if_neg free]
    refine ⟨?_, ?_, ?_, ?_⟩
    · intro other
      refine Iff.trans ?_ (iff_of_eq (congrArg (· = _) (phases other).symm))
      rw [List.mem_append, List.mem_singleton, orderly.queue]
      by_cases same : other = state.calls.length
      · rw [if_pos same]
        exact iff_of_true (.inr same) rfl
      · rw [if_neg same]
        exact or_iff_left same
    · refine List.nodup_append.mpr ⟨orderly.distinct, List.nodup_singleton _, ?_⟩
      intro other member last same
      rw [List.mem_singleton] at same
      exact fun equal => fresh other _ ((orderly.queue other).mp member) (equal.trans same)
    · refine orderly.pipes.of_quiet rfl rfl rfl rfl phases rfl ?_
      intro old present
      rw [absent] at present
      cases present
    · intro other outcome present
      rcases SidecarState.phaseAt_of_moved phases present with ⟨_, ⟨⟩⟩ | ⟨_, earlier⟩
      exact orderly.own other outcome earlier

theorem granted_orderly {platform : SidecarPlatform} {state next : SidecarState}
    (orderly : Orderly platform state) (undisturbed : Undisturbed platform state .granted)
    (taken : sidecarStep platform state .granted = some next) : Orderly platform next := by
  obtain ⟨index, rest, call, free, waiters, found, rfl⟩ := granted_eq_some taken
  obtain ⟨stdin, stdout, quiet⟩ := orderly.quiet_of_free free
  have distinct := orderly.distinct
  rw [waiters, List.nodup_cons] at distinct
  have sendable : Sendable platform state.nextId call.request :=
    undisturbed index (by rw [waiters]; rfl) call found
  refine write_orderly found sendable stdin stdout quiet ?_ distinct.2 orderly.own
  intro other
  rw [← orderly.queue, waiters, List.mem_cons]
  constructor
  · intro member
    exact ⟨fun same => distinct.1 (same ▸ member), .inr member⟩
  · rintro ⟨different, same | member⟩
    · exact absurd same different
    · exact member

/-- The call under way is the only one that can be draining or reading. -/
theorem Orderly.flight_of_pending {platform : SidecarPlatform} {state : SidecarState}
    (orderly : Orderly platform state) {index reqId : Nat} {phase : SidecarPhase}
    (present : state.phaseAt index = some phase) (pending : phase.pending = some reqId) :
    (∃ line, line.call = index ∧ Flight platform state line reqId ∧ state.stdin = [line] ∧
      state.stdout = []) ∨
    (∃ line result, line.call = index ∧ Flight platform state line reqId ∧ state.stdin = [] ∧
      state.stdout = [platform.answer line result] ∧
      (platform.answer line result).size ≤ readLimit ∧ (index, result) ∈ state.handled) := by
  have ours : ∀ {line number}, Flight platform state line number →
      line.call = index ∧ number = reqId := by
    intro line number flight
    have same : line.call = index := by
      by_contra different
      rw [flight.quiet index phase (Ne.symm different) present] at pending
      cases pending
    obtain ⟨flown, found, isPending⟩ := flight.flying
    rw [same, present] at found
    cases found
    rw [pending] at isPending
    exact ⟨same, (Option.some.inj isPending).symm⟩
  cases orderly.pipes with
  | idle _ _ _ quiet =>
      rw [quiet index phase present] at pending
      cases pending
  | asked line number flight stdin stdout =>
      obtain ⟨same, rfl⟩ := ours flight
      exact .inl ⟨line, same, flight, stdin, stdout⟩
  | answered line number result flight stdin stdout fits known =>
      obtain ⟨same, rfl⟩ := ours flight
      exact .inr ⟨line, result, same, flight, stdin, stdout, fits, same ▸ known⟩

theorem drained_orderly {platform : SidecarPlatform} {state next : SidecarState} {index : Nat}
    (orderly : Orderly platform state)
    (taken : sidecarStep platform state (.drained index) = some next) :
    Orderly platform next := by
  obtain ⟨call, reqId, found, draining, rfl⟩ := drained_eq_some taken
  have present := SidecarState.phaseAt_of_found found
  rw [draining] at present
  have phases := SidecarState.setPhase_phaseAt found (.reading reqId)
  have carried : ∀ {line}, line.call = index → Flight platform state line reqId →
      Flight platform (state.setPhase index call (.reading reqId)) line reqId := by
    intro line same flight
    refine ⟨flight.held, flight.kept, ⟨.reading reqId, ?_, rfl⟩, ?_⟩
    · rw [phases, if_pos same]
    · intro other phase different there
      rw [phases, if_neg (same ▸ different)] at there
      exact flight.quiet other phase different there
  refine ⟨?_, orderly.distinct, ?_, ?_⟩
  · intro other
    rw [phases]
    refine (orderly.queue other).trans ?_
    by_cases same : other = index
    · rw [if_pos same, same, present]
      exact iff_of_false (by rintro ⟨⟩) (by rintro ⟨⟩)
    · rw [if_neg same]
  · rcases orderly.flight_of_pending present rfl with
      ⟨line, same, flight, stdin, stdout⟩ |
        ⟨line, result, same, flight, stdin, stdout, fits, known⟩
    · exact .asked line reqId (carried same flight) stdin stdout
    · exact .answered line reqId result (carried same flight) stdin stdout fits (same ▸ known)
  · intro other outcome there
    rcases SidecarState.phaseAt_of_moved phases there with ⟨_, ⟨⟩⟩ | ⟨_, earlier⟩
    exact orderly.own other outcome earlier

theorem handled_orderly {platform : SidecarPlatform} {state next : SidecarState}
    {result : Handled} (orderly : Orderly platform state)
    (undisturbed : Undisturbed platform state (.handled result))
    (taken : sidecarStep platform state (.handled result) = some next) :
    Orderly platform next := by
  obtain ⟨line, later, stdin, rfl⟩ := handled_eq_some taken
  refine ⟨orderly.queue, orderly.distinct, ?_, ?_⟩
  · cases orderly.pipes with
    | idle _ noIn _ _ =>
        rw [noIn] at stdin
        cases stdin
    | answered _ _ _ _ noIn _ _ _ =>
        rw [noIn] at stdin
        cases stdin
    | asked own reqId flight isIn noOut =>
        have fits := undisturbed own (by rw [isIn]; rfl)
        rw [isIn] at stdin
        cases stdin
        refine .answered line reqId result ?_ rfl ?_ fits ?_
        · exact ⟨flight.held, flight.kept, flight.flying, flight.quiet⟩
        · change state.stdout ++ _ = _
          rw [noOut]
          rfl
        · exact List.mem_append_right _ (List.mem_singleton_self _)
  · intro index outcome present
    obtain ⟨own, known, same⟩ := orderly.own index outcome present
    exact ⟨own, List.mem_append_left _ known, same⟩

/-- The reader finds the reply to its own line, and leaves both pipes empty. -/
theorem readline_orderly {platform : SidecarPlatform} {state next : SidecarState} {index : Nat}
    {arrived : Option Nat} (orderly : Orderly platform state)
    (taken : sidecarStep platform state (.readline index arrived) = some next) :
    Orderly platform next := by
  obtain ⟨call, reqId, item, later, found, reading, stdout, rfl⟩ := readline_eq_some taken
  have present := SidecarState.phaseAt_of_found found
  rw [reading] at present
  rcases orderly.flight_of_pending present rfl with
    ⟨line, same, flight, stdin, noOut⟩ |
      ⟨line, result, same, flight, stdin, isOut, fits, known⟩
  · rw [noOut] at stdout
    cases stdout
  · rw [isOut] at stdout
    cases stdout
    have outcome : state.readline platform index call reqId (platform.answer line result) []
          arrived =
        { ({ state with lock := state.lock.release } : SidecarState).setPhase index call
            (.ended (CallOutcome.own result)) with stdout := [] } := by
      simp only [SidecarState.readline, if_pos fits]
      change { SidecarState.setPhase _ index call (.ended (CallOutcome.ofReply platform reqId
        (replyTo line.body result))) with stdout := [] } = _
      rw [ofReply_own flight.kept]
    have phases : ∀ other, (state.readline platform index call reqId
        (platform.answer line result) [] arrived).phaseAt other =
          if other = index then some (.ended (CallOutcome.own result))
          else state.phaseAt other := by
      intro other
      rw [outcome]
      exact SidecarState.setPhase_phaseAt found _ other
    rw [outcome] at phases ⊢
    refine ⟨?_, orderly.distinct, ?_, ?_⟩
    · intro other
      rw [phases]
      refine (orderly.queue other).trans ?_
      by_cases here : other = index
      · rw [if_pos here, here, present]
        exact iff_of_false (by rintro ⟨⟩) (by rintro ⟨⟩)
      · rw [if_neg here]
    · refine .idle rfl stdin rfl ?_
      intro other phase there
      rcases SidecarState.phaseAt_of_moved phases there with ⟨_, rfl⟩ | ⟨different, earlier⟩
      · rfl
      · exact flight.quiet other phase (same ▸ different) earlier
    · intro other ended there
      rcases SidecarState.phaseAt_of_moved phases there with ⟨here, ⟨⟩⟩ | ⟨_, earlier⟩
      · exact ⟨result, here ▸ known, rfl⟩
      · exact orderly.own other ended earlier

theorem cancel_orderly {platform : SidecarPlatform} {state next : SidecarState} {index : Nat}
    (orderly : Orderly platform state) (undisturbed : Undisturbed platform state (.cancel index))
    (taken : sidecarStep platform state (.cancel index) = some next) :
    Orderly platform next := by
  obtain ⟨call, found, cancelled⟩ := cancel_eq_some taken
  have quiet := undisturbed call found
  have present := SidecarState.phaseAt_of_found found
  rcases cancelled with ⟨waiting, rfl⟩ | ⟨reqId, pending, _⟩
  · rw [waiting] at present
    have phases := SidecarState.setPhase_phaseAt found .cancelled
    refine ⟨?_, orderly.distinct.erase index, ?_, ?_⟩
    · intro other
      refine Iff.trans ?_ (iff_of_eq (congrArg (· = _) (phases other).symm))
      change other ∈ state.lock.waiters.erase index ↔ _
      rw [orderly.distinct.mem_erase_iff, orderly.queue]
      by_cases same : other = index
      · rw [if_pos same]
        exact iff_of_false (fun both => both.1 same) (by rintro ⟨⟩)
      · rw [if_neg same]
        exact and_iff_right same
    · refine orderly.pipes.of_quiet rfl rfl rfl rfl phases rfl ?_
      intro old there
      rw [present] at there
      cases there
      rfl
    · intro other outcome there
      rcases SidecarState.phaseAt_of_moved phases there with ⟨_, ⟨⟩⟩ | ⟨_, earlier⟩
      exact orderly.own other outcome earlier
  · rw [pending] at quiet
    cases quiet

theorem sidecarStep_orderly {platform : SidecarPlatform} {state next : SidecarState}
    {action : SidecarAction} (orderly : Orderly platform state)
    (undisturbed : Undisturbed platform state action)
    (taken : sidecarStep platform state action = some next) : Orderly platform next := by
  cases action with
  | call request =>
      cases taken
      exact enter_orderly orderly undisturbed
  | granted => exact granted_orderly orderly undisturbed taken
  | drained index => exact drained_orderly orderly taken
  | handled result => exact handled_orderly orderly undisturbed taken
  | readline index arrived => exact readline_orderly orderly taken
  | cancel index => exact cancel_orderly orderly undisturbed taken

/-! ### Progress -/

/-- Steps of the event loop and of the process, as against those of the callers. -/
def SidecarAction.isInner : SidecarAction → Bool
  | .call _ | .cancel _ => false
  | _ => true

/-- The inner steps a call still needs, the handling of its line apart. -/
def SidecarPhase.weight : SidecarPhase → Nat
  | .waiting => 4
  | .draining _ => 2
  | .reading _ => 1
  | .ended _ | .cancelled => 0

def SidecarState.work (state : SidecarState) : Nat :=
  (state.calls.map (fun call => call.phase.weight)).sum + state.stdin.length

theorem setPhase_work {state next : SidecarState} {index : Nat} {call : SidecarCall}
    (found : state.calls[index]? = some call) (phase : SidecarPhase)
    (calls : next.calls = (state.setPhase index call phase).calls) :
    next.work + call.phase.weight + state.stdin.length =
        state.work + phase.weight + next.stdin.length ∧
      next.calls.length = state.calls.length := by
  have balance := sum_map_set_balance (fun call : SidecarCall => call.phase.weight)
    { call with phase := phase } found
  change _ + call.phase.weight = _ + phase.weight at balance
  rw [SidecarState.work, SidecarState.work, calls]
  refine ⟨?_, List.length_set⟩
  change ((state.calls.set index _).map _).sum + _ + _ + _ = _
  omega

theorem write_phase (platform : SidecarPlatform) (state : SidecarState) (index : Nat)
    (call : SidecarCall) (waiters : List Nat) :
    ∃ phase : SidecarPhase,
      (state.write platform index call waiters).calls = (state.setPhase index call phase).calls ∧
      (state.write platform index call waiters).stdin.length + phase.weight ≤
        state.stdin.length + 3 := by
  unfold SidecarState.write
  split
  · refine ⟨.draining state.nextId, rfl, ?_⟩
    change (state.stdin ++ [_]).length + 2 ≤ _
    rw [List.length_append, List.length_singleton]
  · refine ⟨.ended .unencodable, rfl, ?_⟩
    change state.stdin.length + 0 ≤ _
    omega

theorem write_work (platform : SidecarPlatform) {state : SidecarState} {index : Nat}
    {call : SidecarCall} (waiters : List Nat) (found : state.calls[index]? = some call)
    (waiting : call.phase = .waiting) :
    (state.write platform index call waiters).work + 1 ≤ state.work ∧
      (state.write platform index call waiters).calls.length = state.calls.length := by
  obtain ⟨phase, calls, lines⟩ := write_phase platform state index call waiters
  obtain ⟨balance, length⟩ := setPhase_work found phase calls
  refine ⟨?_, length⟩
  rw [waiting] at balance
  change _ + 4 + _ = _ at balance
  omega

theorem enter_work (platform : SidecarPlatform) (state : SidecarState) (request : Request) :
    (state.enter platform request).work + 4 * state.calls.length ≤
      state.work + 4 * (state.enter platform request).calls.length := by
  have arrival : (state.arrive request).work = state.work + 4 := by
    rw [SidecarState.work, SidecarState.arrive, List.map_append, List.sum_append]
    exact Nat.add_right_comm _ _ _
  have longer : (state.arrive request).calls.length = state.calls.length + 1 :=
    List.length_append
  unfold SidecarState.enter
  by_cases free : state.lock.holder = none ∧ state.lock.waiters = []
  · rw [if_pos free]
    obtain ⟨less, length⟩ := write_work platform [] (state.arrive_found request) rfl
    rw [length]
    omega
  · rw [if_neg free]
    change (state.arrive request).work + _ ≤ _ + 4 * (state.arrive request).calls.length
    omega

theorem readline_phase (platform : SidecarPlatform) (state : SidecarState) (index : Nat)
    (call : SidecarCall) (reqId : Nat) (item : ReplyLine) (later : List ReplyLine)
    (arrived : Option Nat) :
    ∃ outcome,
      (state.readline platform index call reqId item later arrived).calls =
        (state.setPhase index call (.ended outcome)).calls ∧
      (state.readline platform index call reqId item later arrived).stdin = state.stdin := by
  simp only [SidecarState.readline]
  split
  · exact ⟨_, rfl, rfl⟩
  · exact ⟨_, rfl, rfl⟩

theorem cancel_work {state next : SidecarState} {index : Nat} {call : SidecarCall}
    (found : state.calls[index]? = some call)
    (calls : next.calls = (state.setPhase index call .cancelled).calls)
    (stdin : next.stdin = state.stdin) :
    next.work ≤ state.work ∧ next.calls.length = state.calls.length := by
  obtain ⟨balance, length⟩ := setPhase_work found .cancelled calls
  refine ⟨?_, length⟩
  rw [stdin] at balance
  change _ = _ + 0 + _ at balance
  omega

/-- An inner step takes one unit of work, and a new call brings at most four. -/
theorem sidecarStep_work {platform : SidecarPlatform} {state next : SidecarState}
    {action : SidecarAction} (orderly : Orderly platform state)
    (taken : sidecarStep platform state action = some next) :
    next.work + (if action.isInner then 1 else 0) + 4 * state.calls.length ≤
      state.work + 4 * next.calls.length := by
  cases action with
  | call request =>
      cases taken
      exact enter_work platform state request
  | granted =>
      obtain ⟨index, rest, call, _, waiters, found, rfl⟩ := granted_eq_some taken
      have waiting : call.phase = .waiting := by
        have present := (orderly.queue index).mp (by rw [waiters]; exact List.mem_cons_self)
        rw [SidecarState.phaseAt_of_found found] at present
        exact Option.some.inj present
      obtain ⟨less, length⟩ := write_work platform rest found waiting
      rw [length]
      change _ + 1 + _ ≤ _
      omega
  | drained index =>
      obtain ⟨call, reqId, found, draining, rfl⟩ := drained_eq_some taken
      obtain ⟨balance, length⟩ := setPhase_work found (.reading reqId) rfl
      rw [draining] at balance
      change _ + 2 + _ = _ + 1 + state.stdin.length at balance
      rw [length]
      change _ + 1 + _ ≤ _
      omega
  | handled result =>
      obtain ⟨line, later, stdin, rfl⟩ := handled_eq_some taken
      simp only [SidecarState.work, stdin, List.length_cons, SidecarAction.isInner, if_true]
      omega
  | readline index arrived =>
      obtain ⟨call, reqId, item, later, found, reading, stdout, rfl⟩ := readline_eq_some taken
      obtain ⟨outcome, calls, stdin⟩ :=
        readline_phase platform state index call reqId item later arrived
      obtain ⟨balance, length⟩ := setPhase_work found (.ended outcome) calls
      rw [reading, stdin] at balance
      change _ + 1 + _ = _ + 0 + _ at balance
      rw [length]
      change _ + 1 + _ ≤ _
      omega
  | cancel index =>
      obtain ⟨call, found, cancelled⟩ := cancel_eq_some taken
      have less : next.work ≤ state.work ∧ next.calls.length = state.calls.length := by
        rcases cancelled with ⟨_, rfl⟩ | ⟨_, _, rfl⟩
        · exact cancel_work found rfl rfl
        · exact cancel_work found rfl rfl
      rw [less.2]
      exact Nat.add_le_add_right less.1 _

/-- Every run takes at most four inner steps for each call it has seen. -/
theorem inner_steps_bounded {platform : SidecarPlatform} {state final : SidecarState}
    {schedule : List SidecarAction} (orderly : Orderly platform state)
    (meets : StepsMeet (sidecarStep platform) (Undisturbed platform) state schedule)
    (ran : runFrom (sidecarStep platform) state schedule = some final) :
    final.work + schedule.countP SidecarAction.isInner + 4 * state.calls.length ≤
      state.work + 4 * final.calls.length := by
  induction schedule generalizing state with
  | nil =>
      cases ran
      exact Nat.le_refl _
  | cons action rest ih =>
      obtain ⟨next, taken, remaining⟩ := runFrom_cons_eq_some ran
      have later := ih (sidecarStep_orderly orderly meets.1 taken) (meets.2 next taken) remaining
      have now := sidecarStep_work orderly taken
      rw [List.countP_cons]
      omega

/-- As long as a call is not over, the loop or the process can take a step. -/
theorem Orderly.progress {platform : SidecarPlatform} {state : SidecarState}
    (orderly : Orderly platform state) {index : Nat} {phase : SidecarPhase}
    (present : state.phaseAt index = some phase) (unfinished : phase.isOver = false) :
    ∃ action, action.isInner = true ∧ (sidecarStep platform state action).isSome = true := by
  cases orderly.pipes with
  | idle free stdin stdout quiet =>
      have waiting : phase = .waiting := by
        have none_pending := quiet index phase present
        cases phase with
        | waiting => rfl
        | draining _ => cases none_pending
        | reading _ => cases none_pending
        | ended _ => cases unfinished
        | cancelled => cases unfinished
      rw [waiting, ← orderly.queue] at present
      refine ⟨.granted, rfl, ?_⟩
      cases waiters : state.lock.waiters with
      | nil =>
          rw [waiters] at present
          cases present
      | cons first rest =>
          have head := (orderly.queue first).mp (by rw [waiters]; exact List.mem_cons_self)
          obtain ⟨call, found, _⟩ := SidecarState.found_of_phaseAt head
          simp only [sidecarStep, free, waiters, found]
          rfl
  | asked line reqId flight stdin stdout =>
      refine ⟨.handled (.ok .null), rfl, ?_⟩
      simp only [sidecarStep, stdin]
      rfl
  | answered line reqId result flight stdin stdout fits known =>
      obtain ⟨flown, there, pending⟩ := flight.flying
      obtain ⟨call, found, same⟩ := SidecarState.found_of_phaseAt there
      cases flown with
      | draining number =>
          refine ⟨.drained line.call, rfl, ?_⟩
          simp only [sidecarStep, found, same]
          rfl
      | reading number =>
          refine ⟨.readline line.call none, rfl, ?_⟩
          simp only [sidecarStep, found, stdout, same, Option.all_none, if_true]
          rfl
      | waiting => cases pending
      | ended _ => cases pending
      | cancelled => cases pending

/-! ### Whole runs -/

/-- Every call that ended did so on the reply to its own request; the run took at most four
steps for a call, and while a call is not over another step is possible. -/
structure Paired (platform : SidecarPlatform) (schedule : List SidecarAction)
    (state : SidecarState) : Prop where
  own : ∀ index outcome, state.phaseAt index = some (.ended outcome) →
    ∃ result, (index, result) ∈ state.handled ∧ outcome = CallOutcome.own result
  progress : ∀ index phase, state.phaseAt index = some phase → phase.isOver = false →
    ∃ action, action.isInner = true ∧ (sidecarStep platform state action).isSome = true
  bounded : schedule.countP SidecarAction.isInner ≤ 4 * state.calls.length

theorem undisturbed_calls_paired (platform : SidecarPlatform) {schedule : List SidecarAction}
    {final : SidecarState}
    (meets : StepsMeet (sidecarStep platform) (Undisturbed platform) .initial schedule)
    (ran : runFrom (sidecarStep platform) .initial schedule = some final) :
    Paired platform schedule final := by
  have orderly : Orderly platform final :=
    runFrom_conditional_invariant (fun _ _ _ holds safe taken => sidecarStep_orderly holds safe taken)
      (orderly_initial platform) meets ran
  have steps := inner_steps_bounded (orderly_initial platform) meets ran
  refine ⟨orderly.own, fun _ _ => orderly.progress, ?_⟩
  change _ + _ + 0 ≤ 0 + _ at steps
  omega

/-- A process whose replies here are all as long as `{"id":1,"ok":true,"result":null}`. -/
def demoSidecar : SidecarPlatform where
  encodes := fun _ => true
  size := fun _ => 32
  floatIs := fun _ _ => false
  isZero := fun literal => literal = text "0.0"

def beginTask (task : String) : Request :=
  { op := text "begin"
    fields := [(text "task_id", .string (text task))] }

/-- The second call waits for the first; the third gives up in the queue. -/
def queuedCalls : List SidecarAction :=
  [.call (beginTask "a"), .call (beginTask "b"), .call (beginTask "c"), .cancel 2, .drained 0,
    .handled (.ok .null), .readline 0 none, .granted, .handled (.ok .null), .drained 1,
    .readline 1 none]

theorem queued_calls_paired :
    ∃ final, runFrom (sidecarStep demoSidecar) .initial queuedCalls = some final ∧
      Paired demoSidecar queuedCalls final := by
  have runs : (runFrom (sidecarStep demoSidecar) .initial queuedCalls).isSome = true := by
    decide +kernel
  obtain ⟨final, ran⟩ := Option.isSome_iff_exists.mp runs
  exact ⟨final, ran, undisturbed_calls_paired demoSidecar (by decide +kernel) ran⟩

/-- The first call is cancelled while it reads; the second finds the reply to the first. -/
def cancelledReader : List SidecarAction :=
  [.call (beginTask "a"), .call (beginTask "b"), .drained 0, .cancel 0, .granted,
    .handled (.ok .null), .drained 1, .readline 1 none]

theorem cancelled_reader_breaks_pairing :
    ∃ final, runFrom (sidecarStep demoSidecar) .initial cancelledReader = some final ∧
      final.phaseAt 1 = some (.ended (.mismatch (.integer 1) 2)) ∧
      ¬ Paired demoSidecar cancelledReader final := by
  refine ⟨_, rfl, rfl, ?_⟩
  intro paired
  obtain ⟨result, _, same⟩ := paired.own 1 (.mismatch (.integer 1) 2) rfl
  cases result with
  | ok _ => cases same
  | error _ => cases same

end AcdpPlayground.A2a

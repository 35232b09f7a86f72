/-
A call of the sidecar that returns has read the reply to its own line, whatever happened in
the two pipes before: callers that left, replies that did not fit the reader, rests of lines.
The numbers are fresh, a reply carries the number of its request, and `call` compares it.

A request must not bring a field named `id`, which would replace the number.
-/

import AcdpPlayground.A2a.ReplyPairing

namespace AcdpPlayground.A2a

open PythonText JsonValue

def Unnumbered (request : Request) : Prop :=
  text "id" ∉ KeyedTable.keys request.fields

theorem body_id {request : Request} (unnumbered : Unnumbered request) (number : Nat) :
    (request.body number).get? "id" = some (.integer number) := by
  change List.lookup (text "id") (request.fields.foldl _ _) = _
  rw [KeyedTable.lookup_foldl_insert_ne unnumbered]
  rfl

namespace SidecarState

/-- The number in a line or a reply of a call is one that no other call waits for. -/
def Belongs (state : SidecarState) (call : Nat) (body : Json) : Prop :=
  ∃ number, number < state.nextId ∧ body.get? "id" = some (.integer number) ∧
    ∀ index phase, state.phaseAt index = some phase → phase.pending = some number → index = call

/-- A number below the next one that is waited for was waited for before, by the same call. -/
def KeepsPending (state next : SidecarState) : Prop :=
  ∀ index phase number, next.phaseAt index = some phase → phase.pending = some number →
    number < state.nextId → ∃ old, state.phaseAt index = some old ∧ old.pending = some number

theorem Belongs.kept {state next : SidecarState} {call : Nat} {body : Json}
    (belongs : state.Belongs call body) (keeps : state.KeepsPending next)
    (later : state.nextId ≤ next.nextId) : next.Belongs call body := by
  obtain ⟨number, below, isNumber, only⟩ := belongs
  refine ⟨number, Nat.lt_of_lt_of_le below later, isNumber, ?_⟩
  intro index phase present pending
  obtain ⟨old, before, wasPending⟩ := keeps index phase number present pending below
  exact only index old before wasPending

structure Numbered (state : SidecarState) : Prop where
  unnumbered : ∀ call ∈ state.calls, Unnumbered call.request
  bound : ∀ index phase number, state.phaseAt index = some phase →
    phase.pending = some number → number < state.nextId
  asked : ∀ line ∈ state.stdin, state.Belongs line.call line.body
  answered : ∀ item ∈ state.stdout, ∃ body result, item.reply = replyTo body result ∧
    (item.call, result) ∈ state.handled ∧ state.Belongs item.call body
  own : ∀ index result, state.phaseAt index = some (.ended (.returned result)) →
    (index, .ok result) ∈ state.handled

theorem numbered_initial (number : Nat) : Numbered { SidecarState.initial with nextId := number } where
  unnumbered := fun _ absent => absurd absent List.not_mem_nil
  bound := by rintro _ _ _ ⟨⟩
  asked := fun _ absent => absurd absent List.not_mem_nil
  answered := fun _ absent => absurd absent List.not_mem_nil
  own := by rintro _ _ ⟨⟩

/-- A step that moves one call to a phase with no new number. -/
theorem keepsPending_of_moved {state next : SidecarState} {index : Nat} {phase : SidecarPhase}
    (phases : ∀ other, next.phaseAt other =
      if other = index then some phase else state.phaseAt other)
    (same : ∀ number, phase.pending = some number →
      number < state.nextId → ∃ old, state.phaseAt index = some old ∧ old.pending = some number) :
    state.KeepsPending next := by
  intro other found number present pending below
  rcases phaseAt_of_moved phases present with ⟨rfl, rfl⟩ | ⟨_, earlier⟩
  · exact same number pending below
  · exact ⟨found, earlier, pending⟩

theorem Numbered.moved {state next : SidecarState} {index : Nat} {phase : SidecarPhase}
    (numbered : Numbered state)
    (requests : ∀ (other : Nat) (call : SidecarCall), next.calls[other]? = some call →
      ∃ old, state.calls[other]? = some old ∧ old.request = call.request)
    (phases : ∀ other, next.phaseAt other =
      if other = index then some phase else state.phaseAt other)
    (same : ∀ number, phase.pending = some number →
      ∃ old, state.phaseAt index = some old ∧ old.pending = some number)
    (number : state.nextId ≤ next.nextId) (stdin : next.stdin = state.stdin)
    (stdout : ∀ item ∈ next.stdout, ∃ old ∈ state.stdout,
      item.reply = old.reply ∧ item.call = old.call)
    (handled : next.handled = state.handled)
    (returned : ∀ result, phase = .ended (.returned result) →
      (index, .ok result) ∈ state.handled) : Numbered next := by
  have keeps : state.KeepsPending next :=
    keepsPending_of_moved phases (fun number pending _ => same number pending)
  constructor
  · intro call member
    obtain ⟨other, present⟩ := List.getElem?_of_mem member
    obtain ⟨old, before, sameRequest⟩ := requests other call present
    rw [← sameRequest]
    exact numbered.unnumbered old (List.mem_of_getElem? before)
  · intro other old pendingNumber present pending
    rcases phaseAt_of_moved phases present with ⟨rfl, rfl⟩ | ⟨_, earlier⟩
    · obtain ⟨before, was, wasPending⟩ := same pendingNumber pending
      exact Nat.lt_of_lt_of_le (numbered.bound _ before _ was wasPending) number
    · exact Nat.lt_of_lt_of_le (numbered.bound other old _ earlier pending) number
  · intro line member
    rw [stdin] at member
    exact (numbered.asked line member).kept keeps number
  · intro item member
    obtain ⟨old, before, sameReply, sameCall⟩ := stdout item member
    obtain ⟨body, result, isReply, known, belongs⟩ := numbered.answered old before
    refine ⟨body, result, sameReply.trans isReply, ?_, ?_⟩
    · rw [handled, sameCall]
      exact known
    · rw [sameCall]
      exact belongs.kept keeps number
  · intro other result present
    rw [handled]
    rcases phaseAt_of_moved phases present with ⟨rfl, isPhase⟩ | ⟨_, earlier⟩
    · exact returned result isPhase.symm
    · exact numbered.own other result earlier

theorem setPhase_request {state : SidecarState} {index : Nat} {call : SidecarCall}
    (found : state.calls[index]? = some call) (phase : SidecarPhase) (other : Nat)
    (new : SidecarCall) (present : (state.setPhase index call phase).calls[other]? = some new) :
    ∃ old, state.calls[other]? = some old ∧ old.request = new.request := by
  by_cases same : other = index
  · subst other
    rw [setPhase, List.getElem?_set_self (List.getElem?_eq_some_iff.mp found).1] at present
    cases present
    exact ⟨call, found, rfl⟩
  · rw [setPhase, List.getElem?_set_ne (Ne.symm same)] at present
    exact ⟨new, present, rfl⟩

/-- The call with the lock takes its number, and writes its line if it can be built. -/
theorem write_numbered {platform : SidecarPlatform} {state : SidecarState} {index : Nat}
    {call : SidecarCall} (numbered : Numbered state)
    (found : state.calls[index]? = some call) (waiters : List Nat) :
    Numbered (state.write platform index call waiters) := by
  by_cases encodes : platform.encodes call.request = true
  · rw [write, if_pos encodes]
    have phases := setPhase_phaseAt found (.draining state.nextId)
    have keeps : state.KeepsPending
        { state.setPhase index call (.draining state.nextId) with
          lock := { holder := some index, waiters := waiters }
          nextId := state.nextId + 1
          stdin := state.stdin ++ [{ call := index, body := call.request.body state.nextId }] } := by
      refine keepsPending_of_moved phases ?_
      intro number pending below
      cases pending
      exact absurd below (Nat.lt_irrefl _)
    constructor
    · intro other member
      obtain ⟨place, present⟩ := List.getElem?_of_mem member
      obtain ⟨old, before, same⟩ := setPhase_request found _ place other present
      rw [← same]
      exact numbered.unnumbered old (List.mem_of_getElem? before)
    · intro other old number present pending
      rcases phaseAt_of_moved phases present with ⟨_, rfl⟩ | ⟨_, earlier⟩
      · cases pending
        exact Nat.lt_succ_self _
      · exact Nat.lt_succ_of_lt (numbered.bound other old number earlier pending)
    · intro line member
      rcases List.mem_append.mp member with before | new
      · exact (numbered.asked line before).kept keeps (Nat.le_succ _)
      · rw [List.mem_singleton.mp new]
        refine ⟨state.nextId, Nat.lt_succ_self _,
          body_id (numbered.unnumbered call (List.mem_of_getElem? found)) _, ?_⟩
        intro other old present pending
        rcases phaseAt_of_moved phases present with ⟨same, _⟩ | ⟨_, earlier⟩
        · exact same
        · exact absurd (numbered.bound other old _ earlier pending) (Nat.lt_irrefl _)
    · intro item member
      obtain ⟨body, result, isReply, known, belongs⟩ := numbered.answered item member
      exact ⟨body, result, isReply, known, belongs.kept keeps (Nat.le_succ _)⟩
    · intro other result present
      rcases phaseAt_of_moved phases present with ⟨_, ⟨⟩⟩ | ⟨_, earlier⟩
      exact numbered.own other result earlier
  · rw [write, if_neg encodes]
    exact numbered.moved (setPhase_request found _)
      (setPhase_phaseAt found (.ended .unencodable)) (by rintro _ ⟨⟩) (Nat.le_succ _) rfl
      (fun item member => ⟨item, member, rfl, rfl⟩) rfl (by rintro _ ⟨⟩)

theorem arrive_numbered {state : SidecarState} (numbered : Numbered state) {request : Request}
    (unnumbered : Unnumbered request) : Numbered (state.arrive request) := by
  have phases := state.arrive_phaseAt request
  have keeps : state.KeepsPending (state.arrive request) :=
    keepsPending_of_moved phases (by rintro _ ⟨⟩)
  constructor
  · intro call member
    rcases List.mem_append.mp member with before | new
    · exact numbered.unnumbered call before
    · rw [List.mem_singleton.mp new]
      exact unnumbered
  · intro other old number present pending
    rcases phaseAt_of_moved phases present with ⟨_, rfl⟩ | ⟨_, earlier⟩
    · cases pending
    · exact numbered.bound other old number earlier pending
  · intro line member
    exact (numbered.asked line member).kept keeps (Nat.le_refl _)
  · intro item member
    obtain ⟨body, result, isReply, known, belongs⟩ := numbered.answered item member
    exact ⟨body, result, isReply, known, belongs.kept keeps (Nat.le_refl _)⟩
  · intro other result present
    rcases phaseAt_of_moved phases present with ⟨_, ⟨⟩⟩ | ⟨_, earlier⟩
    exact numbered.own other result earlier

theorem Numbered.ofLock {state : SidecarState} (numbered : Numbered state) (lock : Auth.Lock) :
    Numbered { state with lock := lock } :=
  ⟨numbered.unnumbered, numbered.bound, numbered.asked, numbered.answered, numbered.own⟩

theorem enter_numbered {platform : SidecarPlatform} {state : SidecarState}
    (numbered : Numbered state) {request : Request} (unnumbered : Unnumbered request) :
    Numbered (state.enter platform request) := by
  have arrived := arrive_numbered numbered unnumbered
  unfold enter
  split
  · exact write_numbered arrived (state.arrive_found request) []
  · exact arrived.ofLock _

/-- The reader takes a whole reply only if it carries the number the call waits for. -/
theorem returned_of_ofReply {platform : SidecarPlatform} {state : SidecarState}
    {index reqId call : Nat} {body result : Json} {handled : Handled}
    (waits : ∃ phase, state.phaseAt index = some phase ∧ phase.pending = some reqId)
    (belongs : state.Belongs call body)
    (taken : CallOutcome.ofReply platform reqId (replyTo body handled) = .returned result) :
    call = index ∧ handled = .ok result := by
  obtain ⟨number, _, isNumber, only⟩ := belongs
  obtain ⟨phase, present, pending⟩ := waits
  have kept : equalsNumber platform reqId ((body.get? "id").getD .null) = true := by
    by_contra other
    have mismatch : CallOutcome.ofReply platform reqId (replyTo body handled) =
        .mismatch ((body.get? "id").getD .null) reqId := by
      cases handled <;>
        exact if_pos (by rw [Bool.not_eq_true']; exact Bool.eq_false_iff.mpr other)
    rw [mismatch] at taken
    cases taken
  have same : number = reqId := by
    rw [isNumber] at kept
    exact Int.ofNat.inj (beq_iff_eq.mp kept)
  rw [ofReply_own kept] at taken
  refine ⟨(only index phase present (same ▸ pending)).symm, ?_⟩
  cases handled with
  | ok value =>
      cases taken
      rfl
  | error error => cases taken

theorem readline_numbered {platform : SidecarPlatform} {state : SidecarState} {index reqId : Nat}
    {call : SidecarCall} {item : ReplyLine} {later : List ReplyLine} {arrived : Option Nat}
    (numbered : Numbered state) (found : state.calls[index]? = some call)
    (reading : call.phase = .reading reqId) (stdout : state.stdout = item :: later) :
    Numbered (state.readline platform index call reqId item later arrived) := by
  have present := phaseAt_of_found found
  rw [reading] at present
  obtain ⟨body, handled, isReply, known, belongs⟩ :=
    numbered.answered item (stdout ▸ List.mem_cons_self)
  have behind : ∀ other ∈ later, other ∈ state.stdout := by
    intro other member
    rw [stdout]
    exact List.mem_cons_of_mem _ member
  unfold readline
  dsimp only
  split
  · refine numbered.moved (setPhase_request found _) (setPhase_phaseAt found _) ?_ (Nat.le_refl _)
      rfl (fun other member => ⟨other, behind other member, rfl, rfl⟩) rfl ?_
    · intro number pending
      split at pending <;> cases pending
    · intro result isReturned
      split at isReturned
      · have taken := SidecarPhase.ended.inj isReturned
        rw [isReply] at taken
        obtain ⟨same, rfl⟩ := returned_of_ofReply ⟨_, present, rfl⟩ belongs taken
        exact same ▸ known
      · cases isReturned
  · refine numbered.moved (setPhase_request found _)
      (setPhase_phaseAt found (.ended .overrun)) (by rintro _ ⟨⟩) (Nat.le_refl _) rfl ?_ rfl
      (by rintro _ ⟨⟩)
    intro other member
    cases arrived with
    | none => exact ⟨other, behind other member, rfl, rfl⟩
    | some bytes =>
        rcases List.mem_cons.mp member with rfl | inside
        · exact ⟨item, stdout ▸ List.mem_cons_self, rfl, rfl⟩
        · exact ⟨other, behind other inside, rfl, rfl⟩

theorem handled_numbered {platform : SidecarPlatform} {state : SidecarState} {line : RequestLine}
    {later : List RequestLine} (numbered : Numbered state) (stdin : state.stdin = line :: later)
    (result : Handled) :
    Numbered { state with
      stdin := later
      stdout := state.stdout ++ [platform.answer line result]
      handled := state.handled ++ [(line.call, result)] } := by
  have belongs := numbered.asked line (stdin ▸ List.mem_cons_self)
  refine ⟨numbered.unnumbered, numbered.bound, ?_, ?_, ?_⟩
  · intro other member
    exact numbered.asked other (stdin ▸ List.mem_cons_of_mem _ member)
  · intro item member
    rcases List.mem_append.mp member with before | new
    · obtain ⟨body, replied, isReply, known, itsOwn⟩ := numbered.answered item before
      exact ⟨body, replied, isReply, List.mem_append_left _ known, itsOwn⟩
    · rw [List.mem_singleton.mp new]
      exact ⟨line.body, result, rfl, List.mem_append_right _ (List.mem_singleton_self _), belongs⟩
  · intro index returned present
    exact List.mem_append_left _ (numbered.own index returned present)

/-- The lines of a request that a step lets in carry no number of their own. -/
def BringsNoId : SidecarAction → Prop
  | .call request => Unnumbered request
  | _ => True

theorem step_numbered {platform : SidecarPlatform} {state next : SidecarState}
    {action : SidecarAction} (numbered : Numbered state) (plain : BringsNoId action)
    (taken : sidecarStep platform state action = some next) : Numbered next := by
  cases action with
  | call request =>
      cases taken
      exact enter_numbered numbered plain
  | granted =>
      obtain ⟨index, rest, call, _, _, found, rfl⟩ := granted_eq_some taken
      exact write_numbered numbered found rest
  | drained index =>
      obtain ⟨call, reqId, found, draining, rfl⟩ := drained_eq_some taken
      have present := phaseAt_of_found found
      rw [draining] at present
      exact numbered.moved (setPhase_request found _) (setPhase_phaseAt found (.reading reqId))
        (fun number pending => ⟨_, present, pending⟩) (Nat.le_refl _) rfl
        (fun item member => ⟨item, member, rfl, rfl⟩) rfl (by rintro _ ⟨⟩)
  | handled result =>
      obtain ⟨line, later, stdin, rfl⟩ := handled_eq_some taken
      exact handled_numbered numbered stdin result
  | readline index arrived =>
      obtain ⟨call, reqId, item, later, found, reading, stdout, rfl⟩ := readline_eq_some taken
      exact readline_numbered numbered found reading stdout
  | cancel index =>
      obtain ⟨call, found, cancelled⟩ := cancel_eq_some taken
      rcases cancelled with ⟨_, rfl⟩ | ⟨reqId, _, rfl⟩
      · exact numbered.moved (setPhase_request found _) (setPhase_phaseAt found .cancelled)
          (by rintro _ ⟨⟩) (Nat.le_refl _) rfl (fun item member => ⟨item, member, rfl, rfl⟩) rfl
          (by rintro _ ⟨⟩)
      · exact numbered.moved (setPhase_request found _) (setPhase_phaseAt found .cancelled)
          (by rintro _ ⟨⟩) (Nat.le_refl _) rfl (fun item member => ⟨item, member, rfl, rfl⟩) rfl
          (by rintro _ ⟨⟩)

/-! ### The queue of the lock -/

structure Queued (state : SidecarState) : Prop where
  waiting : ∀ index ∈ state.lock.waiters, state.phaseAt index = some .waiting
  distinct : state.lock.waiters.Nodup

theorem queued_initial (number : Nat) : Queued { SidecarState.initial with nextId := number } where
  waiting := fun _ absent => absurd absent List.not_mem_nil
  distinct := List.nodup_nil

theorem Queued.not_mem {state : SidecarState} (queued : Queued state) {index : Nat}
    {phase : SidecarPhase} (present : state.phaseAt index = some phase)
    (notWaiting : phase ≠ .waiting) : index ∉ state.lock.waiters := by
  intro member
  rw [queued.waiting index member] at present
  exact notWaiting (Option.some.inj present).symm

theorem Queued.moved {state next : SidecarState} {index : Nat} {phase : SidecarPhase}
    (queued : Queued state)
    (phases : ∀ other, next.phaseAt other =
      if other = index then some phase else state.phaseAt other)
    (fewer : next.lock.waiters.Sublist state.lock.waiters)
    (left : index ∉ next.lock.waiters) : Queued next := by
  refine ⟨?_, queued.distinct.sublist fewer⟩
  intro other member
  have different : other ≠ index := by
    rintro rfl
    exact left member
  rw [phases, if_neg different]
  exact queued.waiting other (fewer.subset member)

theorem write_queued {platform : SidecarPlatform} {state : SidecarState} {index : Nat}
    {call : SidecarCall} {waiters : List Nat} (queued : Queued state)
    (found : state.calls[index]? = some call) (fewer : waiters.Sublist state.lock.waiters)
    (left : index ∉ waiters) : Queued (state.write platform index call waiters) := by
  unfold write
  split
  · exact queued.moved (setPhase_phaseAt found (.draining state.nextId)) fewer left
  · exact queued.moved (setPhase_phaseAt found (.ended .unencodable)) fewer left

theorem arrive_queued {state : SidecarState} (queued : Queued state) (request : Request) :
    Queued (state.arrive request) := by
  refine ⟨?_, queued.distinct⟩
  intro other member
  have present := queued.waiting other member
  rw [arrive_phaseAt, if_neg, present]
  rintro rfl
  rw [phaseAt_length] at present
  cases present

/-- The lock is taken: the new call stands at the end of the queue. -/
theorem wait_queued {state : SidecarState} (queued : Queued state) (request : Request) :
    Queued { state.arrive request with
      lock := { state.lock with waiters := state.lock.waiters ++ [state.calls.length] } } := by
  have arrived := arrive_queued queued request
  constructor
  · intro other member
    rcases List.mem_append.mp member with before | last
    · exact arrived.waiting other before
    · rw [List.mem_singleton.mp last]
      exact (state.arrive_phaseAt request _).trans (if_pos rfl)
  · refine List.nodup_append.mpr ⟨queued.distinct, List.nodup_singleton _, ?_⟩
    intro other member last isLast same
    rw [List.mem_singleton.mp isLast] at same
    have present := queued.waiting other member
    rw [same, phaseAt_length] at present
    cases present

theorem granted_queued {platform : SidecarPlatform} {state : SidecarState} {index : Nat}
    {rest : List Nat} {call : SidecarCall} (queued : Queued state)
    (waiters : state.lock.waiters = index :: rest) (found : state.calls[index]? = some call) :
    Queued (state.write platform index call rest) := by
  have distinct := queued.distinct
  rw [waiters, List.nodup_cons] at distinct
  exact write_queued queued found (waiters ▸ List.sublist_cons_self _ _) distinct.1

/-- What a reader leaves unchanged: it ends its call and takes from the replies only. -/
theorem readline_ends (platform : SidecarPlatform) (state : SidecarState) (index : Nat)
    (call : SidecarCall) (reqId : Nat) (item : ReplyLine) (later : List ReplyLine)
    (arrived : Option Nat) :
    ∃ outcome, (state.readline platform index call reqId item later arrived).calls =
        (state.setPhase index call (.ended outcome)).calls ∧
      (state.readline platform index call reqId item later arrived).stdin = state.stdin ∧
      (state.readline platform index call reqId item later arrived).handled = state.handled := by
  unfold readline
  dsimp only
  split
  · exact ⟨_, rfl, rfl, rfl⟩
  · exact ⟨.overrun, rfl, rfl, rfl⟩

theorem readline_queued {platform : SidecarPlatform} {state : SidecarState} {index reqId : Nat}
    {call : SidecarCall} {item : ReplyLine} {later : List ReplyLine} {arrived : Option Nat}
    (queued : Queued state) (found : state.calls[index]? = some call)
    (reading : call.phase = .reading reqId) :
    Queued (state.readline platform index call reqId item later arrived) := by
  have left : index ∉ state.lock.waiters := by
    refine queued.not_mem (phaseAt_of_found found) ?_
    rw [reading]
    rintro ⟨⟩
  unfold readline
  dsimp only
  split
  · exact queued.moved (setPhase_phaseAt found _) (List.Sublist.refl _) left
  · exact queued.moved (setPhase_phaseAt found (.ended .overrun)) (List.Sublist.refl _) left

theorem cancel_queued {state : SidecarState} {index : Nat} {call : SidecarCall}
    (queued : Queued state) (found : state.calls[index]? = some call) :
    Queued { state.setPhase index call .cancelled with lock := state.lock.forget index } :=
  queued.moved (setPhase_phaseAt found .cancelled) List.erase_sublist
    queued.distinct.not_mem_erase

/-- A step that moves a call with something under way does not touch the queue. -/
theorem Queued.movedPending {state next : SidecarState} {index reqId : Nat}
    {call : SidecarCall} {phase : SidecarPhase} (queued : Queued state)
    (found : state.calls[index]? = some call) (pending : call.phase.pending = some reqId)
    (phases : ∀ other, next.phaseAt other =
      if other = index then some phase else state.phaseAt other)
    (waiters : next.lock.waiters = state.lock.waiters) : Queued next := by
  refine queued.moved phases (waiters ▸ List.Sublist.refl _) ?_
  rw [waiters]
  refine queued.not_mem (phaseAt_of_found found) ?_
  intro isWaiting
  rw [isWaiting] at pending
  cases pending

end SidecarState

/-- In every run a call that returns got what the process replied to that call. -/
theorem returned_own_reply (platform : SidecarPlatform) {schedule : List SidecarAction}
    {final : SidecarState}
    (plain : TransitionRun.StepsMeet (sidecarStep platform)
      (fun _ action => SidecarState.BringsNoId action) .initial schedule)
    (ran : TransitionRun.runFrom (sidecarStep platform) .initial schedule = some final)
    (index : Nat) (result : Json)
    (returned : final.phaseAt index = some (.ended (.returned result))) :
    (index, .ok result) ∈ final.handled := by
  have numbered : final.Numbered :=
    TransitionRun.runFrom_conditional_invariant
      (fun _ _ _ numbered brings taken => SidecarState.step_numbered numbered brings taken)
      (SidecarState.numbered_initial 1) plain ran
  exact numbered.own index result returned

instance decidableBringsNoId :
    ∀ action : SidecarAction, Decidable (SidecarState.BringsNoId action)
  | .call request =>
      inferInstanceAs (Decidable (text "id" ∉ KeyedTable.keys request.fields))
  | .granted | .drained _ | .handled _ | .readline _ _ | .cancel _ => .isTrue trivial

/-- A process whose replies with a text are longer than the reader takes. -/
def wordySidecar : SidecarPlatform :=
  { demoSidecar with
    size := fun reply =>
      match reply.get? "result" with
      | some (.string _) => readLimit + 1
      | _ => 32 }

/-- The second call gets an overlong reply and the third leaves the queue. The fourth returns;
the fifth leaves while it reads, and the sixth finds its reply. -/
def disturbedCalls : List SidecarAction :=
  [.call (beginTask "a"), .call (beginTask "b"), .drained 0, .handled (.ok (.boolean true)),
    .readline 0 none, .granted, .drained 1, .call (beginTask "c"),
    .handled (.ok (.string (text "long"))), .cancel 2, .readline 1 none,
    .call (beginTask "d"), .drained 3, .handled (.ok (.integer 4)), .readline 3 none,
    .call (beginTask "e"), .drained 4, .cancel 4, .call (beginTask "f"), .handled (.ok .null),
    .drained 5, .readline 5 none]

theorem disturbed_calls_own_reply :
    ∃ final, TransitionRun.runFrom (sidecarStep wordySidecar) .initial disturbedCalls =
        some final ∧
      final.phaseAt 1 = some (.ended .overrun) ∧
      final.phaseAt 3 = some (.ended (.returned (.integer 4))) ∧
      final.phaseAt 5 = some (.ended (.mismatch (.integer 4) 5)) ∧
      (3, .ok (.integer 4)) ∈ final.handled := by
  have plain : TransitionRun.StepsMeet (sidecarStep wordySidecar)
      (fun _ action => SidecarState.BringsNoId action) .initial disturbedCalls := by
    decide +kernel
  refine ⟨_, rfl, rfl, rfl, rfl, ?_⟩
  exact returned_own_reply wordySidecar plain rfl 3 _ rfl

end AcdpPlayground.A2a

/-
`check_llm_quota`, `QuotaGuardedLLM.ainvoke` and `RunQuotaContext` of
`playground/quota.py`, for the concurrent calls of one run.

A call suspends in the store check and in the model call and nowhere else: the
run's queue is unbounded, so recording a denial, putting the event and starting
the fallback happen without a suspension point between them. The store may
accept, deny or fail, the check may expire, and a task may be cancelled at every
suspension point; a failed, expired or cancelled check may or may not have
charged the counters.
-/

import AcdpPlayground.Foundation.TransitionRun
import AcdpPlayground.Foundation.TaskTable
import AcdpPlayground.Events

namespace AcdpPlayground.Quota

open Calendar TransitionRun TaskTable

/-! ### The run context -/

def QuotaDenial.asDict (denial : QuotaDenial) : List (String × Scalar) :=
  [("quota", .text denial.quota.text), ("limit", denial.limit.elim .null .number),
    ("resets_at", denial.resetsAt.elim .null .text)]

/-- `events` is everything put on the run's queue so far, oldest first. -/
structure RunQuotaContext where
  runId : String
  events : Option (List StepEvent)
  clientIp : Option String
  denials : List QuotaDenial

def RunQuotaContext.summary (context : RunQuotaContext) : Fields :=
  match context.denials with
  | [] => []
  | first :: _ =>
      [("llm_quota_exceeded", .scalar (.flag true)), ("llm_quota", .record first.asDict),
        ("llm_calls_on_mock", .scalar (.number context.denials.length))]

def quotaExceeded (runId ts : String) (denial : QuotaDenial) : StepEvent :=
  { type := .llmQuotaExceeded
    runId := runId
    ts := ts
    error := some ("LLM quota exceeded (" ++ denial.quota.text ++
      "); this run continues on the mock LLM")
    extra := ("llm_quota_exceeded", .scalar (.flag true)) ::
      denial.asDict.map (fun field => (field.1, .scalar field.2)) }

def RunQuotaContext.put (context : RunQuotaContext) (event : StepEvent) : RunQuotaContext :=
  { context with events := context.events.map (fun queue => queue ++ [event]) }

/-- The branch of `check_llm_quota` that a denial takes. -/
def RunQuotaContext.recordDenial (context : RunQuotaContext) (ts : String)
    (denial : QuotaDenial) : RunQuotaContext :=
  let recorded := { context with denials := context.denials ++ [denial] }
  if context.denials.isEmpty then recorded.put (quotaExceeded context.runId ts denial)
  else recorded

def storeUnavailable : QuotaDenial :=
  { quota := .quotaStoreUnavailable
    limit := none
    resetsAt := none }

/-! ### Concurrent calls -/

/-- What the awaited check yields to its task. -/
inductive StoreReply where
  | admitted
  | denied (denial : QuotaDenial)
  | failed
  deriving DecidableEq

inductive StoreAnswer where
  | accept
  | deny (denial : QuotaDenial)
  | fail (applied : Bool)

def StoreAnswer.reply : StoreAnswer → StoreReply
  | .accept => .admitted
  | .deny denial => .denied denial
  | .fail _ => .failed

def StoreAnswer.applied : StoreAnswer → Bool
  | .accept => true
  | .deny _ => false
  | .fail applied => applied

inductive GuardedCall where
  | checking (counters : List Counter)
  | replied (reply : StoreReply)
  | forwarded (ended : Bool)
  | refused (denial : QuotaDenial) (ended : Bool)
  | abandoned
  | raised
  deriving DecidableEq

def GuardedCall.isForwarded : GuardedCall → Bool
  | .forwarded _ => true
  | _ => false

def GuardedCall.isRefused : GuardedCall → Bool
  | .refused _ _ => true
  | _ => false

/-- `charged` lists the units the store has charged to this run's calls. -/
structure GuardState where
  context : RunQuotaContext
  charged : List Key
  calls : List GuardedCall

inductive GuardAction where
  | begin (now : Datetime)
  | settle (index : Nat) (answer : StoreAnswer)
  | expire (index : Nat) (applied : Bool)
  | resume (index : Nat) (ts : String)
  | cancel (index : Nat) (applied : Bool)
  | finish (index : Nat)
  | publish (event : StepEvent)

def GuardState.setCall (state : GuardState) (index : Nat) (call : GuardedCall) : GuardState :=
  { state with calls := state.calls.set index call }

def GuardState.chargeIf (state : GuardState) (applied : Bool) (counters : List Counter) :
    GuardState :=
  if applied then { state with charged := state.charged ++ counters.map Counter.key } else state

def GuardState.refuse (state : GuardState) (index : Nat) (ts : String) (denial : QuotaDenial) :
    GuardState :=
  { (state.setCall index (.refused denial false)) with
    context := state.context.recordDenial ts denial }

def guardStep (settings : QuotaSettings) (state : GuardState) :
    GuardAction → Option GuardState
  | .begin now =>
      match countersFor state.context.clientIp settings now with
      | some counters => some { state with calls := state.calls ++ [.checking counters] }
      | none => some { state with calls := state.calls ++ [.raised] }
  | .settle index answer =>
      match state.calls[index]? with
      | some (.checking counters) =>
          some ((state.chargeIf answer.applied counters).setCall index (.replied answer.reply))
      | _ => none
  | .expire index applied =>
      match state.calls[index]? with
      | some (.checking counters) =>
          some ((state.chargeIf applied counters).setCall index (.replied .failed))
      | some (.replied _) => some (state.setCall index (.replied .failed))
      | _ => none
  | .resume index ts =>
      match state.calls[index]? with
      | some (.replied .admitted) => some (state.setCall index (.forwarded false))
      | some (.replied (.denied denial)) => some (state.refuse index ts denial)
      | some (.replied .failed) => some (state.refuse index ts storeUnavailable)
      | _ => none
  | .cancel index applied =>
      match state.calls[index]? with
      | some (.checking counters) =>
          some ((state.chargeIf applied counters).setCall index .abandoned)
      | some (.replied _) => some (state.setCall index .abandoned)
      | some (.forwarded false) => some (state.setCall index (.forwarded true))
      | some (.refused denial false) => some (state.setCall index (.refused denial true))
      | _ => none
  | .finish index =>
      match state.calls[index]? with
      | some (.forwarded false) => some (state.setCall index (.forwarded true))
      | some (.refused denial false) => some (state.setCall index (.refused denial true))
      | _ => none
  | .publish event =>
      if event.type = .llmQuotaExceeded then none
      else some { state with context := state.context.put event }

/-- A run starts with no call, no charge and no denial. -/
def GuardState.start (runId : String) (hasQueue : Bool) (clientIp : Option String) : GuardState :=
  { context :=
      { runId := runId
        events := if hasQueue then some [] else none
        clientIp := clientIp
        denials := [] }
    charged := []
    calls := [] }

def forwardedCalls (state : GuardState) : Nat := state.calls.countP GuardedCall.isForwarded

def refusedCalls (state : GuardState) : Nat := state.calls.countP GuardedCall.isRefused

def chargedUnits (state : GuardState) (scope : Scope) (subject : String) : Nat :=
  state.charged.countP (fun key => decide (key.scope = scope) && decide (key.subject = subject))

def quotaEvents (queue : List StepEvent) : List StepEvent :=
  queue.filter (fun event => decide (event.type = .llmQuotaExceeded))

/-! ### What one step can do -/

/-- A call keeps its standing: it stays forwarded or stays refused. -/
inductive Ends : GuardedCall → GuardedCall → Prop where
  | forwarded : Ends (.forwarded false) (.forwarded true)
  | refused (denial : QuotaDenial) : Ends (.refused denial false) (.refused denial true)

/-- A check that is over without a refusal: it was abandoned or its task still
has to be resumed; only an applied charge can have admitted the call. -/
def CheckOver (applied : Bool) (call : GuardedCall) : Prop :=
  call = .abandoned ∨ ∃ reply, call = .replied reply ∧ (reply = .admitted → applied = true)

theorem guardStep_cases {settings : QuotaSettings} {state next : GuardState}
    {action : GuardAction} (taken : guardStep settings state action = some next) :
    (∃ call, next = { state with calls := state.calls ++ [call] } ∧
        (call = .raised ∨ ∃ now counters, call = .checking counters ∧
          countersFor state.context.clientIp settings now = some counters)) ∨
      (∃ index counters applied call, state.calls[index]? = some (.checking counters) ∧
        CheckOver applied call ∧ next = (state.chargeIf applied counters).setCall index call) ∨
      (∃ index reply call, state.calls[index]? = some (.replied reply) ∧
        (call = .abandoned ∨ call = .replied .failed) ∧ next = state.setCall index call) ∨
      (∃ index, state.calls[index]? = some (.replied .admitted) ∧
        next = state.setCall index (.forwarded false)) ∨
      (∃ index reply ts denial, state.calls[index]? = some (.replied reply) ∧
        next = state.refuse index ts denial) ∨
      (∃ index old new, state.calls[index]? = some old ∧ Ends old new ∧
        next = state.setCall index new) ∨
      (∃ event, event.type ≠ .llmQuotaExceeded ∧
        next = { state with context := state.context.put event }) := by
  cases action with
  | begin now =>
      simp only [guardStep] at taken
      split at taken
      · rename_i counters built
        exact Or.inl ⟨_, (Option.some.inj taken).symm, Or.inr ⟨now, counters, rfl, built⟩⟩
      · exact Or.inl ⟨_, (Option.some.inj taken).symm, Or.inl rfl⟩
  | settle index answer =>
      simp only [guardStep] at taken
      split at taken
      · rename_i counters found
        refine Or.inr (Or.inl ⟨index, counters, answer.applied, _, found, Or.inr ⟨_, rfl, ?_⟩,
          (Option.some.inj taken).symm⟩)
        intro admitted
        cases answer with
        | accept => rfl
        | deny denial => cases admitted
        | fail applied => cases admitted
      · cases taken
  | expire index applied =>
      simp only [guardStep] at taken
      split at taken
      · rename_i counters found
        exact Or.inr (Or.inl ⟨index, counters, applied, _, found,
          Or.inr ⟨.failed, rfl, fun admitted => by cases admitted⟩,
          (Option.some.inj taken).symm⟩)
      · rename_i reply found
        exact Or.inr (Or.inr (Or.inl ⟨index, reply, _, found, Or.inr rfl,
          (Option.some.inj taken).symm⟩))
      · cases taken
  | resume index ts =>
      simp only [guardStep] at taken
      split at taken
      · rename_i found
        exact Or.inr (Or.inr (Or.inr (Or.inl ⟨index, found, (Option.some.inj taken).symm⟩)))
      · rename_i denial found
        exact Or.inr (Or.inr (Or.inr (Or.inr (Or.inl ⟨index, _, ts, denial, found,
          (Option.some.inj taken).symm⟩))))
      · rename_i found
        exact Or.inr (Or.inr (Or.inr (Or.inr (Or.inl ⟨index, _, ts, storeUnavailable, found,
          (Option.some.inj taken).symm⟩))))
      · cases taken
  | cancel index applied =>
      simp only [guardStep] at taken
      split at taken
      · rename_i counters found
        exact Or.inr (Or.inl ⟨index, counters, applied, _, found, Or.inl rfl,
          (Option.some.inj taken).symm⟩)
      · rename_i reply found
        exact Or.inr (Or.inr (Or.inl ⟨index, reply, _, found, Or.inl rfl,
          (Option.some.inj taken).symm⟩))
      · rename_i found
        exact Or.inr (Or.inr (Or.inr (Or.inr (Or.inr (Or.inl ⟨index, _, _, found, .forwarded,
          (Option.some.inj taken).symm⟩)))))
      · rename_i denial found
        exact Or.inr (Or.inr (Or.inr (Or.inr (Or.inr (Or.inl ⟨index, _, _, found,
          .refused denial, (Option.some.inj taken).symm⟩)))))
      · cases taken
  | finish index =>
      simp only [guardStep] at taken
      split at taken
      · rename_i found
        exact Or.inr (Or.inr (Or.inr (Or.inr (Or.inr (Or.inl ⟨index, _, _, found, .forwarded,
          (Option.some.inj taken).symm⟩)))))
      · rename_i denial found
        exact Or.inr (Or.inr (Or.inr (Or.inr (Or.inr (Or.inl ⟨index, _, _, found,
          .refused denial, (Option.some.inj taken).symm⟩)))))
      · cases taken
  | publish event =>
      simp only [guardStep] at taken
      split at taken
      · cases taken
      · rename_i other
        exact Or.inr (Or.inr (Or.inr (Or.inr (Or.inr (Or.inr ⟨event, other,
          (Option.some.inj taken).symm⟩)))))

/-! ### Spending -/

/-- The counter rows every call of a run with this client address charges. -/
def Applicable (clientIp : Option String) (scope : Scope) (subject : String) : Prop :=
  ((scope = .globalDay ∨ scope = .globalMonth) ∧ subject = globalSubject) ∨
    ((scope = .ipDay ∨ scope = .ipMonth) ∧ clientIp = some subject)

/-- Admitted calls whose task has not been resumed yet are already paid for. -/
def GuardedCall.isPaid : GuardedCall → Bool
  | .replied .admitted => true
  | .forwarded _ => true
  | _ => false

theorem countersFor_charges {settings : QuotaSettings} {clientIp : Option String}
    {now : Datetime} {counters : List Counter}
    (built : countersFor clientIp settings now = some counters) {scope : Scope} {subject : String}
    (applicable : Applicable clientIp scope subject) :
    1 ≤ (counters.map Counter.key).countP
      (fun key => decide (key.scope = scope) && decide (key.subject = subject)) := by
  obtain ⟨utc, tomorrow, followingMonth, _, _, _, shape⟩ := countersFor_eq_some built
  rw [Nat.one_le_iff_ne_zero, ← Nat.pos_iff_ne_zero, List.countP_pos_iff]
  rw [shape]
  rcases applicable with ⟨scopes, rfl⟩ | ⟨scopes, rfl⟩
  · rcases scopes with rfl | rfl <;> simp [Counter.key]
  · rcases scopes with rfl | rfl <;> simp [Counter.key]

structure Spending (settings : QuotaSettings) (clientIp : Option String) (state : GuardState) :
    Prop where
  address : state.context.clientIp = clientIp
  built : ∀ call ∈ state.calls, ∀ counters, call = .checking counters →
    ∃ now, countersFor clientIp settings now = some counters
  paid : ∀ scope subject, Applicable clientIp scope subject →
    state.calls.countP GuardedCall.isPaid ≤ chargedUnits state scope subject

theorem Spending.setCall {settings : QuotaSettings} {clientIp : Option String}
    {state : GuardState} (spending : Spending settings clientIp state) {index : Nat}
    {old new : GuardedCall} (found : state.calls[index]? = some old)
    (notChecking : ∀ counters, new ≠ .checking counters)
    (notPaid : new.isPaid = true → old.isPaid = true) :
    Spending settings clientIp (state.setCall index new) := by
  constructor
  · exact spending.address
  · refine forall_mem_set spending.built ?_
    intro counters same
    exact absurd same (notChecking counters)
  · intro scope subject applicable
    have before := spending.paid scope subject applicable
    have balance := countP_set_balance GuardedCall.isPaid new found
    change (state.calls.set index new).countP GuardedCall.isPaid ≤ chargedUnits state scope subject
    cases newPaid : new.isPaid with
    | false => simp only [newPaid, Bool.false_eq_true, if_false] at balance; omega
    | true => simp only [newPaid, notPaid newPaid, if_true] at balance; omega

theorem spending_step {settings : QuotaSettings} {clientIp : Option String}
    {state next : GuardState} {action : GuardAction}
    (spending : Spending settings clientIp state)
    (taken : guardStep settings state action = some next) :
    Spending settings clientIp next := by
  rcases guardStep_cases taken with ⟨call, rfl, fresh⟩ |
    ⟨index, counters, applied, call, found, concluded, rfl⟩ | ⟨index, reply, call, found, kinds, rfl⟩ |
    ⟨index, found, rfl⟩ | ⟨index, reply, ts, denial, found, rfl⟩ |
    ⟨index, old, new, found, ends, rfl⟩ | ⟨event, other, rfl⟩
  · have unpaid : call.isPaid = false := by
      rcases fresh with rfl | ⟨_, _, rfl, _⟩ <;> rfl
    constructor
    · exact spending.address
    · refine forall_mem_append_singleton spending.built ?_
      intro counters same
      rcases fresh with rfl | ⟨now, sameCounters, rfl, built⟩
      · cases same
      · cases same
        rw [spending.address] at built
        exact ⟨now, built⟩
    · intro scope subject applicable
      change (state.calls ++ [call]).countP GuardedCall.isPaid ≤ chargedUnits state scope subject
      rw [List.countP_append, List.countP_singleton, unpaid]
      exact spending.paid scope subject applicable
  · cases applied with
    | false =>
        apply spending.setCall found
        · rintro other rfl
          rcases concluded with same | ⟨_, same, _⟩ <;> cases same
        · intro paid
          rcases concluded with rfl | ⟨reply, rfl, admits⟩
          · cases paid
          · cases reply with
            | admitted => cases admits rfl
            | denied denial => cases paid
            | failed => cases paid
    | true =>
        obtain ⟨now, built⟩ := spending.built _ (List.mem_of_getElem? found) counters rfl
        constructor
        · exact spending.address
        · refine forall_mem_set spending.built ?_
          rintro other rfl
          rcases concluded with same | ⟨_, same, _⟩ <;> cases same
        · intro scope subject applicable
          have before := spending.paid scope subject applicable
          have unit := countersFor_charges built applicable
          have balance := countP_set_balance GuardedCall.isPaid call found
          change (state.calls.set index call).countP GuardedCall.isPaid ≤
            (state.charged ++ counters.map Counter.key).countP _
          rw [List.countP_append]
          unfold chargedUnits at before
          have atMostOne : (if call.isPaid = true then 1 else 0) ≤ 1 := by split <;> omega
          omega
  · apply spending.setCall found
    · rintro counters rfl
      rcases kinds with same | same <;> cases same
    · intro paid
      rcases kinds with rfl | rfl <;> cases paid
  · apply spending.setCall found
    · intro counters same
      cases same
    · exact fun _ => rfl
  · have refusedCall : Spending settings clientIp
        (state.setCall index (.refused denial false)) := by
      apply spending.setCall found
      · intro counters same
        cases same
      · intro paid
        cases paid
    refine ⟨?_, refusedCall.built, refusedCall.paid⟩
    change (state.context.recordDenial ts denial).clientIp = clientIp
    unfold RunQuotaContext.recordDenial
    split <;> exact spending.address
  · apply spending.setCall found
    · rintro counters rfl
      cases ends
    · intro paid
      cases ends with
      | forwarded => rfl
      | refused denial => cases paid
  · exact ⟨spending.address, spending.built, spending.paid⟩

/-! ### Reporting -/

/-- The quota events on a queue are those of the first denial, once. -/
def ReportsFirst (runId : String) (denials : List QuotaDenial) (queue : List StepEvent) : Prop :=
  match denials with
  | [] => quotaEvents queue = []
  | first :: _ => ∃ ts, quotaEvents queue = [quotaExceeded runId ts first]

structure Reporting (runId : String) (hasQueue : Bool) (state : GuardState) : Prop where
  run : state.context.runId = runId
  queued : state.context.events.isSome = hasQueue
  counted : state.context.denials.length = refusedCalls state
  reported : ∀ queue, state.context.events = some queue →
    ReportsFirst runId state.context.denials queue

theorem Reporting.setCall {runId : String} {hasQueue : Bool} {state : GuardState}
    (reporting : Reporting runId hasQueue state) {index : Nat} {old new : GuardedCall}
    (found : state.calls[index]? = some old) (same : new.isRefused = old.isRefused) :
    Reporting runId hasQueue (state.setCall index new) := by
  refine ⟨reporting.run, reporting.queued, ?_, reporting.reported⟩
  have counted := reporting.counted
  unfold refusedCalls at counted ⊢
  change _ = (state.calls.set index new).countP GuardedCall.isRefused
  rw [countP_set_of_same GuardedCall.isRefused found same]
  exact counted

theorem reportsFirst_put_other {runId : String} {denials : List QuotaDenial}
    {queue : List StepEvent} {event : StepEvent} (other : event.type ≠ .llmQuotaExceeded)
    (reports : ReportsFirst runId denials queue) :
    ReportsFirst runId denials (queue ++ [event]) := by
  have same : quotaEvents (queue ++ [event]) = quotaEvents queue := by
    rw [quotaEvents, List.filter_append, List.filter_singleton, decide_eq_false other]
    exact List.append_nil _
  unfold ReportsFirst at reports ⊢
  rw [same]
  exact reports

theorem reportsFirst_recordDenial {runId : String} {context : RunQuotaContext}
    (run : context.runId = runId)
    (reported : ∀ queue, context.events = some queue → ReportsFirst runId context.denials queue)
    (ts : String) (denial : QuotaDenial) (queue : List StepEvent)
    (queueAt : (context.recordDenial ts denial).events = some queue) :
    ReportsFirst runId (context.recordDenial ts denial).denials queue := by
  unfold RunQuotaContext.recordDenial at queueAt ⊢
  cases denialsAt : context.denials with
  | nil =>
      rw [denialsAt] at queueAt
      obtain ⟨before, beforeAt, rfl⟩ := Option.map_eq_some_iff.mp queueAt
      have silent := reported before beforeAt
      rw [denialsAt] at silent
      change quotaEvents before = [] at silent
      refine ⟨ts, ?_⟩
      rw [quotaEvents, List.filter_append]
      change quotaEvents before ++ [quotaExceeded context.runId ts denial] = _
      rw [silent, run]
      rfl
  | cons first rest =>
      rw [denialsAt] at queueAt
      have told := reported queue queueAt
      rw [denialsAt] at told
      exact told

theorem reporting_step {settings : QuotaSettings} {runId : String} {hasQueue : Bool}
    {state next : GuardState} {action : GuardAction}
    (reporting : Reporting runId hasQueue state)
    (taken : guardStep settings state action = some next) :
    Reporting runId hasQueue next := by
  rcases guardStep_cases taken with ⟨call, rfl, fresh⟩ |
    ⟨index, counters, applied, call, found, concluded, rfl⟩ | ⟨index, reply, call, found, kinds, rfl⟩ |
    ⟨index, found, rfl⟩ | ⟨index, reply, ts, denial, found, rfl⟩ |
    ⟨index, old, new, found, ends, rfl⟩ | ⟨event, other, rfl⟩
  · refine ⟨reporting.run, reporting.queued, ?_, reporting.reported⟩
    have notRefused : call.isRefused = false := by
      rcases fresh with rfl | ⟨_, _, rfl, _⟩ <;> rfl
    change _ = (state.calls ++ [call]).countP GuardedCall.isRefused
    rw [List.countP_append, List.countP_singleton, notRefused]
    exact reporting.counted
  · have charged : Reporting runId hasQueue (state.chargeIf applied counters) := by
      unfold GuardState.chargeIf
      split
      · exact ⟨reporting.run, reporting.queued, reporting.counted, reporting.reported⟩
      · exact reporting
    have sameCalls : (state.chargeIf applied counters).calls = state.calls := by
      unfold GuardState.chargeIf
      split <;> rfl
    rw [← sameCalls] at found
    apply charged.setCall found
    rcases concluded with rfl | ⟨reply, rfl, _⟩ <;> rfl
  · apply reporting.setCall found
    rcases kinds with rfl | rfl <;> rfl
  · exact reporting.setCall found rfl
  · have appended : (state.context.recordDenial ts denial).denials =
        state.context.denials ++ [denial] := by
      unfold RunQuotaContext.recordDenial
      split <;> rfl
    refine ⟨?_, ?_, ?_, ?_⟩
    · change (state.context.recordDenial ts denial).runId = runId
      unfold RunQuotaContext.recordDenial
      split <;> exact reporting.run
    · change (state.context.recordDenial ts denial).events.isSome = hasQueue
      unfold RunQuotaContext.recordDenial
      split
      · change (state.context.events.map _).isSome = hasQueue
        rw [Option.isSome_map]
        exact reporting.queued
      · exact reporting.queued
    · have counted := reporting.counted
      have balance := countP_set_balance GuardedCall.isRefused (.refused denial false) found
      change (state.context.recordDenial ts denial).denials.length =
        (state.calls.set index (.refused denial false)).countP GuardedCall.isRefused
      rw [appended, List.length_append, counted]
      unfold refusedCalls
      simp only [GuardedCall.isRefused, Bool.false_eq_true, if_false, if_true, Nat.add_zero]
        at balance
      rw [balance]
      rfl
    · exact reportsFirst_recordDenial reporting.run reporting.reported ts denial
  · apply reporting.setCall found
    cases ends <;> rfl
  · refine ⟨reporting.run, ?_, reporting.counted, ?_⟩
    · change (state.context.events.map _).isSome = hasQueue
      rw [Option.isSome_map]
      exact reporting.queued
    · intro queue queueAt
      obtain ⟨before, beforeAt, rfl⟩ := Option.map_eq_some_iff.mp queueAt
      exact reportsFirst_put_other other (reporting.reported before beforeAt)

/-! ### Every schedule -/

theorem reporting_start (runId : String) (hasQueue : Bool) (clientIp : Option String) :
    Reporting runId hasQueue (GuardState.start runId hasQueue clientIp) := by
  refine ⟨rfl, ?_, rfl, ?_⟩
  · cases hasQueue <;> rfl
  · intro queue queueAt
    cases hasQueue with
    | false => cases queueAt
    | true =>
        cases queueAt
        rfl

theorem Reporting.told_once {runId : String} {hasQueue : Bool} {state : GuardState}
    (reporting : Reporting runId hasQueue state) {queue : List StepEvent}
    (queueAt : state.context.events = some queue) :
    (refusedCalls state = 0 → quotaEvents queue = []) ∧
      (0 < refusedCalls state → ∃ first ts, state.context.denials.head? = some first ∧
        quotaEvents queue = [quotaExceeded runId ts first]) := by
  have counted := reporting.counted
  have reports := reporting.reported queue queueAt
  cases denialsAt : state.context.denials with
  | nil =>
      rw [denialsAt] at reports counted
      refine ⟨fun _ => reports, fun some_ => ?_⟩
      rw [← counted] at some_
      cases some_
  | cons first rest =>
      rw [denialsAt] at reports counted
      obtain ⟨ts, told⟩ := reports
      refine ⟨fun none_ => ?_, fun _ => ⟨first, ts, rfl, told⟩⟩
      rw [none_] at counted
      cases counted

theorem summary_eq_nil_iff (context : RunQuotaContext) :
    context.summary = [] ↔ context.denials.length = 0 := by
  unfold RunQuotaContext.summary
  cases context.denials with
  | nil => exact ⟨fun _ => rfl, fun _ => rfl⟩
  | cons first rest =>
      constructor
      · intro impossible
        cases impossible
      · intro impossible
        cases impossible

theorem summary_of_first {context : RunQuotaContext} {first : QuotaDenial}
    (firstAt : context.denials.head? = some first) :
    context.summary =
      [("llm_quota_exceeded", .scalar (.flag true)), ("llm_quota", .record first.asDict),
        ("llm_calls_on_mock", .scalar (.number context.denials.length))] := by
  unfold RunQuotaContext.summary
  cases denialsAt : context.denials with
  | nil =>
      rw [denialsAt] at firstAt
      cases firstAt
  | cons head rest =>
      rw [denialsAt] at firstAt
      cases firstAt
      rfl

/-- Under every schedule of checks, failures, expiries and cancellations, no
call reaches the real model without a charged unit on each of its counters, and
the run's denials, its quota event and its summary account for exactly the
refused calls. -/
theorem guarded_calls_accounted (settings : QuotaSettings) (runId : String) (hasQueue : Bool)
    (clientIp : Option String) (schedule : List GuardAction) (state : GuardState)
    (ran : runFrom (guardStep settings) (GuardState.start runId hasQueue clientIp) schedule =
      some state) :
    (forwardedCalls state ≤ chargedUnits state .globalDay globalSubject ∧
        forwardedCalls state ≤ chargedUnits state .globalMonth globalSubject) ∧
      (∀ ip, clientIp = some ip →
        forwardedCalls state ≤ chargedUnits state .ipDay ip ∧
          forwardedCalls state ≤ chargedUnits state .ipMonth ip) ∧
      state.context.denials.length = refusedCalls state ∧
      state.context.events.isSome = hasQueue ∧
      (∀ queue, state.context.events = some queue →
        (refusedCalls state = 0 → quotaEvents queue = []) ∧
          (0 < refusedCalls state → ∃ first ts, state.context.denials.head? = some first ∧
            quotaEvents queue = [quotaExceeded runId ts first])) ∧
      (state.context.summary = [] ↔ refusedCalls state = 0) ∧
      (∀ first, state.context.denials.head? = some first →
        state.context.summary =
          [("llm_quota_exceeded", .scalar (.flag true)), ("llm_quota", .record first.asDict),
            ("llm_calls_on_mock", .scalar (.number (refusedCalls state)))]) := by
  have spending : Spending settings clientIp state :=
    runFrom_invariant (fun _ _ _ => spending_step)
      ⟨rfl, fun _ absent => (by cases absent), fun _ _ _ => Nat.zero_le _⟩ ran
  have reporting : Reporting runId hasQueue state :=
    runFrom_invariant (fun _ _ _ => reporting_step) (reporting_start runId hasQueue clientIp) ran
  have forwardedPaid : forwardedCalls state ≤ state.calls.countP GuardedCall.isPaid := by
    apply List.countP_mono_left
    intro call _ forwarded
    cases call <;> first | rfl | cases forwarded
  have covered (scope : Scope) (subject : String) (applicable : Applicable clientIp scope subject) :
      forwardedCalls state ≤ chargedUnits state scope subject :=
    Nat.le_trans forwardedPaid (spending.paid scope subject applicable)
  have counted := reporting.counted
  refine ⟨⟨covered _ _ (Or.inl ⟨Or.inl rfl, rfl⟩), covered _ _ (Or.inl ⟨Or.inr rfl, rfl⟩)⟩,
    fun ip known => ⟨covered _ _ (Or.inr ⟨Or.inl rfl, known⟩),
      covered _ _ (Or.inr ⟨Or.inr rfl, known⟩)⟩, counted, reporting.queued, ?_, ?_, ?_⟩
  · exact fun queue queueAt => reporting.told_once queueAt
  · rw [← counted]
    exact summary_eq_nil_iff state.context
  · intro first firstAt
    rw [← counted]
    exact summary_of_first firstAt

theorem guarded_calls_accounted_one_refused :
    ∃ state, runFrom (guardStep defaultQuotas)
        (GuardState.start "run" true (some "198.51.100.1"))
        [.begin novemberNoon.toDatetime, .begin novemberNoon.toDatetime, .settle 1 (.fail true),
          .settle 0 .accept, .resume 1 "2026-11-07T12:00:00+00:00", .resume 0 ""] = some state ∧
      state.context.denials.length = refusedCalls state := by
  have built : countersFor (some "198.51.100.1") defaultQuotas novemberNoon.toDatetime =
      some (novemberCall defaultQuotas).counters := (novemberCall defaultQuotas).built
  have runs : (runFrom (guardStep defaultQuotas)
      (GuardState.start "run" true (some "198.51.100.1"))
      [.begin novemberNoon.toDatetime, .begin novemberNoon.toDatetime, .settle 1 (.fail true),
        .settle 0 .accept, .resume 1 "2026-11-07T12:00:00+00:00", .resume 0 ""]).isSome = true := by
    simp only [runFrom, guardStep, GuardState.start, built]
    rfl
  obtain ⟨state, ran⟩ := Option.isSome_iff_exists.mp runs
  exact ⟨state, ran, (guarded_calls_accounted _ _ _ _ _ state ran).2.2.1⟩

end AcdpPlayground.Quota

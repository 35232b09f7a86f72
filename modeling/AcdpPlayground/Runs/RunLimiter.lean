/-
`RunLimiter` of `playground/rate_limit.py` and `start_run` of `playground/api/runs.py`
with the tasks it creates. A slot is taken by `acquire` and given back in two places:
when `create_queue` raises, and by the done callback of the run's task.

`start_run` awaits nothing, so a request is one atomic step. A task ends by returning,
raising or being cancelled, also before it first runs; its callbacks run in a later
step. Clock readings are exact rationals. The limits of the settings do not change
during a run of the system.
-/

import AcdpPlayground.Foundation.TransitionRun
import AcdpPlayground.Foundation.TaskTable
import Mathlib.Data.Rat.Floor

namespace AcdpPlayground.Runs

open TransitionRun TaskTable

/-! ### The limiter -/

structure RunLimits where
  runRateLimitPerIp : Nat
  runRateLimitWindowSeconds : Nat
  maxConcurrentRuns : Nat
  perIp_pos : 0 < runRateLimitPerIp
  window_pos : 0 < runRateLimitWindowSeconds
  concurrent_pos : 0 < maxConcurrentRuns

def concurrencyRetryAfterSeconds : Int := 10

inductive RunLimitCode where
  | runRateLimited
  | maxConcurrentRuns
  deriving DecidableEq

structure RunLimitExceeded where
  code : RunLimitCode
  limit : Nat
  retryAfter : Int
  message : String
  deriving DecidableEq

/-- `_launches` maps an address to its deque, oldest launch first. -/
structure RunLimiter where
  launches : List (String × List ℚ)
  active : Int

namespace RunLimiter

def fresh : RunLimiter :=
  { launches := []
    active := 0 }

/-- `self._launches.get(client_ip, deque())`. -/
def launchesOf (limiter : RunLimiter) (clientIp : String) : List ℚ :=
  (limiter.launches.lookup clientIp).getD []

/-- `self._launches[client_ip] = launches`. -/
def setLaunches (limiter : RunLimiter) (clientIp : String) (deque : List ℚ) : RunLimiter :=
  { limiter with
    launches :=
      if limiter.launches.any (fun entry => entry.1 == clientIp) then
        limiter.launches.map (fun entry =>
          if entry.1 == clientIp then (clientIp, deque) else entry)
      else limiter.launches ++ [(clientIp, deque)] }

def prune (limiter : RunLimiter) (cutoff : ℚ) : RunLimiter :=
  if limiter.launches.length < 1024 then limiter
  else
    { limiter with
      launches := limiter.launches.filter (fun entry =>
        entry.2.getLast?.any (fun latest => decide (cutoff < latest))) }

/-- A refusal by the rate limit keeps the entry it created and the launches it dropped. -/
def acquire (limits : RunLimits) (limiter : RunLimiter) (clientIp : Option String) (now : ℚ) :
    Except RunLimitExceeded Unit × RunLimiter :=
  if (limits.maxConcurrentRuns : Int) ≤ limiter.active then
    (.error
      { code := .maxConcurrentRuns
        limit := limits.maxConcurrentRuns
        retryAfter := concurrencyRetryAfterSeconds
        message := toString limiter.active ++ " runs already in flight (limit " ++
          toString limits.maxConcurrentRuns ++ ")" }, limiter)
  else
    match clientIp with
    | none => (.ok (), { limiter with active := limiter.active + 1 })
    | some ip =>
        let window : ℚ := limits.runRateLimitWindowSeconds
        let recent := (limiter.launchesOf ip).dropWhile (fun launch => launch ≤ now - window)
        let dropped := limiter.setLaunches ip recent
        if limits.runRateLimitPerIp ≤ recent.length then
          (.error
            { code := .runRateLimited
              limit := limits.runRateLimitPerIp
              retryAfter := max 1 ⌈recent.headD now + window - now⌉
              message := "at most " ++ toString limits.runRateLimitPerIp ++ " runs per " ++
                toString limits.runRateLimitWindowSeconds ++ " s per client" }, dropped)
        else
          let recorded := (dropped.setLaunches ip (recent ++ [now])).prune (now - window)
          (.ok (), { recorded with active := recorded.active + 1 })

def release (limiter : RunLimiter) : RunLimiter :=
  { limiter with active := max 0 (limiter.active - 1) }

@[simp]
theorem setLaunches_active (limiter : RunLimiter) (clientIp : String) (deque : List ℚ) :
    (limiter.setLaunches clientIp deque).active = limiter.active := rfl

@[simp]
theorem prune_active (limiter : RunLimiter) (cutoff : ℚ) :
    (limiter.prune cutoff).active = limiter.active := by
  unfold prune
  split <;> rfl

/-- `acquire` takes a slot exactly when it does not raise, and only a free one. -/
theorem acquire_active (limits : RunLimits) (limiter : RunLimiter) (clientIp : Option String)
    (now : ℚ) :
    ((limiter.acquire limits clientIp now).1 = .ok () ∧
        limiter.active < limits.maxConcurrentRuns ∧
        (limiter.acquire limits clientIp now).2.active = limiter.active + 1) ∨
      (∃ refusal, (limiter.acquire limits clientIp now).1 = .error refusal ∧
        (limiter.acquire limits clientIp now).2.active = limiter.active) := by
  unfold acquire
  split
  · exact .inr ⟨_, rfl, rfl⟩
  · next free =>
      have below : limiter.active < limits.maxConcurrentRuns := not_le.mp free
      cases clientIp with
      | none => exact .inl ⟨rfl, below, rfl⟩
      | some ip =>
          simp only
          split
          · exact .inr ⟨_, rfl, setLaunches_active _ _ _⟩
          · refine .inl ⟨rfl, below, ?_⟩
            simp only [prune_active, setLaunches_active]

end RunLimiter

/-! ### Requests and tasks -/

inductive RunTask where
  | scheduled
  | running
  | done
  | finished
  deriving DecidableEq

/-- Admitted and not finished: the done callbacks have not run yet. -/
def RunTask.isUnfinished : RunTask → Bool
  | .finished => false
  | _ => true

/-- `releases` lists the value of `active` at each call of `release`, oldest first. -/
structure LaunchState where
  limiter : RunLimiter
  tasks : List RunTask
  releases : List Int

structure LaunchRequest where
  scenarioId : String
  clientIp : Option String
  now : ℚ
  createQueueFails : Bool

inductive LaunchReply where
  | unknownScenario
  | tooManyRequests (refusal : RunLimitExceeded)
  | raised
  | accepted

inductive LaunchAction where
  | startRun (request : LaunchRequest)
  | taskStarts (index : Nat)
  | taskEnds (index : Nat)
  | callbacksRun (index : Nat)

structure LaunchSetup where
  limits : RunLimits
  scenarios : List String

def LaunchState.initial : LaunchState :=
  { limiter := RunLimiter.fresh
    tasks := []
    releases := [] }

def LaunchState.release (state : LaunchState) : LaunchState :=
  { state with
    limiter := state.limiter.release
    releases := state.releases ++ [state.limiter.active] }

def startRun (setup : LaunchSetup) (state : LaunchState) (request : LaunchRequest) :
    LaunchReply × LaunchState :=
  if setup.scenarios.contains request.scenarioId then
    let acquired := state.limiter.acquire setup.limits request.clientIp request.now
    let charged := { state with limiter := acquired.2 }
    match acquired.1 with
    | .error refusal => (.tooManyRequests refusal, charged)
    | .ok () =>
        if request.createQueueFails then (.raised, charged.release)
        else (.accepted, { charged with tasks := charged.tasks ++ [.scheduled] })
  else (.unknownScenario, state)

def launchStep (setup : LaunchSetup) (state : LaunchState) : LaunchAction → Option LaunchState
  | .startRun request => some (startRun setup state request).2
  | .taskStarts index =>
      match state.tasks[index]? with
      | some .scheduled => some { state with tasks := state.tasks.set index .running }
      | _ => none
  | .taskEnds index =>
      match state.tasks[index]? with
      | some .scheduled | some .running =>
          some { state with tasks := state.tasks.set index .done }
      | _ => none
  | .callbacksRun index =>
      match state.tasks[index]? with
      | some .done => some { state.release with tasks := state.tasks.set index .finished }
      | _ => none

/-! ### Slots -/

structure SlotsExact (limits : RunLimits) (state : LaunchState) : Prop where
  exact : state.limiter.active = state.tasks.countP RunTask.isUnfinished
  bounded : state.limiter.active ≤ limits.maxConcurrentRuns
  clampIdle : ∀ active ∈ state.releases, 0 < active ∧ max 0 (active - 1) = active - 1
  drained : (∀ task ∈ state.tasks, task = .finished) → state.limiter.active = 0

structure SlotInvariant (limits : RunLimits) (state : LaunchState) : Prop where
  exact : state.limiter.active = state.tasks.countP RunTask.isUnfinished
  bounded : state.limiter.active ≤ limits.maxConcurrentRuns
  positive : ∀ active ∈ state.releases, 0 < active

theorem release_active {limiter : RunLimiter} (taken : 0 < limiter.active) :
    limiter.release.active = limiter.active - 1 :=
  max_eq_right (by omega)

theorem positive_release {state : LaunchState} (taken : 0 < state.limiter.active)
    (positive : ∀ active ∈ state.releases, 0 < active) :
    ∀ active ∈ state.release.releases, 0 < active :=
  forall_mem_append_singleton positive taken

theorem startRun_invariant {setup : LaunchSetup} {state : LaunchState}
    (request : LaunchRequest) (invariant : SlotInvariant setup.limits state) :
    SlotInvariant setup.limits (startRun setup state request).2 := by
  have nonneg : 0 ≤ state.limiter.active := by
    rw [invariant.exact]
    exact Int.natCast_nonneg _
  unfold startRun
  split
  · rcases state.limiter.acquire_active setup.limits request.clientIp request.now with
      ⟨granted, below, more⟩ | ⟨refusal, refused, same⟩
    · simp only [granted]
      split
      · -- The slot just taken is given back before the request ends.
        have taken : 0 < (state.limiter.acquire setup.limits request.clientIp
            request.now).2.active := by
          rw [more]
          omega
        refine ⟨?_, ?_, positive_release taken invariant.positive⟩
        · change RunLimiter.active (RunLimiter.release _) = _
          rw [release_active taken, more, Int.add_sub_cancel]
          exact invariant.exact
        · change RunLimiter.active (RunLimiter.release _) ≤ _
          rw [release_active taken, more, Int.add_sub_cancel]
          exact invariant.bounded
      · refine ⟨?_, ?_, invariant.positive⟩
        · change (state.limiter.acquire setup.limits request.clientIp request.now).2.active =
            ((state.tasks ++ [RunTask.scheduled]).countP RunTask.isUnfinished : Int)
          rw [more, List.countP_append, invariant.exact]
          rfl
        · change (state.limiter.acquire setup.limits request.clientIp request.now).2.active ≤ _
          rw [more]
          omega
    · simp only [refused]
      refine ⟨?_, ?_, invariant.positive⟩
      · rw [same]
        exact invariant.exact
      · rw [same]
        exact invariant.bounded
  · exact invariant

theorem unfinished_set_of_same {state : LaunchState} {limits : RunLimits} {index : Nat}
    {old new : RunTask} (invariant : SlotInvariant limits state)
    (found : state.tasks[index]? = some old)
    (same : new.isUnfinished = old.isUnfinished) :
    SlotInvariant limits { state with tasks := state.tasks.set index new } := by
  refine ⟨?_, invariant.bounded, invariant.positive⟩
  rw [countP_set_of_same RunTask.isUnfinished found same]
  exact invariant.exact

theorem callbacksRun_invariant {state : LaunchState} {limits : RunLimits} {index : Nat}
    (invariant : SlotInvariant limits state) (found : state.tasks[index]? = some .done) :
    SlotInvariant limits { state.release with tasks := state.tasks.set index .finished } := by
  have balance : (state.tasks.set index .finished).countP RunTask.isUnfinished + 1 =
      state.tasks.countP RunTask.isUnfinished :=
    countP_set_balance RunTask.isUnfinished .finished found
  have counted := invariant.exact
  have taken : 0 < state.limiter.active := by omega
  refine ⟨?_, ?_, positive_release taken invariant.positive⟩
  · change state.limiter.release.active = _
    rw [release_active taken]
    simp only
    omega
  · change state.limiter.release.active ≤ _
    rw [release_active taken]
    have bound := invariant.bounded
    omega

theorem launchStep_invariant {setup : LaunchSetup} (state : LaunchState)
    (action : LaunchAction) (next : LaunchState) (invariant : SlotInvariant setup.limits state)
    (taken : launchStep setup state action = some next) : SlotInvariant setup.limits next := by
  cases action with
  | startRun request =>
      cases taken
      exact startRun_invariant request invariant
  | taskStarts index =>
      simp only [launchStep] at taken
      split at taken
      · next found =>
          cases taken
          exact unfinished_set_of_same invariant found rfl
      · cases taken
  | taskEnds index =>
      simp only [launchStep] at taken
      split at taken
      · next found =>
          cases taken
          exact unfinished_set_of_same invariant found rfl
      · next found =>
          cases taken
          exact unfinished_set_of_same invariant found rfl
      · cases taken
  | callbacksRun index =>
      simp only [launchStep] at taken
      split at taken
      · next found =>
          cases taken
          exact callbacksRun_invariant invariant found
      · cases taken

theorem initial_slotInvariant (limits : RunLimits) :
    SlotInvariant limits LaunchState.initial :=
  ⟨rfl, Int.natCast_nonneg _, fun _ member => absurd member List.not_mem_nil⟩

theorem slotsExact_of_invariant {limits : RunLimits} {state : LaunchState}
    (invariant : SlotInvariant limits state) : SlotsExact limits state := by
  refine ⟨invariant.exact, invariant.bounded, ?_, ?_⟩
  · intro active member
    have positive := invariant.positive active member
    exact ⟨positive, max_eq_right (by omega)⟩
  · intro finished
    rw [invariant.exact, List.countP_eq_zero.mpr]
    · rfl
    · intro task member
      rw [finished task member]
      exact Bool.false_ne_true

theorem concurrency_slots_exact (setup : LaunchSetup) {schedule : List LaunchAction}
    {state : LaunchState}
    (ran : runFrom (launchStep setup) LaunchState.initial schedule = some state) :
    SlotsExact setup.limits state :=
  slotsExact_of_invariant
    (runFrom_invariant launchStep_invariant (initial_slotInvariant setup.limits) ran)

def oneSlot : LaunchSetup :=
  { limits :=
      { runRateLimitPerIp := 5
        runRateLimitWindowSeconds := 600
        maxConcurrentRuns := 1
        perIp_pos := Nat.zero_lt_succ 4
        window_pos := Nat.zero_lt_succ 599
        concurrent_pos := Nat.one_pos }
    scenarios := ["s1"] }

def launch (createQueueFails : Bool) : LaunchAction :=
  .startRun
    { scenarioId := "s1"
      clientIp := some "203.0.113.7"
      now := 0
      createQueueFails := createQueueFails }

/-- A failed queue, an admitted run, a refusal, and a task cancelled before it runs. -/
theorem one_slot_cancelled_task_exact :
    ∃ state,
      runFrom (launchStep oneSlot) LaunchState.initial
        [launch true, launch false, launch false, .taskEnds 0, .callbacksRun 0] = some state ∧
        state.releases = [1, 1] ∧ SlotsExact oneSlot.limits state := by
  have runs : (runFrom (launchStep oneSlot) LaunchState.initial
      [launch true, launch false, launch false, .taskEnds 0, .callbacksRun 0]).map
        LaunchState.releases = some [1, 1] := by decide +kernel
  obtain ⟨state, ran, releases⟩ := Option.map_eq_some_iff.mp runs
  exact ⟨state, ran, releases, concurrency_slots_exact oneSlot ran⟩

end AcdpPlayground.Runs

/-
Requests of `AcdpClient` that were all sent with one cached token and are all
answered 401: `_retrying` invalidates, asks the manager for a token and sends the
request once more. The clients have a producer and a manager and no static bearer
token, and share one key of the manager.

The registry refuses the first token and accepts every token it mints later; those
stay fresh up to a fixed horizon of the clock. An exchange may also be broken off:
by an error of the registry or by the cancellation of the request that runs it.
-/

import AcdpPlayground.Auth.TokenManager

namespace AcdpPlayground.Auth

open TransitionRun

/-- The manager at the moment the last of the requests has been sent. -/
structure Rejection where
  key : TokenKey
  rejected : CachedToken
  manager : TokenManager
  cached : manager.cache key = some rejected
  unlocked : manager.locks key = Lock.unlocked
  start : ℚ
  horizon : ℚ
  started : start ≤ horizon

inductive Request where
  | sent
  | waiting
  | minting
  | retrying
  | ended
deriving DecidableEq

structure RetryState where
  now : ℚ
  manager : TokenManager
  requests : List Request
  roundTrips : Nat
  brokenOff : Nat
  minted : List CachedToken
  retries : List CachedToken

inductive RetryAction where
  | tick (now : ℚ)
  | unauthorized (index : Nat)
  | lockGranted
  | mintSucceeded (index : Nat) (cached : CachedToken)
  | mintFailed (index : Nat)
  | cancelled (index : Nat)
  | answered (index : Nat)

def Rejection.initial (setup : Rejection) (count : Nat) : RetryState :=
  { now := setup.start
    manager := setup.manager
    requests := List.replicate count .sent
    roundTrips := 0
    brokenOff := 0
    minted := []
    retries := [] }

/-- What `_retrying` does with the outcome of one segment of `token_for`: a token is
put into the headers and the request is sent again before anything else runs. -/
def RetryState.proceed (state : RetryState) (index : Nat)
    (outcome : TokenManager.Entry × TokenManager) : RetryState :=
  match outcome.1 with
  | .returned cached =>
      { state with
        manager := outcome.2
        requests := state.requests.set index .retrying
        retries := state.retries ++ [cached] }
  | .queued =>
      { state with
        manager := outcome.2
        requests := state.requests.set index .waiting }
  | .minting _ =>
      { state with
        manager := outcome.2
        requests := state.requests.set index .minting
        roundTrips := state.roundTrips + 1 }

/-- An exchange that ends without a token gives the lock back and its request ends
with the exception. -/
def RetryState.breakOff (state : RetryState) (key : TokenKey) (index : Nat) : RetryState :=
  { state with
    manager := state.manager.mintFailed key
    requests := state.requests.set index .ended
    brokenOff := state.brokenOff + 1 }

def retryStep (setup : Rejection) (state : RetryState) : RetryAction → Option RetryState
  | .tick now =>
      if state.now ≤ now ∧ now ≤ setup.horizon then some { state with now := now } else none
  | .unauthorized index =>
      match state.requests[index]? with
      | some .sent =>
          let dropped :=
            { state with manager := state.manager.invalidate setup.key .reactive401 }
          some (dropped.proceed index (dropped.manager.tokenFor setup.key state.now index))
      | _ => none
  | .lockGranted =>
      match state.manager.lockGranted setup.key state.now with
      | some (index, outcome) => some (state.proceed index outcome)
      | none => none
  | .mintSucceeded index cached =>
      match state.requests[index]? with
      | some .minting =>
          -- Accepted and fresh up to the horizon: not the token it refuses.
          if cached ≠ setup.rejected ∧ cached.isFresh state.manager.leeway setup.horizon then
            some
              { state with
                manager := state.manager.mintSucceeded setup.key cached
                requests := state.requests.set index .retrying
                minted := state.minted ++ [cached]
                retries := state.retries ++ [cached] }
          else none
      | _ => none
  | .mintFailed index =>
      match state.requests[index]? with
      | some .minting => some (state.breakOff setup.key index)
      | _ => none
  | .cancelled index =>
      match state.requests[index]? with
      | some .sent | some .retrying =>
          some { state with requests := state.requests.set index .ended }
      | some .waiting =>
          some
            { state with
              manager := state.manager.waiterCancelled setup.key index
              requests := state.requests.set index .ended }
      | some .minting => some (state.breakOff setup.key index)
      | _ => none
  | .answered index =>
      match state.requests[index]? with
      | some .retrying => some { state with requests := state.requests.set index .ended }
      | _ => none

/-! ### One re-mint -/

/-- At most one exchange beyond those broken off, and every retry carries the token
it minted. -/
structure OneRemint (state : RetryState) : Prop where
  roundTrips : state.roundTrips ≤ state.brokenOff + 1
  retried : ∀ cached ∈ state.retries, state.minted = [cached]

/-- A 401 is handled while the cache holds the rejected token or none: no later token
is there for `invalidate` to drop. -/
def BeforeRemint (setup : Rejection) (state : RetryState) : RetryAction → Prop
  | .unauthorized _ => ∀ cached ∈ state.manager.cache setup.key, cached = setup.rejected
  | _ => True

instance (setup : Rejection) (state : RetryState) (action : RetryAction) :
    Decidable (BeforeRemint setup state action) :=
  match action with
  | .unauthorized _ =>
      inferInstanceAs
        (Decidable (∀ cached ∈ state.manager.cache setup.key, cached = setup.rejected))
  | .tick _ | .lockGranted | .mintSucceeded _ _ | .mintFailed _ | .cancelled _
  | .answered _ => .isTrue trivial

/-- The three stages of the key: the rejected token still cached, dropped, replaced. -/
inductive Stage (setup : Rejection) (state : RetryState) : Prop where
  | untouched
      (cached : state.manager.cache setup.key = some setup.rejected)
      (unlocked : state.manager.locks setup.key = Lock.unlocked)
      (idle : state.roundTrips = 0 ∧ state.brokenOff = 0)
      (unsent : state.minted = [] ∧ state.retries = [])
  | dropped
      (missing : state.manager.cache setup.key = none)
      (exchanges : state.roundTrips =
        state.brokenOff + (state.manager.locks setup.key).holder.isSome.toNat)
      (unsent : state.minted = [] ∧ state.retries = [])
  | replaced (token : CachedToken)
      (cached : state.manager.cache setup.key = some token)
      (accepted : token ≠ setup.rejected)
      (fresh : token.isFresh state.manager.leeway setup.horizon = true)
      (released : (state.manager.locks setup.key).holder = none)
      (exchanges : state.roundTrips = state.brokenOff + 1)
      (minted : state.minted = [token])
      (retried : ∀ cached ∈ state.retries, cached = token)

structure RetryInvariant (setup : Rejection) (state : RetryState) : Prop where
  clock : state.now ≤ setup.horizon
  holds : ∀ index : Nat, state.requests[index]? = some .minting →
    (state.manager.locks setup.key).holder = some index
  stage : Stage setup state

theorem initial_invariant (setup : Rejection) (count : Nat) :
    RetryInvariant setup (setup.initial count) := by
  refine ⟨setup.started, ?_, .untouched setup.cached setup.unlocked ⟨rfl, rfl⟩ ⟨rfl, rfl⟩⟩
  intro index found
  change (List.replicate count Request.sent)[index]? = some .minting at found
  have impossible := List.eq_of_mem_replicate (List.mem_of_getElem? found)
  cases impossible

theorem isFresh_mono {cached : CachedToken} {leeway : Int} {now later : ℚ}
    (fresh : cached.isFresh leeway later = true) (earlier : now ≤ later) :
    cached.isFresh leeway now = true := by
  unfold CachedToken.isFresh at fresh ⊢
  rw [decide_eq_true_eq] at fresh ⊢
  exact lt_of_le_of_lt (add_le_add_left earlier _) fresh

theorem holds_after_set {requests : List Request} {index : Nat} {phase : Request}
    {before after : Option Nat}
    (holds : ∀ other : Nat, requests[other]? = some .minting → before = some other)
    (kept : ∀ other : Nat, other ≠ index → before = some other → after = some other)
    (phased : phase = .minting → after = some index) :
    ∀ other : Nat, (requests.set index phase)[other]? = some .minting →
      after = some other := by
  intro other found
  by_cases same : index = other
  · subst same
    rw [List.getElem?_set] at found
    split at found
    · split at found
      · exact phased (Option.some.inj found)
      · cases found
    · exact absurd rfl ‹_›
  · rw [List.getElem?_set_ne same] at found
    exact kept other (fun equal => same equal.symm) (holds other found)

/-! ### Steps -/

theorem tick_invariant {setup : Rejection} {state : RetryState} {now : ℚ}
    (invariant : RetryInvariant setup state) (bound : now ≤ setup.horizon) :
    RetryInvariant setup { state with now := now } := by
  refine ⟨bound, invariant.holds, ?_⟩
  cases invariant.stage with
  | untouched cached unlocked idle unsent => exact .untouched cached unlocked idle unsent
  | dropped missing exchanges unsent => exact .dropped missing exchanges unsent
  | replaced token cached accepted fresh released exchanges minted retried =>
      exact .replaced token cached accepted fresh released exchanges minted retried

theorem unlocked_of_rejected_cached {setup : Rejection} {state : RetryState}
    (invariant : RetryInvariant setup state)
    (present : state.manager.cache setup.key = some setup.rejected) :
    state.manager.locks setup.key = Lock.unlocked := by
  cases invariant.stage with
  | untouched _ unlocked _ _ => exact unlocked
  | dropped missing _ _ =>
      rw [missing] at present
      cases present
  | replaced token cached accepted _ _ _ _ _ =>
      rw [cached] at present
      exact absurd (Option.some.inj present) accepted

/-- A caller that takes the free lock mints when the key is empty and leaves with the
replacement when it is there. -/
theorem underLock_invariant {setup : Rejection} {state : RetryState} {index : Nat}
    {rest : List Nat} (invariant : RetryInvariant setup state)
    (touched : state.manager.cache setup.key ≠ some setup.rejected)
    (free : (state.manager.locks setup.key).holder = none) :
    RetryInvariant setup (state.proceed index
      ((state.manager.setLock setup.key { holder := some index, waiters := rest }).underLock
        setup.key state.now)) := by
  cases invariant.stage with
  | untouched cached _ _ _ => exact absurd cached touched
  | dropped missing exchanges unsent =>
      have miss : (state.manager.setLock setup.key
          { holder := some index, waiters := rest }).cachedFresh setup.key state.now = none :=
        TokenManager.cachedFresh_of_cache_none missing
      obtain ⟨reason, next, outcome, cache, locks, _⟩ := TokenManager.underLock_of_miss miss
      have holder : (next.locks setup.key).holder = some index := by
        rw [locks, TokenManager.setLock_locks]
      rw [outcome]
      refine ⟨invariant.clock, ?_, .dropped ?_ ?_ unsent⟩
      · change ∀ other : Nat, (state.requests.set index .minting)[other]? = some .minting →
          (next.locks setup.key).holder = some other
        rw [holder]
        apply holds_after_set invariant.holds
        · intro other _ held
          rw [free] at held
          cases held
        · intro _
          rfl
      · change next.cache setup.key = none
        rw [cache]
        exact missing
      · change state.roundTrips + 1 =
          state.brokenOff + (next.locks setup.key).holder.isSome.toNat
        rw [holder, exchanges, free]
        rfl
  | replaced token cached accepted fresh released exchanges minted retried =>
      have hit : (state.manager.setLock setup.key
          { holder := some index, waiters := rest }).cachedFresh setup.key state.now =
            some token :=
        TokenManager.cachedFresh_of_isFresh cached (isFresh_mono fresh invariant.clock)
      rw [TokenManager.underLock_of_cached hit]
      refine ⟨invariant.clock, ?_, .replaced token cached accepted fresh ?_ exchanges minted ?_⟩
      · apply holds_after_set invariant.holds
        · intro other _ held
          rw [free] at held
          cases held
        · intro same
          cases same
      · simp [RetryState.proceed, Lock.release]
      · intro other member
        change other ∈ state.retries ++ [token] at member
        rcases List.mem_append.mp member with old | last
        · exact retried other old
        · exact List.mem_singleton.mp last

theorem tokenFor_invariant {setup : Rejection} {state : RetryState} {index : Nat}
    (invariant : RetryInvariant setup state)
    (missing : state.manager.cache setup.key = none) :
    RetryInvariant setup
      (state.proceed index (state.manager.tokenFor setup.key state.now index)) := by
  have miss : state.manager.cachedFresh setup.key state.now = none :=
    TokenManager.cachedFresh_of_cache_none missing
  by_cases unlocked : state.manager.locks setup.key = Lock.unlocked
  · rw [TokenManager.tokenFor_of_unlocked miss unlocked]
    apply underLock_invariant invariant
    · rw [missing]
      intro same
      cases same
    · rw [unlocked]
      rfl
  · rw [TokenManager.tokenFor_of_busy miss unlocked]
    cases invariant.stage with
    | untouched cached _ _ _ =>
        rw [missing] at cached
        cases cached
    | replaced token cached _ _ _ _ _ _ =>
        rw [missing] at cached
        cases cached
    | dropped _ exchanges unsent =>
        refine ⟨invariant.clock, ?_, .dropped missing ?_ unsent⟩
        · apply holds_after_set invariant.holds
          · intro other _ held
            simp only [RetryState.proceed, TokenManager.setLock_locks]
            exact held
          · intro same
            cases same
        · simp only [RetryState.proceed, TokenManager.setLock_locks]
          exact exchanges

theorem unauthorized_invariant {setup : Rejection} {state : RetryState}
    (invariant : RetryInvariant setup state)
    (before : ∀ cached ∈ state.manager.cache setup.key, cached = setup.rejected) :
    RetryInvariant setup
      { state with manager := state.manager.invalidate setup.key .reactive401 } := by
  have missing : (state.manager.invalidate setup.key .reactive401).cache setup.key = none :=
    TokenManager.invalidate_cache _ _ _
  refine ⟨invariant.clock, invariant.holds, ?_⟩
  cases invariant.stage with
  | untouched _ unlocked idle unsent =>
      refine .dropped missing ?_ unsent
      rw [idle.1, idle.2, TokenManager.invalidate_locks, unlocked]
      rfl
  | dropped _ exchanges unsent => exact .dropped missing exchanges unsent
  | replaced token cached accepted _ _ _ _ _ => exact absurd (before token cached) accepted

theorem leave_invariant {setup : Rejection} {state : RetryState} {index : Nat}
    {manager : TokenManager} {phase : Request} (invariant : RetryInvariant setup state)
    (cache : manager.cache = state.manager.cache)
    (leeway : manager.leeway = state.manager.leeway)
    (holder : (manager.locks setup.key).holder = (state.manager.locks setup.key).holder)
    (waiters : state.manager.locks setup.key = Lock.unlocked →
      manager.locks setup.key = Lock.unlocked)
    (left : phase ≠ .minting) :
    RetryInvariant setup
      { state with manager := manager, requests := state.requests.set index phase } := by
  refine ⟨invariant.clock, ?_, ?_⟩
  · apply holds_after_set invariant.holds
    · intro other _ held
      rw [← held]
      exact holder
    · intro same
      exact absurd same left
  · cases invariant.stage with
    | untouched cached unlocked idle unsent =>
        refine .untouched ?_ (waiters unlocked) idle unsent
        rw [← cached]
        exact congrFun cache setup.key
    | dropped missing exchanges unsent =>
        refine .dropped ?_ ?_ unsent
        · rw [← missing]
          exact congrFun cache setup.key
        · rw [exchanges]
          exact congrArg (fun held => state.brokenOff + held.isSome.toNat) holder.symm
    | replaced token cached accepted fresh released exchanges minted retried =>
        refine .replaced token ?_ accepted ?_ ?_ exchanges minted retried
        · rw [← cached]
          exact congrFun cache setup.key
        · rw [← fresh]
          exact congrArg (fun seconds => token.isFresh seconds setup.horizon) leeway
        · rw [← released]
          exact holder

/-- Only a minting request holds the lock, and only while the key is empty. -/
theorem dropped_of_minting {setup : Rejection} {state : RetryState} {index : Nat}
    (invariant : RetryInvariant setup state)
    (minting : state.requests[index]? = some .minting) :
    state.manager.cache setup.key = none ∧ state.roundTrips = state.brokenOff + 1 ∧
      state.minted = [] ∧ state.retries = [] := by
  have holder := invariant.holds index minting
  cases invariant.stage with
  | untouched _ unlocked _ _ =>
      rw [unlocked] at holder
      cases holder
  | dropped missing exchanges unsent =>
      rw [holder] at exchanges
      exact ⟨missing, exchanges, unsent⟩
  | replaced _ _ _ _ released _ _ _ =>
      rw [released] at holder
      cases holder

theorem holds_after_release {setup : Rejection} {state : RetryState} {index : Nat}
    {phase : Request} (invariant : RetryInvariant setup state)
    (minting : state.requests[index]? = some .minting) (left : phase ≠ .minting) :
    ∀ other : Nat, (state.requests.set index phase)[other]? = some .minting →
      (none : Option Nat) = some other := by
  apply holds_after_set invariant.holds
  · intro other different held
    rw [invariant.holds index minting] at held
    exact absurd (Option.some.inj held).symm different
  · intro same
    exact absurd same left

theorem breakOff_invariant {setup : Rejection} {state : RetryState} {index : Nat}
    (invariant : RetryInvariant setup state)
    (minting : state.requests[index]? = some .minting) :
    RetryInvariant setup (state.breakOff setup.key index) := by
  obtain ⟨missing, exchanges, unsent⟩ := dropped_of_minting invariant minting
  have released : ((state.manager.mintFailed setup.key).locks setup.key).holder = none := by
    simp [TokenManager.mintFailed, Lock.release]
  refine ⟨invariant.clock, ?_, .dropped missing ?_ unsent⟩
  · simp only [RetryState.breakOff, released]
    exact holds_after_release invariant minting (fun same => by cases same)
  · simp only [RetryState.breakOff, released]
    exact exchanges

theorem mintSucceeded_invariant {setup : Rejection} {state : RetryState} {index : Nat}
    {cached : CachedToken} (invariant : RetryInvariant setup state)
    (minting : state.requests[index]? = some .minting)
    (accepted : cached ≠ setup.rejected)
    (fresh : cached.isFresh state.manager.leeway setup.horizon = true) :
    RetryInvariant setup
      { state with
        manager := state.manager.mintSucceeded setup.key cached
        requests := state.requests.set index .retrying
        minted := state.minted ++ [cached]
        retries := state.retries ++ [cached] } := by
  obtain ⟨_, exchanges, noMinted, noRetries⟩ := dropped_of_minting invariant minting
  have released :
      ((state.manager.mintSucceeded setup.key cached).locks setup.key).holder = none := by
    simp [TokenManager.mintSucceeded, Lock.release]
  refine ⟨invariant.clock, ?_,
    .replaced cached ?_ accepted fresh released exchanges ?_ ?_⟩
  · simp only [released]
    exact holds_after_release invariant minting (fun same => by cases same)
  · rw [TokenManager.mintSucceeded, TokenManager.setLock_cache, TokenManager.storeToken_cache]
  · simp [noMinted]
  · simp [noRetries]

theorem retryStep_invariant {setup : Rejection} {state next : RetryState} {action : RetryAction}
    (invariant : RetryInvariant setup state) (before : BeforeRemint setup state action)
    (taken : retryStep setup state action = some next) : RetryInvariant setup next := by
  cases action with
  | tick now =>
      simp only [retryStep] at taken
      split at taken
      · next bounds =>
          cases taken
          exact tick_invariant invariant bounds.2
      · cases taken
  | unauthorized index =>
      simp only [retryStep] at taken
      split at taken
      · cases taken
        exact tokenFor_invariant (unauthorized_invariant invariant before)
          (TokenManager.invalidate_cache _ _ _)
      · cases taken
  | lockGranted =>
      simp only [retryStep] at taken
      split at taken
      · next index outcome granted =>
          cases taken
          obtain ⟨rest, lock, same⟩ := TokenManager.lockGranted_eq_some granted
          rw [same]
          apply underLock_invariant invariant
          · intro cached
            have unlocked := unlocked_of_rejected_cached invariant cached
            rw [lock] at unlocked
            cases unlocked
          · rw [lock]
      · cases taken
  | mintSucceeded index cached =>
      simp only [retryStep] at taken
      split at taken
      · next minting =>
          split at taken
          · next answer =>
              cases taken
              exact mintSucceeded_invariant invariant minting answer.1 answer.2
          · cases taken
      · cases taken
  | mintFailed index =>
      simp only [retryStep] at taken
      split at taken
      · next minting =>
          cases taken
          exact breakOff_invariant invariant minting
      · cases taken
  | cancelled index =>
      simp only [retryStep] at taken
      split at taken
      · cases taken
        exact leave_invariant invariant rfl rfl rfl (fun same => same) (fun same => by cases same)
      · cases taken
        exact leave_invariant invariant rfl rfl rfl (fun same => same) (fun same => by cases same)
      · cases taken
        refine leave_invariant invariant rfl rfl ?_ ?_ (fun same => by cases same)
        · simp [TokenManager.waiterCancelled, Lock.forget]
        · intro unlocked
          simp [TokenManager.waiterCancelled, Lock.forget, unlocked, Lock.unlocked]
      · next minting =>
          cases taken
          exact breakOff_invariant invariant minting
      · cases taken
  | answered index =>
      simp only [retryStep] at taken
      split at taken
      · cases taken
        exact leave_invariant invariant rfl rfl rfl (fun same => same) (fun same => by cases same)
      · cases taken

/-! ### Whole runs -/

theorem oneRemint_of_invariant {setup : Rejection} {state : RetryState}
    (invariant : RetryInvariant setup state) : OneRemint state := by
  cases invariant.stage with
  | untouched _ _ idle unsent =>
      constructor
      · rw [idle.1]
        exact Nat.zero_le _
      · rw [unsent.2]
        intro cached member
        cases member
  | dropped _ exchanges unsent =>
      constructor
      · rw [exchanges]
        exact Nat.add_le_add_left (Bool.toNat_le _) _
      · rw [unsent.2]
        intro cached member
        cases member
  | replaced token _ _ _ _ exchanges minted retried =>
      refine ⟨Nat.le_of_eq exchanges, ?_⟩
      intro cached member
      rw [minted, retried cached member]

/-- When every 401 is handled before a later token is cached, the requests cause one
re-mint together and all retry with its token. -/
theorem one_remint_before_replacement (setup : Rejection) (count : Nat)
    {schedule : List RetryAction} {state : RetryState}
    (meets : StepsMeet (retryStep setup) (BeforeRemint setup) (setup.initial count) schedule)
    (ran : runFrom (retryStep setup) (setup.initial count) schedule = some state) :
    OneRemint state := by
  apply oneRemint_of_invariant
  exact runFrom_conditional_invariant
    (fun _ _ _ invariant before taken => retryStep_invariant invariant before taken)
    (initial_invariant setup count) meets ran

/-! ### A late 401 -/

def playgroundKey : TokenKey :=
  keyFor "did:web:registry-a:agents:producer" "http://registry-a:8080/"

def jwt (serial : String) : CachedToken :=
  { token := serial
    expiresAt := 1900000000 }

def rotatedSecret : Rejection where
  key := playgroundKey
  rejected := jwt "jwt-token-1"
  manager := (TokenManager.fresh 30).storeToken playgroundKey (jwt "jwt-token-1")
  cached := TokenManager.storeToken_cache _ _ _
  unlocked := rfl
  start := 1800000000
  horizon := 1800000060
  started := by decide +kernel

/-- Both 401s are handled before the exchange ends: the second request waits for the
lock and leaves with the token the first one minted. -/
def promptRejections : List RetryAction :=
  [.unauthorized 0, .unauthorized 1, .tick 1800000001, .mintSucceeded 0 (jwt "jwt-token-2"),
    .lockGranted, .answered 0, .answered 1]

theorem one_remint_prompt_rejections :
    ∃ state,
      runFrom (retryStep rotatedSecret) (rotatedSecret.initial 2) promptRejections =
        some state ∧ OneRemint state := by
  have meets : StepsMeet (retryStep rotatedSecret) (BeforeRemint rotatedSecret)
      (rotatedSecret.initial 2) promptRejections := by decide +kernel
  have runs : (runFrom (retryStep rotatedSecret) (rotatedSecret.initial 2)
      promptRejections).isSome = true := by decide +kernel
  obtain ⟨state, ran⟩ := Option.isSome_iff_exists.mp runs
  exact ⟨state, ran, one_remint_before_replacement rotatedSecret 2 meets ran⟩

/-- The second 401 arrives after the replacement is cached; `invalidate` drops the
replacement and its request mints once more. -/
def lateRejection : List RetryAction :=
  [.unauthorized 0, .mintSucceeded 0 (jwt "jwt-token-2"), .unauthorized 1,
    .mintSucceeded 1 (jwt "jwt-token-3"), .answered 0, .answered 1]

theorem second_remint_late_rejection :
    ∃ state,
      runFrom (retryStep rotatedSecret) (rotatedSecret.initial 2) lateRejection = some state ∧
        state.brokenOff = 0 ∧ ¬ OneRemint state := by
  have counted : (runFrom (retryStep rotatedSecret) (rotatedSecret.initial 2)
      lateRejection).map (fun state => (state.roundTrips, state.brokenOff)) = some (2, 0) := by
    decide +kernel
  obtain ⟨state, ran, counts⟩ := Option.map_eq_some_iff.mp counted
  have trips : state.roundTrips = 2 := congrArg Prod.fst counts
  have none_broken : state.brokenOff = 0 := congrArg Prod.snd counts
  refine ⟨state, ran, none_broken, ?_⟩
  intro one
  have bound := one.roundTrips
  omega

end AcdpPlayground.Auth

/-
One `TokenManager` shared by any number of callers: `token_for`, `invalidate` and
`revoke` over any set of keys, in any interleaving of their atomic segments. Exchanges
end with a token, with an error or by cancellation; the clock may jump between segments.

The log lists what the cache dropped and what `token_for` returned, in order. `issued`
lists the tokens the exchanges brought back. The `jti` that `revoke` needs is read from
the token; the decoding is a parameter. Status and body of the answer to a revocation
only decide what `revoke` returns: the token is dropped in either case.
-/

import AcdpPlayground.Auth.TokenManager
import AcdpPlayground.Foundation.TaskTable
import Mathlib.Data.List.Nodup

namespace AcdpPlayground.Auth

open TransitionRun TaskTable

/-! ### Segments and the lock -/

structure SegmentSpec (manager : TokenManager) (key : TokenKey) (caller : Nat)
    (outcome : TokenManager.Entry × TokenManager) : Prop where
  cache : outcome.2.cache = manager.cache
  others : ∀ other, other ≠ key → outcome.2.locks other = manager.locks other
  hit : ∀ cached, outcome.1 = .returned cached → manager.cache key = some cached
  started : ∀ reason, outcome.1 = .minting reason →
    (manager.locks key).holder = none ∧ (outcome.2.locks key).holder = some caller
  passive : (∀ reason, outcome.1 ≠ .minting reason) →
    (outcome.2.locks key).holder = (manager.locks key).holder

namespace TokenManager

theorem cache_of_cachedFresh {manager : TokenManager} {key : TokenKey} {now : ℚ}
    {cached : CachedToken} (hit : manager.cachedFresh key now = some cached) :
    manager.cache key = some cached :=
  (Option.filter_eq_some_iff.mp hit).1

theorem setLock_locks_ne (manager : TokenManager) {key other : TokenKey} (lock : Lock)
    (different : other ≠ key) : (manager.setLock key lock).locks other = manager.locks other :=
  Function.update_of_ne different _ _

/-- The caller takes the free lock and runs on to the end or to the exchange. -/
theorem underLock_spec {manager : TokenManager} {key : TokenKey} {now : ℚ} {caller : Nat}
    {waiters rest : List Nat}
    (free : manager.locks key = { holder := none, waiters := waiters }) :
    SegmentSpec manager key caller
      ((manager.setLock key { holder := some caller, waiters := rest }).underLock key now) := by
  cases found : (manager.setLock key
      { holder := some caller, waiters := rest }).cachedFresh key now with
  | some cached =>
      rw [underLock_of_cached found]
      constructor
      · rfl
      · intro other different
        rw [setLock_locks_ne _ _ different, setLock_locks_ne _ _ different]
      · intro other same
        cases same
        exact cache_of_cachedFresh found
      · intro reason same
        cases same
      · intro _
        rw [setLock_locks, free]
        rfl
  | none =>
      obtain ⟨reason, next, outcome, cache, locks, _⟩ := underLock_of_miss found
      rw [outcome]
      constructor
      · exact cache
      · intro other different
        rw [locks, setLock_locks_ne _ _ different]
      · intro other same
        cases same
      · intro _ _
        rw [free, locks, setLock_locks]
        exact ⟨rfl, rfl⟩
      · intro quiet
        exact absurd rfl (quiet reason)

theorem tokenFor_spec (manager : TokenManager) (key : TokenKey) (now : ℚ) (caller : Nat) :
    SegmentSpec manager key caller (manager.tokenFor key now caller) := by
  cases found : manager.cachedFresh key now with
  | some cached =>
      have outcome : manager.tokenFor key now caller = (.returned cached, manager) := by
        simp only [tokenFor, found]
      rw [outcome]
      constructor
      · rfl
      · exact fun _ _ => rfl
      · intro other same
        cases same
        exact cache_of_cachedFresh found
      · intro reason same
        cases same
      · exact fun _ => rfl
  | none =>
      by_cases unlocked : manager.locks key = Lock.unlocked
      · rw [tokenFor_of_unlocked found unlocked]
        exact underLock_spec unlocked
      · rw [tokenFor_of_busy found unlocked]
        constructor
        · rfl
        · intro other different
          rw [setLock_locks_ne _ _ different]
        · intro cached same
          cases same
        · intro reason same
          cases same
        · intro _
          rw [setLock_locks]

theorem lockGranted_spec {manager : TokenManager} {key : TokenKey} {now : ℚ} {caller : Nat}
    {outcome : Entry × TokenManager}
    (granted : manager.lockGranted key now = some (caller, outcome)) :
    SegmentSpec manager key caller outcome := by
  obtain ⟨rest, free, rfl⟩ := lockGranted_eq_some granted
  exact underLock_spec free

/-- What a segment reads: a token it returns is fresh at its reading of the clock, and an
exchange it starts is given the pending reason of the key. -/
structure ReadingSpec (manager : TokenManager) (key : TokenKey) (now : ℚ)
    (outcome : Entry × TokenManager) : Prop where
  leeway : outcome.2.leeway = manager.leeway
  fresh : ∀ cached, outcome.1 = .returned cached → cached.isFresh manager.leeway now = true
  kept : (∀ reason, outcome.1 ≠ .minting reason) →
    outcome.2.pendingReasons = manager.pendingReasons
  taken : ∀ reason, outcome.1 = .minting reason →
    outcome.2.pendingReasons = Function.update manager.pendingReasons key none ∧
      reason = (manager.pendingReasons key).getD
        (if (manager.cache key).isSome then .proactiveRefresh else .firstUse)

theorem classifyRefresh_spec (manager : TokenManager) (key : TokenKey)
    (cached : Option CachedToken) :
    (manager.classifyRefresh key cached).2.pendingReasons =
        Function.update manager.pendingReasons key none ∧
      (manager.classifyRefresh key cached).1 = (manager.pendingReasons key).getD
        (if cached.isSome then .proactiveRefresh else .firstUse) := by
  unfold classifyRefresh
  cases pending : manager.pendingReasons key with
  | some reason => exact ⟨rfl, rfl⟩
  | none =>
      have unchanged : manager.pendingReasons =
          Function.update manager.pendingReasons key none := by
        rw [← pending, Function.update_eq_self]
      cases cached with
      | none => exact ⟨unchanged, rfl⟩
      | some _ => exact ⟨unchanged, rfl⟩

theorem underLock_reading (manager : TokenManager) (key : TokenKey) (now : ℚ) :
    ReadingSpec manager key now (manager.underLock key now) := by
  cases found : manager.cachedFresh key now with
  | some cached =>
      rw [underLock_of_cached found]
      constructor
      · rfl
      · intro other same
        cases same
        exact (Option.filter_eq_some_iff.mp found).2
      · exact fun _ => rfl
      · intro reason same
        cases same
  | none =>
      have classified := manager.classifyRefresh_spec key (manager.cache key)
      have started : manager.underLock key now =
          (.minting (manager.classifyRefresh key (manager.cache key)).1,
            (manager.classifyRefresh key (manager.cache key)).2) := by
        simp only [underLock, found]
      rw [started]
      constructor
      · exact (manager.classifyRefresh_keeps key (manager.cache key)).2.2
      · intro other same
        cases same
      · intro quiet
        exact absurd rfl (quiet _)
      · intro reason same
        cases same
        exact classified

theorem tokenFor_reading (manager : TokenManager) (key : TokenKey) (now : ℚ) (caller : Nat) :
    ReadingSpec manager key now (manager.tokenFor key now caller) := by
  cases found : manager.cachedFresh key now with
  | some cached =>
      have outcome : manager.tokenFor key now caller = (.returned cached, manager) := by
        simp only [tokenFor, found]
      rw [outcome]
      constructor
      · rfl
      · intro other same
        cases same
        exact (Option.filter_eq_some_iff.mp found).2
      · exact fun _ => rfl
      · intro reason same
        cases same
  | none =>
      by_cases unlocked : manager.locks key = Lock.unlocked
      · rw [tokenFor_of_unlocked found unlocked]
        have reading := (manager.setLock key
          { holder := some caller, waiters := [] }).underLock_reading key now
        exact ⟨reading.leeway, reading.fresh, reading.kept, reading.taken⟩
      · rw [tokenFor_of_busy found unlocked]
        constructor
        · rfl
        · intro cached same
          cases same
        · exact fun _ => rfl
        · intro reason same
          cases same

theorem lockGranted_reading {manager : TokenManager} {key : TokenKey} {now : ℚ} {caller : Nat}
    {outcome : Entry × TokenManager}
    (granted : manager.lockGranted key now = some (caller, outcome)) :
    ReadingSpec manager key now outcome := by
  obtain ⟨rest, free, rfl⟩ := lockGranted_eq_some granted
  have reading := (manager.setLock key
    { holder := some caller, waiters := rest }).underLock_reading key now
  exact ⟨reading.leeway, reading.fresh, reading.kept, reading.taken⟩

end TokenManager

/-! ### Callers -/

structure Exchange where
  agentId : String
  registryBaseUrl : String
deriving DecidableEq

def Exchange.key (exchange : Exchange) : TokenKey :=
  { agentDid := exchange.agentId
    registry := exchange.registryBaseUrl }

structure IssuedToken where
  exchange : Exchange
  cached : CachedToken

inductive CallPhase where
  | waiting
  | minting (exchange : Exchange)
  | revoking
  | ended
deriving DecidableEq

/-- `url` is the argument of `token_for`, which `revoke` calls with the slashes gone. -/
structure Caller where
  agentDid : String
  url : String
  revokes : Bool
  phase : CallPhase

def Caller.key (caller : Caller) : TokenKey :=
  keyFor caller.agentDid caller.url

def Caller.exchange (caller : Caller) : Exchange :=
  { agentId := caller.agentDid
    registryBaseUrl := caller.key.registry }

def Caller.inFlightFor (key : TokenKey) (caller : Caller) : Bool :=
  match caller.phase with
  | .minting exchange => decide (exchange.key = key)
  | _ => false

inductive LogEntry where
  | dropped (token : String)
  | returned (agentDid url : String) (cached : CachedToken)

structure TokenState where
  manager : TokenManager
  callers : List Caller
  issued : List IssuedToken
  log : List LogEntry

namespace TokenState

def initial (leeway : Int) : TokenState :=
  { manager := TokenManager.fresh leeway
    callers := []
    issued := []
    log := [] }

def setPhase (state : TokenState) (index : Nat) (caller : Caller) (phase : CallPhase) :
    TokenState :=
  { state with callers := state.callers.set index { caller with phase := phase } }

/-- `token_for` returns; `revoke` goes on to its own request when the token has a `jti`. -/
def returned (jtiOf : CachedToken → Option String) (state : TokenState) (index : Nat)
    (caller : Caller) (cached : CachedToken) : TokenState :=
  let phase :=
    if caller.revokes && (jtiOf cached).any (fun jti => jti != "") then .revoking else .ended
  { state.setPhase index caller phase with
    log := state.log ++ [.returned caller.agentDid caller.url cached] }

def proceed (jtiOf : CachedToken → Option String) (state : TokenState) (index : Nat)
    (caller : Caller) (outcome : TokenManager.Entry × TokenManager) : TokenState :=
  let moved := { state with manager := outcome.2 }
  match outcome.1 with
  | .returned cached => moved.returned jtiOf index caller cached
  | .queued => moved.setPhase index caller .waiting
  | .minting _ => moved.setPhase index caller (.minting caller.exchange)

/-- `self._cache.pop(key, None)`: a drop is logged when there was a token. -/
def drop (state : TokenState) (key : TokenKey) (reason : RefreshReason) : TokenState :=
  { state with
    manager := state.manager.invalidate key reason
    log := state.log ++ ((state.manager.cache key).map
      (fun cached => LogEntry.dropped cached.token)).toList }

/-- An exchange that ends without a token gives the lock back. -/
def breakOff (state : TokenState) (index : Nat) (caller : Caller) : TokenState :=
  { state.setPhase index caller .ended with manager := state.manager.mintFailed caller.key }

def store (state : TokenState) (caller : Caller) (exchange : Exchange) (cached : CachedToken) :
    TokenState :=
  { state with
    manager := state.manager.mintSucceeded caller.key cached
    issued := state.issued ++ [{ exchange := exchange, cached := cached }] }

def enter (jtiOf : CachedToken → Option String) (state : TokenState) (caller : Caller)
    (now : ℚ) : TokenState :=
  let index := state.callers.length
  let arrived := { state with callers := state.callers ++ [caller] }
  arrived.proceed jtiOf index caller (state.manager.tokenFor caller.key now index)

end TokenState

inductive TokenAction where
  | tokenFor (agentDid registryBaseUrl : String) (now : ℚ)
  | invalidate (agentDid registryBaseUrl : String) (reason : RefreshReason)
  | revoke (agentDid registryBaseUrl : String) (now : ℚ)
  | resumed (index : Nat) (now : ℚ)
  | mintSucceeded (index : Nat) (cached : CachedToken)
  | mintFailed (index : Nat)
  | revokeAnswered (index : Nat)
  | cancelled (index : Nat)

def tokenStep (jtiOf : CachedToken → Option String) (state : TokenState) :
    TokenAction → Option TokenState
  | .tokenFor agentDid registryBaseUrl now =>
      some (state.enter jtiOf
        { agentDid := agentDid
          url := registryBaseUrl
          revokes := false
          phase := .ended } now)
  | .invalidate agentDid registryBaseUrl reason =>
      some (state.drop (keyFor agentDid registryBaseUrl) reason)
  | .revoke agentDid registryBaseUrl now =>
      some (state.enter jtiOf
        { agentDid := agentDid
          url := rstripSlashes registryBaseUrl
          revokes := true
          phase := .ended } now)
  | .resumed index now =>
      match state.callers[index]? with
      | some caller =>
          if caller.phase = .waiting then
            match state.manager.lockGranted caller.key now with
            | some (first, outcome) =>
                if first = index then some (state.proceed jtiOf index caller outcome) else none
            | none => none
          else none
      | none => none
  | .mintSucceeded index cached =>
      match state.callers[index]? with
      | some caller =>
          match caller.phase with
          | .minting exchange =>
              some ((state.store caller exchange cached).returned jtiOf index caller cached)
          | _ => none
      | none => none
  | .mintFailed index =>
      match state.callers[index]? with
      | some caller =>
          match caller.phase with
          | .minting _ => some (state.breakOff index caller)
          | _ => none
      | none => none
  | .revokeAnswered index =>
      match state.callers[index]? with
      | some caller =>
          if caller.phase = .revoking then
            some ((state.drop caller.key .reactive401).setPhase index caller .ended)
          else none
      | none => none
  | .cancelled index =>
      match state.callers[index]? with
      | some caller =>
          match caller.phase with
          | .waiting =>
              some
                { state.setPhase index caller .ended with
                  manager := state.manager.waiterCancelled caller.key index }
          | .minting _ => some (state.breakOff index caller)
          | .revoking => some (state.setPhase index caller .ended)
          | .ended => none
      | none => none

/-- What an enabled action does, with everything its branch has checked. -/
inductive TokenMove (jtiOf : CachedToken → Option String) (state : TokenState) :
    TokenAction → TokenState → Prop
  | tokenFor (agentDid registryBaseUrl : String) (now : ℚ) :
      TokenMove jtiOf state (.tokenFor agentDid registryBaseUrl now)
        (state.enter jtiOf
          { agentDid := agentDid
            url := registryBaseUrl
            revokes := false
            phase := .ended } now)
  | invalidate (agentDid registryBaseUrl : String) (reason : RefreshReason) :
      TokenMove jtiOf state (.invalidate agentDid registryBaseUrl reason)
        (state.drop (keyFor agentDid registryBaseUrl) reason)
  | revoke (agentDid registryBaseUrl : String) (now : ℚ) :
      TokenMove jtiOf state (.revoke agentDid registryBaseUrl now)
        (state.enter jtiOf
          { agentDid := agentDid
            url := rstripSlashes registryBaseUrl
            revokes := true
            phase := .ended } now)
  | resumed {index : Nat} {now : ℚ} {caller : Caller}
      {outcome : TokenManager.Entry × TokenManager}
      (found : state.callers[index]? = some caller) (waiting : caller.phase = .waiting)
      (granted : state.manager.lockGranted caller.key now = some (index, outcome)) :
      TokenMove jtiOf state (.resumed index now) (state.proceed jtiOf index caller outcome)
  | mintSucceeded {index : Nat} {caller : Caller} {exchange : Exchange} (cached : CachedToken)
      (found : state.callers[index]? = some caller) (minting : caller.phase = .minting exchange) :
      TokenMove jtiOf state (.mintSucceeded index cached)
        ((state.store caller exchange cached).returned jtiOf index caller cached)
  | mintFailed {index : Nat} {caller : Caller} {exchange : Exchange}
      (found : state.callers[index]? = some caller) (minting : caller.phase = .minting exchange) :
      TokenMove jtiOf state (.mintFailed index) (state.breakOff index caller)
  | revokeAnswered {index : Nat} {caller : Caller}
      (found : state.callers[index]? = some caller) (revoking : caller.phase = .revoking) :
      TokenMove jtiOf state (.revokeAnswered index)
        ((state.drop caller.key .reactive401).setPhase index caller .ended)
  | waiterCancelled {index : Nat} {caller : Caller}
      (found : state.callers[index]? = some caller) (waiting : caller.phase = .waiting) :
      TokenMove jtiOf state (.cancelled index)
        { state.setPhase index caller .ended with
          manager := state.manager.waiterCancelled caller.key index }
  | mintCancelled {index : Nat} {caller : Caller} {exchange : Exchange}
      (found : state.callers[index]? = some caller) (minting : caller.phase = .minting exchange) :
      TokenMove jtiOf state (.cancelled index) (state.breakOff index caller)
  | revokeCancelled {index : Nat} {caller : Caller}
      (found : state.callers[index]? = some caller) (revoking : caller.phase = .revoking) :
      TokenMove jtiOf state (.cancelled index) (state.setPhase index caller .ended)

theorem tokenStep_move {jtiOf : CachedToken → Option String} {state next : TokenState}
    {action : TokenAction} (taken : tokenStep jtiOf state action = some next) :
    TokenMove jtiOf state action next := by
  cases action with
  | tokenFor agentDid registryBaseUrl now =>
      cases taken
      exact .tokenFor agentDid registryBaseUrl now
  | revoke agentDid registryBaseUrl now =>
      cases taken
      exact .revoke agentDid registryBaseUrl now
  | invalidate agentDid registryBaseUrl reason =>
      cases taken
      exact .invalidate agentDid registryBaseUrl reason
  | resumed index now =>
      simp only [tokenStep] at taken
      split at taken
      · next caller found =>
          split at taken
          · next waiting =>
              split at taken
              · next first outcome granted =>
                  split at taken
                  · next same =>
                      cases taken
                      rw [same] at granted
                      exact .resumed found waiting granted
                  · cases taken
              · cases taken
          · cases taken
      · cases taken
  | mintSucceeded index cached =>
      simp only [tokenStep] at taken
      split at taken
      · next caller found =>
          split at taken
          · next exchange minting =>
              cases taken
              exact .mintSucceeded cached found minting
          · cases taken
      · cases taken
  | mintFailed index =>
      simp only [tokenStep] at taken
      split at taken
      · next caller found =>
          split at taken
          · next exchange minting =>
              cases taken
              exact .mintFailed found minting
          · cases taken
      · cases taken
  | revokeAnswered index =>
      simp only [tokenStep] at taken
      split at taken
      · next caller found =>
          split at taken
          · next revoking =>
              cases taken
              exact .revokeAnswered found revoking
          · cases taken
      · cases taken
  | cancelled index =>
      simp only [tokenStep] at taken
      split at taken
      · next caller found =>
          split at taken
          · next waiting =>
              cases taken
              exact .waiterCancelled found waiting
          · next exchange minting =>
              cases taken
              exact .mintCancelled found minting
          · next revoking =>
              cases taken
              exact .revokeCancelled found revoking
          · cases taken
      · cases taken

/-! ### Exchanges in flight -/

/-- Every running exchange is its caller's own and its caller holds the key's lock. -/
def Flights (locks : TokenKey → Lock) (callers : List Caller) : Prop :=
  ∀ (index : Nat) (caller : Caller) (exchange : Exchange), callers[index]? = some caller →
    caller.phase = .minting exchange →
    exchange = caller.exchange ∧ (locks caller.key).holder = some index

theorem flights_arrived {locks : TokenKey → Lock} {callers : List Caller} {caller : Caller}
    (flights : Flights locks callers) (idle : caller.phase = .ended) :
    Flights locks (callers ++ [caller]) := by
  intro index found exchange present minting
  by_cases earlier : index < callers.length
  · rw [List.getElem?_append_left earlier] at present
    exact flights index found exchange present minting
  · rw [List.getElem?_append_right (Nat.le_of_not_lt earlier)] at present
    have same := List.mem_singleton.mp (List.mem_of_getElem? present)
    rw [same, idle] at minting
    cases minting

theorem flights_set {locks next : TokenKey → Lock} {callers : List Caller} {index : Nat}
    {caller : Caller} {phase : CallPhase} (flights : Flights locks callers)
    (kept : ∀ key other, other ≠ index → (locks key).holder = some other →
      (next key).holder = some other)
    (phased : ∀ exchange, phase = .minting exchange →
      exchange = caller.exchange ∧ (next caller.key).holder = some index) :
    Flights next (callers.set index { caller with phase := phase }) := by
  intro other found exchange present minting
  by_cases same : index = other
  · subst same
    rw [List.getElem?_set_self'] at present
    obtain ⟨_, _, rfl⟩ := Option.map_eq_some_iff.mp present
    exact phased exchange minting
  · rw [List.getElem?_set_ne same] at present
    obtain ⟨own, held⟩ := flights other found exchange present minting
    exact ⟨own, kept found.key other (Ne.symm same) held⟩

/-- The lock changes hands only through the caller of the segment. -/
theorem segment_kept {manager : TokenManager} {key : TokenKey} {caller : Nat}
    {outcome : TokenManager.Entry × TokenManager}
    (spec : SegmentSpec manager key caller outcome) :
    ∀ asked other, other ≠ caller → (manager.locks asked).holder = some other →
      (outcome.2.locks asked).holder = some other := by
  intro asked other _ held
  by_cases same : asked = key
  · subst same
    by_cases minting : ∃ reason, outcome.1 = .minting reason
    · obtain ⟨reason, entry⟩ := minting
      have free := (spec.started reason entry).1
      rw [free] at held
      cases held
    · rw [spec.passive (fun reason entry => minting ⟨reason, entry⟩)]
      exact held
  · rw [spec.others asked same]
    exact held

theorem release_kept {manager : TokenManager} {key : TokenKey} {index : Nat}
    (holds : (manager.locks key).holder = some index) :
    ∀ asked other, other ≠ index → (manager.locks asked).holder = some other →
      (((manager.setLock key (manager.locks key).release)).locks asked).holder =
        some other := by
  intro asked other different held
  by_cases same : asked = key
  · subst same
    rw [holds] at held
    exact absurd (Option.some.inj held).symm different
  · rw [TokenManager.setLock_locks_ne _ _ same]
    exact held

/-! ### Tokens and their origin -/

def issuedTokens (issued : List IssuedToken) : List String :=
  issued.map (fun issue => issue.cached.token)

/-- The earlier entry does not drop the token that the later one returns. -/
def LogEntry.NotRevived : LogEntry → LogEntry → Prop
  | .dropped token, .returned _ _ cached => cached.token ≠ token
  | _, _ => True

structure TokensSound (cache : TokenKey → Option CachedToken) (issued : List IssuedToken)
    (log : List LogEntry) : Prop where
  cached : ∀ key cached, cache key = some cached →
    ∃ issue ∈ issued, issue.cached = cached ∧ issue.exchange.key = key
  returned : ∀ agentDid url cached, .returned agentDid url cached ∈ log →
    ∃ issue ∈ issued, issue.cached = cached ∧ issue.exchange.key = keyFor agentDid url
  dropped : ∀ token, .dropped token ∈ log → token ∈ issuedTokens issued
  live : (issuedTokens issued).Nodup → ∀ key cached, cache key = some cached →
    .dropped cached.token ∉ log
  ordered : (issuedTokens issued).Nodup → log.Pairwise LogEntry.NotRevived

theorem token_mem_issuedTokens {issued : List IssuedToken} {issue : IssuedToken}
    (member : issue ∈ issued) : issue.cached.token ∈ issuedTokens issued :=
  List.mem_map_of_mem member

/-- Without reissue a token string belongs to one exchange. -/
theorem issue_unique {issued : List IssuedToken} (distinct : (issuedTokens issued).Nodup)
    {first second : IssuedToken} (left : first ∈ issued) (right : second ∈ issued)
    (same : first.cached.token = second.cached.token) : first = second :=
  List.inj_on_of_nodup_map distinct left right same

theorem TokensSound.return {cache : TokenKey → Option CachedToken} {issued : List IssuedToken}
    {log : List LogEntry} {agentDid url : String} {cached : CachedToken}
    (sound : TokensSound cache issued log)
    (present : cache (keyFor agentDid url) = some cached) :
    TokensSound cache issued (log ++ [.returned agentDid url cached]) := by
  constructor
  · exact sound.cached
  · intro who asked other member
    rcases List.mem_append.mp member with earlier | here
    · exact sound.returned who asked other earlier
    · cases List.mem_singleton.mp here
      exact sound.cached _ cached present
  · intro token member
    rcases List.mem_append.mp member with earlier | here
    · exact sound.dropped token earlier
    · cases List.mem_singleton.mp here
  · intro distinct key other held member
    rcases List.mem_append.mp member with earlier | here
    · exact sound.live distinct key other held earlier
    · cases List.mem_singleton.mp here
  · intro distinct
    rw [List.pairwise_append]
    refine ⟨sound.ordered distinct, List.pairwise_singleton _ _, ?_⟩
    intro earlier member last here
    rw [List.mem_singleton.mp here]
    cases earlier with
    | returned _ _ _ => trivial
    | dropped token =>
        intro same
        rw [← same] at member
        exact sound.live distinct _ cached present member

theorem TokensSound.drop {cache : TokenKey → Option CachedToken} {issued : List IssuedToken}
    {log : List LogEntry} (sound : TokensSound cache issued log) (key : TokenKey) :
    TokensSound (Function.update cache key none) issued
      (log ++ ((cache key).map (fun cached => LogEntry.dropped cached.token)).toList) := by
  have held_elsewhere : ∀ other cached, Function.update cache key none other = some cached →
      other ≠ key ∧ cache other = some cached := by
    intro other cached held
    by_cases same : other = key
    · rw [same, Function.update_self] at held
      cases held
    · rw [Function.update_of_ne same] at held
      exact ⟨same, held⟩
  have entry_of_member : ∀ entry ∈ ((cache key).map
      (fun cached => LogEntry.dropped cached.token)).toList,
      ∃ cached, cache key = some cached ∧ entry = .dropped cached.token := by
    intro entry member
    obtain ⟨cached, held, same⟩ := Option.map_eq_some_iff.mp (Option.mem_toList.mp member)
    exact ⟨cached, held, same.symm⟩
  constructor
  · intro other cached held
    exact sound.cached other cached (held_elsewhere other cached held).2
  · intro agentDid url cached member
    rcases List.mem_append.mp member with earlier | here
    · exact sound.returned agentDid url cached earlier
    · obtain ⟨_, _, same⟩ := entry_of_member _ here
      cases same
  · intro token member
    rcases List.mem_append.mp member with earlier | here
    · exact sound.dropped token earlier
    · obtain ⟨cached, held, same⟩ := entry_of_member _ here
      cases same
      obtain ⟨issue, issued, rfl, _⟩ := sound.cached key cached held
      exact token_mem_issuedTokens issued
  · intro distinct other cached held member
    obtain ⟨different, stored⟩ := held_elsewhere other cached held
    rcases List.mem_append.mp member with earlier | here
    · exact sound.live distinct other cached stored earlier
    · -- The same string under two keys would have been issued twice.
      obtain ⟨gone, goneHeld, same⟩ := entry_of_member _ here
      obtain ⟨first, firstIssued, firstCached, firstKey⟩ := sound.cached other cached stored
      obtain ⟨second, secondIssued, secondCached, secondKey⟩ := sound.cached key gone goneHeld
      have tokens : first.cached.token = second.cached.token := by
        rw [firstCached, secondCached]
        exact LogEntry.dropped.inj same
      rw [issue_unique distinct firstIssued secondIssued tokens, secondKey] at firstKey
      exact different firstKey.symm
  · intro distinct
    rw [List.pairwise_append]
    refine ⟨sound.ordered distinct, ?_, ?_⟩
    · cases cache key with
      | none => exact List.Pairwise.nil
      | some cached => exact List.pairwise_singleton _ _
    · intro earlier _ last here
      obtain ⟨_, _, rfl⟩ := entry_of_member _ here
      cases earlier <;> trivial

theorem TokensSound.issue {cache : TokenKey → Option CachedToken} {issued : List IssuedToken}
    {log : List LogEntry} (sound : TokensSound cache issued log) (exchange : Exchange)
    (cached : CachedToken) :
    TokensSound (Function.update cache exchange.key (some cached))
      (issued ++ [{ exchange := exchange, cached := cached }]) log := by
  have tokens : issuedTokens (issued ++ [{ exchange := exchange, cached := cached }]) =
      issuedTokens issued ++ [cached.token] := List.map_append
  constructor
  · intro key other held
    by_cases same : key = exchange.key
    · rw [same, Function.update_self] at held
      cases held
      exact ⟨_, List.mem_append_right _ (List.mem_singleton_self _), rfl, same.symm⟩
    · rw [Function.update_of_ne same] at held
      obtain ⟨issue, member, origin⟩ := sound.cached key other held
      exact ⟨issue, List.mem_append_left _ member, origin⟩
  · intro agentDid url other member
    obtain ⟨issue, earlier, origin⟩ := sound.returned agentDid url other member
    exact ⟨issue, List.mem_append_left _ earlier, origin⟩
  · intro token member
    rw [tokens]
    exact List.mem_append_left _ (sound.dropped token member)
  · intro distinct key other held member
    rw [tokens] at distinct
    by_cases same : key = exchange.key
    · rw [same, Function.update_self] at held
      cases held
      have old := sound.dropped cached.token member
      exact (List.disjoint_of_nodup_append distinct) old (List.mem_singleton_self _)
    · rw [Function.update_of_ne same] at held
      exact sound.live (List.Nodup.of_append_left distinct) key other held member
  · intro distinct
    rw [tokens] at distinct
    exact sound.ordered (List.Nodup.of_append_left distinct)

/-! ### Steps and runs -/

structure TokenInvariant (state : TokenState) : Prop where
  flights : Flights state.manager.locks state.callers
  tokens : TokensSound state.manager.cache state.issued state.log

theorem initial_tokenInvariant (leeway : Int) : TokenInvariant (TokenState.initial leeway) := by
  constructor
  · intro index caller exchange found
    cases found
  · constructor
    · intro key cached held
      cases held
    · intro agentDid url cached member
      cases member
    · intro token member
      cases member
    · intro _ key cached held
      cases held
    · intro _
      exact List.Pairwise.nil

theorem flights_setPhase {state : TokenState} {index : Nat} {caller : Caller}
    {phase : CallPhase} (flights : Flights state.manager.locks state.callers)
    (quiet : ∀ exchange, phase ≠ .minting exchange) :
    Flights state.manager.locks (state.setPhase index caller phase).callers :=
  flights_set flights (fun _ _ _ held => held)
    (fun exchange same => absurd same (quiet exchange))

theorem returned_phase (jtiOf : CachedToken → Option String) (caller : Caller)
    (cached : CachedToken) (exchange : Exchange) :
    (if caller.revokes && (jtiOf cached).any (fun jti => jti != "") then CallPhase.revoking
      else .ended) ≠ .minting exchange := by
  split <;> exact fun same => by cases same

theorem proceed_invariant {jtiOf : CachedToken → Option String} {state : TokenState}
    {index : Nat} {caller : Caller} {outcome : TokenManager.Entry × TokenManager}
    (invariant : TokenInvariant state)
    (spec : SegmentSpec state.manager caller.key index outcome) :
    TokenInvariant (state.proceed jtiOf index caller outcome) := by
  have tokens : TokensSound outcome.2.cache state.issued state.log := by
    rw [spec.cache]
    exact invariant.tokens
  unfold TokenState.proceed
  cases entry : outcome.1 with
  | returned cached =>
      have present : outcome.2.cache (keyFor caller.agentDid caller.url) = some cached := by
        rw [spec.cache]
        exact spec.hit cached entry
      refine ⟨flights_set invariant.flights (segment_kept spec) ?_, tokens.return present⟩
      intro exchange same
      exact absurd same (returned_phase jtiOf caller cached exchange)
  | queued =>
      refine ⟨flights_set invariant.flights (segment_kept spec) ?_, tokens⟩
      intro exchange same
      cases same
  | minting reason =>
      refine ⟨flights_set invariant.flights (segment_kept spec) ?_, tokens⟩
      intro exchange same
      cases same
      exact ⟨rfl, (spec.started reason entry).2⟩

theorem enter_invariant {jtiOf : CachedToken → Option String} {state : TokenState}
    {caller : Caller} (now : ℚ) (invariant : TokenInvariant state)
    (idle : caller.phase = .ended) : TokenInvariant (state.enter jtiOf caller now) := by
  have arrived : TokenInvariant { state with callers := state.callers ++ [caller] } :=
    ⟨flights_arrived invariant.flights idle, invariant.tokens⟩
  exact proceed_invariant arrived (state.manager.tokenFor_spec caller.key now _)

theorem drop_invariant {state : TokenState} (invariant : TokenInvariant state) (key : TokenKey)
    (reason : RefreshReason) : TokenInvariant (state.drop key reason) :=
  ⟨invariant.flights, invariant.tokens.drop key⟩

theorem flights_released {state : TokenState} {index : Nat} {caller : Caller}
    {exchange : Exchange} (flights : Flights state.manager.locks state.callers)
    (found : state.callers[index]? = some caller) (minting : caller.phase = .minting exchange)
    {phase : CallPhase} (quiet : ∀ other, phase ≠ .minting other) :
    Flights (state.manager.setLock caller.key (state.manager.locks caller.key).release).locks
      (state.setPhase index caller phase).callers := by
  have held := (flights index caller exchange found minting).2
  exact flights_set flights (release_kept held) (fun other same => absurd same (quiet other))

theorem exchangeBroken_invariant {state : TokenState} {index : Nat} {caller : Caller}
    {exchange : Exchange} (invariant : TokenInvariant state)
    (found : state.callers[index]? = some caller) (minting : caller.phase = .minting exchange) :
    TokenInvariant (state.breakOff index caller) := by
  refine ⟨flights_released invariant.flights found minting ?_, invariant.tokens⟩
  intro other same
  cases same

theorem storedToken_invariant {jtiOf : CachedToken → Option String} {state : TokenState}
    {index : Nat} {caller : Caller} {exchange : Exchange} (cached : CachedToken)
    (invariant : TokenInvariant state) (found : state.callers[index]? = some caller)
    (minting : caller.phase = .minting exchange) :
    TokenInvariant ((state.store caller exchange cached).returned jtiOf index caller cached) := by
  have own : exchange.key = caller.key := by
    rw [(invariant.flights index caller exchange found minting).1]
    rfl
  constructor
  · exact flights_released invariant.flights found minting (returned_phase jtiOf caller cached)
  · have issued := invariant.tokens.issue exchange cached
    rw [own] at issued
    exact issued.return (Function.update_self _ _ _)

theorem waitingCancelled_invariant {state : TokenState} {index : Nat} {caller : Caller}
    (invariant : TokenInvariant state) :
    TokenInvariant
      { state.setPhase index caller .ended with
        manager := state.manager.waiterCancelled caller.key index } := by
  refine ⟨flights_set invariant.flights ?_ ?_, invariant.tokens⟩
  · intro asked other _ held
    by_cases same : asked = caller.key
    · subst same
      change ((state.manager.setLock caller.key _).locks caller.key).holder = some other
      rw [TokenManager.setLock_locks]
      exact held
    · change ((state.manager.setLock caller.key _).locks asked).holder = some other
      rw [TokenManager.setLock_locks_ne _ _ same]
      exact held
  · intro exchange same
    cases same

theorem tokenStep_invariant {jtiOf : CachedToken → Option String} (state : TokenState)
    (action : TokenAction) (next : TokenState) (invariant : TokenInvariant state)
    (taken : tokenStep jtiOf state action = some next) : TokenInvariant next := by
  cases tokenStep_move taken with
  | tokenFor agentDid registryBaseUrl now => exact enter_invariant now invariant rfl
  | revoke agentDid registryBaseUrl now => exact enter_invariant now invariant rfl
  | invalidate agentDid registryBaseUrl reason => exact drop_invariant invariant _ reason
  | resumed _ _ granted =>
      exact proceed_invariant invariant (TokenManager.lockGranted_spec granted)
  | mintSucceeded cached found minting =>
      exact storedToken_invariant cached invariant found minting
  | mintFailed found minting => exact exchangeBroken_invariant invariant found minting
  | @revokeAnswered _ caller _ _ =>
      have dropped := drop_invariant invariant caller.key .reactive401
      refine ⟨flights_setPhase dropped.flights ?_, dropped.tokens⟩
      intro exchange same
      cases same
  | waiterCancelled _ _ => exact waitingCancelled_invariant invariant
  | mintCancelled found minting => exact exchangeBroken_invariant invariant found minting
  | revokeCancelled _ _ =>
      refine ⟨flights_setPhase invariant.flights ?_, invariant.tokens⟩
      intro exchange same
      cases same

/-- That no token string is issued twice is only needed for the first field. -/
structure TokenSafety (state : TokenState) : Prop where
  notRevived : (issuedTokens state.issued).Nodup → ∀ before token after,
    state.log = before ++ .dropped token :: after →
    ∀ agentDid url cached, .returned agentDid url cached ∈ after → cached.token ≠ token
  ownExchange : ∀ agentDid url cached, .returned agentDid url cached ∈ state.log →
    ∃ issue ∈ state.issued, issue.cached = cached ∧ issue.exchange.agentId = agentDid ∧
      issue.exchange.registryBaseUrl = rstripSlashes url
  singleFlight : ∀ key, state.callers.countP (Caller.inFlightFor key) ≤ 1

theorem inFlightFor_eq_true {key : TokenKey} {caller : Caller}
    (inFlight : caller.inFlightFor key = true) :
    ∃ exchange, caller.phase = .minting exchange ∧ exchange.key = key := by
  unfold Caller.inFlightFor at inFlight
  split at inFlight
  · next exchange minting => exact ⟨exchange, minting, of_decide_eq_true inFlight⟩
  · cases inFlight

theorem singleFlight_of_flights {locks : TokenKey → Lock} {callers : List Caller}
    (flights : Flights locks callers) (key : TokenKey) :
    callers.countP (Caller.inFlightFor key) ≤ 1 := by
  apply countP_le_one (Caller.inFlightFor key)
  intro index other caller second found foundOther inFlight inFlightOther
  obtain ⟨exchange, minting, own⟩ := inFlightFor_eq_true inFlight
  obtain ⟨exchangeOther, mintingOther, ownOther⟩ := inFlightFor_eq_true inFlightOther
  obtain ⟨rfl, held⟩ := flights index caller exchange found minting
  obtain ⟨rfl, heldOther⟩ := flights other second exchangeOther foundOther mintingOther
  change caller.key = key at own
  change second.key = key at ownOther
  rw [own] at held
  rw [ownOther, held] at heldOther
  exact Option.some.inj heldOther

theorem tokens_not_revived_own_single_flight (jtiOf : CachedToken → Option String)
    (leeway : Int) {schedule : List TokenAction} {state : TokenState}
    (ran : runFrom (tokenStep jtiOf) (TokenState.initial leeway) schedule = some state) :
    TokenSafety state := by
  have invariant : TokenInvariant state :=
    runFrom_invariant tokenStep_invariant (initial_tokenInvariant leeway) ran
  constructor
  · intro distinct before token after split agentDid url cached member
    have ordered := invariant.tokens.ordered distinct
    rw [split, List.pairwise_append] at ordered
    exact (List.pairwise_cons.mp ordered.2.1).1 _ member
  · intro agentDid url cached member
    obtain ⟨issue, issued, same, key⟩ := invariant.tokens.returned agentDid url cached member
    exact ⟨issue, issued, same, congrArg TokenKey.agentDid key, congrArg TokenKey.registry key⟩
  · exact singleFlight_of_flights invariant.flights

def issuedJwt (serial : String) : CachedToken :=
  { token := serial
    expiresAt := 1900000000 }

/-- Two agents: an `invalidate` and a `revoke` while a third caller waits for the key. -/
def droppedWhileMinting : List TokenAction :=
  [.tokenFor "did:web:a" "http://registry-a/" 1800000000,
    .tokenFor "did:web:b" "http://registry-a" 1800000000,
    .invalidate "did:web:a" "http://registry-a" .reactive401,
    .tokenFor "did:web:a" "http://registry-a" 1800000001,
    .mintSucceeded 0 (issuedJwt "jwt-1"), .resumed 2 1800000002,
    .mintSucceeded 1 (issuedJwt "jwt-2"), .revoke "did:web:a" "http://registry-a//" 1800000003,
    .revokeAnswered 3, .tokenFor "did:web:a" "http://registry-a" 1800000004,
    .mintSucceeded 4 (issuedJwt "jwt-3")]

theorem dropped_while_minting_safe :
    ∃ state,
      runFrom (tokenStep (fun cached => some cached.token)) (TokenState.initial 30)
          droppedWhileMinting = some state ∧
        issuedTokens state.issued = ["jwt-1", "jwt-2", "jwt-3"] ∧ TokenSafety state := by
  have runs : (runFrom (tokenStep (fun cached => some cached.token)) (TokenState.initial 30)
      droppedWhileMinting).map (fun state => issuedTokens state.issued) =
        some ["jwt-1", "jwt-2", "jwt-3"] := by decide +kernel
  obtain ⟨state, ran, tokens⟩ := Option.map_eq_some_iff.mp runs
  exact ⟨state, ran, tokens, tokens_not_revived_own_single_flight _ 30 ran⟩

end AcdpPlayground.Auth

/-
The bearer-token manager of the ACDP client: the cache, the per-key single-flight
lock and the pending refresh reasons of `token_manager.py`, cut into the atomic
segments between two suspensions of the event loop.

`token_for` suspends in two places only: in the queue of the per-key lock and
inside `_mint`. The lock that guards the table of locks is released before
anything is awaited, so it is never contended and adds no suspension. The
challenge and token bodies, the signature and the cooperative wait on
`Retry-After` stay inside one exchange, which ends with a token or not at all.
-/

import AcdpPlayground.Foundation.TransitionRun
import Mathlib.Algebra.Order.Field.Rat
import Mathlib.Data.List.Basic

namespace AcdpPlayground.Auth

inductive RefreshReason where
  | firstUse
  | proactiveRefresh
  | reactive401
deriving DecidableEq

structure CachedToken where
  token : String
  expiresAt : Int
deriving DecidableEq

def CachedToken.isFresh (cached : CachedToken) (leeway : Int) (now : ℚ) : Bool :=
  decide (now + leeway < cached.expiresAt)

structure TokenKey where
  agentDid : String
  registry : String
deriving DecidableEq

def rstripSlashes (url : String) : String :=
  String.ofList (url.toList.reverse.dropWhile (fun character => character == '/')).reverse

def keyFor (agentDid registryBaseUrl : String) : TokenKey :=
  { agentDid := agentDid
    registry := rstripSlashes registryBaseUrl }

/-! ### The per-key lock

`asyncio.Lock` hands itself to its waiters in arrival order. Between a release and
the resumption of the first waiter nobody holds it, and a newcomer still queues
behind that waiter.
-/

structure Lock where
  holder : Option Nat
  waiters : List Nat
deriving DecidableEq

def Lock.unlocked : Lock :=
  { holder := none
    waiters := [] }

def Lock.release (lock : Lock) : Lock :=
  { lock with holder := none }

def Lock.forget (lock : Lock) (caller : Nat) : Lock :=
  { lock with waiters := lock.waiters.erase caller }

/-! ### Manager state -/

structure TokenManager where
  leeway : Int
  cache : TokenKey → Option CachedToken
  pendingReasons : TokenKey → Option RefreshReason
  locks : TokenKey → Lock

namespace TokenManager

def fresh (leeway : Int) : TokenManager :=
  { leeway := leeway
    cache := fun _ => none
    pendingReasons := fun _ => none
    locks := fun _ => Lock.unlocked }

def setLock (manager : TokenManager) (key : TokenKey) (lock : Lock) : TokenManager :=
  { manager with locks := Function.update manager.locks key lock }

def storeToken (manager : TokenManager) (key : TokenKey) (cached : CachedToken) : TokenManager :=
  { manager with cache := Function.update manager.cache key (some cached) }

@[simp]
theorem setLock_cache (manager : TokenManager) (key : TokenKey) (lock : Lock) :
    (manager.setLock key lock).cache = manager.cache := rfl

@[simp]
theorem setLock_locks (manager : TokenManager) (key : TokenKey) (lock : Lock) :
    (manager.setLock key lock).locks key = lock := by
  simp [setLock]

@[simp]
theorem storeToken_cache (manager : TokenManager) (key : TokenKey) (cached : CachedToken) :
    (manager.storeToken key cached).cache key = some cached := by
  simp [storeToken]

/-! ### Operations -/

def invalidate (manager : TokenManager) (key : TokenKey) (reason : RefreshReason) :
    TokenManager :=
  { manager with
    cache := Function.update manager.cache key none
    pendingReasons := Function.update manager.pendingReasons key (some reason) }

@[simp]
theorem invalidate_cache (manager : TokenManager) (key : TokenKey) (reason : RefreshReason) :
    (manager.invalidate key reason).cache key = none := by
  simp [invalidate]

@[simp]
theorem invalidate_locks (manager : TokenManager) (key : TokenKey) (reason : RefreshReason) :
    (manager.invalidate key reason).locks = manager.locks := rfl

def classifyRefresh (manager : TokenManager) (key : TokenKey) (cached : Option CachedToken) :
    RefreshReason × TokenManager :=
  match manager.pendingReasons key with
  | some pending =>
      (pending, { manager with pendingReasons := Function.update manager.pendingReasons key none })
  | none =>
      match cached with
      | some _ => (.proactiveRefresh, manager)
      | none => (.firstUse, manager)

theorem classifyRefresh_keeps (manager : TokenManager) (key : TokenKey)
    (cached : Option CachedToken) :
    (manager.classifyRefresh key cached).2.cache = manager.cache ∧
      (manager.classifyRefresh key cached).2.locks = manager.locks ∧
      (manager.classifyRefresh key cached).2.leeway = manager.leeway := by
  unfold classifyRefresh
  split
  · exact ⟨rfl, rfl, rfl⟩
  · split <;> exact ⟨rfl, rfl, rfl⟩

def cachedFresh (manager : TokenManager) (key : TokenKey) (now : ℚ) : Option CachedToken :=
  (manager.cache key).filter (fun cached => cached.isFresh manager.leeway now)

/-- Where one segment of `token_for` leaves its caller. -/
inductive Entry where
  | returned (cached : CachedToken)
  | queued
  | minting (reason : RefreshReason)
deriving DecidableEq

/-- The body of `async with lock` up to its first suspension, with the lock already
held by the caller. -/
def underLock (manager : TokenManager) (key : TokenKey) (now : ℚ) : Entry × TokenManager :=
  match manager.cachedFresh key now with
  | some cached => (.returned cached, manager.setLock key (manager.locks key).release)
  | none =>
      let classified := manager.classifyRefresh key (manager.cache key)
      (.minting classified.1, classified.2)

def tokenFor (manager : TokenManager) (key : TokenKey) (now : ℚ) (caller : Nat) :
    Entry × TokenManager :=
  match manager.cachedFresh key now with
  | some cached => (.returned cached, manager)
  | none =>
      if (manager.locks key).holder = none ∧ (manager.locks key).waiters = [] then
        (manager.setLock key { holder := some caller, waiters := [] }).underLock key now
      else
        let lock := manager.locks key
        (.queued, manager.setLock key { lock with waiters := lock.waiters ++ [caller] })

def lockGranted (manager : TokenManager) (key : TokenKey) (now : ℚ) :
    Option (Nat × Entry × TokenManager) :=
  match (manager.locks key).holder, (manager.locks key).waiters with
  | none, caller :: rest =>
      some (caller,
        (manager.setLock key { holder := some caller, waiters := rest }).underLock key now)
  | _, _ => none

def mintSucceeded (manager : TokenManager) (key : TokenKey) (cached : CachedToken) :
    TokenManager :=
  (manager.storeToken key cached).setLock key (manager.locks key).release

def mintFailed (manager : TokenManager) (key : TokenKey) : TokenManager :=
  manager.setLock key (manager.locks key).release

def waiterCancelled (manager : TokenManager) (key : TokenKey) (caller : Nat) : TokenManager :=
  manager.setLock key ((manager.locks key).forget caller)

/-! ### What one segment does -/

theorem cachedFresh_of_cache_none {manager : TokenManager} {key : TokenKey} {now : ℚ}
    (missing : manager.cache key = none) : manager.cachedFresh key now = none := by
  simp [cachedFresh, missing]

theorem cachedFresh_of_isFresh {manager : TokenManager} {key : TokenKey} {now : ℚ}
    {cached : CachedToken} (stored : manager.cache key = some cached)
    (fresh : cached.isFresh manager.leeway now = true) :
    manager.cachedFresh key now = some cached := by
  simp [cachedFresh, stored, fresh]

theorem underLock_of_cached {manager : TokenManager} {key : TokenKey} {now : ℚ}
    {cached : CachedToken} (hit : manager.cachedFresh key now = some cached) :
    manager.underLock key now =
      (.returned cached, manager.setLock key (manager.locks key).release) := by
  simp only [underLock, hit]

/-- Without a usable token the caller keeps the lock and starts an exchange. -/
theorem underLock_of_miss {manager : TokenManager} {key : TokenKey} {now : ℚ}
    (miss : manager.cachedFresh key now = none) :
    ∃ reason next, manager.underLock key now = (.minting reason, next) ∧
      next.cache = manager.cache ∧ next.locks = manager.locks ∧
      next.leeway = manager.leeway := by
  have kept := manager.classifyRefresh_keeps key (manager.cache key)
  have started : manager.underLock key now =
      (.minting (manager.classifyRefresh key (manager.cache key)).1,
        (manager.classifyRefresh key (manager.cache key)).2) := by
    simp only [underLock, miss]
  exact ⟨_, _, started, kept⟩

theorem tokenFor_of_unlocked {manager : TokenManager} {key : TokenKey} {now : ℚ} {caller : Nat}
    (miss : manager.cachedFresh key now = none)
    (unlocked : manager.locks key = Lock.unlocked) :
    manager.tokenFor key now caller =
      (manager.setLock key { holder := some caller, waiters := [] }).underLock key now := by
  simp only [tokenFor, miss, unlocked, Lock.unlocked, and_self, if_true]

theorem tokenFor_of_busy {manager : TokenManager} {key : TokenKey} {now : ℚ} {caller : Nat}
    (miss : manager.cachedFresh key now = none)
    (busy : manager.locks key ≠ Lock.unlocked) :
    manager.tokenFor key now caller =
      (.queued, manager.setLock key
        { holder := (manager.locks key).holder
          waiters := (manager.locks key).waiters ++ [caller] }) := by
  have taken : ¬ ((manager.locks key).holder = none ∧ (manager.locks key).waiters = []) := by
    rintro ⟨noHolder, noWaiters⟩
    apply busy
    cases same : manager.locks key with
    | mk holder waiters =>
        rw [same] at noHolder noWaiters
        cases noHolder
        cases noWaiters
        rfl
  simp only [tokenFor, miss, taken, if_false]

theorem lockGranted_eq_some {manager : TokenManager} {key : TokenKey} {now : ℚ}
    {caller : Nat} {outcome : Entry × TokenManager}
    (granted : manager.lockGranted key now = some (caller, outcome)) :
    ∃ rest, manager.locks key = { holder := none, waiters := caller :: rest } ∧
      outcome =
        (manager.setLock key { holder := some caller, waiters := rest }).underLock key now := by
  cases lock : manager.locks key with
  | mk holder waiters =>
      simp only [lockGranted, lock] at granted
      cases holder with
      | some other => cases granted
      | none =>
          cases waiters with
          | nil => cases granted
          | cons first rest =>
              have parts := Option.some.inj granted
              have same : first = caller := congrArg Prod.fst parts
              subst same
              exact ⟨rest, rfl, (congrArg Prod.snd parts).symm⟩

end TokenManager

end AcdpPlayground.Auth

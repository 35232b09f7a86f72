/-
The freshness that `token_for` promises its caller, at the moment it hands the token over.
A moment is an action with the reading of a clock that never goes back; the segments that
look at the clock read that moment's value.

Two of the three return paths check the token first. The third returns what the exchange
brought back, with the expiry the registry declared, and checks nothing.
-/

import AcdpPlayground.Auth.TokenHistory

namespace AcdpPlayground.Auth

open TransitionRun

structure Moment where
  now : ℚ
  action : TokenAction

def TokenAction.ReadsAt (now : ℚ) : TokenAction → Prop
  | .tokenFor _ _ reading => reading = now
  | .revoke _ _ reading => reading = now
  | .resumed _ reading => reading = now
  | _ => True

instance decidableReadsAt (now : ℚ) : ∀ action : TokenAction, Decidable (action.ReadsAt now)
  | .tokenFor _ _ reading => inferInstanceAs (Decidable (reading = now))
  | .revoke _ _ reading => inferInstanceAs (Decidable (reading = now))
  | .resumed _ reading => inferInstanceAs (Decidable (reading = now))
  | .invalidate _ _ _ | .mintSucceeded _ _ | .mintFailed _ | .revokeAnswered _ | .cancelled _ =>
      .isTrue trivial

structure HandedOut where
  now : ℚ
  cached : CachedToken

structure ClockedState where
  tokens : TokenState
  now : ℚ
  handedOut : List HandedOut

def ClockedState.initial (leeway : Int) (start : ℚ) : ClockedState :=
  { tokens := TokenState.initial leeway
    now := start
    handedOut := [] }

def returnedIn (log : List LogEntry) : List CachedToken :=
  log.filterMap (fun entry =>
    match entry with
    | .returned _ _ cached => some cached
    | .dropped _ => none)

def clockedStep (jtiOf : CachedToken → Option String) (state : ClockedState) (moment : Moment) :
    Option ClockedState :=
  if state.now ≤ moment.now ∧ moment.action.ReadsAt moment.now then
    match tokenStep jtiOf state.tokens moment.action with
    | some next =>
        some
          { tokens := next
            now := moment.now
            handedOut := state.handedOut ++
              (returnedIn (next.log.drop state.tokens.log.length)).map
                (fun cached => { now := moment.now, cached := cached }) }
    | none => none
  else none

def ReturnsFresh (leeway : Int) (state : ClockedState) : Prop :=
  ∀ handed ∈ state.handedOut, handed.now + leeway < handed.cached.expiresAt

instance (leeway : Int) (state : ClockedState) : Decidable (ReturnsFresh leeway state) :=
  inferInstanceAs (Decidable (∀ handed ∈ state.handedOut,
    handed.now + leeway < handed.cached.expiresAt))

def TokenAction.minted : TokenAction → Option CachedToken
  | .mintSucceeded _ cached => some cached
  | _ => none

/-- A token the registry sends is fresh when its exchange ends. -/
def IssuedFresh (leeway : Int) (moment : Moment) : Prop :=
  ∀ cached ∈ moment.action.minted, moment.now + leeway < cached.expiresAt

instance (leeway : Int) (moment : Moment) : Decidable (IssuedFresh leeway moment) :=
  inferInstanceAs (Decidable (∀ cached ∈ moment.action.minted,
    moment.now + leeway < cached.expiresAt))

/-! ### What one action returns -/

/-- An action returns the token it minted, or at most one fresh one. -/
structure ReturnSpec (state : TokenState) (now : ℚ) (minted : Option CachedToken)
    (next : TokenState) : Prop where
  leeway : next.manager.leeway = state.manager.leeway
  returned : ∃ more, next.log = state.log ++ more ∧
    (returnedIn more = minted.toList ∨
      (minted = none ∧ ∀ cached ∈ returnedIn more, cached.isFresh state.manager.leeway now = true))

theorem proceed_returns {jtiOf : CachedToken → Option String} {state : TokenState} {index : Nat}
    {caller : Caller} {now : ℚ} {outcome : TokenManager.Entry × TokenManager}
    (reading : TokenManager.ReadingSpec state.manager caller.key now outcome) :
    ReturnSpec state now none (state.proceed jtiOf index caller outcome) := by
  unfold TokenState.proceed
  cases entry : outcome.1 with
  | returned cached =>
      refine ⟨reading.leeway, [.returned caller.agentDid caller.url cached], rfl, .inr ⟨rfl, ?_⟩⟩
      intro other member
      rw [List.mem_singleton.mp member]
      exact reading.fresh cached entry
  | queued =>
      refine ⟨reading.leeway, [], (List.append_nil _).symm, .inr ⟨rfl, ?_⟩⟩
      intro other member
      cases member
  | minting reason =>
      refine ⟨reading.leeway, [], (List.append_nil _).symm, .inr ⟨rfl, ?_⟩⟩
      intro other member
      cases member

theorem enter_returns {jtiOf : CachedToken → Option String} (state : TokenState) (caller : Caller)
    (now : ℚ) : ReturnSpec state now none (state.enter jtiOf caller now) := by
  have arrived : ReturnSpec { state with callers := state.callers ++ [caller] } now none
      (state.enter jtiOf caller now) :=
    proceed_returns (state.manager.tokenFor_reading caller.key now _)
  exact ⟨arrived.leeway, arrived.returned⟩

theorem silent_returns {state next : TokenState} (now : ℚ) {more : List LogEntry}
    (leeway : next.manager.leeway = state.manager.leeway) (log : next.log = state.log ++ more)
    (silent : returnedIn more = []) : ReturnSpec state now none next := by
  refine ⟨leeway, more, log, .inr ⟨rfl, ?_⟩⟩
  intro cached member
  rw [silent] at member
  cases member

theorem returnedIn_dropped (cached : Option CachedToken) :
    returnedIn ((cached.map (fun cached => LogEntry.dropped cached.token)).toList) = [] := by
  cases cached <;> rfl

theorem tokenStep_returns {jtiOf : CachedToken → Option String} {state next : TokenState}
    {action : TokenAction} {now : ℚ} (reads : action.ReadsAt now)
    (taken : tokenStep jtiOf state action = some next) :
    ReturnSpec state now action.minted next := by
  cases tokenStep_move taken with
  | tokenFor _ _ _ =>
      cases reads
      exact enter_returns state _ now
  | revoke _ _ _ =>
      cases reads
      exact enter_returns state _ now
  | invalidate _ _ _ =>
      exact silent_returns now rfl rfl (returnedIn_dropped _)
  | resumed _ _ granted =>
      cases reads
      exact proceed_returns (TokenManager.lockGranted_reading granted)
  | @mintSucceeded _ caller _ cached _ _ =>
      exact ⟨rfl, [.returned caller.agentDid caller.url cached], rfl, .inl rfl⟩
  | mintFailed _ _ => exact silent_returns now rfl (List.append_nil _).symm rfl
  | revokeAnswered _ _ => exact silent_returns now rfl rfl (returnedIn_dropped _)
  | waiterCancelled _ _ => exact silent_returns now rfl (List.append_nil _).symm rfl
  | mintCancelled _ _ => exact silent_returns now rfl (List.append_nil _).symm rfl
  | revokeCancelled _ _ => exact silent_returns now rfl (List.append_nil _).symm rfl

/-! ### Whole histories -/

theorem clockedStep_eq_some {jtiOf : CachedToken → Option String} {state next : ClockedState}
    {moment : Moment} (taken : clockedStep jtiOf state moment = some next) :
    moment.action.ReadsAt moment.now ∧
      ∃ tokens, tokenStep jtiOf state.tokens moment.action = some tokens ∧ next =
        { tokens := tokens
          now := moment.now
          handedOut := state.handedOut ++
            (returnedIn (tokens.log.drop state.tokens.log.length)).map
              (fun cached => { now := moment.now, cached := cached }) } := by
  unfold clockedStep at taken
  split at taken
  · next enabled =>
      split at taken
      · next tokens moved =>
          cases taken
          exact ⟨enabled.2, tokens, moved, rfl⟩
      · cases taken
  · cases taken

theorem clockedStep_leeway {jtiOf : CachedToken → Option String} {leeway : Int}
    (state : ClockedState) (moment : Moment) (next : ClockedState)
    (same : state.tokens.manager.leeway = leeway)
    (taken : clockedStep jtiOf state moment = some next) :
    next.tokens.manager.leeway = leeway := by
  obtain ⟨reads, tokens, moved, rfl⟩ := clockedStep_eq_some taken
  rw [← same]
  exact (tokenStep_returns reads moved).leeway

/-- One moment keeps the promise exactly when the token it minted, if any, is fresh. -/
theorem clockedStep_fresh_iff {jtiOf : CachedToken → Option String} {leeway : Int}
    (state : ClockedState) (moment : Moment) (next : ClockedState)
    (same : state.tokens.manager.leeway = leeway)
    (taken : clockedStep jtiOf state moment = some next) :
    ReturnsFresh leeway next ↔ ReturnsFresh leeway state ∧ IssuedFresh leeway moment := by
  obtain ⟨reads, tokens, moved, rfl⟩ := clockedStep_eq_some taken
  obtain ⟨more, log, returned⟩ := (tokenStep_returns reads moved).returned
  have handed : ReturnsFresh leeway
      { tokens := tokens
        now := moment.now
        handedOut := state.handedOut ++
          (returnedIn (tokens.log.drop state.tokens.log.length)).map
            (fun cached => { now := moment.now, cached := cached }) } ↔
      ReturnsFresh leeway state ∧
        ∀ cached ∈ returnedIn more, moment.now + leeway < cached.expiresAt := by
    unfold ReturnsFresh
    rw [log, List.drop_left, List.forall_mem_append, List.forall_mem_map]
  rw [handed]
  refine and_congr_right (fun _ => ?_)
  rcases returned with brought | ⟨nothing, fresh⟩
  · rw [brought]
    exact forall_congr' (fun _ => imp_congr_left Option.mem_toList)
  · constructor
    · intro _ cached member
      rw [nothing] at member
      cases member
    · intro _ cached member
      rw [← same]
      exact of_decide_eq_true (fresh cached member)

/-- Every token handed out is fresh at that moment exactly when the registry never
answered with one that was not. -/
theorem returns_fresh_iff_issued_fresh (jtiOf : CachedToken → Option String) (leeway : Int)
    (start : ℚ) {history : List Moment} {state : ClockedState}
    (ran : runFrom (clockedStep jtiOf) (ClockedState.initial leeway start) history =
      some state) :
    ReturnsFresh leeway state ↔ ∀ moment ∈ history, IssuedFresh leeway moment := by
  have none_yet : ReturnsFresh leeway (ClockedState.initial leeway start) := by
    intro handed member
    cases member
  have exactly := runFrom_iff_forall clockedStep_leeway clockedStep_fresh_iff
    (show (ClockedState.initial leeway start).tokens.manager.leeway = leeway from rfl) ran
  rw [exactly]
  exact and_iff_right none_yet

/-- One token on each of the three paths: minted, rechecked under the lock, cached. -/
def threePaths : List Moment :=
  [{ now := 1800000000
     action := .tokenFor "did:web:a" "http://registry-a" 1800000000 },
    { now := 1800000001
      action := .tokenFor "did:web:a" "http://registry-a/" 1800000001 },
    { now := 1800000009
      action := .mintSucceeded 0 (issuedJwt "jwt-1") },
    { now := 1800000010
      action := .resumed 1 1800000010 },
    { now := 1899999969
      action := .tokenFor "did:web:a" "http://registry-a" 1899999969 }]

theorem three_paths_fresh :
    ∃ state,
      runFrom (clockedStep (fun _ => none)) (ClockedState.initial 30 1800000000) threePaths =
          some state ∧
        state.handedOut.length = 3 ∧ ReturnsFresh 30 state := by
  have runs : (runFrom (clockedStep (fun _ => none)) (ClockedState.initial 30 1800000000)
      threePaths).map (fun state => state.handedOut.length) = some 3 := by decide +kernel
  obtain ⟨state, ran, returns⟩ := Option.map_eq_some_iff.mp runs
  refine ⟨state, ran, returns, (returns_fresh_iff_issued_fresh _ 30 1800000000 ran).mpr ?_⟩
  decide +kernel

/-- The exchange takes a minute and the token it brings back lives for half of one. -/
def slowExchange : List Moment :=
  [{ now := 1800000000
     action := .tokenFor "did:web:a" "http://registry-a" 1800000000 },
    { now := 1800000060
      action := .mintSucceeded 0 { token := "jwt-1", expiresAt := 1800000030 } }]

theorem slow_exchange_not_fresh :
    ∃ state,
      runFrom (clockedStep (fun _ => none)) (ClockedState.initial 30 1800000000) slowExchange =
          some state ∧
        ¬ ReturnsFresh 30 state := by
  have runs : (runFrom (clockedStep (fun _ => none)) (ClockedState.initial 30 1800000000)
      slowExchange).map (fun state => decide (ReturnsFresh 30 state)) = some false := by
    decide +kernel
  obtain ⟨state, ran, stale⟩ := Option.map_eq_some_iff.mp runs
  exact ⟨state, ran, of_decide_eq_false stale⟩

end AcdpPlayground.Auth

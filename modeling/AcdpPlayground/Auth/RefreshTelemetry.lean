/-
The `refresh_reason` that `_mint` logs when it succeeds, over whole histories of a manager.

`token_for` fixes the reason when the exchange starts: it is an argument of `_mint` and
stays in the frame of the caller. The log keeps what an operator could compare it with,
per key: the invalidations, those of `revoke` included, and the successful mints.
-/

import AcdpPlayground.Auth.TokenHistory

namespace AcdpPlayground.Auth

open TransitionRun TaskTable

inductive TelemetryEntry where
  | invalidated (key : TokenKey) (reason : RefreshReason)
  | minted (key : TokenKey) (reason : RefreshReason)
deriving DecidableEq

/-- `reasons` holds the argument of the `_mint` each caller runs. -/
structure TelemetryState where
  tokens : TokenState
  reasons : Nat → Option RefreshReason
  log : List TelemetryEntry

def TelemetryState.initial (leeway : Int) : TelemetryState :=
  { tokens := TokenState.initial leeway
    reasons := fun _ => none
    log := [] }

def TokenManager.Entry.reason : TokenManager.Entry → Option RefreshReason
  | .minting reason => some reason
  | _ => none

/-- The caller that starts an exchange with this action and the reason it gives. -/
def startedMint (state : TokenState) : TokenAction → Option (Nat × RefreshReason)
  | .tokenFor agentDid registryBaseUrl now =>
      let index := state.callers.length
      (state.manager.tokenFor (keyFor agentDid registryBaseUrl) now index).1.reason.map
        (fun reason => (index, reason))
  | .revoke agentDid registryBaseUrl now =>
      let index := state.callers.length
      (state.manager.tokenFor (keyFor agentDid (rstripSlashes registryBaseUrl)) now
        index).1.reason.map (fun reason => (index, reason))
  | .resumed index now =>
      match state.callers[index]? with
      | some caller =>
          match state.manager.lockGranted caller.key now with
          | some (_, outcome) => outcome.1.reason.map (fun reason => (index, reason))
          | none => none
      | none => none
  | _ => none

def TelemetryState.entries (state : TelemetryState) : TokenAction → List TelemetryEntry
  | .invalidate agentDid registryBaseUrl reason =>
      [.invalidated (keyFor agentDid registryBaseUrl) reason]
  | .revokeAnswered index =>
      match state.tokens.callers[index]? with
      | some caller => [.invalidated caller.key .reactive401]
      | none => []
  | .mintSucceeded index _ =>
      match state.tokens.callers[index]?, state.reasons index with
      | some caller, some reason => [.minted caller.key reason]
      | _, _ => []
  | _ => []

def telemetryStep (jtiOf : CachedToken → Option String) (state : TelemetryState)
    (action : TokenAction) : Option TelemetryState :=
  match tokenStep jtiOf state.tokens action with
  | some next =>
      some
        { tokens := next
          reasons :=
            match startedMint state.tokens action with
            | some (index, reason) => Function.update state.reasons index (some reason)
            | none => state.reasons
          log := state.log ++ state.entries action }
  | none => none

/-! ### The reason an operator expects -/

/-- The reason of the latest `invalidate` of the key since its last successful mint. -/
def latestInvalidate (key : TokenKey) (log : List TelemetryEntry) : Option RefreshReason :=
  log.foldl
    (fun latest entry =>
      match entry with
      | .invalidated other reason => if other = key then some reason else latest
      | .minted other _ => if other = key then none else latest)
    none

def mintedBefore (key : TokenKey) (log : List TelemetryEntry) : Bool :=
  log.any (fun entry =>
    match entry with
    | .minted other _ => decide (other = key)
    | .invalidated _ _ => false)

def expectedReason (key : TokenKey) (log : List TelemetryEntry) : RefreshReason :=
  match latestInvalidate key log with
  | some reason => reason
  | none => if mintedBefore key log then .proactiveRefresh else .firstUse

/-- Every successful mint was logged with the reason that the log before it asks for. -/
def ReasonsExpected (log : List TelemetryEntry) : Prop :=
  ∀ before key reason after, log = before ++ .minted key reason :: after →
    reason = expectedReason key before

/-! ### Where the reason survives -/

def inFlight (state : TokenState) (key : TokenKey) : Bool :=
  state.callers.any (Caller.inFlightFor key)

/-- No exchange is lost while an `invalidate` of its key is still unanswered, and no
`invalidate` arrives while an exchange of its key is under way. -/
def ReasonKept (state : TelemetryState) : TokenAction → Prop
  | .invalidate agentDid registryBaseUrl _ =>
      inFlight state.tokens (keyFor agentDid registryBaseUrl) = false
  | .revokeAnswered index =>
      ∀ caller ∈ state.tokens.callers[index]?, inFlight state.tokens caller.key = false
  | .mintFailed index | .cancelled index =>
      ∀ caller ∈ state.tokens.callers[index]?, caller.inFlightFor caller.key = true →
        latestInvalidate caller.key state.log = none
  | _ => True

/-! ### Logs -/

theorem latestInvalidate_invalidated (key other : TokenKey) (log : List TelemetryEntry)
    (reason : RefreshReason) :
    latestInvalidate key (log ++ [.invalidated other reason]) =
      if other = key then some reason else latestInvalidate key log := by
  simp only [latestInvalidate, List.foldl_append, List.foldl_cons, List.foldl_nil]

theorem latestInvalidate_minted (key other : TokenKey) (log : List TelemetryEntry)
    (reason : RefreshReason) :
    latestInvalidate key (log ++ [.minted other reason]) =
      if other = key then none else latestInvalidate key log := by
  simp only [latestInvalidate, List.foldl_append, List.foldl_cons, List.foldl_nil]

theorem mintedBefore_invalidated (key other : TokenKey) (log : List TelemetryEntry)
    (reason : RefreshReason) :
    mintedBefore key (log ++ [.invalidated other reason]) = mintedBefore key log := by
  simp only [mintedBefore, List.any_append, List.any_cons, List.any_nil, Bool.or_false]

theorem mintedBefore_minted (key other : TokenKey) (log : List TelemetryEntry)
    (reason : RefreshReason) :
    mintedBefore key (log ++ [.minted other reason]) =
      (mintedBefore key log || decide (other = key)) := by
  simp only [mintedBefore, List.any_append, List.any_cons, List.any_nil, Bool.or_false]

theorem expectedReason_invalidated_ne {key other : TokenKey} {log : List TelemetryEntry}
    {reason : RefreshReason} (different : other ≠ key) :
    expectedReason key (log ++ [.invalidated other reason]) = expectedReason key log := by
  unfold expectedReason
  rw [latestInvalidate_invalidated, if_neg different, mintedBefore_invalidated]

theorem expectedReason_minted_ne {key other : TokenKey} {log : List TelemetryEntry}
    {reason : RefreshReason} (different : other ≠ key) :
    expectedReason key (log ++ [.minted other reason]) = expectedReason key log := by
  unfold expectedReason
  rw [latestInvalidate_minted, if_neg different, mintedBefore_minted,
    decide_eq_false different, Bool.or_false]

theorem reasonsExpected_invalidated {log : List TelemetryEntry} (expected : ReasonsExpected log)
    (key : TokenKey) (reason : RefreshReason) :
    ReasonsExpected (log ++ [.invalidated key reason]) := by
  intro before other logged after same
  rcases marker_in_append same with ⟨rest, left, _⟩ | ⟨middle, _, right⟩
  · exact expected before other logged rest left
  · cases middle with
    | nil => cases right
    | cons _ rest =>
        cases rest with
        | nil => cases right
        | cons _ _ => cases right

theorem reasonsExpected_minted {log : List TelemetryEntry} (expected : ReasonsExpected log)
    {key : TokenKey} {reason : RefreshReason} (right : reason = expectedReason key log) :
    ReasonsExpected (log ++ [.minted key reason]) := by
  intro before other logged after same
  rcases marker_in_append same with ⟨rest, left, _⟩ | ⟨middle, left, last⟩
  · exact expected before other logged rest left
  · cases middle with
    | nil =>
        cases last
        rw [left, List.append_nil]
        exact right
    | cons _ rest =>
        cases rest with
        | nil => cases last
        | cons _ _ => cases last

/-! ### Exchanges by caller -/

def Flying (callers : List Caller) (index : Nat) (key : TokenKey) : Prop :=
  ∃ caller, callers[index]? = some caller ∧ caller.inFlightFor key = true

theorem inFlight_eq_false_iff {state : TokenState} {key : TokenKey} :
    inFlight state key = false ↔ ∀ index, ¬ Flying state.callers index key := by
  rw [inFlight, List.any_eq_false]
  constructor
  · rintro none_minting index ⟨caller, found, minting⟩
    exact none_minting caller (List.mem_of_getElem? found) minting
  · intro none_flying caller member minting
    obtain ⟨index, found⟩ := List.getElem?_of_mem member
    exact none_flying index ⟨caller, found, minting⟩

theorem inFlightFor_of_minting {caller : Caller} {exchange : Exchange}
    (minting : caller.phase = .minting exchange) :
    caller.inFlightFor exchange.key = true := by
  unfold Caller.inFlightFor
  rw [minting]
  exact decide_eq_true rfl

theorem inFlightFor_of_quiet {caller : Caller} {key : TokenKey}
    (quiet : ∀ exchange, caller.phase ≠ .minting exchange) :
    ¬ caller.inFlightFor key = true := by
  intro minting
  obtain ⟨exchange, phase, _⟩ := inFlightFor_eq_true minting
  exact quiet exchange phase

theorem holder_of_flying {locks : TokenKey → Lock} {callers : List Caller} {index : Nat}
    {key : TokenKey} (flights : Flights locks callers) (flying : Flying callers index key) :
    (locks key).holder = some index := by
  obtain ⟨caller, found, minting⟩ := flying
  obtain ⟨exchange, phase, rfl⟩ := inFlightFor_eq_true minting
  obtain ⟨rfl, held⟩ := flights index caller exchange found phase
  exact held

theorem flying_append {callers : List Caller} {caller : Caller} (idle : caller.phase = .ended)
    (index : Nat) (key : TokenKey) :
    Flying (callers ++ [caller]) index key ↔ Flying callers index key := by
  constructor
  · rintro ⟨found, present, minting⟩
    by_cases earlier : index < callers.length
    · rw [List.getElem?_append_left earlier] at present
      exact ⟨found, present, minting⟩
    · rw [List.getElem?_append_right (Nat.le_of_not_lt earlier)] at present
      rw [List.mem_singleton.mp (List.mem_of_getElem? present)] at minting
      refine absurd minting (inFlightFor_of_quiet ?_)
      rw [idle]
      intro exchange same
      cases same
  · rintro ⟨found, present, minting⟩
    refine ⟨found, ?_, minting⟩
    rw [List.getElem?_append_left (List.getElem?_eq_some_iff.mp present).1]
    exact present

theorem flying_set {callers : List Caller} {caller written : Caller} {index : Nat}
    (found : callers[index]? = some caller) (other : Nat) (key : TokenKey) :
    Flying (callers.set index written) other key ↔
      if other = index then written.inFlightFor key = true else Flying callers other key := by
  by_cases same : other = index
  · subst same
    rw [if_pos rfl, Flying, List.getElem?_set_self (List.getElem?_eq_some_iff.mp found).1]
    exact ⟨fun ⟨_, present, minting⟩ => Option.some.inj present ▸ minting,
      fun minting => ⟨written, rfl, minting⟩⟩
  · rw [if_neg same, Flying, List.getElem?_set_ne (Ne.symm same)]
    exact Iff.rfl

/-- A caller outside an exchange that is put into a phase outside one. -/
theorem flying_set_quiet {callers : List Caller} {caller : Caller} {index : Nat}
    {phase : CallPhase} (found : callers[index]? = some caller)
    (before : ∀ exchange, caller.phase ≠ .minting exchange)
    (quiet : ∀ exchange, phase ≠ .minting exchange) (other : Nat) (key : TokenKey) :
    Flying (callers.set index { caller with phase := phase }) other key ↔
      Flying callers other key := by
  rw [flying_set found]
  split
  · next same =>
      subst same
      refine iff_of_false (inFlightFor_of_quiet quiet) ?_
      rintro ⟨present, here, minting⟩
      rw [found] at here
      cases here
      exact inFlightFor_of_quiet before minting
  · exact Iff.rfl

/-! ### Steps -/

structure ReasonInvariant (state : TelemetryState) : Prop where
  logged : ReasonsExpected state.log
  flying : ∀ index key, Flying state.tokens.callers index key →
    state.reasons index = some (expectedReason key state.log) ∧
      state.tokens.manager.pendingReasons key = none
  idle : ∀ key, (∀ index, ¬ Flying state.tokens.callers index key) →
    state.tokens.manager.pendingReasons key = latestInvalidate key state.log
  cached : ∀ key, latestInvalidate key state.log = none →
    (state.tokens.manager.cache key).isSome = mintedBefore key state.log

theorem initial_reasonInvariant (leeway : Int) :
    ReasonInvariant (TelemetryState.initial leeway) := by
  constructor
  · intro before key reason after same
    cases before <;> cases same
  · rintro index key ⟨caller, found, _⟩
    cases found
  · exact fun _ _ => rfl
  · exact fun _ _ => rfl

theorem quiet_reasonInvariant {state next : TelemetryState} (invariant : ReasonInvariant state)
    (log : next.log = state.log) (reasons : next.reasons = state.reasons)
    (pending : next.tokens.manager.pendingReasons = state.tokens.manager.pendingReasons)
    (cache : next.tokens.manager.cache = state.tokens.manager.cache)
    (same : ∀ index key, Flying next.tokens.callers index key ↔
      Flying state.tokens.callers index key) : ReasonInvariant next := by
  constructor
  · rw [log]
    exact invariant.logged
  · intro index key flying
    rw [log, reasons, pending]
    exact invariant.flying index key ((same index key).mp flying)
  · intro key idle
    rw [log, pending]
    exact invariant.idle key (fun index flying => idle index ((same index key).mpr flying))
  · intro key
    rw [log, cache]
    exact invariant.cached key

/-- The exchange gets the expected reason: nothing was in flight for its key. -/
theorem started_reasonInvariant {state next : TelemetryState} {index : Nat} {key : TokenKey}
    {reason : RefreshReason} (invariant : ReasonInvariant state)
    (free : ∀ other, ¬ Flying state.tokens.callers other key)
    (outside : ∀ asked, ¬ Flying state.tokens.callers index asked)
    (fromPending : reason = (state.tokens.manager.pendingReasons key).getD
      (if (state.tokens.manager.cache key).isSome then .proactiveRefresh else .firstUse))
    (log : next.log = state.log)
    (reasons : next.reasons = Function.update state.reasons index (some reason))
    (pending : next.tokens.manager.pendingReasons =
      Function.update state.tokens.manager.pendingReasons key none)
    (cache : next.tokens.manager.cache = state.tokens.manager.cache)
    (started : ∀ other asked, Flying next.tokens.callers other asked ↔
      if other = index then key = asked else Flying state.tokens.callers other asked) :
    ReasonInvariant next := by
  have right : reason = expectedReason key state.log := by
    rw [fromPending, invariant.idle key free, expectedReason]
    cases latest : latestInvalidate key state.log with
    | some given => rfl
    | none =>
        rw [← invariant.cached key latest]
        rfl
  constructor
  · rw [log]
    exact invariant.logged
  · intro other asked flying
    rw [log, reasons, pending]
    have now_flying := (started other asked).mp flying
    split at now_flying
    · next same =>
        subst same
        subst now_flying
        rw [Function.update_self, Function.update_self]
        exact ⟨congrArg some right, rfl⟩
    · next different =>
        have differs : asked ≠ key := by
          intro same
          rw [same] at now_flying
          exact free other now_flying
        rw [Function.update_of_ne different, Function.update_of_ne differs]
        exact invariant.flying other asked now_flying
  · intro asked idle
    have differs : asked ≠ key := by
      intro same
      apply idle index
      rw [started, if_pos rfl]
      exact same.symm
    rw [log, pending, Function.update_of_ne differs]
    apply invariant.idle asked
    intro other flying
    by_cases same : other = index
    · rw [same] at flying
      exact outside asked flying
    · apply idle other
      rw [started, if_neg same]
      exact flying
  · intro asked
    rw [log, cache]
    exact invariant.cached asked

theorem not_flying_of_quiet {callers : List Caller} {caller : Caller} {index : Nat}
    (found : callers[index]? = some caller)
    (quiet : ∀ exchange, caller.phase ≠ .minting exchange) (key : TokenKey) :
    ¬ Flying callers index key := by
  rintro ⟨present, here, minting⟩
  rw [found] at here
  cases here
  exact inFlightFor_of_quiet quiet minting

/-- A segment of `token_for`: either it starts an exchange or nothing changes here. -/
theorem proceed_reasonInvariant {jtiOf : CachedToken → Option String}
    {state next : TelemetryState} {index : Nat} {caller : Caller} {now : ℚ}
    {outcome : TokenManager.Entry × TokenManager}
    (flights : Flights state.tokens.manager.locks state.tokens.callers)
    (invariant : ReasonInvariant state) (found : state.tokens.callers[index]? = some caller)
    (outside : ∀ exchange, caller.phase ≠ .minting exchange)
    (spec : SegmentSpec state.tokens.manager caller.key index outcome)
    (reading : TokenManager.ReadingSpec state.tokens.manager caller.key now outcome)
    (tokens : next.tokens = state.tokens.proceed jtiOf index caller outcome)
    (reasons : next.reasons =
      match outcome.1.reason.map (fun reason => (index, reason)) with
      | some (index, reason) => Function.update state.reasons index (some reason)
      | none => state.reasons)
    (log : next.log = state.log) : ReasonInvariant next := by
  unfold TokenState.proceed at tokens
  cases entry : outcome.1 with
  | returned cached =>
      rw [entry] at reasons tokens
      have kept := reading.kept (fun reason => by rw [entry]; exact fun same => by cases same)
      refine quiet_reasonInvariant invariant log reasons ?_ ?_ ?_
      · rw [tokens]
        exact kept
      · rw [tokens]
        exact spec.cache
      · rw [tokens]
        exact flying_set_quiet found outside (returned_phase jtiOf caller cached)
  | queued =>
      rw [entry] at reasons tokens
      have kept := reading.kept (fun reason => by rw [entry]; exact fun same => by cases same)
      refine quiet_reasonInvariant invariant log reasons ?_ ?_ ?_
      · rw [tokens]
        exact kept
      · rw [tokens]
        exact spec.cache
      · rw [tokens]
        exact flying_set_quiet found outside (fun exchange same => by cases same)
  | minting reason =>
      rw [entry] at reasons tokens
      obtain ⟨pending, given⟩ := reading.taken reason entry
      have unheld := (spec.started reason entry).1
      refine started_reasonInvariant invariant ?_ (not_flying_of_quiet found outside) given log
        reasons ?_ ?_ ?_
      · intro other flying
        rw [holder_of_flying flights flying] at unheld
        cases unheld
      · rw [tokens]
        exact pending
      · rw [tokens]
        exact spec.cache
      · intro other asked
        rw [tokens]
        refine (flying_set found other asked).trans ?_
        split
        · exact decide_eq_true_iff
        · exact Iff.rfl

theorem enter_reasonInvariant {jtiOf : CachedToken → Option String}
    {state next : TelemetryState} {caller : Caller} {now : ℚ}
    (flights : Flights state.tokens.manager.locks state.tokens.callers)
    (invariant : ReasonInvariant state) (idle : caller.phase = .ended)
    (tokens : next.tokens = state.tokens.enter jtiOf caller now)
    (reasons : next.reasons =
      match (state.tokens.manager.tokenFor caller.key now
        state.tokens.callers.length).1.reason.map
          (fun reason => (state.tokens.callers.length, reason)) with
      | some (index, reason) => Function.update state.reasons index (some reason)
      | none => state.reasons)
    (log : next.log = state.log) : ReasonInvariant next := by
  have arrived : ReasonInvariant
      { state with
        tokens := { state.tokens with callers := state.tokens.callers ++ [caller] } } :=
    quiet_reasonInvariant invariant rfl rfl rfl rfl (flying_append idle)
  refine proceed_reasonInvariant (flights_arrived flights idle) arrived ?_ ?_
    (state.tokens.manager.tokenFor_spec caller.key now _)
    (state.tokens.manager.tokenFor_reading caller.key now _) tokens reasons log
  · exact List.getElem?_concat_length
  · rw [idle]
    intro exchange same
    cases same

theorem drop_reasonInvariant {state : TelemetryState} {key : TokenKey} {reason : RefreshReason}
    (invariant : ReasonInvariant state)
    (free : ∀ index, ¬ Flying state.tokens.callers index key) :
    ReasonInvariant
      { state with
        tokens := state.tokens.drop key reason
        log := state.log ++ [.invalidated key reason] } := by
  constructor
  · exact reasonsExpected_invalidated invariant.logged key reason
  · intro index asked flying
    have different : key ≠ asked := by
      intro same
      rw [← same] at flying
      exact free index flying
    obtain ⟨given, pending⟩ := invariant.flying index asked flying
    rw [expectedReason_invalidated_ne different]
    refine ⟨given, ?_⟩
    change Function.update state.tokens.manager.pendingReasons key (some reason) asked = none
    rw [Function.update_of_ne (Ne.symm different)]
    exact pending
  · intro asked idle
    change Function.update state.tokens.manager.pendingReasons key (some reason) asked = _
    rw [latestInvalidate_invalidated]
    by_cases same : key = asked
    · rw [if_pos same, same, Function.update_self]
    · rw [if_neg same, Function.update_of_ne (Ne.symm same)]
      exact invariant.idle asked idle
  · intro asked nothing
    rw [latestInvalidate_invalidated] at nothing
    split at nothing
    · cases nothing
    · next different =>
        change (Function.update state.tokens.manager.cache key none asked).isSome = _
        rw [Function.update_of_ne (Ne.symm different), mintedBefore_invalidated]
        exact invariant.cached asked nothing

/-- The end of an exchange: its key was in flight through this caller alone. -/
theorem flying_ended {locks : TokenKey → Lock} {callers : List Caller} {caller : Caller}
    {index : Nat} {exchange : Exchange} {phase : CallPhase} (flights : Flights locks callers)
    (found : callers[index]? = some caller) (minting : caller.phase = .minting exchange)
    (quiet : ∀ other, phase ≠ .minting other) (other : Nat) (asked : TokenKey) :
    Flying (callers.set index { caller with phase := phase }) other asked ↔
      Flying callers other asked ∧ asked ≠ caller.key := by
  obtain ⟨own, held⟩ := flights index caller exchange found minting
  rw [flying_set found]
  split
  · next here =>
      refine iff_of_false (inFlightFor_of_quiet quiet) ?_
      rintro ⟨⟨present, same, inFlight⟩, different⟩
      rw [here, found] at same
      cases same
      obtain ⟨running, phased, rfl⟩ := inFlightFor_eq_true inFlight
      rw [minting] at phased
      cases phased
      rw [own] at different
      exact different rfl
  · next elsewhere =>
      constructor
      · intro flying
        refine ⟨flying, ?_⟩
        intro same
        have holder := holder_of_flying flights flying
        rw [same, held] at holder
        exact elsewhere (Option.some.inj holder).symm
      · exact fun flying => flying.1

theorem inFlightFor_own {locks : TokenKey → Lock} {callers : List Caller} {caller : Caller}
    {index : Nat} {exchange : Exchange} (flights : Flights locks callers)
    (found : callers[index]? = some caller) (minting : caller.phase = .minting exchange) :
    caller.inFlightFor caller.key = true := by
  have own := inFlightFor_of_minting minting
  rw [(flights index caller exchange found minting).1] at own
  exact own

theorem minted_reasonInvariant {jtiOf : CachedToken → Option String} {state : TelemetryState}
    {index : Nat} {caller : Caller} {exchange : Exchange} {reason : RefreshReason}
    (cached : CachedToken)
    (flights : Flights state.tokens.manager.locks state.tokens.callers)
    (invariant : ReasonInvariant state) (found : state.tokens.callers[index]? = some caller)
    (minting : caller.phase = .minting exchange)
    (given : reason = expectedReason caller.key state.log) :
    ReasonInvariant
      { state with
        tokens := (state.tokens.store caller exchange cached).returned jtiOf index caller cached
        log := state.log ++ [.minted caller.key reason] } := by
  have ended := flying_ended flights found minting (returned_phase jtiOf caller cached)
  constructor
  · exact reasonsExpected_minted invariant.logged given
  · intro other asked flying
    obtain ⟨before, different⟩ := (ended other asked).mp flying
    rw [expectedReason_minted_ne (Ne.symm different)]
    exact invariant.flying other asked before
  · intro asked idle
    change state.tokens.manager.pendingReasons asked = _
    rw [latestInvalidate_minted]
    by_cases same : caller.key = asked
    · rw [if_pos same, ← same]
      exact (invariant.flying index caller.key
        ⟨caller, found, inFlightFor_own flights found minting⟩).2
    · rw [if_neg same]
      apply invariant.idle asked
      intro other flying
      exact idle other ((ended other asked).mpr ⟨flying, Ne.symm same⟩)
  · intro asked nothing
    change (Function.update state.tokens.manager.cache caller.key (some cached) asked).isSome = _
    rw [mintedBefore_minted]
    by_cases same : caller.key = asked
    · rw [same, Function.update_self, decide_eq_true rfl, Bool.or_true]
      rfl
    · rw [latestInvalidate_minted, if_neg same] at nothing
      rw [Function.update_of_ne (Ne.symm same), decide_eq_false same, Bool.or_false]
      exact invariant.cached asked nothing

theorem lost_reasonInvariant {state : TelemetryState} {index : Nat} {caller : Caller}
    {exchange : Exchange} (flights : Flights state.tokens.manager.locks state.tokens.callers)
    (invariant : ReasonInvariant state) (found : state.tokens.callers[index]? = some caller)
    (minting : caller.phase = .minting exchange)
    (answered : latestInvalidate caller.key state.log = none) :
    ReasonInvariant { state with tokens := state.tokens.breakOff index caller } := by
  have quiet : ∀ other, CallPhase.ended ≠ .minting other := fun other same => by cases same
  have ended := flying_ended flights found minting quiet
  constructor
  · exact invariant.logged
  · intro other asked flying
    exact invariant.flying other asked ((ended other asked).mp flying).1
  · intro asked idle
    by_cases same : asked = caller.key
    · rw [same, answered]
      exact (invariant.flying index caller.key
        ⟨caller, found, inFlightFor_own flights found minting⟩).2
    · apply invariant.idle asked
      intro other flying
      exact idle other ((ended other asked).mpr ⟨flying, same⟩)
  · exact invariant.cached

/-! ### Whole histories -/

theorem telemetryStep_eq_some {jtiOf : CachedToken → Option String}
    {state next : TelemetryState} {action : TokenAction}
    (taken : telemetryStep jtiOf state action = some next) :
    ∃ tokens, tokenStep jtiOf state.tokens action = some tokens ∧ next =
      { tokens := tokens
        reasons :=
          match startedMint state.tokens action with
          | some (index, reason) => Function.update state.reasons index (some reason)
          | none => state.reasons
        log := state.log ++ state.entries action } := by
  unfold telemetryStep at taken
  cases moved : tokenStep jtiOf state.tokens action with
  | none =>
      rw [moved] at taken
      cases taken
  | some tokens =>
      rw [moved] at taken
      exact ⟨tokens, rfl, (Option.some.inj taken).symm⟩

theorem telemetryStep_reasonInvariant {jtiOf : CachedToken → Option String}
    {state next : TelemetryState} {action : TokenAction} (tokens : TokenInvariant state.tokens)
    (invariant : ReasonInvariant state) (kept : ReasonKept state action)
    (taken : telemetryStep jtiOf state action = some next) : ReasonInvariant next := by
  obtain ⟨moved, step, rfl⟩ := telemetryStep_eq_some taken
  cases tokenStep_move step with
  | tokenFor agentDid registryBaseUrl now =>
      exact enter_reasonInvariant tokens.flights invariant rfl rfl rfl (List.append_nil _)
  | revoke agentDid registryBaseUrl now =>
      exact enter_reasonInvariant tokens.flights invariant rfl rfl rfl (List.append_nil _)
  | invalidate agentDid registryBaseUrl reason =>
      exact drop_reasonInvariant invariant (inFlight_eq_false_iff.mp kept)
  | resumed found waiting granted =>
      refine proceed_reasonInvariant tokens.flights invariant found ?_
        (TokenManager.lockGranted_spec granted) (TokenManager.lockGranted_reading granted)
        rfl ?_ (List.append_nil _)
      · rw [waiting]
        intro exchange same
        cases same
      · simp only [startedMint, found, granted]
  | @mintSucceeded index caller exchange cached found minting =>
      have own := inFlightFor_own tokens.flights found minting
      have given := (invariant.flying index caller.key ⟨caller, found, own⟩).1
      simp only [startedMint, TelemetryState.entries, found, given]
      exact minted_reasonInvariant cached tokens.flights invariant found minting rfl
  | @mintFailed index caller exchange found minting =>
      have own := inFlightFor_own tokens.flights found minting
      rw [show state.log ++ state.entries (.mintFailed index) = state.log from List.append_nil _]
      exact lost_reasonInvariant tokens.flights invariant found minting (kept caller found own)
  | @revokeAnswered index caller found revoking =>
      have dropped : ReasonInvariant
          { state with
            tokens := state.tokens.drop caller.key .reactive401
            log := state.log ++ [.invalidated caller.key .reactive401] } :=
        drop_reasonInvariant invariant (inFlight_eq_false_iff.mp (kept caller found))
      simp only [startedMint, TelemetryState.entries, found]
      refine quiet_reasonInvariant dropped rfl rfl rfl rfl
        (flying_set_quiet found ?_ (fun exchange same => by cases same))
      rw [revoking]
      intro exchange same
      cases same
  | waiterCancelled found waiting =>
      refine quiet_reasonInvariant invariant (List.append_nil _) rfl rfl rfl
        (flying_set_quiet found ?_ (fun exchange same => by cases same))
      rw [waiting]
      intro exchange same
      cases same
  | @mintCancelled index caller exchange found minting =>
      have own := inFlightFor_own tokens.flights found minting
      rw [show state.log ++ state.entries (.cancelled index) = state.log from List.append_nil _]
      exact lost_reasonInvariant tokens.flights invariant found minting (kept caller found own)
  | revokeCancelled found revoking =>
      refine quiet_reasonInvariant invariant (List.append_nil _) rfl rfl rfl
        (flying_set_quiet found ?_ (fun exchange same => by cases same))
      rw [revoking]
      intro exchange same
      cases same

/-- In a history that keeps its reasons, every successful mint is logged with the reason
its key asks for. -/
theorem refresh_reasons_expected (jtiOf : CachedToken → Option String) (leeway : Int)
    {history : List TokenAction} {state : TelemetryState}
    (kept : StepsMeet (telemetryStep jtiOf) ReasonKept (TelemetryState.initial leeway) history)
    (ran : runFrom (telemetryStep jtiOf) (TelemetryState.initial leeway) history = some state) :
    ReasonsExpected state.log := by
  have preserved : ∀ before action next,
      TokenInvariant before.tokens ∧ ReasonInvariant before → ReasonKept before action →
      telemetryStep jtiOf before action = some next →
      TokenInvariant next.tokens ∧ ReasonInvariant next := by
    rintro before action next ⟨tokens, reasons⟩ keeps taken
    have advanced := telemetryStep_reasonInvariant tokens reasons keeps taken
    obtain ⟨moved, step, rfl⟩ := telemetryStep_eq_some taken
    exact ⟨tokenStep_invariant before.tokens action moved tokens step, advanced⟩
  have invariant := runFrom_conditional_invariant preserved
    ⟨initial_tokenInvariant leeway, initial_reasonInvariant leeway⟩ kept ran
  exact invariant.2.logged

instance decidableReasonKept (state : TelemetryState) :
    ∀ action, Decidable (ReasonKept state action)
  | .invalidate agentDid registryBaseUrl _ => inferInstanceAs
      (Decidable (inFlight state.tokens (keyFor agentDid registryBaseUrl) = false))
  | .revokeAnswered index => inferInstanceAs (Decidable (∀ caller ∈ state.tokens.callers[index]?,
      inFlight state.tokens caller.key = false))
  | .mintFailed index | .cancelled index =>
      inferInstanceAs (Decidable (∀ caller ∈ state.tokens.callers[index]?,
        caller.inFlightFor caller.key = true → latestInvalidate caller.key state.log = none))
  | .tokenFor _ _ _ | .revoke _ _ _ | .resumed _ _ | .mintSucceeded _ _ => .isTrue trivial

/-- A mint that fails on first use, one that succeeds, a proactive refresh, an
`invalidate`, a `revoke`: calls of one key, one after the other. -/
def refreshedInTurn : List TokenAction :=
  [.tokenFor "did:web:a" "http://registry-a/" 1800000000, .mintFailed 0,
    .tokenFor "did:web:a" "http://registry-a" 1800000001, .mintSucceeded 1 (issuedJwt "jwt-1"),
    .tokenFor "did:web:a" "http://registry-a" 1899999999, .mintFailed 2,
    .tokenFor "did:web:a" "http://registry-a" 1900000000, .mintSucceeded 3 (issuedJwt "jwt-2"),
    .invalidate "did:web:a" "http://registry-a" .reactive401,
    .tokenFor "did:web:a" "http://registry-a" 1900000001, .mintSucceeded 4
      { token := "jwt-3", expiresAt := 1950000000 },
    .revoke "did:web:a" "http://registry-a" 1900000002, .revokeAnswered 5,
    .tokenFor "did:web:a" "http://registry-a" 1900000003, .mintSucceeded 6 (issuedJwt "jwt-4")]

theorem refreshed_in_turn_expected :
    ∃ state,
      runFrom (telemetryStep (fun cached => some cached.token)) (TelemetryState.initial 30)
          refreshedInTurn = some state ∧
        state.log =
          [.minted (keyFor "did:web:a" "http://registry-a") .firstUse,
            .minted (keyFor "did:web:a" "http://registry-a") .proactiveRefresh,
            .invalidated (keyFor "did:web:a" "http://registry-a") .reactive401,
            .minted (keyFor "did:web:a" "http://registry-a") .reactive401,
            .invalidated (keyFor "did:web:a" "http://registry-a") .reactive401,
            .minted (keyFor "did:web:a" "http://registry-a") .reactive401] ∧
        ReasonsExpected state.log := by
  have kept : StepsMeet (telemetryStep (fun cached => some cached.token)) ReasonKept
      (TelemetryState.initial 30) refreshedInTurn := by decide +kernel
  have runs : (runFrom (telemetryStep (fun cached => some cached.token))
      (TelemetryState.initial 30) refreshedInTurn).map (fun state => state.log) =
        some
          [.minted (keyFor "did:web:a" "http://registry-a") .firstUse,
            .minted (keyFor "did:web:a" "http://registry-a") .proactiveRefresh,
            .invalidated (keyFor "did:web:a" "http://registry-a") .reactive401,
            .minted (keyFor "did:web:a" "http://registry-a") .reactive401,
            .invalidated (keyFor "did:web:a" "http://registry-a") .reactive401,
            .minted (keyFor "did:web:a" "http://registry-a") .reactive401] := by decide +kernel
  obtain ⟨state, ran, log⟩ := Option.map_eq_some_iff.mp runs
  exact ⟨state, ran, log, refresh_reasons_expected _ 30 kept ran⟩

/-- The exchange after the `invalidate` fails and takes the pending reason with it. -/
def lostReason : List TokenAction :=
  [.tokenFor "did:web:a" "http://registry-a" 1800000000, .mintSucceeded 0 (issuedJwt "jwt-1"),
    .invalidate "did:web:a" "http://registry-a" .reactive401,
    .tokenFor "did:web:a" "http://registry-a" 1800000001, .mintFailed 1,
    .tokenFor "did:web:a" "http://registry-a" 1800000002, .mintSucceeded 2 (issuedJwt "jwt-2")]

theorem lost_reason_not_expected :
    ∃ state,
      runFrom (telemetryStep (fun _ => none)) (TelemetryState.initial 30) lostReason =
          some state ∧
        ¬ ReasonsExpected state.log := by
  have runs : (runFrom (telemetryStep (fun _ => none)) (TelemetryState.initial 30)
      lostReason).map (fun state => state.log) =
        some
          [.minted (keyFor "did:web:a" "http://registry-a") .firstUse,
            .invalidated (keyFor "did:web:a" "http://registry-a") .reactive401,
            .minted (keyFor "did:web:a" "http://registry-a") .firstUse] := by decide +kernel
  obtain ⟨state, ran, log⟩ := Option.map_eq_some_iff.mp runs
  refine ⟨state, ran, ?_⟩
  intro expected
  have wrong := expected
    [.minted (keyFor "did:web:a" "http://registry-a") .firstUse,
      .invalidated (keyFor "did:web:a" "http://registry-a") .reactive401]
    (keyFor "did:web:a" "http://registry-a") .firstUse [] log
  revert wrong
  decide +kernel

end AcdpPlayground.Auth

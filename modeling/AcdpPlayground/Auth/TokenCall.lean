/-
One `await token_for(...)` from the caller's side: the call is made, other tasks run their
segments while it is suspended, and it ends with a token or with an exception. A token
that the cache has lost does not come back through such a call as long as the registry
issues no string twice.
-/

import AcdpPlayground.Auth.TokenHistory

namespace AcdpPlayground.Auth

open TransitionRun TaskTable

/-- How the call of a suspended caller ends with this segment, if it does: with the token
it returns, or with none when it raises. -/
def outcomeFor (state : TokenState) (index : Nat) : TokenAction → Option (Option CachedToken)
  | .resumed waiter now =>
      if waiter = index then
        match state.callers[index]? with
        | some caller =>
            match state.manager.lockGranted caller.key now with
            | some (_, .returned cached, _) => some (some cached)
            | _ => none
        | none => none
      else none
  | .mintSucceeded minting cached => if minting = index then some (some cached) else none
  | .mintFailed minting => if minting = index then some none else none
  | .cancelled suspended => if suspended = index then some none else none
  | _ => none

def awaitToken (jtiOf : CachedToken → Option String) (index : Nat) :
    TokenState → List TokenAction → Option (Option CachedToken × TokenState)
  | _, [] => none
  | state, action :: rest =>
      match tokenStep jtiOf state action with
      | none => none
      | some next =>
          match outcomeFor state index action with
          | some outcome => some (outcome, next)
          | none => awaitToken jtiOf index next rest

/-- The reading of the clock at the call and the segments until it ends. -/
structure Wait where
  now : ℚ
  segments : List TokenAction

def awaitTokenFor (jtiOf : CachedToken → Option String) (agentDid registryBaseUrl : String)
    (wait : Wait) (state : TokenState) : Option (Option CachedToken × TokenState) :=
  let index := state.callers.length
  match tokenStep jtiOf state (.tokenFor agentDid registryBaseUrl wait.now) with
  | none => none
  | some next =>
      match (state.manager.tokenFor (keyFor agentDid registryBaseUrl) wait.now index).1 with
      | .returned cached => some (some cached, next)
      | _ => awaitToken jtiOf index next wait.segments

/-! ### What the segments keep -/

theorem proceed_issued {jtiOf : CachedToken → Option String} {state : TokenState} {index : Nat}
    {caller : Caller} {outcome : TokenManager.Entry × TokenManager} :
    (state.proceed jtiOf index caller outcome).issued = state.issued := by
  unfold TokenState.proceed
  cases outcome.1 <;> rfl

theorem proceed_cache {jtiOf : CachedToken → Option String} {state : TokenState} {index : Nat}
    {caller : Caller} {outcome : TokenManager.Entry × TokenManager} :
    (state.proceed jtiOf index caller outcome).manager.cache = outcome.2.cache := by
  unfold TokenState.proceed
  cases outcome.1 <;> rfl

def SameCaller (index : Nat) (agentDid url : String) (callers : List Caller) : Prop :=
  ∃ caller, callers[index]? = some caller ∧ caller.agentDid = agentDid ∧ caller.url = url

theorem sameCaller_set {callers : List Caller} {index place : Nat} {agentDid url : String}
    {caller : Caller} {phase : CallPhase} (same : SameCaller index agentDid url callers)
    (found : callers[place]? = some caller) :
    SameCaller index agentDid url (callers.set place { caller with phase := phase }) := by
  obtain ⟨own, present, did, asked⟩ := same
  by_cases here : place = index
  · subst here
    rw [found] at present
    cases present
    exact ⟨_, List.getElem?_set_self (List.getElem?_eq_some_iff.mp found).1, did, asked⟩
  · exact ⟨own, by rw [List.getElem?_set_ne here]; exact present, did, asked⟩

theorem sameCaller_append {callers : List Caller} {index : Nat} {agentDid url : String}
    (same : SameCaller index agentDid url callers) (caller : Caller) :
    SameCaller index agentDid url (callers ++ [caller]) := by
  obtain ⟨own, present, did, asked⟩ := same
  refine ⟨own, ?_, did, asked⟩
  rw [List.getElem?_append_left (List.getElem?_eq_some_iff.mp present).1]
  exact present

theorem sameCaller_proceed {jtiOf : CachedToken → Option String} {state : TokenState}
    {index place : Nat} {agentDid url : String} {caller : Caller}
    {outcome : TokenManager.Entry × TokenManager}
    (same : SameCaller index agentDid url state.callers)
    (found : state.callers[place]? = some caller) :
    SameCaller index agentDid url (state.proceed jtiOf place caller outcome).callers := by
  unfold TokenState.proceed
  cases outcome.1 <;> exact sameCaller_set same found

theorem sameCaller_enter {jtiOf : CachedToken → Option String} {state : TokenState}
    {index : Nat} {agentDid url : String} {caller : Caller} {now : ℚ}
    (same : SameCaller index agentDid url state.callers) :
    SameCaller index agentDid url (state.enter jtiOf caller now).callers := by
  have arrived : SameCaller index agentDid url (state.callers ++ [caller]) :=
    sameCaller_append same caller
  have found : (state.callers ++ [caller])[state.callers.length]? = some caller :=
    List.getElem?_concat_length
  exact sameCaller_proceed arrived found

theorem tokenStep_sameCaller {jtiOf : CachedToken → Option String} {state next : TokenState}
    {action : TokenAction} {index : Nat} {agentDid url : String}
    (same : SameCaller index agentDid url state.callers)
    (taken : tokenStep jtiOf state action = some next) :
    SameCaller index agentDid url next.callers := by
  cases tokenStep_move taken with
  | tokenFor _ _ _ => exact sameCaller_enter same
  | revoke _ _ _ => exact sameCaller_enter same
  | invalidate _ _ _ => exact same
  | resumed found _ _ => exact sameCaller_proceed same found
  | mintSucceeded _ found _ => exact sameCaller_set same found
  | mintFailed found _ => exact sameCaller_set same found
  | revokeAnswered found _ => exact sameCaller_set same found
  | waiterCancelled found _ => exact sameCaller_set same found
  | mintCancelled found _ => exact sameCaller_set same found
  | revokeCancelled found _ => exact sameCaller_set same found

/-- One segment issues what its exchange brought back and caches nothing else. -/
structure CacheSpec (state next : TokenState) : Prop where
  issued : ∃ more, next.issued = state.issued ++ more
  cached : ∀ key cached, next.manager.cache key = some cached →
    state.manager.cache key = some cached ∨
      ∃ exchange, next.issued = state.issued ++ [{ exchange := exchange, cached := cached }]

theorem cacheSpec_of_kept {state next : TokenState} (issued : next.issued = state.issued)
    (cache : next.manager.cache = state.manager.cache) : CacheSpec state next := by
  refine ⟨⟨[], by rw [issued, List.append_nil]⟩, ?_⟩
  intro key cached held
  rw [cache] at held
  exact .inl held

theorem cacheSpec_drop {state next : TokenState} {dropped : TokenKey}
    (issued : next.issued = state.issued)
    (cache : next.manager.cache = Function.update state.manager.cache dropped none) :
    CacheSpec state next := by
  refine ⟨⟨[], by rw [issued, List.append_nil]⟩, ?_⟩
  intro key cached held
  rw [cache] at held
  by_cases same : key = dropped
  · rw [same, Function.update_self] at held
    cases held
  · rw [Function.update_of_ne same] at held
    exact .inl held

theorem tokenStep_cacheSpec {jtiOf : CachedToken → Option String} {state next : TokenState}
    {action : TokenAction} (taken : tokenStep jtiOf state action = some next) :
    CacheSpec state next := by
  cases tokenStep_move taken with
  | tokenFor _ _ now =>
      exact cacheSpec_of_kept proceed_issued
        (proceed_cache.trans (state.manager.tokenFor_spec _ now _).cache)
  | revoke _ _ now =>
      exact cacheSpec_of_kept proceed_issued
        (proceed_cache.trans (state.manager.tokenFor_spec _ now _).cache)
  | invalidate _ _ _ => exact cacheSpec_drop rfl rfl
  | resumed _ _ granted =>
      exact cacheSpec_of_kept proceed_issued
        (proceed_cache.trans (TokenManager.lockGranted_spec granted).cache)
  | @mintSucceeded _ caller exchange minted _ _ =>
      refine ⟨⟨_, rfl⟩, ?_⟩
      intro key cached held
      change Function.update state.manager.cache caller.key (some minted) key = _ at held
      by_cases same : key = caller.key
      · rw [same, Function.update_self] at held
        cases held
        exact .inr ⟨exchange, rfl⟩
      · rw [Function.update_of_ne same] at held
        exact .inl held
  | mintFailed _ _ => exact cacheSpec_of_kept rfl rfl
  | revokeAnswered _ _ => exact cacheSpec_drop rfl rfl
  | waiterCancelled _ _ => exact cacheSpec_of_kept rfl rfl
  | mintCancelled _ _ => exact cacheSpec_of_kept rfl rfl
  | revokeCancelled _ _ => exact cacheSpec_of_kept rfl rfl

/-! ### A token that has left the cache -/

/-- The string was issued and is cached nowhere. -/
structure Gone (token : String) (state : TokenState) : Prop where
  issued : token ∈ issuedTokens state.issued
  uncached : ∀ key cached, state.manager.cache key = some cached → cached.token ≠ token

theorem issuedTokens_append (issued more : List IssuedToken) :
    issuedTokens (issued ++ more) = issuedTokens issued ++ issuedTokens more :=
  List.map_append

theorem token_ne_of_issued {state next : TokenState} {exchange : Exchange}
    {cached : CachedToken} {token : String}
    (appended : next.issued = state.issued ++ [{ exchange := exchange, cached := cached }])
    (distinct : (issuedTokens next.issued).Nodup) (earlier : token ∈ issuedTokens state.issued) :
    cached.token ≠ token := by
  rw [appended, issuedTokens_append] at distinct
  intro same
  rw [← same] at earlier
  exact (List.disjoint_of_nodup_append distinct) earlier (List.mem_singleton_self _)

theorem gone_step {state next : TokenState} {token : String} (spec : CacheSpec state next)
    (distinct : (issuedTokens next.issued).Nodup) (gone : Gone token state) :
    Gone token next := by
  constructor
  · obtain ⟨more, appended⟩ := spec.issued
    rw [appended, issuedTokens_append]
    exact List.mem_append_left _ gone.issued
  · intro key cached held
    rcases spec.cached key cached held with before | ⟨exchange, appended⟩
    · exact gone.uncached key cached before
    · exact token_ne_of_issued appended distinct gone.issued

theorem nodup_of_issued {state next : TokenState}
    (grown : ∃ more, next.issued = state.issued ++ more)
    (distinct : (issuedTokens next.issued).Nodup) : (issuedTokens state.issued).Nodup := by
  obtain ⟨more, appended⟩ := grown
  rw [appended, issuedTokens_append] at distinct
  exact List.Nodup.of_append_left distinct

theorem runFrom_issued {jtiOf : CachedToken → Option String} {state final : TokenState}
    {schedule : List TokenAction}
    (ran : runFrom (tokenStep jtiOf) state schedule = some final) :
    ∃ more, final.issued = state.issued ++ more := by
  have grows : ∀ (before : TokenState) (action : TokenAction) (next : TokenState),
      (∃ more, before.issued = state.issued ++ more) →
      tokenStep jtiOf before action = some next →
      ∃ more, next.issued = state.issued ++ more := by
    rintro before action next ⟨more, same⟩ taken
    obtain ⟨added, appended⟩ := (tokenStep_cacheSpec taken).issued
    exact ⟨more ++ added, by rw [appended, same, List.append_assoc]⟩
  exact runFrom_invariant grows ⟨[], (List.append_nil _).symm⟩ ran

/-- Dropping a key takes away every copy of a token that was issued for it. -/
theorem gone_drop {state : TokenState} {key : TokenKey} {reason : RefreshReason}
    {issue : IssuedToken} (invariant : TokenInvariant state)
    (distinct : (issuedTokens state.issued).Nodup) (issued : issue ∈ state.issued)
    (own : issue.exchange.key = key) : Gone issue.cached.token (state.drop key reason) := by
  refine ⟨token_mem_issuedTokens issued, ?_⟩
  intro other cached held same
  change Function.update state.manager.cache key none other = some cached at held
  by_cases here : other = key
  · rw [here, Function.update_self] at held
    cases held
  · rw [Function.update_of_ne here] at held
    obtain ⟨origin, member, rfl, elsewhere⟩ := invariant.tokens.cached other cached held
    rw [issue_unique distinct member issued same, own] at elsewhere
    exact here elsewhere.symm

/-! ### The end of a call -/

inductive Obtained (state next : TokenState) (key : TokenKey) (cached : CachedToken) : Prop where
  | cached (held : state.manager.cache key = some cached)
  | minted (exchange : Exchange) (own : exchange.key = key)
      (appended : next.issued = state.issued ++ [{ exchange := exchange, cached := cached }])

theorem obtained_of_outcome {jtiOf : CachedToken → Option String} {state next : TokenState}
    {action : TokenAction} {index : Nat} {agentDid url : String} {cached : CachedToken}
    (invariant : TokenInvariant state) (same : SameCaller index agentDid url state.callers)
    (taken : tokenStep jtiOf state action = some next)
    (ended : outcomeFor state index action = some (some cached)) :
    Obtained state next (keyFor agentDid url) cached := by
  obtain ⟨own, present, rfl, rfl⟩ := same
  cases tokenStep_move taken with
  | @resumed waiter now caller outcome found _ granted =>
      simp only [outcomeFor] at ended
      split at ended
      · next here =>
          subst here
          rw [present] at found
          cases found
          simp only [present, granted] at ended
          obtain ⟨entry, manager⟩ := outcome
          cases entry with
          | returned given =>
              cases ended
              exact .cached ((TokenManager.lockGranted_spec granted).hit cached rfl)
          | queued => cases ended
          | minting _ => cases ended
      · cases ended
  | @mintSucceeded minting caller exchange minted found phase =>
      simp only [outcomeFor] at ended
      split at ended
      · next here =>
          subst here
          cases ended
          rw [present] at found
          cases found
          have mine := (invariant.flights minting own exchange present phase).1
          exact .minted exchange (by rw [mine]; rfl) rfl
      · cases ended
  | mintFailed _ _ =>
      simp only [outcomeFor] at ended
      split at ended <;> cases ended
  | waiterCancelled _ _ =>
      simp only [outcomeFor] at ended
      split at ended <;> cases ended
  | mintCancelled _ _ =>
      simp only [outcomeFor] at ended
      split at ended <;> cases ended
  | revokeCancelled _ _ =>
      simp only [outcomeFor] at ended
      split at ended <;> cases ended
  | tokenFor _ _ _ => cases ended
  | revoke _ _ _ => cases ended
  | invalidate _ _ _ => cases ended
  | revokeAnswered _ _ => cases ended

/-- What a finished call means for the manager and for the token it returns. -/
structure CallSpec (state next : TokenState) (key : TokenKey) (outcome : Option CachedToken) :
    Prop where
  invariant : TokenInvariant next
  grown : ∃ more, next.issued = state.issued ++ more
  origin : ∀ cached, outcome = some cached →
    ∃ issue ∈ next.issued, issue.cached = cached ∧ issue.exchange.key = key
  renewed : ∀ token, Gone token state → (issuedTokens next.issued).Nodup →
    ∀ cached, outcome = some cached → cached.token ≠ token

theorem callSpec_of_obtained {jtiOf : CachedToken → Option String} {state next : TokenState}
    {action : TokenAction} {key : TokenKey} {outcome : Option CachedToken}
    (invariant : TokenInvariant state) (taken : tokenStep jtiOf state action = some next)
    (obtained : ∀ cached, outcome = some cached → Obtained state next key cached) :
    CallSpec state next key outcome := by
  have spec := tokenStep_cacheSpec taken
  refine ⟨tokenStep_invariant state action next invariant taken, spec.issued, ?_, ?_⟩
  · intro cached returned
    cases obtained cached returned with
    | cached held =>
        obtain ⟨issue, member, origin⟩ := invariant.tokens.cached key cached held
        obtain ⟨more, appended⟩ := spec.issued
        exact ⟨issue, by rw [appended]; exact List.mem_append_left _ member, origin⟩
    | minted exchange own appended =>
        refine ⟨{ exchange := exchange, cached := cached }, ?_, rfl, own⟩
        rw [appended]
        exact List.mem_append_right _ (List.mem_singleton_self _)
  · intro token gone distinct cached returned
    cases obtained cached returned with
    | cached held => exact gone.uncached key cached held
    | minted exchange _ appended => exact token_ne_of_issued appended distinct gone.issued

theorem callSpec_step {jtiOf : CachedToken → Option String} {state next final : TokenState}
    {action : TokenAction} {key : TokenKey} {outcome : Option CachedToken}
    (taken : tokenStep jtiOf state action = some next)
    (rest : CallSpec next final key outcome) : CallSpec state final key outcome := by
  have spec := tokenStep_cacheSpec taken
  refine ⟨rest.invariant, ?_, rest.origin, ?_⟩
  · obtain ⟨added, first⟩ := spec.issued
    obtain ⟨more, second⟩ := rest.grown
    exact ⟨added ++ more, by rw [second, first, List.append_assoc]⟩
  · intro token gone distinct
    exact rest.renewed token (gone_step spec (nodup_of_issued rest.grown distinct) gone) distinct

theorem awaitToken_spec {jtiOf : CachedToken → Option String} {index : Nat}
    {agentDid url : String} {segments : List TokenAction} {state final : TokenState}
    {outcome : Option CachedToken} (invariant : TokenInvariant state)
    (same : SameCaller index agentDid url state.callers)
    (ended : awaitToken jtiOf index state segments = some (outcome, final)) :
    CallSpec state final (keyFor agentDid url) outcome := by
  induction segments generalizing state with
  | nil => cases ended
  | cons action rest ih =>
      unfold awaitToken at ended
      split at ended
      · cases ended
      · next next taken =>
          split at ended
          · next given found =>
              cases ended
              refine callSpec_of_obtained invariant taken ?_
              rintro cached rfl
              exact obtained_of_outcome invariant same taken found
          · exact callSpec_step taken (ih (tokenStep_invariant state action next invariant taken)
              (tokenStep_sameCaller same taken) ended)

theorem sameCaller_arrived {jtiOf : CachedToken → Option String} {state : TokenState}
    {caller : Caller} {now : ℚ} :
    SameCaller state.callers.length caller.agentDid caller.url
      (state.enter jtiOf caller now).callers := by
  have found : (state.callers ++ [caller])[state.callers.length]? = some caller :=
    List.getElem?_concat_length
  exact sameCaller_proceed ⟨caller, found, rfl, rfl⟩ found

theorem awaitTokenFor_spec {jtiOf : CachedToken → Option String}
    {agentDid registryBaseUrl : String} {wait : Wait} {state final : TokenState}
    {outcome : Option CachedToken} (invariant : TokenInvariant state)
    (ended : awaitTokenFor jtiOf agentDid registryBaseUrl wait state = some (outcome, final)) :
    CallSpec state final (keyFor agentDid registryBaseUrl) outcome := by
  unfold awaitTokenFor at ended
  dsimp only at ended
  split at ended
  · cases ended
  · next next taken =>
      split at ended
      · next cached entry =>
          cases ended
          refine callSpec_of_obtained invariant taken ?_
          intro other same
          cases same
          exact .cached ((state.manager.tokenFor_spec _ _ _).hit cached entry)
      · refine callSpec_step taken (awaitToken_spec
          (tokenStep_invariant state _ next invariant taken) ?_ ended)
        cases tokenStep_move taken
        exact sameCaller_arrived

end AcdpPlayground.Auth

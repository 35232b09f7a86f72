/-
The retry of `_retrying` after a 401: how often it sends, when it sends again, what the two
requests have in common and which token the second one carries.

`_retrying` decides from the client's configuration, while `_bearer_token` prefers a static
token and `_headers` leaves an empty one out.
-/

import AcdpPlayground.Client.Sending

namespace AcdpPlayground.Client

open TransitionRun KeyedTable
open Auth (TokenState TokenAction TokenKey CachedToken TokenInvariant Wait Gone keyFor tokenStep
  awaitTokenFor issuedTokens)

/-! ### The promise of a retry -/

def Sent.WithManagedToken (sent : Sent) : Prop :=
  ∃ token, sent.bearer = .managed token ∧
    sent.request.headers.lookup "Authorization" = some ("Bearer " ++ token)

structure Alike (one two : HttpRequest) : Prop where
  template : one.template = two.template
  headers : one.headers.filter (fun entry => SendingClient.keptOnRetry entry.1) =
    two.headers.filter (fun entry => SendingClient.keptOnRetry entry.1)

/-- `answer` is the answer to the first request. -/
structure RetryPromise (answer : Option Nat) (result : Retried) : Prop where
  atMostTwo : result.sent.length ≤ 2
  second : result.sent.length = 2 ↔
    ∃ one ∈ result.sent.head?, one.WithManagedToken ∧ answer = some 401
  alike : ∀ one two, result.sent = [one, two] → Alike one.request two.request
  renewed : (issuedTokens result.tokens.issued).Nodup →
    ∀ one two, result.sent = [one, two] →
      ∀ value ∈ one.request.headers.lookup "Authorization",
        value ∉ two.request.headers.lookup "Authorization"
  cacheKept : ∀ handled ∈ result.handled, handled.status ≠ 401 →
    handled.after.manager.cache = handled.before.manager.cache

/-- A 401 is answered to a request with a token of the manager, and the manager then
delivers another one. For an empty token, which is not sent, it must not. -/
def RetriesManaged (jtiOf : CachedToken → Option String) (client : SendingClient)
    (script : RetryScript) (start : TokenState) : Prop :=
  script.answer = some 401 → ∀ agentDid, client.managed = some agentDid →
    truthyText client.staticBearer = none ∧
      ∀ first delivered arrived outcome refreshed,
        awaitTokenFor jtiOf agentDid client.base script.first start =
            some (some first, delivered) →
        runFrom (tokenStep jtiOf) delivered script.travelling = some arrived →
        awaitTokenFor jtiOf agentDid client.base script.second
            (arrived.drop (keyFor agentDid client.base) .reactive401) =
          some (outcome, refreshed) →
        (outcome.isSome = true ↔ first.token ≠ "")

/-! ### Runs of `_retrying` -/

namespace SendingClient

variable {jtiOf : CachedToken → Option String} {client : SendingClient} {template : Template}
  {extra : HttpHeaders} {script : RetryScript} {start : TokenState}

inductive BearerRun (jtiOf : CachedToken → Option String) (client : SendingClient) (wait : Wait)
    (tokens : TokenState) : Resolved → TokenState → Prop where
  | static {token : String} (given : truthyText client.staticBearer = some token) :
      BearerRun jtiOf client wait tokens (.bearer (.static token)) tokens
  | anonymous (given : truthyText client.staticBearer = none) (unmanaged : client.managed = none) :
      BearerRun jtiOf client wait tokens (.bearer .anonymous) tokens
  | raised {agentDid : String} {next : TokenState} (given : truthyText client.staticBearer = none)
      (managed : client.managed = some agentDid)
      (awaited : awaitTokenFor jtiOf agentDid client.base wait tokens = some (none, next)) :
      BearerRun jtiOf client wait tokens .raised next
  | managed {agentDid : String} {next : TokenState} {cached : CachedToken}
      (given : truthyText client.staticBearer = none) (managed : client.managed = some agentDid)
      (awaited : awaitTokenFor jtiOf agentDid client.base wait tokens = some (some cached, next)) :
      BearerRun jtiOf client wait tokens (.bearer (.managed cached.token)) next

theorem bearerToken_run {wait : Wait} {tokens next : TokenState} {resolved : Resolved}
    (found : client.bearerToken jtiOf wait tokens = some (resolved, next)) :
    BearerRun jtiOf client wait tokens resolved next := by
  unfold bearerToken at found
  split at found
  · next token given =>
      cases found
      exact .static given
  · next given =>
      split at found
      · next unmanaged =>
          cases found
          exact .anonymous given unmanaged
      · next agentDid managed =>
          split at found
          · cases found
          · next awaited =>
              cases found
              exact .raised given managed awaited
          · next awaited =>
              cases found
              exact .managed given managed awaited

inductive RetryRun (jtiOf : CachedToken → Option String) (client : SendingClient)
    (template : Template) (extra : HttpHeaders) (script : RetryScript) (start : TokenState) :
    Retried → Prop where
  | refused {tokens : TokenState}
      (resolved : BearerRun jtiOf client script.first start .raised tokens) :
      RetryRun jtiOf client template extra script start
        { sent := [], handled := [], tokens := tokens }
  | ended {bearer : Bearer} {tokens arrived : TokenState} {handled : List Handled}
      (resolved : BearerRun jtiOf client script.first start (.bearer bearer) tokens)
      (final : script.answer = some 401 → client.managed = none)
      (kept : ∀ response ∈ handled, response.after = response.before) :
      RetryRun jtiOf client template extra script start
        { sent := [client.send bearer template extra], handled := handled, tokens := arrived }
  | unrefreshed {bearer : Bearer} {agentDid : String} {tokens arrived next : TokenState}
      (resolved : BearerRun jtiOf client script.first start (.bearer bearer) tokens)
      (travelled : runFrom (tokenStep jtiOf) tokens script.travelling = some arrived)
      (unauthorized : script.answer = some 401) (managed : client.managed = some agentDid)
      (again : BearerRun jtiOf client script.second
        (arrived.drop (keyFor agentDid client.base) .reactive401) .raised next) :
      RetryRun jtiOf client template extra script start
        { sent := [client.send bearer template extra]
          handled := [{ status := 401
                        before := arrived
                        after := arrived.drop (keyFor agentDid client.base) .reactive401 }]
          tokens := next }
  | retried {bearer renewed : Bearer} {agentDid : String}
      {tokens arrived next final : TokenState} {later : List Handled}
      (resolved : BearerRun jtiOf client script.first start (.bearer bearer) tokens)
      (travelled : runFrom (tokenStep jtiOf) tokens script.travelling = some arrived)
      (unauthorized : script.answer = some 401) (managed : client.managed = some agentDid)
      (again : BearerRun jtiOf client script.second
        (arrived.drop (keyFor agentDid client.base) .reactive401) (.bearer renewed) next)
      (travelledAgain : runFrom (tokenStep jtiOf) next script.travellingAgain = some final)
      (kept : ∀ response ∈ later, response.after = response.before) :
      RetryRun jtiOf client template extra script start
        { sent := [client.send bearer template extra, client.send renewed template extra]
          handled :=
            { status := 401
              before := arrived
              after := arrived.drop (keyFor agentDid client.base) .reactive401 } :: later
          tokens := final }

theorem retrying_run {result : Retried}
    (ran : client.retrying jtiOf template extra script start = some result) :
    RetryRun jtiOf client template extra script start result := by
  unfold retrying at ran
  split at ran
  · cases ran
  · next raised =>
      cases ran
      exact .refused (bearerToken_run raised)
  · next bearer tokens resolved =>
      dsimp only at ran
      split at ran
      · cases ran
      · next arrived travelled =>
          split at ran
          · next lost =>
              cases ran
              refine .ended (bearerToken_run resolved) ?_ (fun _ member => by cases member)
              rw [lost]
              intro same
              cases same
          · next status answered =>
              split at ran
              · next finished =>
                  cases ran
                  refine .ended (bearerToken_run resolved) ?_ ?_
                  · intro unauthorized
                    rw [answered] at unauthorized
                    cases unauthorized
                    rw [if_pos rfl] at finished
                    exact finished
                  · intro response member
                    rw [List.mem_singleton.mp member]
              · next agentDid retry =>
                  split at retry
                  · next unauthorized =>
                      rw [unauthorized] at answered
                      unfold retryOnce at ran
                      dsimp only at ran
                      split at ran
                      · cases ran
                      · next raised =>
                          cases ran
                          exact .unrefreshed (bearerToken_run resolved) travelled answered retry
                            (bearerToken_run raised)
                      · next renewed next again =>
                          split at ran
                          · cases ran
                          · next final travelledAgain =>
                              cases ran
                              refine .retried (bearerToken_run resolved) travelled answered retry
                                (bearerToken_run again) travelledAgain ?_
                              intro response member
                              obtain ⟨status, _, rfl⟩ :=
                                Option.map_eq_some_iff.mp (Option.mem_toList.mp member)
                              rfl
                  · cases retry

end SendingClient

/-! ### The iff -/

theorem managed_of_truthy {token : String} (notEmpty : token ≠ "") :
    truthyText (some token) = some token := by
  unfold truthyText
  rw [Option.filter_some, if_pos (decide_eq_true notEmpty)]

theorem withManagedToken_iff (client : SendingClient) (token : String) (template : Template)
    (key : Option String) :
    (client.send (.managed token) template (idempotencyHeader key)).WithManagedToken ↔
      token ≠ "" := by
  have sent := client.headers_authorization (some token) key
  constructor
  · rintro ⟨other, same, carried⟩ empty
    change (client.headers (some token) (idempotencyHeader key)).lookup "Authorization" = _
      at carried
    rw [sent, empty] at carried
    cases carried
  · intro notEmpty
    refine ⟨token, rfl, ?_⟩
    change (client.headers (some token) (idempotencyHeader key)).lookup "Authorization" = _
    rw [sent, managed_of_truthy notEmpty]
    rfl

/-- The manager's two tokens of one call differ when no string is issued twice. -/
theorem renewed_token_ne {jtiOf : CachedToken → Option String} {agentDid base : String}
    {first second : Wait} {start tokens arrived next final : TokenState}
    {travelling travellingAgain : List TokenAction} {cached renewed : CachedToken}
    (invariant : TokenInvariant start)
    (obtained : awaitTokenFor jtiOf agentDid base first start = some (some cached, tokens))
    (travelled : runFrom (tokenStep jtiOf) tokens travelling = some arrived)
    (again : awaitTokenFor jtiOf agentDid base second
      (arrived.drop (keyFor agentDid base) .reactive401) = some (some renewed, next))
    (travelledAgain : runFrom (tokenStep jtiOf) next travellingAgain = some final)
    (distinct : (issuedTokens final.issued).Nodup) : renewed.token ≠ cached.token := by
  have call := Auth.awaitTokenFor_spec invariant obtained
  have arrivedInvariant : TokenInvariant arrived :=
    runFrom_invariant Auth.tokenStep_invariant call.invariant travelled
  have droppedInvariant := Auth.drop_invariant arrivedInvariant (keyFor agentDid base) .reactive401
  have secondCall := Auth.awaitTokenFor_spec droppedInvariant again
  have distinctNext := Auth.nodup_of_issued (Auth.runFrom_issued travelledAgain) distinct
  have grownAgain : ∃ more, next.issued = arrived.issued ++ more := secondCall.grown
  have distinctArrived := Auth.nodup_of_issued grownAgain distinctNext
  obtain ⟨issue, member, rfl, own⟩ := call.origin cached rfl
  obtain ⟨more, grown⟩ := Auth.runFrom_issued travelled
  have stillIssued : issue ∈ arrived.issued := by
    rw [grown]
    exact List.mem_append_left _ member
  exact secondCall.renewed _ (Auth.gone_drop arrivedInvariant distinctArrived stillIssued own)
    distinctNext renewed rfl

/-- A call that sends at most one request breaks the promise only when that request was
answered 401 and carried a managed token. -/
theorem promise_of_single {answer : Option Nat} {result : Retried}
    (single : result.sent.length ≤ 1)
    (final : ∀ one ∈ result.sent.head?, one.WithManagedToken → answer ≠ some 401)
    (kept : ∀ handled ∈ result.handled, handled.status ≠ 401 →
      handled.after.manager.cache = handled.before.manager.cache) :
    RetryPromise answer result := by
  have not_two : ∀ one two, result.sent ≠ [one, two] := by
    intro one two same
    rw [same] at single
    simp only [List.length_cons, List.length_nil] at single
    omega
  refine ⟨by omega, ?_, ?_, ?_, kept⟩
  · refine iff_of_false (by omega) ?_
    rintro ⟨one, here, managed, unauthorized⟩
    exact final one here managed unauthorized
  · intro one two same
    exact absurd same (not_two one two)
  · intro _ one two same
    exact absurd same (not_two one two)

theorem alike_send (client : SendingClient) (first second : Bearer) (template : Template)
    (extra : HttpHeaders) :
    Alike (client.send first template extra).request (client.send second template extra).request :=
  ⟨rfl, client.headers_kept first.token second.token extra⟩

theorem authorization_ne (client : SendingClient) {first second : String} (template : Template)
    (key : Option String) (different : second ≠ first) :
    ∀ value ∈ (client.send (.managed first) template (idempotencyHeader key)).request.headers.lookup
        "Authorization",
      value ∉ (client.send (.managed second) template (idempotencyHeader key)).request.headers.lookup
        "Authorization" := by
  intro value one two
  change (client.headers (some first) (idempotencyHeader key)).lookup "Authorization" = _ at one
  change (client.headers (some second) (idempotencyHeader key)).lookup "Authorization" = _ at two
  rw [SendingClient.headers_authorization] at one two
  obtain ⟨sentFirst, truthyFirst, rfl⟩ := Option.map_eq_some_iff.mp one
  obtain ⟨sentSecond, truthySecond, same⟩ := Option.map_eq_some_iff.mp two
  have isFirst := (Option.filter_eq_some_iff.mp truthyFirst).1
  have isSecond := (Option.filter_eq_some_iff.mp truthySecond).1
  have tokens : sentSecond = sentFirst := String.append_right_inj "Bearer " |>.mp same
  rw [← Option.some.inj isFirst, ← Option.some.inj isSecond] at tokens
  exact different tokens

theorem retriesManaged_iff {jtiOf : CachedToken → Option String} {client : SendingClient}
    {script : RetryScript} {start delivered arrived refreshed : TokenState} {agentDid : String}
    {first : CachedToken} {outcome : Option CachedToken}
    (unauthorized : script.answer = some 401) (managed : client.managed = some agentDid)
    (given : truthyText client.staticBearer = none)
    (obtained : awaitTokenFor jtiOf agentDid client.base script.first start =
      some (some first, delivered))
    (travelled : runFrom (tokenStep jtiOf) delivered script.travelling = some arrived)
    (again : awaitTokenFor jtiOf agentDid client.base script.second
      (arrived.drop (keyFor agentDid client.base) .reactive401) = some (outcome, refreshed)) :
    RetriesManaged jtiOf client script start ↔ (outcome.isSome = true ↔ first.token ≠ "") := by
  constructor
  · intro condition
    exact (condition unauthorized agentDid managed).2 first delivered arrived outcome refreshed
      obtained travelled again
  · intro delivers _ other same
    rw [managed] at same
    cases same
    refine ⟨given, ?_⟩
    intro first' delivered' arrived' outcome' refreshed' obtained' travelled' again'
    rw [obtained] at obtained'
    cases obtained'
    rw [travelled] at travelled'
    cases travelled'
    rw [again] at again'
    cases again'
    exact delivers

theorem unrefreshed_iff {jtiOf : CachedToken → Option String} {client : SendingClient}
    {template : Template} {key : Option String} {script : RetryScript}
    {start tokens arrived next : TokenState} {bearer : Bearer} {agentDid : String}
    (resolved : SendingClient.BearerRun jtiOf client script.first start (.bearer bearer) tokens)
    (travelled : runFrom (tokenStep jtiOf) tokens script.travelling = some arrived)
    (unauthorized : script.answer = some 401) (managed : client.managed = some agentDid)
    (again : SendingClient.BearerRun jtiOf client script.second
      (arrived.drop (keyFor agentDid client.base) .reactive401) .raised next) :
    RetryPromise script.answer
        { sent := [client.send bearer template (idempotencyHeader key)]
          handled := [{ status := 401
                        before := arrived
                        after := arrived.drop (keyFor agentDid client.base) .reactive401 }]
          tokens := next } ↔
      RetriesManaged jtiOf client script start := by
  cases again with
  | raised given sameManaged awaitedAgain =>
      rw [managed] at sameManaged
      cases sameManaged
      cases resolved with
      | static bearer =>
          rw [given] at bearer
          cases bearer
      | anonymous _ unmanaged =>
          rw [managed] at unmanaged
          cases unmanaged
      | @managed _ _ cached _ sameManaged awaited =>
          rw [managed] at sameManaged
          cases sameManaged
          rw [retriesManaged_iff unauthorized managed given awaited travelled awaitedAgain]
          constructor
          · intro promise
            refine iff_of_false Bool.false_ne_true ?_
            intro notEmpty
            have sent := (withManagedToken_iff client cached.token template key).mpr notEmpty
            have twice := promise.second.mpr ⟨_, rfl, sent, unauthorized⟩
            change 1 = 2 at twice
            omega
          · intro delivers
            refine promise_of_single (Nat.le_refl 1) ?_ ?_
            · intro one here sent _
              cases here
              have notEmpty := (withManagedToken_iff client cached.token template key).mp sent
              cases delivers.mpr notEmpty
            · intro handled member status
              rw [List.mem_singleton.mp member] at status
              exact absurd rfl status

theorem retried_iff {jtiOf : CachedToken → Option String} {client : SendingClient}
    {template : Template} {key : Option String} {script : RetryScript}
    {start tokens arrived next final : TokenState} {bearer renewed : Bearer} {agentDid : String}
    {later : List Handled} (invariant : TokenInvariant start)
    (resolved : SendingClient.BearerRun jtiOf client script.first start (.bearer bearer) tokens)
    (travelled : runFrom (tokenStep jtiOf) tokens script.travelling = some arrived)
    (unauthorized : script.answer = some 401) (managed : client.managed = some agentDid)
    (again : SendingClient.BearerRun jtiOf client script.second
      (arrived.drop (keyFor agentDid client.base) .reactive401) (.bearer renewed) next)
    (travelledAgain : runFrom (tokenStep jtiOf) next script.travellingAgain = some final)
    (kept : ∀ response ∈ later, response.after = response.before) :
    RetryPromise script.answer
        { sent := [client.send bearer template (idempotencyHeader key),
            client.send renewed template (idempotencyHeader key)]
          handled :=
            { status := 401
              before := arrived
              after := arrived.drop (keyFor agentDid client.base) .reactive401 } :: later
          tokens := final } ↔
      RetriesManaged jtiOf client script start := by
  cases resolved with
  | static given =>
      refine iff_of_false ?_ ?_
      · intro promise
        obtain ⟨one, here, ⟨token, bearer, _⟩, _⟩ := promise.second.mp rfl
        cases here
        cases bearer
      · intro condition
        have none_given := (condition unauthorized agentDid managed).1
        rw [given] at none_given
        cases none_given
  | anonymous _ unmanaged =>
      rw [managed] at unmanaged
      cases unmanaged
  | @managed _ _ cached given sameManaged awaited =>
      rw [managed] at sameManaged
      cases sameManaged
      cases again with
      | static other =>
          rw [given] at other
          cases other
      | anonymous _ unmanaged =>
          rw [managed] at unmanaged
          cases unmanaged
      | @managed _ _ refreshed _ sameManaged awaitedAgain =>
          rw [managed] at sameManaged
          cases sameManaged
          rw [retriesManaged_iff unauthorized managed given awaited travelled awaitedAgain]
          constructor
          · intro promise
            obtain ⟨one, here, sent, _⟩ := promise.second.mp rfl
            cases here
            exact iff_of_true rfl ((withManagedToken_iff client cached.token template key).mp sent)
          · intro delivers
            have sent := (withManagedToken_iff client cached.token template key).mpr
              (delivers.mp rfl)
            constructor
            · exact Nat.le_refl 2
            · exact iff_of_true rfl ⟨_, rfl, sent, unauthorized⟩
            · intro one two same
              cases same
              exact alike_send client _ _ template _
            · intro distinct one two same
              cases same
              exact authorization_ne client template key
                (renewed_token_ne invariant awaited travelled awaitedAgain travelledAgain distinct)
            · intro handled member status
              rcases List.mem_cons.mp member with same | other
              · rw [same] at status
                exact absurd rfl status
              · rw [kept handled other]

/-- `_retrying` keeps its promise exactly when a 401 finds a managed token in the request
and the manager delivers another one. -/
theorem retry_promise_iff (jtiOf : CachedToken → Option String) (leeway : Int)
    {history : List TokenAction} {start : TokenState}
    (reached : runFrom (tokenStep jtiOf) (TokenState.initial leeway) history = some start)
    (client : SendingClient) (template : Template) (idempotencyKey : Option String)
    (script : RetryScript) {result : Retried}
    (ran : client.retrying jtiOf template (idempotencyHeader idempotencyKey) script start =
      some result) :
    RetryPromise script.answer result ↔ RetriesManaged jtiOf client script start := by
  have invariant : TokenInvariant start :=
    runFrom_invariant Auth.tokenStep_invariant (Auth.initial_tokenInvariant leeway) reached
  cases SendingClient.retrying_run ran with
  | refused resolved =>
      cases resolved with
      | raised given managed awaited =>
          refine iff_of_true (promise_of_single (Nat.zero_le 1) ?_ ?_) ?_
          · intro one none
            cases none
          · intro handled none
            cases none
          · intro _ agentDid same
            refine ⟨given, ?_⟩
            intro first delivered arrived outcome refreshed obtained
            rw [managed] at same
            cases same
            rw [awaited] at obtained
            cases obtained
  | ended resolved final kept =>
      refine iff_of_true (promise_of_single (Nat.le_refl 1) ?_ ?_) ?_
      · rintro one here ⟨token, bearer, _⟩ unauthorized
        cases here
        cases resolved with
        | static _ => cases bearer
        | anonymous _ _ => cases bearer
        | managed _ managed _ =>
            rw [final unauthorized] at managed
            cases managed
      · intro handled member _
        rw [kept handled member]
      · intro unauthorized agentDid managed
        rw [final unauthorized] at managed
        cases managed
  | unrefreshed resolved travelled unauthorized managed again =>
      exact unrefreshed_iff resolved travelled unauthorized managed again
  | retried resolved travelled unauthorized managed again travelledAgain kept =>
      exact retried_iff invariant resolved travelled unauthorized managed again travelledAgain kept

def publishTemplate : Template :=
  { method := .post
    url := "http://registry-a/contexts"
    params := []
    content := some "\x7b\x7d" }

def producingClient (bearerToken : Option String) : SendingClient :=
  { base := "http://registry-a"
    staticBearer := bearerToken
    runId := some "run-1"
    producer := some "did:web:a"
    hasTokenManager := true
    tenantId := some "tenant-a"
    tenantHeaderMode := .fallback
    tenantAllowed := rfl }

/-- Two exchanges, the second after the 401. -/
def rejectedOnce : RetryScript :=
  { first :=
      { now := 1800000000
        segments := [.mintSucceeded 0 { token := "jwt-1", expiresAt := 1900000000 }] }
    travelling := []
    answer := some 401
    second :=
      { now := 1800000001
        segments := [.mintSucceeded 1 { token := "jwt-2", expiresAt := 1900000000 }] }
    travellingAgain := []
    answerAgain := some 200 }

theorem rejected_once_promise :
    ∃ result,
      (producingClient none).retrying (fun _ => none) publishTemplate
          (idempotencyHeader (some "key-1")) rejectedOnce (TokenState.initial 30) =
        some result ∧
      result.sent.length = 2 ∧ RetryPromise (some 401) result := by
  have runs : ((producingClient none).retrying (fun _ => none) publishTemplate
      (idempotencyHeader (some "key-1")) rejectedOnce (TokenState.initial 30)).map
        (fun result => result.sent.length) = some 2 := by decide +kernel
  obtain ⟨result, ran, sent⟩ := Option.map_eq_some_iff.mp runs
  refine ⟨result, ran, sent, ?_⟩
  have reached : runFrom (tokenStep (fun _ => none)) (TokenState.initial 30) [] =
    some (TokenState.initial 30) := rfl
  refine (retry_promise_iff (fun _ => none) 30 reached (producingClient none) publishTemplate
    (some "key-1") rejectedOnce ran).mpr ?_
  intro _ agentDid managed
  cases managed
  refine ⟨by decide, ?_⟩
  intro first delivered arrived outcome refreshed obtained travelled again
  have token : (awaitTokenFor (fun _ => none) "did:web:a" "http://registry-a" rejectedOnce.first
      (TokenState.initial 30)).map (fun call => call.1.map (fun cached => cached.token)) =
        some (some "jwt-1") := by decide +kernel
  have renewed : ((awaitTokenFor (fun _ => none) "did:web:a" "http://registry-a"
      rejectedOnce.first (TokenState.initial 30)).bind (fun call =>
        (runFrom (tokenStep (fun _ => none)) call.2 rejectedOnce.travelling).bind (fun arrived =>
          (awaitTokenFor (fun _ => none) "did:web:a" "http://registry-a" rejectedOnce.second
            (arrived.drop (keyFor "did:web:a" "http://registry-a") .reactive401)).map
              (fun call => call.1.isSome)))) = some true := by decide +kernel
  change awaitTokenFor (fun _ => none) "did:web:a" "http://registry-a" _ _ = _ at obtained
  change awaitTokenFor (fun _ => none) "did:web:a" "http://registry-a" _
    (arrived.drop (keyFor "did:web:a" "http://registry-a") .reactive401) = _ at again
  rw [obtained] at token renewed
  simp only [Option.bind_some, travelled] at renewed
  rw [again] at renewed
  refine iff_of_true (Option.some.inj renewed) ?_
  have isFirst : first.token = "jwt-1" := Option.some.inj (Option.some.inj token)
  rw [isFirst]
  decide

/-- The static token is answered 401 and sent once more. -/
theorem static_bearer_breaks_promise :
    ∃ result,
      (producingClient (some "static-token")).retrying (fun _ => none) publishTemplate
          (idempotencyHeader none) rejectedOnce (TokenState.initial 30) = some result ∧
        ¬ RetryPromise (some 401) result := by
  have runs : ((producingClient (some "static-token")).retrying (fun _ => none) publishTemplate
      (idempotencyHeader none) rejectedOnce (TokenState.initial 30)).map
        (fun result => result.sent.map (fun sent => sent.bearer)) =
      some [.static "static-token", .static "static-token"] := by decide +kernel
  obtain ⟨result, ran, bearers⟩ := Option.map_eq_some_iff.mp runs
  refine ⟨result, ran, ?_⟩
  intro promise
  have twice : result.sent.length = 2 := by
    rw [← List.length_map, bearers]
    rfl
  obtain ⟨one, here, ⟨token, managed, _⟩, _⟩ := promise.second.mp twice
  have first : result.sent.head?.map (fun sent => sent.bearer) =
      some (.static "static-token") := by
    rw [← List.head?_map, bearers]
    rfl
  rw [here] at first
  rw [Option.map_some, managed] at first
  cases first

end AcdpPlayground.Client

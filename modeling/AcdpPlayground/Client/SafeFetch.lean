/-
The consumer SSRF guard of `acdp_client/safe_http.py`: the screening of one hop, the
redirect loop of `fetch` with its follow cap and size cap, and `fetch_data_ref`.

The world around the loop is arbitrary. Resolver, server and the HTTP client's own lookup
are given per hop, so each may answer differently every time; the classification verdicts
are the SDK's; splitting and joining URLs and the digest are functions of their arguments.
The client does not follow redirects by itself. Timeouts and the closing of an owned
client are not modelled.
-/

import AcdpPlayground.Foundation.PythonText

namespace AcdpPlayground.Client

open PythonText

/-! ### The world of a fetch -/

inductive SdkVerdict where
  | accepted
  | rejected (reason message : Text)
  | valueError
  deriving DecidableEq

structure UrlParts where
  username : Option Text
  password : Option Text
  hostname : Option Text

inductive HttpOutcome where
  | failed
  | response (status : Nat) (location : Option Text) (content : List UInt8)

/-- `raised` is any exception of the layers below that `fetch` lets through. -/
inductive FetchError where
  | ssrf (reason message : Text)
  | unsupportedAlgorithm (algorithm : Text)
  | hashMismatch (message : Text)
  | raised
  deriving DecidableEq

structure SsrfPolicy where
  allowLoopback : Bool
  maxRedirects : Int
  maxBytes : Int

/-- `connect` lists the addresses the HTTP client connects to on its own lookup of the
host at that hop. -/
structure FetchWorld where
  urlsplit : Text → Option UrlParts
  join : Text → Text → Option Text
  sha256Hex : List UInt8 → Text
  sha256Hex_length : ∀ data, (sha256Hex data).length = 64
  checkIp : Bool → Text → SdkVerdict
  checkUrl : Bool → Text → SdkVerdict
  checkRedirectAuthority : Text → Text → SdkVerdict
  resolve : Nat → Text → Except FetchError (List Text)
  http : Nat → Text → HttpOutcome
  connect : Nat → Text → List Text

/-! ### Screening -/

section Fetch

variable (world : FetchWorld) (policy : SsrfPolicy)

/-- The reason why an address is off-limits, if it is. -/
def ipIsForbidden (ip : Text) : Option Text :=
  match world.checkIp policy.allowLoopback ip with
  | .accepted => none
  | .rejected reason _ => some reason
  | .valueError => some (text "unparseable_ip")

def nonEmpty (part : Option Text) : Bool :=
  part.any (fun value => value ≠ [])

def checkUrl (url : Text) : Except FetchError Unit :=
  match world.urlsplit url with
  | none => .error .raised
  | some parts =>
      if nonEmpty parts.username || nonEmpty parts.password then
        .error (.ssrf (text "forbidden_userinfo") (text "userinfo not allowed in URL: " ++ url))
      else
        match world.checkUrl policy.allowLoopback url with
        | .accepted => .ok ()
        | .rejected reason message => .error (.ssrf reason message)
        | .valueError => .error .raised

def sameAuthority (first second : Text) : Bool :=
  decide (world.checkRedirectAuthority first second = .accepted)

/-- `urlsplit(url).hostname or ""`. -/
def hostOf (url : Text) : Text :=
  ((world.urlsplit url).bind UrlParts.hostname).getD []

def screenAddresses (host : Text) : List Text → Except FetchError Unit
  | [] => .ok ()
  | ip :: rest =>
      match ipIsForbidden world policy ip with
      | some reason =>
          .error (.ssrf reason
            (host ++ text " resolved to a forbidden address (" ++ ip ++
              text "); rejecting the entire resolution"))
      | none => screenAddresses host rest

def screenHost (hop : Nat) (host : Text) : Except FetchError (List Text) :=
  match world.resolve hop host with
  | .error error => .error error
  | .ok addresses =>
      if addresses = [] then
        .error (.ssrf (text "dns_failure") (text "no addresses for " ++ host))
      else
        match screenAddresses world policy host addresses with
        | .error error => .error error
        | .ok () => .ok addresses

/-- What one turn of the loop checks before its request. -/
def screenHop (hop : Nat) (url : Text) : Except FetchError (List Text) :=
  match checkUrl world policy url with
  | .error error => .error error
  | .ok () => screenHost world policy hop (hostOf world url)

/-! ### The loop -/

inductive AfterGet where
  | ended (result : Except FetchError (List UInt8))
  | redirected (target : Text)

/-- What one turn of the loop does with the answer to its request. -/
def afterGet (hop : Nat) (current : Text) : AfterGet :=
  match world.http hop current with
  | .failed => .ended (.error .raised)
  | .response status location content =>
      if 300 ≤ status ∧ status ≤ 399 then
        match location with
        | none | some [] =>
            .ended (.error (.ssrf (text "bad_redirect") (text "redirect with no Location")))
        | some given =>
            match world.join current given with
            | none => .ended (.error .raised)
            | some target =>
                if sameAuthority world current target then .redirected target
                else
                  .ended (.error (.ssrf (text "cross_authority_redirect")
                    (text "redirect " ++ current ++ text " -> " ++ target ++
                      text " crosses the authority")))
      else if policy.maxBytes < content.length then
        .ended (.error (.ssrf (text "response_too_large")
          (natText content.length ++ text " bytes exceeds cap " ++ intText policy.maxBytes)))
      else .ended (.ok content)

structure FetchRun where
  result : Except FetchError (List UInt8)
  gets : List Text

/-- The URLs of the requests are listed in the order they are made. -/
def fetchLoop : Nat → Nat → Text → FetchRun
  | 0, _, _ =>
      { result := .error (.ssrf (text "too_many_redirects")
          (text "exceeded " ++ intText policy.maxRedirects ++ text " redirects"))
        gets := [] }
  | remaining + 1, hop, current =>
      match screenHop world policy hop current with
      | .error error => { result := .error error, gets := [] }
      | .ok _ =>
          match afterGet world policy hop current with
          | .ended result => { result := result, gets := [current] }
          | .redirected target =>
              let later := fetchLoop remaining (hop + 1) target
              { result := later.result, gets := current :: later.gets }

/-- `range(max_redirects + 1)` turns at most. -/
def fetch (url : Text) : FetchRun :=
  fetchLoop world policy (policy.maxRedirects + 1).toNat 0 url

/-- The members of a `data_refs[]` entry that are read. -/
structure DataRef where
  location : Option Text
  contentHash : Option Text

def verifyContentHash (expected : Text) (data : List UInt8) :
    Except FetchError (List UInt8) :=
  let parts := (cut (text ":") expected).getD (expected, [])
  if parts.1 ≠ text "sha256" then .error (.unsupportedAlgorithm parts.1)
  else
    let actual := world.sha256Hex data
    if actual ≠ parts.2 then
      .error (.hashMismatch
        (text "data_ref content_hash mismatch: expected " ++ parts.2.take 16 ++
          text "…, got " ++ actual.take 16 ++ text "…"))
    else .ok data

def fetchDataRef (dataRef : DataRef) : Except FetchError (List UInt8) :=
  match dataRef.location with
  | none | some [] =>
      .error (.ssrf (text "no_location") (text "data_ref has no location to fetch"))
  | some location =>
      match (fetch world policy location).result with
      | .error error => .error error
      | .ok data =>
          match dataRef.contentHash with
          | none | some [] => .ok data
          | some expected => verifyContentHash world expected data

/-! ### Hops -/

/-- The URL passed `check_url` and the answer of this hop's lookup is all allowed. -/
structure HopScreened (hop : Nat) (url : Text) (addresses : List Text) : Prop where
  checked : checkUrl world policy url = .ok ()
  resolved : world.resolve hop (hostOf world url) = .ok addresses
  answered : addresses ≠ []
  allowed : ∀ ip ∈ addresses, ipIsForbidden world policy ip = none

/-- The server redirects the request of this hop to a target of the same authority. -/
def Redirects (hop : Nat) (url target : Text) : Prop :=
  ∃ status given content, world.http hop url = .response status (some given) content ∧
    300 ≤ status ∧ status ≤ 399 ∧ given ≠ [] ∧ world.join url given = some target ∧
    sameAuthority world url target = true

/-- The server ends the chain at this hop with a body inside the size cap. -/
def Answers (hop : Nat) (url : Text) (content : List UInt8) : Prop :=
  ∃ status location, world.http hop url = .response status location content ∧
    ¬(300 ≤ status ∧ status ≤ 399) ∧ (content.length : Int) ≤ policy.maxBytes

/-- `count` screened redirects from this hop on, then an answer. -/
inductive RedirectChain : Nat → Text → Nat → List UInt8 → Prop where
  | answered {hop : Nat} {url : Text} {addresses : List Text} {content : List UInt8}
      (screened : HopScreened world policy hop url addresses)
      (answers : Answers world policy hop url content) : RedirectChain hop url 0 content
  | redirected {hop count : Nat} {url target : Text} {addresses : List Text}
      {content : List UInt8} (screened : HopScreened world policy hop url addresses)
      (redirects : Redirects world hop url target)
      (later : RedirectChain (hop + 1) target count content) :
      RedirectChain hop url (count + 1) content

/-- From this hop on, screened redirects lead to a screened request at a later hop. -/
inductive Requested : Nat → Text → Nat → Text → List Text → Prop where
  | here {hop : Nat} {url : Text} {addresses : List Text}
      (screened : HopScreened world policy hop url addresses) :
      Requested hop url hop url addresses
  | next {hop later : Nat} {url target final : Text} {addresses answer : List Text}
      (screened : HopScreened world policy hop url answer)
      (redirects : Redirects world hop url target)
      (onward : Requested (hop + 1) target later final addresses) :
      Requested hop url later final addresses

end Fetch

section Lemmas

variable {world : FetchWorld} {policy : SsrfPolicy}

theorem screenAddresses_ok_iff (host : Text) (addresses : List Text) :
    screenAddresses world policy host addresses = .ok () ↔
      ∀ ip ∈ addresses, ipIsForbidden world policy ip = none := by
  induction addresses with
  | nil =>
      constructor
      · intro _ ip member
        cases member
      · intro _
        rfl
  | cons ip rest ih =>
      rw [List.forall_mem_cons]
      unfold screenAddresses
      cases verdict : ipIsForbidden world policy ip with
      | some reason =>
          constructor
          · intro passed
            cases passed
          · intro allowed
            cases allowed.1
      | none =>
          rw [and_iff_right rfl]
          exact ih

theorem screenHop_ok_iff (hop : Nat) (url : Text) (addresses : List Text) :
    screenHop world policy hop url = .ok addresses ↔
      HopScreened world policy hop url addresses := by
  unfold screenHop screenHost
  constructor
  · intro passed
    split at passed
    · cases passed
    · next urlPassed =>
        split at passed
        · cases passed
        · next answer resolved =>
            split at passed
            · cases passed
            · next answered =>
                split at passed
                · cases passed
                · next screened =>
                    cases passed
                    exact ⟨urlPassed, resolved, answered,
                      (screenAddresses_ok_iff _ _).mp screened⟩
  · intro screened
    rw [screened.checked]
    simp only [screened.resolved, if_neg screened.answered,
      (screenAddresses_ok_iff _ _).mpr screened.allowed]

theorem afterGet_redirected_iff (hop : Nat) (url target : Text) :
    afterGet world policy hop url = .redirected target ↔ Redirects world hop url target := by
  unfold afterGet Redirects
  constructor
  · intro moved
    split at moved
    · cases moved
    · next status location content answered =>
        split at moved
        · next redirect =>
            split at moved
            · cases moved
            · cases moved
            · next given nonempty =>
                split at moved
                · cases moved
                · next joined isJoined =>
                    split at moved
                    · next same =>
                        cases moved
                        exact ⟨status, given, content, answered, redirect.1, redirect.2,
                          nonempty, isJoined, same⟩
                    · cases moved
        · split at moved <;> cases moved
  · rintro ⟨status, given, content, answered, low, high, nonempty, joined, same⟩
    rw [answered]
    simp only [if_pos (And.intro low high)]
    cases given with
    | nil => exact absurd rfl nonempty
    | cons first rest => simp only [joined, if_pos same]

theorem afterGet_of_answers {hop : Nat} {url : Text} {content : List UInt8}
    (answers : Answers world policy hop url content) :
    afterGet world policy hop url = .ended (.ok content) := by
  obtain ⟨status, location, answered, final, small⟩ := answers
  unfold afterGet
  rw [answered]
  simp only [if_neg final, if_neg (not_lt.mpr small)]

theorem length_of_afterGet {hop : Nat} {url : Text} {content : List UInt8}
    (ended : afterGet world policy hop url = .ended (.ok content)) :
    (content.length : Int) ≤ policy.maxBytes := by
  unfold afterGet at ended
  split at ended
  · cases ended
  · split at ended
    · split at ended
      · cases ended
      · cases ended
      · split at ended
        · cases ended
        · split at ended <;> cases ended
    · split at ended
      · cases ended
      · next small =>
          cases ended
          exact not_lt.mp small

theorem Requested.le {hop later : Nat} {url final : Text} {addresses : List Text}
    (requested : Requested world policy hop url later final addresses) : hop ≤ later := by
  induction requested with
  | here => exact Nat.le_refl _
  | next _ _ _ ih => omega

/-- The first hop of a path is screened, and it is the last one or is redirected. -/
theorem Requested.first {hop later : Nat} {url final : Text} {addresses : List Text}
    (requested : Requested world policy hop url later final addresses) :
    (later = hop ∧ final = url ∧ HopScreened world policy hop url addresses) ∨
      ∃ answer target, HopScreened world policy hop url answer ∧
        Redirects world hop url target ∧
        Requested world policy (hop + 1) target later final addresses := by
  cases requested with
  | here screened => exact .inl ⟨rfl, rfl, screened⟩
  | next screened redirects onward => exact .inr ⟨_, _, screened, redirects, onward⟩

/-- The requests of the loop are the screened hops of the redirect path, up to the cap. -/
theorem gets_fetchLoop_iff (remaining hop : Nat) (current : Text) (index : Nat) (url : Text) :
    (fetchLoop world policy remaining hop current).gets[index]? = some url ↔
      index < remaining ∧
        ∃ addresses, Requested world policy hop current (hop + index) url addresses := by
  induction remaining generalizing hop current index with
  | zero =>
      constructor
      · intro found
        cases found
      · rintro ⟨impossible, _⟩
        omega
  | succ remaining ih =>
      unfold fetchLoop
      cases screening : screenHop world policy hop current with
      | error error =>
          constructor
          · intro found
            cases found
          · rintro ⟨_, addresses, requested⟩
            rcases requested.first with ⟨_, _, screened⟩ | ⟨_, _, screened, _, _⟩
            · rw [(screenHop_ok_iff _ _ _).mpr screened] at screening
              cases screening
            · rw [(screenHop_ok_iff _ _ _).mpr screened] at screening
              cases screening
      | ok answer =>
          have screened := (screenHop_ok_iff _ _ _).mp screening
          cases answered : afterGet world policy hop current with
          | ended result =>
              have stops : ∀ target, ¬Redirects world hop current target := by
                intro target redirects
                rw [(afterGet_redirected_iff _ _ _).mpr redirects] at answered
                cases answered
              constructor
              · intro found
                cases index with
                | zero =>
                    cases found
                    exact ⟨Nat.succ_pos _, answer, .here screened⟩
                | succ index => cases found
              · rintro ⟨_, addresses, requested⟩
                rcases requested.first with ⟨same, rfl, _⟩ | ⟨_, target, _, redirects, _⟩
                · have first : index = 0 := by omega
                  rw [first]
                  rfl
                · exact absurd redirects (stops target)
          | redirected target =>
              have redirects := (afterGet_redirected_iff _ _ _).mp answered
              cases index with
              | zero =>
                  constructor
                  · intro found
                    cases found
                    exact ⟨Nat.succ_pos _, answer, .here screened⟩
                  · rintro ⟨_, addresses, requested⟩
                    rcases requested.first with ⟨_, rfl, _⟩ | ⟨_, _, _, _, onward⟩
                    · rfl
                    · have later := onward.le
                      omega
              | succ index =>
                  simp only [List.getElem?_cons_succ]
                  rw [ih, Nat.add_lt_add_iff_right, Nat.add_right_comm hop 1 index,
                    Nat.add_assoc hop index 1]
                  apply and_congr_right
                  intro _
                  apply exists_congr
                  intro addresses
                  constructor
                  · exact fun onward => .next screened redirects onward
                  · intro requested
                    rcases requested.first with ⟨same, _, _⟩ | ⟨_, _, _, other, onward⟩
                    · omega
                    · rw [(afterGet_redirected_iff _ _ _).mpr other] at answered
                      cases answered
                      exact onward

theorem length_gets_le (remaining hop : Nat) (current : Text) :
    (fetchLoop world policy remaining hop current).gets.length ≤ remaining := by
  by_cases more : remaining < (fetchLoop world policy remaining hop current).gets.length
  · have found := List.getElem?_eq_getElem more
    have bounded := ((gets_fetchLoop_iff _ _ _ _ _).mp found).1
    omega
  · exact Nat.le_of_not_lt more

theorem fetchLoop_of_chain {hop count : Nat} {url : Text} {content : List UInt8}
    (chain : RedirectChain world policy hop url count content) (remaining : Nat) :
    (fetchLoop world policy remaining hop url).result = .ok content ↔ count < remaining := by
  induction chain generalizing remaining with
  | answered screened answers =>
      cases remaining with
      | zero =>
          constructor
          · intro returned
            cases returned
          · intro impossible
            omega
      | succ remaining =>
          unfold fetchLoop
          rw [(screenHop_ok_iff _ _ _).mpr screened]
          simp only [afterGet_of_answers answers, Nat.succ_pos]
  | redirected screened redirects later ih =>
      cases remaining with
      | zero =>
          constructor
          · intro returned
            cases returned
          · intro impossible
            omega
      | succ remaining =>
          unfold fetchLoop
          rw [(screenHop_ok_iff _ _ _).mpr screened]
          simp only [(afterGet_redirected_iff _ _ _).mpr redirects]
          rw [ih, Nat.add_lt_add_iff_right]

theorem length_of_fetchLoop {remaining hop : Nat} {url : Text} {content : List UInt8}
    (returned : (fetchLoop world policy remaining hop url).result = .ok content) :
    (content.length : Int) ≤ policy.maxBytes := by
  induction remaining generalizing hop url with
  | zero => cases returned
  | succ remaining ih =>
      unfold fetchLoop at returned
      split at returned
      · cases returned
      · split at returned
        · next result ended =>
            change result = .ok content at returned
            rw [returned] at ended
            exact length_of_afterGet ended
        · exact ih returned

theorem verifyContentHash_ok {expected : Text} {data returned : List UInt8}
    (verified : verifyContentHash world expected data = .ok returned) :
    returned = data ∧ expected = text "sha256:" ++ world.sha256Hex data := by
  unfold verifyContentHash at verified
  simp only at verified
  split at verified
  · cases verified
  · next algorithm =>
      split at verified
      · cases verified
      · next digest =>
          cases verified
          refine ⟨rfl, ?_⟩
          rw [not_not] at algorithm digest
          cases parts : cut (text ":") expected with
          | none =>
              rw [parts] at digest
              have length := world.sha256Hex_length data
              rw [digest] at length
              cases length
          | some found =>
              rw [parts] at algorithm digest
              rw [cut_eq_some parts, digest]
              change found.1 = text "sha256" at algorithm
              rw [algorithm]
              rfl

theorem Requested.screened_last {hop later : Nat} {url final : Text} {addresses : List Text}
    (requested : Requested world policy hop url later final addresses) :
    HopScreened world policy later final addresses := by
  induction requested with
  | here screened => exact screened
  | next _ _ _ ih => exact ih

theorem Requested.authority {hop later : Nat} {url final : Text} {addresses : List Text}
    (equivalence : Equivalence (fun first second => sameAuthority world first second = true))
    (requested : Requested world policy hop url later final addresses) :
    sameAuthority world url final = true := by
  induction requested with
  | here _ => exact equivalence.refl _
  | next _ redirects _ ih =>
      obtain ⟨_, _, _, _, _, _, _, _, same⟩ := redirects
      exact equivalence.trans same ih

theorem gets_fetch_iff (url : Text) (index : Nat) (get : Text) :
    (fetch world policy url).gets[index]? = some get ↔
      (index : Int) ≤ policy.maxRedirects ∧
        ∃ addresses, Requested world policy 0 url index get addresses := by
  unfold fetch
  rw [gets_fetchLoop_iff, Nat.zero_add]
  apply and_congr_left
  intro _
  omega

end Lemmas

/-! ### The guarded fetch -/

/-- `hop` counts the requests from 0; lookups are taken once per hop. -/
structure GuardedFetch (world : FetchWorld) (policy : SsrfPolicy) (url : Text) : Prop where
  screened : ∀ (hop : Nat) (get : Text), (fetch world policy url).gets[hop]? = some get →
    ∃ addresses, HopScreened world policy hop get addresses
  authority : ∀ get ∈ (fetch world policy url).gets, sameAuthority world url get = true
  capped : ((fetch world policy url).gets.length : Int) ≤ policy.maxRedirects + 1
  followed : ∀ (count : Nat) (content : List UInt8),
    RedirectChain world policy 0 url count content →
    ((fetch world policy url).result = .ok content ↔ (count : Int) ≤ policy.maxRedirects)
  sized : ∀ content, (fetch world policy url).result = .ok content →
    (content.length : Int) ≤ policy.maxBytes
  verified : ∀ dataRef expected data, dataRef.contentHash = some expected → expected ≠ [] →
    fetchDataRef world policy dataRef = .ok data →
    expected = text "sha256:" ++ world.sha256Hex data

theorem fetchDataRef_verified {world : FetchWorld} {policy : SsrfPolicy} {dataRef : DataRef}
    {expected : Text} {data : List UInt8} (given : dataRef.contentHash = some expected)
    (nonempty : expected ≠ []) (returned : fetchDataRef world policy dataRef = .ok data) :
    expected = text "sha256:" ++ world.sha256Hex data := by
  unfold fetchDataRef at returned
  split at returned
  · cases returned
  · cases returned
  · split at returned
    · cases returned
    · rw [given] at returned
      split at returned
      · next missing => cases missing
      · next empty => exact absurd (Option.some.inj empty) nonempty
      · next other _ same =>
          cases same
          obtain ⟨rfl, digest⟩ := verifyContentHash_ok returned
          exact digest

theorem fetch_guarded (world : FetchWorld) (policy : SsrfPolicy) (url : Text)
    (equivalence : Equivalence (fun first second => sameAuthority world first second = true))
    (nonneg : 0 ≤ policy.maxRedirects) : GuardedFetch world policy url := by
  constructor
  · intro hop get found
    obtain ⟨_, addresses, requested⟩ := (gets_fetch_iff url hop get).mp found
    exact ⟨addresses, requested.screened_last⟩
  · intro get member
    obtain ⟨hop, found⟩ := List.getElem?_of_mem member
    obtain ⟨_, _, requested⟩ := (gets_fetch_iff url hop get).mp found
    exact requested.authority equivalence
  · have bounded : (fetch world policy url).gets.length ≤ (policy.maxRedirects + 1).toNat :=
      length_gets_le _ _ _
    omega
  · intro count content chain
    unfold fetch
    rw [fetchLoop_of_chain chain]
    omega
  · intro content returned
    exact length_of_fetchLoop returned
  · intro dataRef expected data given nonempty returned
    exact fetchDataRef_verified given nonempty returned

/-! ### One redirect on one host -/

def exampleAuthority (url : Text) : Text :=
  (url.drop 8).takeWhile (fun point => point ≠ 47)

def finalContent : List UInt8 := [102, 105, 110, 97, 108]

/-- `https://data.example.com/x` redirects to `/y`. The HTTP client's own lookup gives
`address`, whatever the resolver said. -/
def exampleWorld (address : Text) : FetchWorld where
  urlsplit url :=
    some { username := none, password := none, hostname := some (exampleAuthority url) }
  join _ given := some (text "https://data.example.com" ++ given)
  sha256Hex data :=
    if data = finalContent then
      text "2443630b4620165c8b173e7265e17526fe2787ae594364dd6d839ad58f2fc007"
    else List.replicate 64 48
  sha256Hex_length data := by
    split
    · decide
    · exact List.length_replicate
  checkIp _ ip :=
    if ip = text "169.254.169.254" then
      .rejected (text "imds") (text "link-local address")
    else .accepted
  checkUrl _ url :=
    if (text "https://").isPrefixOf url then .accepted
    else .rejected (text "non_https") (text "scheme is not https")
  checkRedirectAuthority first second :=
    if exampleAuthority first = exampleAuthority second then .accepted
    else .rejected (text "cross_authority") (text "authority differs")
  resolve _ _ := .ok [text "203.0.113.10"]
  http _ url :=
    if url = text "https://data.example.com/x" then .response 302 (some (text "/y")) []
    else .response 200 none finalContent
  connect _ _ := [address]

def productionPolicy : SsrfPolicy :=
  { allowLoopback := false
    maxRedirects := 3
    maxBytes := 1048576 }

theorem exampleWorld_equivalence (address : Text) :
    Equivalence (fun first second => sameAuthority (exampleWorld address) first second = true) := by
  have decides : ∀ first second, sameAuthority (exampleWorld address) first second = true ↔
      exampleAuthority first = exampleAuthority second := by
    intro first second
    simp only [sameAuthority, exampleWorld, decide_eq_true_eq, ite_eq_left_iff, reduceCtorEq,
      imp_false, not_not]
  constructor
  · intro first
    exact (decides first first).mpr rfl
  · intro first second same
    exact (decides second first).mpr ((decides first second).mp same).symm
  · intro first second third left right
    exact (decides first third).mpr
      (((decides first second).mp left).trans ((decides second third).mp right))

theorem example_fetch_guarded :
    (fetch (exampleWorld (text "203.0.113.10")) productionPolicy
        (text "https://data.example.com/x")).gets =
        [text "https://data.example.com/x", text "https://data.example.com/y"] ∧
      GuardedFetch (exampleWorld (text "203.0.113.10")) productionPolicy
        (text "https://data.example.com/x") :=
  ⟨by decide +kernel,
    fetch_guarded _ productionPolicy _ (exampleWorld_equivalence _) (by decide)⟩

/-! ### The second lookup -/

/-- The addresses connected to for the requests from a hop on. -/
def connections (world : FetchWorld) : Nat → List Text → List Text
  | _, [] => []
  | hop, url :: rest =>
      world.connect hop (hostOf world url) ++ connections world (hop + 1) rest

theorem mem_connections (world : FetchWorld) (hop : Nat) (gets : List Text) (ip : Text) :
    ip ∈ connections world hop gets ↔
      ∃ (index : Nat) (url : Text), gets[index]? = some url ∧
        ip ∈ world.connect (hop + index) (hostOf world url) := by
  induction gets generalizing hop with
  | nil =>
      constructor
      · intro member
        cases member
      · rintro ⟨index, url, found, _⟩
        cases found
  | cons first rest ih =>
      unfold connections
      rw [List.mem_append, ih]
      constructor
      · rintro (here | ⟨index, url, found, connected⟩)
        · exact ⟨0, first, rfl, here⟩
        · refine ⟨index + 1, url, found, ?_⟩
          rw [Nat.add_right_comm hop 1 index] at connected
          exact connected
      · rintro ⟨index, url, found, connected⟩
        cases index with
        | zero =>
            cases found
            exact .inl connected
        | succ index =>
            refine .inr ⟨index, url, found, ?_⟩
            rw [Nat.add_right_comm hop 1 index]
            exact connected

def ConnectsAllowed (world : FetchWorld) (policy : SsrfPolicy) (url : Text) : Prop :=
  ∀ ip ∈ connections world 0 (fetch world policy url).gets,
    ipIsForbidden world policy ip = none

/-- The HTTP client's lookup adds no forbidden address to the answer that was screened. -/
def NoForbiddenRebind (world : FetchWorld) (policy : SsrfPolicy) (url : Text) : Prop :=
  ∀ (hop : Nat) (get : Text) (addresses : List Text), (hop : Int) ≤ policy.maxRedirects →
    Requested world policy 0 url hop get addresses →
    ∀ ip ∈ world.connect hop (hostOf world get), ip ∉ addresses →
      ipIsForbidden world policy ip = none

theorem connectsAllowed_iff_noForbiddenRebind (world : FetchWorld) (policy : SsrfPolicy)
    (url : Text) :
    ConnectsAllowed world policy url ↔ NoForbiddenRebind world policy url := by
  constructor
  · intro allowed hop get addresses within requested ip connected _
    apply allowed ip
    rw [mem_connections]
    refine ⟨hop, get, (gets_fetch_iff url hop get).mpr ⟨within, addresses, requested⟩, ?_⟩
    rw [Nat.zero_add]
    exact connected
  · intro stable ip member
    obtain ⟨hop, get, found, connected⟩ := (mem_connections world 0 _ ip).mp member
    obtain ⟨within, addresses, requested⟩ := (gets_fetch_iff url hop get).mp found
    rw [Nat.zero_add] at connected
    by_cases judged : ip ∈ addresses
    · exact requested.screened_last.allowed ip judged
    · exact stable hop get addresses within requested ip connected judged

theorem rebound_host_not_connectsAllowed :
    ¬ConnectsAllowed (exampleWorld (text "169.254.169.254")) productionPolicy
      (text "https://data.example.com/x") := by
  intro allowed
  have opened : text "169.254.169.254" ∈ connections (exampleWorld (text "169.254.169.254")) 0
      (fetch (exampleWorld (text "169.254.169.254")) productionPolicy
        (text "https://data.example.com/x")).gets := by decide +kernel
  have forbidden : ipIsForbidden (exampleWorld (text "169.254.169.254")) productionPolicy
      (text "169.254.169.254") = some (text "imds") := by decide +kernel
  have accepted := allowed _ opened
  rw [forbidden] at accepted
  cases accepted

end AcdpPlayground.Client

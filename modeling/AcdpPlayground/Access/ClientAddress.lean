/-
Who is charged for `POST /runs`: `_charged_ip` of `playground/api/runs.py` over the client
address that the gate leaves in the request state. The same text is the key of the launch
window and the subject of the per-IP quotas.

A subscriber is an IPv4 address or an IPv6 /64. `_parse_ip` brings a forwarded address to
the text of its subscriber, but for a scope id on the first address of a network, which
stays. The host of the socket peer is charged as it is spelled.
-/

import AcdpPlayground.Access.ApiKey
import AcdpPlayground.Quota.Counters

namespace AcdpPlayground.Access

open PythonText IpAddress Quota Calendar

/-! ### Charges -/

def chargedIp (state : State) (client : Option String) : Option String :=
  if !state.perIpLimits then none
  else if state.clientIp ≠ "" then some state.clientIp
  else client

/-- What the request is charged to. -/
def charged (settings : Settings) (scope : Scope) : Option String :=
  chargedIp (stateOf settings scope) scope.client

/-- The request gets past the gate, and per-IP limits apply to it. -/
def Limited (settings : Settings) (scope : Scope) : Prop :=
  ∃ state, apiKeyMiddleware settings scope = .passed (some state) ∧ state.perIpLimits = true

def ipSubjects (counters : List Counter) : List String :=
  (counters.filter (fun counter => counter.scope = .ipDay || counter.scope = .ipMonth)).map
    Counter.subject

/-! ### Subscribers -/

inductive Subscriber where
  | host (number : Nat)
  | site (network : Nat)
  deriving DecidableEq

def subscriberOf : Address → Subscriber
  | .v4 number => .host number
  | .v6 number _ =>
      match mapped number with
      | some inner => .host inner
      | none => .site (number / 18446744073709551616)

def forwardedAddress (settings : Settings) (scope : Scope) : Option Address :=
  if keyValid settings scope then
    (header scope clientIpHeader).bind (fun value => ipAddress (strip value))
  else none

def effectiveAddress (settings : Settings) (scope : Scope) : Option Address :=
  (forwardedAddress settings scope).or
    (scope.client.bind (fun host => ipAddress (strip (text host))))

/-- Two requests are charged together exactly when their subscribers are the same. -/
structure OneBucket (first second : Option String) (firstAddress secondAddress : Address) :
    Prop where
  launches : first = second ↔ subscriberOf firstAddress = subscriberOf secondAddress
  quotas : ∀ settings firstNow secondNow firstCounters secondCounters,
    countersFor first settings firstNow = some firstCounters →
    countersFor second settings secondNow = some secondCounters →
    (ipSubjects firstCounters = ipSubjects secondCounters ↔
      subscriberOf firstAddress = subscriberOf secondAddress)

/-! ### Spellings -/

/-- What the charged text keeps of the way an address is given. -/
inductive Spelling where
  | plain
  | withScope (scopeId : Text)
  | peer (host : String)
  deriving DecidableEq

def spellingOfForwarded : Address → Spelling
  | .v4 _ => .plain
  | .v6 _ none => .plain
  | .v6 number (some scopeId) =>
      if mapped number = none && number % 18446744073709551616 = 0 then .withScope scopeId else .plain

def spellingOfPeer (host : String) : Spelling :=
  if (parseIPv4 (text host)).isSome then .plain else .peer host

/-- A forwarded address is plain unless its scope id stays, a peer when it is a dotted quad. -/
def spelling (settings : Settings) (scope : Scope) : Spelling :=
  match forwardedAddress settings scope with
  | some address => spellingOfForwarded address
  | none =>
      match scope.client with
      | some host => spellingOfPeer host
      | none => .plain

/-! ### Texts of subscribers -/

/-- The text that a subscriber is charged under, by how its address is spelled. -/
inductive Label : Subscriber → Spelling → Text → Prop where
  | host {number : Nat} (bound : number < 4294967296) :
      Label (.host number) .plain (ipv4Text number)
  | site {network : Nat} (bound : network < 18446744073709551616) :
      Label (.site network) .plain (ipv6Text (network * 18446744073709551616) ++ text "/64")
  | withScope {network : Nat} {scopeId : Text} (bound : network < 18446744073709551616) :
      Label (.site network) (.withScope scopeId)
        (ipv6Text (network * 18446744073709551616) ++ text "%" ++ (scopeId ++ text "/64"))
  | peer {subscriber : Subscriber} {host : String} {address : Address}
      (named : parseIPv4 (text host) = none) (read : ipAddress (strip (text host)) = some address)
      (same : subscriberOf address = subscriber) : Label subscriber (.peer host) (text host)

theorem Label.text_unique {subscriber : Subscriber} {spelling : Spelling} {first second : Text}
    (firstLabel : Label subscriber spelling first)
    (secondLabel : Label subscriber spelling second) : first = second := by
  cases firstLabel with
  | host _ => cases secondLabel; rfl
  | site _ => cases secondLabel; rfl
  | withScope _ => cases secondLabel; rfl
  | peer _ _ _ => cases secondLabel; rfl

theorem percent_notMem_ipv6Text (number : Nat) : 37 ∉ ipv6Text number := by
  intro percent
  rcases mem_ipv6Text percent with colon | digit
  · cases colon
  · cases digit

theorem slash_mem_site (number : Nat) : 47 ∈ ipv6Text number ++ text "/64" :=
  List.mem_append_right _ (by decide)

theorem slash_mem_withScope (number : Nat) (scopeId : Text) :
    47 ∈ ipv6Text number ++ text "%" ++ (scopeId ++ text "/64") :=
  List.mem_append_right _ (List.mem_append_right _ (by decide))

theorem site_ne_withScope (first second : Nat) (scopeId : Text) :
    ipv6Text first ++ text "/64" ≠ ipv6Text second ++ text "%" ++ (scopeId ++ text "/64") := by
  intro same
  have percent : 37 ∈ ipv6Text first ++ text "/64" := by
    rw [same]
    exact List.mem_append_left _ (List.mem_append_right _ (by decide))
  rcases List.mem_append.mp percent with inside | ending
  · exact percent_notMem_ipv6Text first inside
  · revert ending
    decide

theorem withScope_injective {first second : Nat} {firstScope secondScope : Text}
    (same : ipv6Text first ++ text "%" ++ (firstScope ++ text "/64") =
      ipv6Text second ++ text "%" ++ (secondScope ++ text "/64")) :
    ipv6Text first = ipv6Text second ∧ firstScope = secondScope := by
  have parts : ∀ number scopeId,
      cut (text "%") (ipv6Text number ++ text "%" ++ (scopeId ++ text "/64")) =
        some (ipv6Text number, scopeId ++ text "/64") :=
    fun number scopeId => cut_of_head_absent 37 [] _ (percent_notMem_ipv6Text number)
  have read := parts first firstScope
  rw [same, parts, Option.some.injEq, Prod.mk.injEq] at read
  exact ⟨read.1.symm, (List.append_cancel_right read.2).symm⟩

theorem slash_notMem_peer {host : String} {address : Address}
    (read : ipAddress (strip (text host)) = some address) : 47 ∉ text host := by
  intro slash
  exact slash_notMem_of_ipAddress read (mem_strip slash (by decide))

theorem Label.unique {firstSubscriber secondSubscriber : Subscriber}
    {firstSpelling secondSpelling : Spelling} {first second : Text}
    (firstLabel : Label firstSubscriber firstSpelling first)
    (secondLabel : Label secondSubscriber secondSpelling second) (same : first = second) :
    firstSubscriber = secondSubscriber ∧ firstSpelling = secondSpelling := by
  cases firstLabel with
  | host bound =>
      cases secondLabel with
      | host otherBound =>
          rw [ipv4Text_injective bound otherBound same]
          exact ⟨rfl, rfl⟩
      | site _ => exact absurd (same ▸ slash_mem_site _) (slash_notMem_ipv4Text _)
      | withScope _ => exact absurd (same ▸ slash_mem_withScope _ _) (slash_notMem_ipv4Text _)
      | peer named _ _ =>
          rw [← same, parseIPv4_ipv4Text bound] at named
          cases named
  | site bound =>
      cases secondLabel with
      | host _ => exact absurd (same ▸ slash_mem_site _) (slash_notMem_ipv4Text _)
      | site otherBound =>
          rw [ipv6Text_site_injective bound otherBound (List.append_cancel_right same)]
          exact ⟨rfl, rfl⟩
      | withScope _ => exact absurd same (site_ne_withScope _ _ _)
      | peer _ read _ => exact absurd (same ▸ slash_mem_site _) (slash_notMem_peer read)
  | withScope bound =>
      cases secondLabel with
      | host _ => exact absurd (same ▸ slash_mem_withScope _ _) (slash_notMem_ipv4Text _)
      | site _ => exact absurd same.symm (site_ne_withScope _ _ _)
      | withScope otherBound =>
          obtain ⟨sameNetwork, sameRest⟩ := withScope_injective same
          rw [ipv6Text_site_injective bound otherBound sameNetwork, sameRest]
          exact ⟨rfl, rfl⟩
      | peer _ read _ => exact absurd (same ▸ slash_mem_withScope _ _) (slash_notMem_peer read)
  | peer named read known =>
      cases secondLabel with
      | host otherBound =>
          rw [same, parseIPv4_ipv4Text otherBound] at named
          cases named
      | site _ => exact absurd (same ▸ slash_mem_site _) (slash_notMem_peer read)
      | withScope _ => exact absurd (same ▸ slash_mem_withScope _ _) (slash_notMem_peer read)
      | peer _ otherRead otherKnown =>
          cases text_injective same
          rw [read] at otherRead
          cases otherRead
          rw [← known, ← otherKnown]
          exact ⟨rfl, rfl⟩

/-! ### What is charged -/

theorem networkText_label {number : Nat} (scopeId : Option Text)
    (bound : number < 340282366920938463463374607431768211456) (unmapped : mapped number = none) :
    Label (subscriberOf (.v6 number scopeId)) (spellingOfForwarded (.v6 number scopeId))
      (networkText number scopeId) := by
  have network : number / 18446744073709551616 < 18446744073709551616 := by omega
  have subscriber : subscriberOf (.v6 number scopeId) = .site (number / 18446744073709551616) := by
    simp only [subscriberOf, unmapped]
  rw [subscriber]
  by_cases base : number / 18446744073709551616 * 18446744073709551616 = number
  · have noHost : number % 18446744073709551616 = 0 := by omega
    cases scopeId with
    | none =>
        simp only [networkText, base, if_true, spellingOfForwarded]
        have label := Label.site network
        rw [base] at label
        exact label
    | some scopeId =>
        simp only [networkText, base, if_true, spellingOfForwarded, unmapped, noHost,
          decide_true, Bool.and_self, List.append_assoc]
        have label : Label _ (.withScope scopeId) _ := Label.withScope network
        rw [base] at label
        simpa only [List.append_assoc] using label
  · have someHost : number % 18446744073709551616 ≠ 0 := by omega
    have plain : spellingOfForwarded (.v6 number scopeId) = .plain := by
      cases scopeId with
      | none => rfl
      | some scopeId => simp [spellingOfForwarded, someHost]
    rw [plain]
    simp only [networkText, base, if_false]
    exact Label.site network

/-- A forwarded address is charged under the text of its subscriber. -/
theorem bucket_label {address : Address} (bounded : address.Bounded) :
    Label (subscriberOf address) (spellingOfForwarded address) (bucket address) := by
  cases address with
  | v4 number => exact Label.host bounded
  | v6 number scopeId =>
      cases inner : mapped number with
      | none =>
          simp only [bucket, inner]
          exact networkText_label scopeId bounded inner
      | some quad =>
          have quadBound : quad < 4294967296 := by
            unfold mapped at inner
            split at inner
            · cases inner
              exact Nat.mod_lt number (by decide)
            · cases inner
          have plain : spellingOfForwarded (.v6 number scopeId) = .plain := by
            cases scopeId with
            | none => rfl
            | some scopeId => simp [spellingOfForwarded, inner]
          rw [plain]
          simp only [bucket, subscriberOf, inner]
          exact Label.host quadBound

theorem peer_label {host : String} {address : Address}
    (read : ipAddress (strip (text host)) = some address) :
    Label (subscriberOf address) (spellingOfPeer host) (text host) := by
  unfold spellingOfPeer
  cases quad : parseIPv4 (text host) with
  | none => exact Label.peer quad read rfl
  | some number =>
      obtain ⟨written, bound⟩ := parseIPv4_spec quad
      have parsed : ipAddress (strip (text host)) = some (.v4 number) := by
        rw [← written, strip_of_tight (ipv4Text_tight number), written]
        simp only [ipAddress, quad]
      rw [parsed] at read
      cases read
      rw [← written]
      exact Label.host bound

theorem mem_ipv4Text_lt {number point : Nat} (member : point ∈ ipv4Text number) :
    point < 0xD800 := by
  rcases mem_ipv4Text member with rfl | digit
  · decide
  · simp only [isAsciiDigit, Bool.and_eq_true, decide_eq_true_eq] at digit
    omega

theorem mem_ipv6Text_lt {number point : Nat} (member : point ∈ ipv6Text number) :
    point < 0xD800 := by
  rcases mem_ipv6Text member with rfl | digit
  · decide
  · simp only [isHexDigit, isAsciiDigit, Bool.or_eq_true, Bool.and_eq_true,
      decide_eq_true_eq] at digit
    omega

theorem mem_networkText_lt {number point : Nat} {scopeId : Option Text}
    (scopeValid : ∀ kept ∈ scopeId, ∀ point ∈ kept, point < 0xD800)
    (member : point ∈ networkText number scopeId) : point < 0xD800 := by
  have mask : ∀ point ∈ text "/64", point < 0xD800 := by decide
  have percent : ∀ point ∈ text "%", point < 0xD800 := by decide
  simp only [networkText] at member
  split at member
  · cases scopeId with
    | none =>
        rcases List.mem_append.mp member with address | ending
        · exact mem_ipv6Text_lt address
        · exact mask point ending
    | some kept =>
        simp only [List.mem_append] at member
        rcases member with ((address | separator) | inside) | ending
        · exact mem_ipv6Text_lt address
        · exact percent point separator
        · exact scopeValid kept rfl point inside
        · exact mask point ending
  · rcases List.mem_append.mp member with address | ending
    · exact mem_ipv6Text_lt address
    · exact mask point ending

/-- A header value is latin-1, and so is all that is charged for it. -/
theorem text_string_bucket {value : List UInt8} {address : Address}
    (read : ipAddress (strip (decodeLatin1 value)) = some address) :
    text (string (bucket address)) = bucket address := by
  apply text_string
  intro point member
  cases address with
  | v4 number => exact mem_ipv4Text_lt member
  | v6 number scopeId =>
      simp only [bucket] at member
      split at member
      · exact mem_ipv4Text_lt member
      · apply mem_networkText_lt _ member
        intro kept present point inside
        cases present
        obtain ⟨byte, _, rfl⟩ :=
          List.mem_map.mp (mem_of_mem_strip (mem_scope_of_ipAddress read point inside))
        have bound := byte.toNat_lt
        omega

theorem forwardedAddress_read {settings : Settings} {scope : Scope} {address : Address}
    (forwarded : forwardedAddress settings scope = some address) :
    ∃ value, ipAddress (strip (decodeLatin1 value)) = some address := by
  unfold forwardedAddress at forwarded
  split at forwarded
  · obtain ⟨given, present, read⟩ := Option.bind_eq_some_iff.mp forwarded
    obtain ⟨entry, _, rfl⟩ := Option.map_eq_some_iff.mp present
    exact ⟨entry.2, read⟩
  · cases forwarded

theorem Label.ne_nil {subscriber : Subscriber} {spelling : Spelling} {label : Text}
    (labelled : Label subscriber spelling label) : label ≠ [] := by
  cases labelled with
  | host bound =>
      intro empty
      have read := parseIPv4_ipv4Text bound
      rw [empty] at read
      cases read
  | site _ => exact List.ne_nil_of_mem (slash_mem_site _)
  | withScope _ => exact List.ne_nil_of_mem (slash_mem_withScope _ _)
  | peer _ read _ =>
      intro empty
      rw [empty] at read
      cases read

theorem parseIp_eq (value : Option Text) :
    parseIp value = (value.bind (fun given => ipAddress (strip given))).map bucket := by
  cases value with
  | none => rfl
  | some given =>
      cases given with
      | nil => rfl
      | cons first rest => rfl

theorem resolveClientIp_eq (settings : Settings) (scope : Scope) :
    resolveClientIp scope (keyValid settings scope) =
      match forwardedAddress settings scope with
      | some address => string (bucket address)
      | none => scope.client.getD "unknown" := by
  unfold resolveClientIp forwardedAddress
  rw [parseIp_eq]
  cases keyValid settings scope with
  | false => rfl
  | true =>
      simp only [if_true]
      cases (header scope clientIpHeader).bind (fun given => ipAddress (strip given)) with
      | none => rfl
      | some address => rfl

theorem charged_of_limited {settings : Settings} {scope : Scope}
    (limited : Limited settings scope) :
    charged settings scope =
      if resolveClientIp scope (keyValid settings scope) ≠ "" then
        some (resolveClientIp scope (keyValid settings scope))
      else scope.client := by
  obtain ⟨state, passed, applied⟩ := limited
  have same : state = stateOf settings scope := by
    unfold apiKeyMiddleware at passed
    split_ifs at passed <;> cases passed <;> rfl
  rw [same] at applied
  unfold charged chargedIp
  rw [applied]
  rfl

theorem charged_label {settings : Settings} {scope : Scope} {address : Address}
    (limited : Limited settings scope) (known : effectiveAddress settings scope = some address) :
    ∃ label, charged settings scope = some label ∧
      Label (subscriberOf address) (spelling settings scope) (text label) := by
  rw [charged_of_limited limited, resolveClientIp_eq]
  unfold effectiveAddress at known
  unfold spelling
  cases forwarded : forwardedAddress settings scope with
  | some given =>
      rw [forwarded] at known
      cases known
      obtain ⟨value, read⟩ := forwardedAddress_read forwarded
      have labelled := bucket_label (ipAddress_bounded read)
      have readable := text_string_bucket read
      have present : string (bucket address) ≠ "" := by
        intro empty
        have nothing := congrArg text empty
        rw [readable] at nothing
        exact labelled.ne_nil nothing
      refine ⟨string (bucket address), if_pos present, ?_⟩
      rw [readable]
      exact labelled
  | none =>
      rw [forwarded, Option.none_or] at known
      obtain ⟨host, peer, read⟩ := Option.bind_eq_some_iff.mp known
      have labelled := peer_label read
      have present : host ≠ "" := by
        rintro rfl
        exact labelled.ne_nil rfl
      refine ⟨host, ?_, ?_⟩
      · simp only [peer, Option.getD_some, if_pos present]
      · simp only [peer]
        exact labelled

theorem charged_eq_iff {settings : Settings} {first second : Scope}
    {firstAddress secondAddress : Address} (firstLimited : Limited settings first)
    (secondLimited : Limited settings second)
    (firstKnown : effectiveAddress settings first = some firstAddress)
    (secondKnown : effectiveAddress settings second = some secondAddress) :
    charged settings first = charged settings second ↔
      subscriberOf firstAddress = subscriberOf secondAddress ∧
        spelling settings first = spelling settings second := by
  obtain ⟨firstText, firstCharged, firstLabel⟩ := charged_label firstLimited firstKnown
  obtain ⟨secondText, secondCharged, secondLabel⟩ := charged_label secondLimited secondKnown
  rw [firstCharged, secondCharged, Option.some.injEq]
  constructor
  · intro same
    exact firstLabel.unique secondLabel (congrArg text same)
  · rintro ⟨sameSubscriber, sameSpelling⟩
    rw [sameSubscriber, sameSpelling] at firstLabel
    exact text_injective (firstLabel.text_unique secondLabel)

theorem ipSubjects_countersFor {ip : String} {settings : QuotaSettings} {now : Datetime}
    {counters : List Counter} (built : countersFor (some ip) settings now = some counters) :
    ipSubjects counters = [ip, ip] := by
  obtain ⟨utc, tomorrow, followingMonth, _, _, _, rfl⟩ := countersFor_eq_some built
  rfl

/-- Requests are charged by subscriber exactly when those of one subscriber are spelled
alike. -/
theorem oneBucket_iff_same_spelling (settings : Settings) (first second : Scope)
    (firstAddress secondAddress : Address) (firstLimited : Limited settings first)
    (secondLimited : Limited settings second)
    (firstKnown : effectiveAddress settings first = some firstAddress)
    (secondKnown : effectiveAddress settings second = some secondAddress) :
    OneBucket (charged settings first) (charged settings second) firstAddress secondAddress ↔
      (subscriberOf firstAddress = subscriberOf secondAddress →
        spelling settings first = spelling settings second) := by
  have together := charged_eq_iff firstLimited secondLimited firstKnown secondKnown
  constructor
  · intro law same
    exact (together.mp (law.launches.mpr same)).2
  · intro alike
    have launches : charged settings first = charged settings second ↔
        subscriberOf firstAddress = subscriberOf secondAddress :=
      together.trans ⟨fun both => both.1, fun same => ⟨same, alike same⟩⟩
    refine ⟨launches, ?_⟩
    intro quota firstNow secondNow firstCounters secondCounters firstBuilt secondBuilt
    obtain ⟨firstText, firstCharged, _⟩ := charged_label firstLimited firstKnown
    obtain ⟨secondText, secondCharged, _⟩ := charged_label secondLimited secondKnown
    rw [← launches, firstCharged, secondCharged]
    rw [firstCharged] at firstBuilt
    rw [secondCharged] at secondBuilt
    rw [ipSubjects_countersFor firstBuilt, ipSubjects_countersFor secondBuilt]
    simp only [List.cons.injEq, and_true, and_self, Option.some.injEq]

/-- Enforcement on, with a one-letter key. -/
def enforcedSettings : Settings :=
  { webhookSecret := "playground-dev-secret"
    controlPlane := { controlPlaneUrl := [], controlPlaneHmacSecret := "" }
    playgroundApiKey := "k"
    playgroundRequireApiKey := true }

def latin1 (literal : String) : List UInt8 :=
  literal.toList.map (fun char => UInt8.ofNat char.toNat)

/-- A launch with the key, the client address in a header if there is one. -/
def keyedLaunch (forwarded : Option String) (host : String) : Scope :=
  { kind := .http
    method := text "POST"
    path := text "/runs"
    headers :=
      (latin1 "X-API-Key", latin1 "k") ::
        (forwarded.map (fun value => (latin1 "X-ACDP-Client-IP", latin1 value))).toList
    client := some host }

theorem keyedLaunch_limited (forwarded : Option String) (host : String) :
    Limited enforcedSettings (keyedLaunch forwarded host) := by
  refine ⟨stateOf enforcedSettings (keyedLaunch forwarded host), ?_, ?_⟩
  · rfl
  · rfl

/-- A mapped address with blanks around it is charged as the IPv4 address. -/
theorem mapped_address_oneBucket :
    OneBucket (charged enforcedSettings (keyedLaunch (some " ::FFFF:203.0.113.9 ") "10.0.0.1"))
      (charged enforcedSettings (keyedLaunch (some "203.0.113.9") "10.0.0.2"))
      (.v6 281474087547145 none) (.v4 3405803785) := by
  apply (oneBucket_iff_same_spelling enforcedSettings _ _ _ _
    (keyedLaunch_limited _ _) (keyedLaunch_limited _ _) _ _).mpr
  · decide +kernel
  · decide +kernel
  · decide +kernel

/-- Two peers of one /64 are charged apart when the header is missing. -/
theorem peers_of_one_site_not_oneBucket :
    Limited enforcedSettings (keyedLaunch none "2001:db8:1:2::1") ∧
    Limited enforcedSettings (keyedLaunch none "2001:db8:1:2::2") ∧
    effectiveAddress enforcedSettings (keyedLaunch none "2001:db8:1:2::1") =
      some (.v6 42540766411283801819617087728247635969 none) ∧
    effectiveAddress enforcedSettings (keyedLaunch none "2001:db8:1:2::2") =
      some (.v6 42540766411283801819617087728247635970 none) ∧
    ¬OneBucket (charged enforcedSettings (keyedLaunch none "2001:db8:1:2::1"))
      (charged enforcedSettings (keyedLaunch none "2001:db8:1:2::2"))
      (.v6 42540766411283801819617087728247635969 none)
      (.v6 42540766411283801819617087728247635970 none) := by
  refine ⟨keyedLaunch_limited _ _, keyedLaunch_limited _ _, ?_, ?_, ?_⟩
  · decide +kernel
  · decide +kernel
  · intro law
    have same := law.launches.mpr (by decide +kernel)
    revert same
    decide +kernel

end AcdpPlayground.Access

/-
`AgentBundle`: the clients of one run, each made on its first use and kept under its
registry, the DID of its producer, its tenant and the mode of its tenant header.

`pool` is the number of the HTTP client that the constructor of an `AcdpClient` opens, in
the order in which the run opens them, so two clients are one object when their pools are
equal; token managers are numbered in the same way. The constructor opens its pool before
it refuses a reserved tenant. What the clients do with their pools is left out.
-/

import AcdpPlayground.Client.Sending
import AcdpPlayground.Foundation.CallSequence

namespace AcdpPlayground.Scenarios

open Client (SendingClient TenantHeaderMode isReservedTenant)
open KeyedTable CallSequence
open Auth (rstripSlashes)

inductive Registry where
  | a
  | b
deriving DecidableEq

structure RegistrySettings where
  registryAUrl : String
  registryBUrl : String
  registryAAuthority : String
  registryBAuthority : String

/-- A signer object: several of them may act under one DID. -/
structure Producer where
  agentDid : String
  object : Nat
deriving DecidableEq

structure Access where
  producer : Option Producer
  tenantId : Option String
  tenantHeaderMode : TenantHeaderMode
deriving DecidableEq

structure ClientKey where
  registry : Registry
  producerDid : Option String
  tenantId : Option String
  tenantHeaderMode : TenantHeaderMode
deriving DecidableEq

def Access.key (access : Access) (registry : Registry) : ClientKey where
  registry := registry
  producerDid := access.producer.map Producer.agentDid
  tenantId := access.tenantId
  tenantHeaderMode := access.tenantHeaderMode

structure BundleClient where
  pool : Nat
  producer : Option Producer
  tokenManager : Option Nat
  sending : SendingClient

structure AgentBundle where
  settings : RegistrySettings
  runId : String
  clients : List (ClientKey × BundleClient)
  tokenManager : Option Nat
  managersMade : Nat
  poolsOpened : Nat

namespace AgentBundle

def init (settings : RegistrySettings) (runId : String) : AgentBundle where
  settings := settings
  runId := runId
  clients := []
  tokenManager := none
  managersMade := 0
  poolsOpened := 0

end AgentBundle

def RegistrySettings.registryUrl (settings : RegistrySettings) : Registry → String
  | .a => settings.registryAUrl
  | .b => settings.registryBUrl

namespace AgentBundle

def ensureTokenManager (bundle : AgentBundle) : Nat × AgentBundle :=
  match bundle.tokenManager with
  | some manager => (manager, bundle)
  | none =>
      (bundle.managersMade,
        { bundle with
          tokenManager := some bundle.managersMade
          managersMade := bundle.managersMade + 1 })

/-- The `token_manager` argument, which only a producer's client is given. -/
def managerFor (bundle : AgentBundle) : Option Producer → Option Nat × AgentBundle
  | none => (none, bundle)
  | some _ => (some bundle.ensureTokenManager.1, bundle.ensureTokenManager.2)

/-- `AcdpClient(url, **kwargs)`, stored under its key unless the constructor raises. -/
def construct (bundle : AgentBundle) (registry : Registry) (access : Access)
    (manager : Option Nat) : Except String BundleClient × AgentBundle :=
  let opened := { bundle with poolsOpened := bundle.poolsOpened + 1 }
  match SendingClient.init
      { baseUrl := bundle.settings.registryUrl registry
        bearerToken := none
        runId := some bundle.runId
        producer := access.producer.map Producer.agentDid
        hasTokenManager := manager.isSome
        tenantId := access.tenantId
        tenantHeaderMode := access.tenantHeaderMode } with
  | .error message => (.error message, opened)
  | .ok sending =>
      let made : BundleClient :=
        { pool := bundle.poolsOpened
          producer := access.producer
          tokenManager := manager
          sending := sending }
      (.ok made, { opened with clients := insert opened.clients (access.key registry) made })

def client (bundle : AgentBundle) (registry : Registry) (access : Access) :
    Except String BundleClient × AgentBundle :=
  match bundle.clients.lookup (access.key registry) with
  | some found => (.ok found, bundle)
  | none =>
      let (manager, equipped) := bundle.managerFor access.producer
      equipped.construct registry access manager

def anonymousClient (bundle : AgentBundle) (registry : Registry) (tenantId : Option String)
    (mode : TenantHeaderMode) : Except String BundleClient × AgentBundle :=
  bundle.client registry ⟨none, tenantId, mode⟩

/-- The display is evaluated from left to right; the second of two equal keys wins. -/
def authorityMap (bundle : AgentBundle) (access : Access) :
    Except String (List (String × BundleClient)) × AgentBundle :=
  match bundle.client .a access with
  | (.error message, after) => (.error message, after)
  | (.ok first, after) =>
      match after.client .b access with
      | (.error message, later) => (.error message, later)
      | (.ok second, later) =>
          (.ok (insert [(bundle.settings.registryAAuthority, first)]
            bundle.settings.registryBAuthority second), later)

/-- The client and the authority map that `make_langchain_agent` hands to its agent. -/
def makeLangchainAgent (bundle : AgentBundle) (registry : Registry) (access : Access) :
    Except String (BundleClient × List (String × BundleClient)) × AgentBundle :=
  match bundle.client registry access with
  | (.error message, after) => (.error message, after)
  | (.ok own, after) =>
      match after.authorityMap access with
      | (.error message, later) => (.error message, later)
      | (.ok authorities, later) => (.ok (own, authorities), later)

structure Closing where
  pools : List Nat
  tokenManager : Option Nat

/-- `gather` asks every client; the manager is asked only when none of them raised. -/
def aclose (bundle : AgentBundle) (raises : Nat → Bool) : Closing :=
  let pools := bundle.clients.map (fun entry => entry.2.pool)
  { pools := pools
    tokenManager := if pools.any raises then none else bundle.tokenManager }

end AgentBundle

/-! ### Calls of the scenarios -/

inductive BundleCall where
  | client (registry : Registry) (access : Access)
  | anonymousClient (registry : Registry) (tenantId : Option String) (mode : TenantHeaderMode)
  | authorityMap (access : Access)
  | makeLangchainAgent (registry : Registry) (access : Access)
  | tokenManager

inductive BundleReply where
  | client (client : BundleClient)
  | authorities (authorities : List (String × BundleClient))
  | agent (client : BundleClient) (authorities : List (String × BundleClient))
  | tokenManager (manager : Nat)
  | raised (message : String)

def BundleReply.ofClient : Except String BundleClient → BundleReply
  | .ok served => .client served
  | .error message => .raised message

def BundleReply.ofAuthorities : Except String (List (String × BundleClient)) → BundleReply
  | .ok mapped => .authorities mapped
  | .error message => .raised message

def BundleReply.ofAgent :
    Except String (BundleClient × List (String × BundleClient)) → BundleReply
  | .ok (own, mapped) => .agent own mapped
  | .error message => .raised message

def BundleReply.isRaised : BundleReply → Bool
  | .raised _ => true
  | _ => false

def AgentBundle.perform (bundle : AgentBundle) : BundleCall → BundleReply × AgentBundle
  | .client registry access => (bundle.client registry access).map BundleReply.ofClient id
  | .anonymousClient registry tenantId mode =>
      (bundle.anonymousClient registry tenantId mode).map BundleReply.ofClient id
  | .authorityMap access => (bundle.authorityMap access).map BundleReply.ofAuthorities id
  | .makeLangchainAgent registry access =>
      (bundle.makeLangchainAgent registry access).map BundleReply.ofAgent id
  | .tokenManager => bundle.ensureTokenManager.map BundleReply.tokenManager id

/-! ### What the callers were handed -/

/-- The registry whose client a map holds under an authority. -/
def RegistrySettings.mappedRegistry (settings : RegistrySettings) (authority : String) :
    Registry :=
  if authority = settings.registryBAuthority then .b else .a

/-- The clients in a reply, each with the key it was asked for. -/
def handed (settings : RegistrySettings) : BundleCall → BundleReply → List (ClientKey × BundleClient)
  | .client registry access, .client served => [(access.key registry, served)]
  | .anonymousClient registry tenantId mode, .client served =>
      [(Access.key ⟨none, tenantId, mode⟩ registry, served)]
  | .authorityMap access, .authorities mapped =>
      mapped.map (fun entry => (access.key (settings.mappedRegistry entry.1), entry.2))
  | .makeLangchainAgent registry access, .agent own mapped =>
      (access.key registry, own) ::
        mapped.map (fun entry => (access.key (settings.mappedRegistry entry.1), entry.2))
  | _, _ => []

/-- A call that would put the reserved tenant on a client. -/
def BundleCall.asksReserved : BundleCall → Bool
  | .client _ access | .authorityMap access | .makeLangchainAgent _ access =>
      isReservedTenant access.tenantId
  | .anonymousClient _ tenantId _ => isReservedTenant tenantId
  | .tokenManager => false

/-- The client is one that its key describes. -/
structure BundleClient.Fits (client : BundleClient) (settings : RegistrySettings) (runId : String)
    (key : ClientKey) : Prop where
  base : client.sending.base = rstripSlashes (settings.registryUrl key.registry)
  runId : client.sending.runId = some runId
  unsigned : client.sending.staticBearer = none
  producer : client.producer.map Producer.agentDid = key.producerDid
  sends : client.sending.producer = key.producerDid
  /-- Every producer's client shares the one token manager, the others have none. -/
  manager : client.tokenManager = key.producerDid.map (fun _ => 0)
  manages : client.sending.hasTokenManager = key.producerDid.isSome
  tenantId : client.sending.tenantId = key.tenantId
  tenantHeaderMode : client.sending.tenantHeaderMode = key.tenantHeaderMode

namespace AgentBundle

/-! ### What the methods keep -/

structure Sound (settings : RegistrySettings) (runId : String) (bundle : AgentBundle) : Prop where
  ofSettings : bundle.settings = settings
  ofRun : bundle.runId = runId
  fits : ∀ key client, bundle.clients.lookup key = some client → client.Fits settings runId key
  distinct : (keys bundle.clients).Nodup
  ordered : (bundle.clients.map (fun entry => entry.2.pool)).Pairwise (· < ·)
  opened : ∀ entry ∈ bundle.clients, entry.2.pool < bundle.poolsOpened
  manager : bundle.tokenManager = if bundle.managersMade = 0 then none else some 0
  managers : bundle.managersMade ≤ 1

/-- From one state of the bundle to a later one: no client is dropped or replaced, and the
pools that nobody holds are those of the refused constructions. -/
structure Advances (before after : AgentBundle) (refused : Nat) : Prop where
  sound : ∀ {settings runId}, before.Sound settings runId → after.Sound settings runId
  holds : ∀ key client, before.clients.lookup key = some client →
    after.clients.lookup key = some client
  pools : after.poolsOpened + before.clients.length =
    before.poolsOpened + after.clients.length + refused

theorem Advances.refl (bundle : AgentBundle) : Advances bundle bundle 0 where
  sound := fun sound => sound
  holds := fun _ _ held => held
  pools := rfl

theorem Advances.trans {before between after : AgentBundle} {early late : Nat}
    (first : Advances before between early) (second : Advances between after late) :
    Advances before after (early + late) where
  sound := fun sound => second.sound (first.sound sound)
  holds := fun key client held => second.holds key client (first.holds key client held)
  pools := by
    have firstPools := first.pools
    have secondPools := second.pools
    omega

theorem ensureTokenManager_clients (bundle : AgentBundle) :
    bundle.ensureTokenManager.2.clients = bundle.clients := by
  unfold ensureTokenManager
  split <;> rfl

theorem ensureTokenManager_sound {settings : RegistrySettings} {runId : String}
    {bundle : AgentBundle} (sound : bundle.Sound settings runId) :
    bundle.ensureTokenManager.2.Sound settings runId := by
  have manager := sound.manager
  unfold ensureTokenManager
  split
  · exact sound
  · next absent =>
      have none : bundle.managersMade = 0 := by
        by_contra some
        rw [absent, if_neg some] at manager
        cases manager
      refine { sound with manager := ?_, managers := ?_ }
      · rw [none]
        rfl
      · rw [none]

theorem ensureTokenManager_advances (bundle : AgentBundle) :
    Advances bundle bundle.ensureTokenManager.2 0 where
  sound := fun sound => ensureTokenManager_sound sound
  holds := fun key client held => by rw [ensureTokenManager_clients]; exact held
  pools := by
    unfold ensureTokenManager
    split <;> rfl

theorem managerFor_clients (bundle : AgentBundle) (producer : Option Producer) :
    (bundle.managerFor producer).2.clients = bundle.clients := by
  cases producer with
  | none => rfl
  | some _ => exact ensureTokenManager_clients bundle

theorem managerFor_advances (bundle : AgentBundle) (producer : Option Producer) :
    Advances bundle (bundle.managerFor producer).2 0 := by
  cases producer with
  | none => exact .refl bundle
  | some _ => exact ensureTokenManager_advances bundle

theorem Sound.first_manager {settings : RegistrySettings} {runId : String} {bundle : AgentBundle}
    (sound : bundle.Sound settings runId) {manager : Nat}
    (held : bundle.tokenManager = some manager) : manager = 0 := by
  have known := sound.manager
  rw [held] at known
  split at known
  · cases known
  · exact Option.some.inj known

theorem ensureTokenManager_held (bundle : AgentBundle) :
    bundle.ensureTokenManager.2.tokenManager = some bundle.ensureTokenManager.1 := by
  unfold ensureTokenManager
  split
  · next held => exact held
  · rfl

theorem managerFor_manager {settings : RegistrySettings} {runId : String} {bundle : AgentBundle}
    {producer : Option Producer} (sound : (bundle.managerFor producer).2.Sound settings runId) :
    (bundle.managerFor producer).1 = producer.map (fun _ => 0) := by
  cases producer with
  | none => rfl
  | some _ => exact congrArg some (sound.first_manager (ensureTokenManager_held bundle))

/-- How many constructions an answer stands for that were refused. -/
def refusals {Value : Type} : Except String Value → Nat
  | .ok _ => 0
  | .error _ => 1

/-- A constructed client is refused for its tenant, or is new under its key. -/
theorem construct_cases (bundle : AgentBundle) (registry : Registry) (access : Access)
    (manager : Option Nat) :
    (isReservedTenant access.tenantId = true ∧ ∃ message,
      bundle.construct registry access manager =
        (.error message, { bundle with poolsOpened := bundle.poolsOpened + 1 })) ∨
    (isReservedTenant access.tenantId = false ∧ ∃ sending : SendingClient,
      bundle.construct registry access manager =
        (.ok ⟨bundle.poolsOpened, access.producer, manager, sending⟩,
          { bundle with
            poolsOpened := bundle.poolsOpened + 1
            clients := insert bundle.clients (access.key registry)
              ⟨bundle.poolsOpened, access.producer, manager, sending⟩ }) ∧
      sending.base = rstripSlashes (bundle.settings.registryUrl registry) ∧
      sending.staticBearer = none ∧ sending.runId = some bundle.runId ∧
      sending.producer = access.producer.map Producer.agentDid ∧
      sending.hasTokenManager = manager.isSome ∧ sending.tenantId = access.tenantId ∧
      sending.tenantHeaderMode = access.tenantHeaderMode) := by
  by_cases allowed : isReservedTenant access.tenantId = false
  · refine .inr ⟨allowed, ⟨rstripSlashes (bundle.settings.registryUrl registry), none,
      some bundle.runId, access.producer.map Producer.agentDid, manager.isSome,
      access.tenantId, access.tenantHeaderMode, allowed⟩, ?_, rfl, rfl, rfl, rfl, rfl, rfl, rfl⟩
    simp only [construct, SendingClient.init, dif_pos allowed]
  · simp only [construct, SendingClient.init, dif_neg allowed]
    exact .inl ⟨Bool.eq_true_of_not_eq_false allowed, _, rfl⟩

theorem construct_advances {bundle : AgentBundle} {registry : Registry} {access : Access}
    {manager : Option Nat} (absent : bundle.clients.lookup (access.key registry) = none)
    (shared : ∀ {settings runId}, bundle.Sound settings runId →
      manager = access.producer.map (fun _ => 0)) :
    Advances bundle (bundle.construct registry access manager).2
      (refusals (bundle.construct registry access manager).1) := by
  rcases construct_cases bundle registry access manager with
    ⟨_, message, constructed⟩ | ⟨_, sending, constructed, base, bearer, run, producer, manages,
      tenant, mode⟩
  · rw [constructed]
    refine ⟨fun sound => { sound with opened := ?_ }, fun _ _ held => held, ?_⟩
    · intro entry member
      exact Nat.lt_succ_of_lt (sound.opened entry member)
    · simp only [refusals]
      omega
  · rw [constructed]
    have appended : insert bundle.clients (access.key registry)
        ⟨bundle.poolsOpened, access.producer, manager, sending⟩ =
        bundle.clients ++ [(access.key registry,
          ⟨bundle.poolsOpened, access.producer, manager, sending⟩)] :=
      insert_of_not_mem _ (not_mem_keys_of_lookup absent)
    constructor
    · intro settings runId sound
      refine { sound with fits := ?_, distinct := ?_, ordered := ?_, opened := ?_ }
      · intro key client found
        by_cases same : key = access.key registry
        · subst same
          simp only at found
          rw [lookup_insert_self] at found
          cases found
          have shares := shared sound
          refine ⟨?_, ?_, bearer, rfl, producer, ?_, ?_, tenant, mode⟩
          · rw [base, sound.ofSettings]
            rfl
          · rw [run, sound.ofRun]
          · rw [shares]
            simp only [Access.key, Option.map_map]
            rfl
          · rw [manages, shares]
            simp [Access.key]
        · simp only at found
          rw [lookup_insert_ne same] at found
          exact sound.fits key client found
      · exact keys_insert_nodup _ _ sound.distinct
      · simp only [appended, List.map_append, List.map_cons, List.map_nil]
        rw [List.pairwise_append]
        refine ⟨sound.ordered, List.pairwise_singleton _ _, ?_⟩
        intro pool member last isLast
        obtain ⟨entry, present, rfl⟩ := List.mem_map.mp member
        rw [List.mem_singleton.mp isLast]
        exact sound.opened entry present
      · intro entry member
        simp only [appended, List.mem_append, List.mem_singleton] at member
        rcases member with present | rfl
        · exact Nat.lt_succ_of_lt (sound.opened entry present)
        · exact Nat.lt_succ_self _
    · intro key client held
      by_cases same : key = access.key registry
      · rw [same, absent] at held
        cases held
      · simp only
        rw [lookup_insert_ne same]
        exact held
    · simp only [appended, refusals, List.length_append, List.length_singleton]
      omega

theorem client_eq_construct {bundle : AgentBundle} {registry : Registry} {access : Access}
    (absent : bundle.clients.lookup (access.key registry) = none) :
    bundle.client registry access =
      (bundle.managerFor access.producer).2.construct registry access
        (bundle.managerFor access.producer).1 := by
  unfold client
  rw [absent]

theorem client_advances (bundle : AgentBundle) (registry : Registry) (access : Access) :
    Advances bundle (bundle.client registry access).2
      (refusals (bundle.client registry access).1) := by
  cases found : bundle.clients.lookup (access.key registry) with
  | some held =>
      unfold client
      rw [found]
      exact .refl bundle
  | none =>
      rw [client_eq_construct found]
      have equipped := managerFor_advances bundle access.producer
      have constructed := construct_advances
        (bundle.managerFor_clients access.producer ▸ found) managerFor_manager
      rw [← Nat.zero_add (refusals _)]
      exact equipped.trans constructed

theorem client_answer (bundle : AgentBundle) (registry : Registry) (access : Access) :
    (∃ served, (bundle.client registry access).1 = .ok served ∧
      (bundle.client registry access).2.clients.lookup (access.key registry) = some served) ∨
    (isReservedTenant access.tenantId = true ∧
      ∃ message, (bundle.client registry access).1 = .error message) := by
  cases found : bundle.clients.lookup (access.key registry) with
  | some held =>
      unfold client
      rw [found]
      exact .inl ⟨held, rfl, found⟩
  | none =>
      rw [client_eq_construct found]
      rcases construct_cases (bundle.managerFor access.producer).2 registry access
          (bundle.managerFor access.producer).1 with
        ⟨reserved, message, constructed⟩ | ⟨_, sending, constructed, _⟩
      · rw [constructed]
        exact .inr ⟨reserved, message, rfl⟩
      · rw [constructed]
        exact .inl ⟨_, rfl, lookup_insert_self _ _ _⟩

theorem Sound.client_spec {settings : RegistrySettings} {runId : String} {bundle : AgentBundle}
    (sound : bundle.Sound settings runId) (registry : Registry) (access : Access) :
    (isReservedTenant access.tenantId = false ∧ ∃ served after,
      bundle.client registry access = (.ok served, after) ∧ Advances bundle after 0 ∧
      after.clients.lookup (access.key registry) = some served) ∨
    (isReservedTenant access.tenantId = true ∧ ∃ message after,
      bundle.client registry access = (.error message, after) ∧ Advances bundle after 1) := by
  have advances := client_advances bundle registry access
  rcases client_answer bundle registry access with
    ⟨served, answered, kept⟩ | ⟨reserved, message, answered⟩
  · rw [answered] at advances
    have fits := (advances.sound sound).fits _ served kept
    have allowed := served.sending.tenantAllowed
    rw [fits.tenantId] at allowed
    exact .inl ⟨allowed, served, _, Prod.ext answered rfl, advances, kept⟩
  · rw [answered] at advances
    exact .inr ⟨reserved, message, _, Prod.ext answered rfl, advances⟩

theorem mem_authorities {settings : RegistrySettings} {first second : BundleClient}
    {authority : String} {served : BundleClient}
    (member : (authority, served) ∈
      insert [(settings.registryAAuthority, first)] settings.registryBAuthority second) :
    (settings.mappedRegistry authority = .a ∧ served = first) ∨
      (settings.mappedRegistry authority = .b ∧ served = second) := by
  unfold RegistrySettings.mappedRegistry
  by_cases same : settings.registryAAuthority = settings.registryBAuthority
  · simp [KeyedTable.insert, rewrite, same] at member
    simp [member]
  · simp [KeyedTable.insert, same] at member
    rcases member with ⟨rfl, rfl⟩ | ⟨rfl, rfl⟩
    · exact .inl ⟨if_neg same, rfl⟩
    · exact .inr ⟨if_pos rfl, rfl⟩

theorem authorityMap_spec {settings : RegistrySettings} {runId : String} {bundle : AgentBundle}
    (sound : bundle.Sound settings runId) (access : Access) :
    (isReservedTenant access.tenantId = false ∧ ∃ mapped after,
      bundle.authorityMap access = (.ok mapped, after) ∧ Advances bundle after 0 ∧
      ∀ authority served, (authority, served) ∈ mapped →
        after.clients.lookup (access.key (settings.mappedRegistry authority)) = some served) ∨
    (isReservedTenant access.tenantId = true ∧ ∃ message after,
      bundle.authorityMap access = (.error message, after) ∧ Advances bundle after 1) := by
  unfold authorityMap
  rcases sound.client_spec .a access with
    ⟨allowed, first, after, answered, advances, kept⟩ | ⟨reserved, message, after, answered, advances⟩
  · rw [answered]
    rcases (advances.sound sound).client_spec .b access with
      ⟨_, second, later, next, further, held⟩ | ⟨reserved, _⟩
    · simp only
      rw [next]
      refine .inl ⟨allowed, _, later, rfl, advances.trans further, ?_⟩
      intro authority served member
      rw [sound.ofSettings] at member
      rcases mem_authorities member with ⟨isA, rfl⟩ | ⟨isB, rfl⟩
      · rw [isA]
        exact further.holds _ _ kept
      · rw [isB]
        exact held
    · rw [allowed] at reserved
      cases reserved
  · rw [answered]
    exact .inr ⟨reserved, message, after, rfl, advances⟩

structure Meets (settings : RegistrySettings) (bundle : AgentBundle) (call : BundleCall)
    (reply : BundleReply) (after : AgentBundle) : Prop where
  advances : Advances bundle after (if reply.isRaised then 1 else 0)
  held : ∀ key served, (key, served) ∈ handed settings call reply →
    after.clients.lookup key = some served
  refused : reply.isRaised = call.asksReserved

theorem client_meets {settings : RegistrySettings} {runId : String} {bundle : AgentBundle}
    (sound : bundle.Sound settings runId) (registry : Registry) (access : Access) :
    Meets settings bundle (.client registry access)
      (bundle.perform (.client registry access)).1 (bundle.perform (.client registry access)).2 := by
  simp only [perform]
  rcases sound.client_spec registry access with
    ⟨allowed, served, after, answered, advances, kept⟩ |
      ⟨reserved, message, after, answered, advances⟩
  · rw [answered]
    refine ⟨advances, ?_, allowed.symm⟩
    intro key client member
    cases List.mem_singleton.mp member
    exact kept
  · rw [answered]
    exact ⟨advances, fun _ _ member => (List.not_mem_nil member).elim, reserved.symm⟩

theorem authorityMap_meets {settings : RegistrySettings} {runId : String} {bundle : AgentBundle}
    (sound : bundle.Sound settings runId) (access : Access) :
    Meets settings bundle (.authorityMap access)
      (bundle.perform (.authorityMap access)).1 (bundle.perform (.authorityMap access)).2 := by
  simp only [perform]
  rcases authorityMap_spec sound access with
    ⟨allowed, mapped, after, answered, advances, kept⟩ |
      ⟨reserved, message, after, answered, advances⟩
  · rw [answered]
    refine ⟨advances, ?_, allowed.symm⟩
    intro key client member
    obtain ⟨⟨authority, served⟩, present, same⟩ := List.mem_map.mp member
    cases same
    exact kept authority _ present
  · rw [answered]
    exact ⟨advances, fun _ _ member => (List.not_mem_nil member).elim, reserved.symm⟩

theorem makeLangchainAgent_meets {settings : RegistrySettings} {runId : String}
    {bundle : AgentBundle} (sound : bundle.Sound settings runId) (registry : Registry)
    (access : Access) :
    Meets settings bundle (.makeLangchainAgent registry access)
      (bundle.perform (.makeLangchainAgent registry access)).1
      (bundle.perform (.makeLangchainAgent registry access)).2 := by
  simp only [perform, makeLangchainAgent]
  rcases sound.client_spec registry access with
    ⟨allowed, own, between, answered, advances, kept⟩ |
      ⟨reserved, message, after, answered, advances⟩
  · rw [answered]
    rcases authorityMap_spec (advances.sound sound) access with
      ⟨_, mapped, after, next, further, held⟩ | ⟨reserved, _⟩
    · simp only
      rw [next]
      refine ⟨advances.trans further, ?_, allowed.symm⟩
      intro key client member
      rcases List.mem_cons.mp member with same | member
      · cases same
        exact further.holds _ _ kept
      · obtain ⟨⟨authority, served⟩, present, same⟩ := List.mem_map.mp member
        cases same
        exact held authority _ present
    · rw [allowed] at reserved
      cases reserved
  · rw [answered]
    exact ⟨advances, fun _ _ member => (List.not_mem_nil member).elim, reserved.symm⟩

theorem handed_anonymous (settings : RegistrySettings) (registry : Registry)
    (tenantId : Option String) (mode : TenantHeaderMode) (reply : BundleReply) :
    handed settings (.anonymousClient registry tenantId mode) reply =
      handed settings (.client registry ⟨none, tenantId, mode⟩) reply := by
  cases reply <;> rfl

theorem perform_meets {settings : RegistrySettings} {runId : String} {bundle : AgentBundle}
    (sound : bundle.Sound settings runId) (call : BundleCall) :
    Meets settings bundle call (bundle.perform call).1 (bundle.perform call).2 := by
  cases call with
  | client registry access => exact client_meets sound registry access
  | anonymousClient registry tenantId mode =>
      have meets := client_meets sound registry ⟨none, tenantId, mode⟩
      refine ⟨meets.advances, fun key served member => ?_, meets.refused⟩
      rw [handed_anonymous] at member
      exact meets.held key served member
  | authorityMap access => exact authorityMap_meets sound access
  | makeLangchainAgent registry access => exact makeLangchainAgent_meets sound registry access
  | tokenManager =>
      exact ⟨ensureTokenManager_advances bundle,
        fun _ _ member => (List.not_mem_nil member).elim, rfl⟩

theorem init_sound (settings : RegistrySettings) (runId : String) :
    (init settings runId).Sound settings runId where
  ofSettings := rfl
  ofRun := rfl
  fits := fun _ _ found => nomatch found
  distinct := List.nodup_nil
  ordered := List.Pairwise.nil
  opened := fun _ member => (List.not_mem_nil member).elim
  manager := rfl
  managers := Nat.zero_le 1

theorem stateAfter_sound {settings : RegistrySettings} {runId : String} (calls : List BundleCall)
    {bundle : AgentBundle} (sound : bundle.Sound settings runId) :
    (stateAfter perform bundle calls).Sound settings runId :=
  @stateAfter_invariant _ _ _ perform (fun _ state => state.Sound settings runId)
    (fun call _ _ itsSound => (perform_meets itsSound call).advances.sound itsSound) calls [] _ sound

/-- Every pool is held by a kept client, except one for each call with the reserved tenant. -/
theorem stateAfter_pools {settings : RegistrySettings} {runId : String} (calls : List BundleCall)
    {bundle : AgentBundle} (sound : bundle.Sound settings runId) :
    (stateAfter perform bundle calls).poolsOpened + bundle.clients.length =
      bundle.poolsOpened + (stateAfter perform bundle calls).clients.length +
        calls.countP BundleCall.asksReserved := by
  induction calls generalizing bundle with
  | nil => rfl
  | cons call rest ih =>
      have meets := perform_meets sound call
      have pools := meets.advances.pools
      have later := ih (meets.advances.sound sound)
      rw [meets.refused] at pools
      simp only [stateAfter, List.countP_cons]
      omega

theorem handed_held {settings : RegistrySettings} {runId : String} {calls : List BundleCall}
    {bundle : AgentBundle} (sound : bundle.Sound settings runId) {call : BundleCall}
    {reply : BundleReply} (answered : (call, reply) ∈ calls.zip (replies perform bundle calls)) :
    reply.isRaised = call.asksReserved ∧ ∀ key served, (key, served) ∈ handed settings call reply →
      (stateAfter perform bundle calls).clients.lookup key = some served := by
  refine settled_of_mem (fun state => state.Sound settings runId) (fun call reply state =>
    reply.isRaised = call.asksReserved ∧ ∀ key served, (key, served) ∈ handed settings call reply →
      state.clients.lookup key = some served)
    (fun call state itsSound => (perform_meets itsSound call).advances.sound itsSound) ?_ ?_
    sound answered
  · intro call state itsSound
    have meets := perform_meets itsSound call
    exact ⟨meets.refused, meets.held⟩
  · rintro call reply next state itsSound ⟨refused, held⟩
    refine ⟨refused, fun key served member => ?_⟩
    exact (perform_meets itsSound next).advances.holds key served (held key served member)

end AgentBundle

open AgentBundle

/-- All that a sequence of calls handed out. -/
def handedOut (settings : RegistrySettings) (calls : List BundleCall)
    (answers : List BundleReply) : List (ClientKey × BundleClient) :=
  (calls.zip answers).flatMap (fun pair => handed settings pair.1 pair.2)

structure KeepsClients (settings : RegistrySettings) (runId : String) (calls : List BundleCall)
    (answers : List BundleReply) (final : AgentBundle) : Prop where
  fits : ∀ key served, (key, served) ∈ handedOut settings calls answers →
    served.Fits settings runId key
  /-- One object for each key, whatever object of that DID asked for it. -/
  one : ∀ key served, (key, served) ∈ handedOut settings calls answers →
    ∀ other twin, (other, twin) ∈ handedOut settings calls answers →
      (served.pool = twin.pool ↔ key = other) ∧ (key = other → served = twin)
  refused : ∀ call reply, (call, reply) ∈ calls.zip answers →
    reply.isRaised = call.asksReserved
  closed : ∀ raises, (final.aclose raises).pools.Nodup ∧
    ∀ key served, (key, served) ∈ handedOut settings calls answers →
      served.pool ∈ (final.aclose raises).pools
  /-- The pools that nobody closes: one for each refused call. -/
  leaked : ∀ raises, final.poolsOpened =
    (final.aclose raises).pools.length + calls.countP BundleCall.asksReserved

/-- Over every sequence of calls on the bundle of a run. -/
theorem bundle_keeps_clients (settings : RegistrySettings) (runId : String)
    (calls : List BundleCall) :
    KeepsClients settings runId calls (replies perform (init settings runId) calls)
      (stateAfter perform (init settings runId) calls) := by
  have sound := stateAfter_sound calls (init_sound settings runId)
  have kept : ∀ key served,
      (key, served) ∈ handedOut settings calls (replies perform (init settings runId) calls) →
      (stateAfter perform (init settings runId) calls).clients.lookup key = some served := by
    intro key served member
    obtain ⟨⟨call, reply⟩, answered, isHanded⟩ := List.mem_flatMap.mp member
    exact (handed_held (init_sound settings runId) answered).2 key served isHanded
  have entries : ∀ key served,
      (key, served) ∈ handedOut settings calls (replies perform (init settings runId) calls) →
      (key, served) ∈ (stateAfter perform (init settings runId) calls).clients :=
    fun key served member => (mem_iff_lookup sound.distinct key served).mpr (kept key served member)
  constructor
  · exact fun key served member => sound.fits key served (kept key served member)
  · intro key served member other twin also
    have sameClient : key = other → served = twin := by
      rintro rfl
      have first := kept key served member
      rw [kept key twin also] at first
      exact (Option.some.inj first).symm
    refine ⟨⟨?_, fun same => congrArg BundleClient.pool (sameClient same)⟩, sameClient⟩
    intro samePool
    have injective := List.inj_on_of_nodup_map
      (sound.ordered.imp (fun {_ _} less => Nat.ne_of_lt less))
    exact congrArg Prod.fst (injective (entries key served member) (entries other twin also) samePool)
  · exact fun call reply answered => (handed_held (init_sound settings runId) answered).1
  · intro raises
    refine ⟨sound.ordered.imp (fun {_ _} less => Nat.ne_of_lt less), ?_⟩
    intro key served member
    exact List.mem_map.mpr ⟨(key, served), entries key served member, rfl⟩
  · intro raises
    have pools := stateAfter_pools calls (init_sound settings runId)
    simp only [aclose, List.length_map]
    simp only [init, List.length_nil] at pools
    simp only [init]
    omega

end AcdpPlayground.Scenarios

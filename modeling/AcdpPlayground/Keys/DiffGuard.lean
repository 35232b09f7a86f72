/-
`pinned_keys_diff --diff`: the desired entries of the registry files against the entries
of `CONTROL_PLANE_PINNED_KEYS`, and the exit status a CI guard goes by.

Both sides are compared through maps keyed by the agent DID, in which the last entry of a
DID stands for all of them. The set order in which Python lists changed DIDs is taken to be
the order of the current map; only whether there are any decides.
-/

import AcdpPlayground.Keys.EnvRoundTrip
import AcdpPlayground.Keys.LockStep

namespace AcdpPlayground.Keys

open PythonText KeyedTable

/-- Everything that matters for a diff. -/
def PinnedEntry.identity (entry : PinnedEntry) : Text × Text × Option Int × Option Int :=
  (entry.publicKeyB64, entry.algorithm, entry.validFrom, entry.validUntil)

/-- `{e.agent_did: e for e in entries}`. -/
def entryMap (entries : List PinnedEntry) : List (Text × PinnedEntry) :=
  entries.foldl (fun table entry => insert table entry.agentDid entry) []

structure EntryDiff where
  onlyDesired : List PinnedEntry
  onlyCurrent : List PinnedEntry
  changed : List (PinnedEntry × PinnedEntry)

def diffEntries (desired current : List PinnedEntry) : EntryDiff :=
  let curMap := entryMap current
  let desMap := entryMap desired
  { onlyDesired := desired.filter (fun entry => (curMap.lookup entry.agentDid).isNone)
    onlyCurrent := current.filter (fun entry => (desMap.lookup entry.agentDid).isNone)
    changed := curMap.filterMap (fun held =>
      match desMap.lookup held.1 with
      | some new => if held.2.identity ≠ new.identity then some (held.2, new) else none
      | none => none) }

def EntryDiff.isEmpty (diff : EntryDiff) : Bool :=
  diff.onlyDesired.isEmpty && diff.onlyCurrent.isEmpty && diff.changed.isEmpty

def pinLine (entry : PinnedEntry) : Text :=
  text "    " ++ entry.agentDid ++ text "=" ++ entry.publicKeyB64

def rotationLine (pair : PinnedEntry × PinnedEntry) : Text :=
  text "    " ++ pair.1.agentDid ++ text ": " ++ pair.1.publicKeyB64.take 12 ++ text "... -> " ++
    pair.2.publicKeyB64.take 12 ++ text "..."

def sectionLines (title : String) (lines : List Text) : List Text :=
  if lines = [] then [] else text title :: lines

structure GuardResult where
  status : Nat
  output : List Text

/-- `main` with `--diff`; an environment value that is not set is empty. -/
def mainDiff (entryLists : List (List PinnedEntry)) (currentRaw : Text) :
    Except EnvError GuardResult := do
  let desired := mergeDedup entryLists
  let current ← Limited.parseEnvValue currentRaw
  let diff := diffEntries desired current
  if diff.isEmpty then return { status := 0, output := [text "up to date"] }
  else
    return {
      status := 2
      output :=
        sectionLines "+ would add:" (diff.onlyDesired.map pinLine) ++
          sectionLines "- would remove:" (diff.onlyCurrent.map pinLine) ++
          sectionLines "~ would rotate:" (diff.changed.map rotationLine) }

/-! ### The maps -/

theorem foldl_mergeStep_fst (entries : List PinnedEntry) (state : MergeState) :
    (entries.foldl mergeStep state).1 =
      entries.foldl (fun table entry => insert table entry.agentDid entry) state.1 := by
  induction entries generalizing state with
  | nil => rfl
  | cons entry rest ih => exact ih (mergeStep state entry)

theorem entryMap_eq_merge (entries : List PinnedEntry) :
    entryMap entries = (entries.foldl mergeStep ([], [])).1 :=
  (foldl_mergeStep_fst entries ([], [])).symm

theorem lookup_entryMap (entries : List PinnedEntry) (did : Text) :
    (entryMap entries).lookup did = lastFor did entries := by
  rw [entryMap_eq_merge, lookup_foldl_mergeStep]
  exact Option.or_none

theorem entryMap_distinct (entries : List PinnedEntry) : (keys (entryMap entries)).Nodup := by
  have start : MergeInvariant (([], []) : MergeState).1 := by
    constructor
    · exact List.nodup_nil
    · intro did found held
      cases held
  rw [entryMap_eq_merge]
  exact (foldl_mergeStep_invariant entries start).distinct

theorem mem_of_lastFor {entries : List PinnedEntry} {did : Text} {entry : PinnedEntry}
    (last : lastFor did entries = some entry) : entry ∈ entries ∧ entry.agentDid = did := by
  obtain ⟨member, named⟩ := List.mem_filter.mp (List.mem_of_getLast? last)
  exact ⟨member, of_decide_eq_true named⟩

theorem lastFor_isSome {entries : List PinnedEntry} {entry : PinnedEntry}
    (member : entry ∈ entries) : lastFor entry.agentDid entries ≠ none := by
  obtain ⟨last, _, found, _⟩ := exists_lastFor member
  rw [found]
  rintro ⟨⟩

theorem lastFor_mergeDedup (lists : List (List PinnedEntry)) (did : Text) :
    lastFor did (mergeDedup lists) = lastFor did lists.flatten := by
  cases merged : lastFor did (mergeDedup lists) with
  | some entry =>
      obtain ⟨member, rfl⟩ := mem_of_lastFor merged
      exact ((mem_mergeDedup lists entry).mp member).symm
  | none =>
      cases read : lastFor did lists.flatten with
      | none => rfl
      | some entry =>
          obtain ⟨_, rfl⟩ := mem_of_lastFor read
          have member := (mem_mergeDedup lists entry).mpr read
          exact absurd merged (lastFor_isSome member)

theorem eq_of_identity {first second : PinnedEntry} (named : first.agentDid = second.agentDid)
    (same : first.identity = second.identity) : first = second := by
  obtain ⟨agentDid, publicKeyB64, algorithm, validFrom, validUntil⟩ := first
  obtain ⟨otherDid, otherKey, otherAlgorithm, otherFrom, otherUntil⟩ := second
  cases named
  cases same
  rfl

/-! ### What an empty diff says -/

theorem onlyIn_eq_nil_iff (entries other : List PinnedEntry) :
    entries.filter (fun entry => ((entryMap other).lookup entry.agentDid).isNone) = [] ↔
      ∀ entry ∈ entries, lastFor entry.agentDid other ≠ none := by
  rw [List.filter_eq_nil_iff]
  constructor
  · intro kept entry member missing
    apply kept entry member
    rw [lookup_entryMap, missing]
    rfl
  · intro present entry member missing
    apply present entry member
    rw [← lookup_entryMap]
    exact Option.isNone_iff_eq_none.mp missing

theorem changed_eq_nil_iff (desired current : List PinnedEntry) :
    (diffEntries desired current).changed = [] ↔
      ∀ did old new, lastFor did current = some old → lastFor did desired = some new →
        old = new := by
  have entryOf : ∀ did old, (did, old) ∈ entryMap current ↔ lastFor did current = some old := by
    intro did old
    rw [mem_iff_lookup (entryMap_distinct current), lookup_entryMap]
  change (entryMap current).filterMap _ = [] ↔ _
  rw [List.filterMap_eq_nil_iff]
  constructor
  · intro unchanged did old new isOld isNew
    have here := unchanged (did, old) ((entryOf did old).mpr isOld)
    dsimp only at here
    rw [lookup_entryMap, isNew] at here
    dsimp only at here
    split at here
    · cases here
    · next same =>
        rw [not_not] at same
        have named := (mem_of_lastFor isOld).2.trans (mem_of_lastFor isNew).2.symm
        exact eq_of_identity named same
  · rintro same ⟨did, old⟩ member
    dsimp only
    rw [lookup_entryMap]
    cases isNew : lastFor did desired with
    | none => rfl
    | some new =>
        rw [same did old new ((entryOf did old).mp member) isNew]
        dsimp only
        rw [if_neg (not_not.mpr rfl)]

/-- The guard sees the last entry of each DID and nothing else. -/
theorem isEmpty_diffEntries_iff (desired current : List PinnedEntry) :
    (diffEntries desired current).isEmpty = true ↔
      ∀ did, lastFor did current = lastFor did desired := by
  unfold EntryDiff.isEmpty
  rw [Bool.and_eq_true, Bool.and_eq_true, List.isEmpty_iff, List.isEmpty_iff, List.isEmpty_iff,
    changed_eq_nil_iff]
  change (desired.filter _ = [] ∧ current.filter _ = []) ∧ _ ↔ _
  rw [onlyIn_eq_nil_iff, onlyIn_eq_nil_iff]
  constructor
  · rintro ⟨⟨desiredFound, currentFound⟩, unchanged⟩ did
    cases isOld : lastFor did current with
    | some old =>
        obtain ⟨member, rfl⟩ := mem_of_lastFor isOld
        obtain ⟨new, isNew⟩ := Option.ne_none_iff_exists'.mp (currentFound old member)
        rw [isNew, unchanged _ old new isOld isNew]
    | none =>
        cases isNew : lastFor did desired with
        | none => rfl
        | some new =>
            obtain ⟨member, rfl⟩ := mem_of_lastFor isNew
            exact absurd isOld (desiredFound new member)
  · intro same
    refine ⟨⟨?_, ?_⟩, ?_⟩
    · intro entry member
      rw [same]
      exact lastFor_isSome member
    · intro entry member
      rw [← same]
      exact lastFor_isSome member
    · intro did old new isOld isNew
      rw [same, isNew] at isOld
      exact (Option.some.inj isOld).symm

/-! ### Soundness of the guard -/

def SamePins (first second : List PinnedEntry) : Prop :=
  ∀ entry, entry ∈ first ↔ entry ∈ second

/-- Status 0 for the same pins and 2 for others. -/
def GuardSound (lists : List (List PinnedEntry)) (currentRaw : Text)
    (current : List PinnedEntry) : Prop :=
  ∃ result, mainDiff lists currentRaw = .ok result ∧
    (result.status = 0 ↔ SamePins current (mergeDedup lists)) ∧
    (¬SamePins current (mergeDedup lists) → result.status = 2)

/-- The last entries are the desired ones, and an entry before one of them differs from it. -/
def StaleKeyHidden (lists : List (List PinnedEntry)) (current : List PinnedEntry) : Prop :=
  (∀ did, lastFor did current = lastFor did lists.flatten) ∧
    ∃ entry ∈ current, lastFor entry.agentDid current ≠ some entry

/-- Two lists with the same last entries pin the same when nothing else is in the first. -/
theorem samePins_mergeDedup_iff {lists : List (List PinnedEntry)} {current : List PinnedEntry}
    (lasts : ∀ did, lastFor did current = lastFor did lists.flatten) :
    SamePins current (mergeDedup lists) ↔
      ∀ entry ∈ current, lastFor entry.agentDid current = some entry := by
  constructor
  · intro same entry member
    rw [lasts]
    exact (mem_mergeDedup lists entry).mp ((same entry).mp member)
  · intro each entry
    rw [mem_mergeDedup, ← lasts]
    constructor
    · exact each entry
    · intro last
      exact (mem_of_lastFor last).1

theorem lasts_of_samePins {lists : List (List PinnedEntry)} {current : List PinnedEntry}
    (same : SamePins current (mergeDedup lists)) (did : Text) :
    lastFor did current = lastFor did lists.flatten := by
  rw [← lastFor_mergeDedup]
  cases isOld : lastFor did current with
  | some entry =>
      obtain ⟨member, rfl⟩ := mem_of_lastFor isOld
      rw [lastFor_mergeDedup]
      exact ((mem_mergeDedup lists entry).mp ((same entry).mp member)).symm
  | none =>
      cases isNew : lastFor did (mergeDedup lists) with
      | none => rfl
      | some entry =>
          obtain ⟨member, rfl⟩ := mem_of_lastFor isNew
          exact absurd isOld (lastFor_isSome ((same entry).mpr member))

theorem mainDiff_of_accepted (lists : List (List PinnedEntry)) {currentRaw : Text}
    {current : List PinnedEntry} (accepted : Limited.parseEnvValue currentRaw = .ok current) :
    ∃ result, mainDiff lists currentRaw = .ok result ∧
      ((∀ did, lastFor did current = lastFor did lists.flatten) ∧ result.status = 0 ∨
        ¬(∀ did, lastFor did current = lastFor did lists.flatten) ∧ result.status = 2) := by
  have seen := isEmpty_diffEntries_iff (mergeDedup lists) current
  simp only [lastFor_mergeDedup] at seen
  unfold mainDiff
  rw [accepted]
  simp only [bind, Except.bind]
  by_cases empty : (diffEntries (mergeDedup lists) current).isEmpty = true
  · rw [if_pos empty]
    exact ⟨_, rfl, .inl ⟨seen.mp empty, rfl⟩⟩
  · rw [if_neg empty]
    exact ⟨_, rfl, .inr ⟨fun lasts => empty (seen.mpr lasts), rfl⟩⟩

theorem guard_sound_iff {lists : List (List PinnedEntry)} {currentRaw : Text}
    {current : List PinnedEntry} (accepted : Limited.parseEnvValue currentRaw = .ok current) :
    GuardSound lists currentRaw current ↔ ¬StaleKeyHidden lists current := by
  obtain ⟨result, returned, ⟨lasts, status⟩ | ⟨others, status⟩⟩ :=
    mainDiff_of_accepted lists accepted
  · constructor
    · rintro ⟨other, same, sound, _⟩ ⟨_, entry, member, hidden⟩
      rw [returned] at same
      cases same
      exact hidden ((samePins_mergeDedup_iff lasts).mp (sound.mp status) entry member)
    · intro open_
      have same : SamePins current (mergeDedup lists) := by
        apply (samePins_mergeDedup_iff lasts).mpr
        intro entry member
        by_contra hidden
        exact open_ ⟨lasts, entry, member, hidden⟩
      exact ⟨result, returned, iff_of_true status same, fun differ => absurd same differ⟩
  · have differ : ¬SamePins current (mergeDedup lists) := fun same => others (lasts_of_samePins same)
    constructor
    · intro _ hidden
      exact others hidden.1
    · intro _
      refine ⟨result, returned, iff_of_false ?_ differ, fun _ => status⟩
      rw [status]
      rintro ⟨⟩

def pinOf (did key : String) : PinnedEntry :=
  { agentDid := text did
    publicKeyB64 := text key
    algorithm := text "ed25519"
    validFrom := none
    validUntil := none }

/-- A value with the pins in another order and one of them twice. -/
theorem reordered_pins_guarded :
    GuardSound [[pinOf "did:a" "AAA"], [pinOf "did:b" "BBB"]]
      (text "did:b=BBB, did:a=AAA,did:b=BBB")
      [pinOf "did:b" "BBB", pinOf "did:a" "AAA", pinOf "did:b" "BBB"] := by
  have accepted : Limited.parseEnvValue (text "did:b=BBB, did:a=AAA,did:b=BBB") =
      .ok [pinOf "did:b" "BBB", pinOf "did:a" "AAA", pinOf "did:b" "BBB"] := by decide +kernel
  apply (guard_sound_iff accepted).mpr
  rintro ⟨_, entry, member, hidden⟩
  have each : ∀ entry ∈ [pinOf "did:b" "BBB", pinOf "did:a" "AAA", pinOf "did:b" "BBB"],
      lastFor entry.agentDid [pinOf "did:b" "BBB", pinOf "did:a" "AAA", pinOf "did:b" "BBB"] =
        some entry := by decide +kernel
  exact hidden (each entry member)

/-- The control plane still pins `OLD`, and the guard returns 0. -/
theorem stale_key_passes_guard :
    Limited.parseEnvValue (text "did:a=OLD,did:a=AAA") =
        .ok [pinOf "did:a" "OLD", pinOf "did:a" "AAA"] ∧
      ¬GuardSound [[pinOf "did:a" "AAA"]] (text "did:a=OLD,did:a=AAA")
        [pinOf "did:a" "OLD", pinOf "did:a" "AAA"] := by
  refine ⟨by decide +kernel, ?_⟩
  rintro ⟨result, returned, sound, _⟩
  have status : (mainDiff [[pinOf "did:a" "AAA"]] (text "did:a=OLD,did:a=AAA")).toOption.map
      GuardResult.status = some 0 := by decide +kernel
  rw [returned] at status
  have same := sound.mp (Option.some.inj status)
  have extra : pinOf "did:a" "OLD" ∉ mergeDedup [[pinOf "did:a" "AAA"]] := by decide +kernel
  exact extra ((same _).mp List.mem_cons_self)

end AcdpPlayground.Keys

/-
Merging pinned keys of several registry files and what the control plane then accepts.
`merge_dedup` keeps one entry per agent DID, the last one read; the registry accepts every
entry whose window contains the instant, several per agent during a rotation.

The active keys of the merged and translated entries are compared with those of all the
entries, for every agent and instant. Instants and window bounds are unix seconds.
-/

import AcdpPlayground.Foundation.KeyedTable
import AcdpPlayground.Keys.EnvRoundTrip
import Mathlib.Data.List.Sort

namespace AcdpPlayground.Keys

open PythonText KeyedTable

/-! ### Validity windows -/

structure PinnedKey where
  agentDid : Text
  publicKey : Text
  algorithm : Text
  validFrom : Option Int
  validUntil : Option Int
  deriving DecidableEq

def PinnedKey.activeAt (key : PinnedKey) (now : Int) : Bool :=
  if key.validFrom.any (fun start => now < start) then false
  else !key.validUntil.any (fun stop => stop ≤ now)

def activeKeys (keys : List PinnedKey) (now : Int) : List PinnedKey :=
  keys.filter (fun key => key.activeAt now)

def PinnedEntry.pinnedKey (entry : PinnedEntry) : PinnedKey :=
  { agentDid := entry.agentDid
    publicKey := entry.publicKeyB64
    algorithm := entry.algorithm
    validFrom := entry.validFrom
    validUntil := entry.validUntil }

/-- The (public key, algorithm) pairs active for one agent. -/
def activePairs (entries : List PinnedEntry) (did : Text) (now : Int) : List (Text × Text) :=
  ((activeKeys (entries.map PinnedEntry.pinnedKey) now).filter
    (fun key => key.agentDid = did)).map (fun key => (key.publicKey, key.algorithm))

/-! ### Merging -/

abbrev MergeState := List (Text × PinnedEntry) × List Text

def conflictWarning (existing entry : PinnedEntry) : Text :=
  text "warning: conflicting pin for " ++ entry.agentDid ++ text ": " ++
    existing.publicKeyB64.take 12 ++ text "... vs " ++ entry.publicKeyB64.take 12 ++
    text "... (later wins)"

def mergeStep (state : MergeState) (entry : PinnedEntry) : MergeState :=
  let warnings :=
    match state.1.lookup entry.agentDid with
    | some existing =>
        if existing.publicKeyB64 ≠ entry.publicKeyB64 then [conflictWarning existing entry]
        else []
    | none => []
  (insert state.1 entry.agentDid entry, state.2 ++ warnings)

def mergeLists (lists : List (List PinnedEntry)) : MergeState :=
  lists.foldl (fun state entries => entries.foldl mergeStep state) ([], [])

/-- The warnings on stderr are `(mergeLists lists).2`. -/
def mergeDedup (lists : List (List PinnedEntry)) : List PinnedEntry :=
  ((mergeLists lists).1.map Prod.snd).mergeSort
    (fun first second => leText first.agentDid second.agentDid)

/-- The last entry read for an agent. -/
def lastFor (did : Text) (entries : List PinnedEntry) : Option PinnedEntry :=
  (entries.filter (fun entry => entry.agentDid = did)).getLast?

theorem mergeLists_flatten (lists : List (List PinnedEntry)) :
    mergeLists lists = lists.flatten.foldl mergeStep ([], []) := by
  unfold mergeLists
  rw [List.foldl_flatten]

theorem lookup_foldl_mergeStep (entries : List PinnedEntry) (state : MergeState) (did : Text) :
    (entries.foldl mergeStep state).1.lookup did =
      (lastFor did entries).or (state.1.lookup did) := by
  induction entries generalizing state with
  | nil => rfl
  | cons entry rest ih =>
      rw [List.foldl_cons, ih]
      unfold lastFor
      by_cases same : entry.agentDid = did
      · rw [List.filter_cons_of_pos (by simpa using same), List.getLast?_cons]
        have stored : (mergeStep state entry).1.lookup did = some entry := by
          rw [← same]
          exact lookup_insert_self _ _ _
        rw [stored]
        cases (rest.filter (fun entry => entry.agentDid = did)).getLast? <;> rfl
      · rw [List.filter_cons_of_neg (by simpa using same)]
        have kept : (mergeStep state entry).1.lookup did = state.1.lookup did :=
          lookup_insert_ne (Ne.symm same) _ _
        rw [kept]

structure MergeInvariant (table : List (Text × PinnedEntry)) : Prop where
  distinct : (keys table).Nodup
  named : ∀ did entry, table.lookup did = some entry → entry.agentDid = did

theorem mergeStep_invariant {state : MergeState} (invariant : MergeInvariant state.1)
    (entry : PinnedEntry) : MergeInvariant (mergeStep state entry).1 := by
  constructor
  · exact keys_insert_nodup _ _ invariant.distinct
  · intro did found held
    by_cases same : did = entry.agentDid
    · subst same
      rw [show (mergeStep state entry).1.lookup entry.agentDid = some entry from
        lookup_insert_self _ _ _] at held
      rw [← Option.some.inj held]
    · apply invariant.named did found
      rw [← held]
      exact (lookup_insert_ne same _ _).symm

theorem foldl_mergeStep_invariant (entries : List PinnedEntry) {state : MergeState}
    (invariant : MergeInvariant state.1) : MergeInvariant (entries.foldl mergeStep state).1 := by
  induction entries generalizing state with
  | nil => exact invariant
  | cons entry rest ih => exact ih (mergeStep_invariant invariant entry)

/-- The merge is the last entry of every agent. -/
theorem mem_mergeDedup (lists : List (List PinnedEntry)) (entry : PinnedEntry) :
    entry ∈ mergeDedup lists ↔ lastFor entry.agentDid lists.flatten = some entry := by
  have start : MergeInvariant (([], []) : MergeState).1 := by
    constructor
    · exact List.nodup_nil
    · intro did found held
      cases held
  have invariant := foldl_mergeStep_invariant lists.flatten start
  have found := fun did => lookup_foldl_mergeStep lists.flatten ([], []) did
  unfold mergeDedup
  rw [List.mem_mergeSort, mergeLists_flatten, List.mem_map]
  constructor
  · rintro ⟨⟨did, held⟩, member, rfl⟩
    have located := (mem_iff_lookup invariant.distinct did held).mp member
    rw [invariant.named did held located]
    rw [found] at located
    simpa using located
  · intro last
    refine ⟨(entry.agentDid, entry), ?_, rfl⟩
    rw [mem_iff_lookup invariant.distinct, found, last]
    rfl

/-! ### Lock-step -/

/-- What the control plane reads accepts the same keys as the entries themselves. -/
def LockStep (lists : List (List PinnedEntry)) : Prop :=
  ∃ value entries, Limited.toEnvValue (mergeDedup lists) = some value ∧
    Limited.parseEnvValue value = .ok entries ∧
    ∀ did now pair,
      pair ∈ activePairs entries did now ↔ pair ∈ activePairs lists.flatten did now

/-- A window that is not empty. -/
def PinnedEntry.EverActive (entry : PinnedEntry) : Prop :=
  ∀ start ∈ entry.validFrom, ∀ stop ∈ entry.validUntil, start < stop

/-- The same key, in a window that contains the other's. -/
structure PinnedEntry.Covers (outer inner : PinnedEntry) : Prop where
  publicKey : outer.publicKeyB64 = inner.publicKeyB64
  algorithm : outer.algorithm = inner.algorithm
  starts : ∀ start ∈ outer.validFrom, ∃ given ∈ inner.validFrom, start ≤ given
  stops : ∀ stop ∈ outer.validUntil, ∃ given ∈ inner.validUntil, given ≤ stop

def LastCovers (lists : List (List PinnedEntry)) : Prop :=
  ∀ entry ∈ lists.flatten, entry.EverActive →
    ∀ last ∈ lastFor entry.agentDid lists.flatten, last.Covers entry

/-- `str` can write the bounds of the entries that are kept. -/
def LastConvertible (lists : List (List PinnedEntry)) : Prop :=
  ∀ entry ∈ lists.flatten, ∀ last ∈ lastFor entry.agentDid lists.flatten, last.Convertible

theorem activeAt_iff (entry : PinnedEntry) (now : Int) :
    entry.pinnedKey.activeAt now = true ↔
      (∀ start ∈ entry.validFrom, start ≤ now) ∧ ∀ stop ∈ entry.validUntil, now < stop := by
  obtain ⟨agentDid, publicKeyB64, algorithm, validFrom, validUntil⟩ := entry
  cases validFrom <;> cases validUntil <;>
    simp [PinnedKey.activeAt, PinnedEntry.pinnedKey]

theorem mem_activePairs (entries : List PinnedEntry) (did : Text) (now : Int)
    (pair : Text × Text) :
    pair ∈ activePairs entries did now ↔
      ∃ entry ∈ entries, entry.agentDid = did ∧ entry.pinnedKey.activeAt now = true ∧
        (entry.publicKeyB64, entry.algorithm) = pair := by
  unfold activePairs activeKeys
  constructor
  · intro member
    obtain ⟨key, filtered, same⟩ := List.mem_map.mp member
    obtain ⟨active, named⟩ := List.mem_filter.mp filtered
    obtain ⟨mapped, isActive⟩ := List.mem_filter.mp active
    obtain ⟨entry, present, rfl⟩ := List.mem_map.mp mapped
    exact ⟨entry, present, of_decide_eq_true named, isActive, same⟩
  · rintro ⟨entry, present, named, isActive, rfl⟩
    apply List.mem_map.mpr
    refine ⟨entry.pinnedKey, ?_, rfl⟩
    apply List.mem_filter.mpr
    refine ⟨?_, decide_eq_true named⟩
    exact List.mem_filter.mpr ⟨List.mem_map_of_mem present, isActive⟩

theorem exists_lastFor {entries : List PinnedEntry} {entry : PinnedEntry}
    (present : entry ∈ entries) :
    ∃ last ∈ entries, lastFor entry.agentDid entries = some last ∧
      last.agentDid = entry.agentDid := by
  have kept : entry ∈ entries.filter (fun other => other.agentDid = entry.agentDid) :=
    List.mem_filter.mpr ⟨present, decide_eq_true rfl⟩
  obtain ⟨last, found⟩ := Option.isSome_iff_exists.mp
    (List.getLast?_isSome.mpr (List.ne_nil_of_mem kept))
  obtain ⟨member, named⟩ := List.mem_filter.mp (List.mem_of_getLast? found)
  exact ⟨last, member, found, of_decide_eq_true named⟩

theorem covers_of_active {outer inner : PinnedEntry} (ever : inner.EverActive)
    (within : ∀ now, inner.pinnedKey.activeAt now = true →
      outer.pinnedKey.activeAt now = true) :
    (∀ start ∈ outer.validFrom, ∃ given ∈ inner.validFrom, start ≤ given) ∧
      ∀ stop ∈ outer.validUntil, ∃ given ∈ inner.validUntil, given ≤ stop := by
  simp only [activeAt_iff] at within
  constructor
  · intro start bound
    cases starts : inner.validFrom with
    | some given =>
        refine ⟨given, rfl, ?_⟩
        have active := within given ⟨by simp [starts], ever given starts⟩
        exact active.1 start bound
    | none =>
        exfalso
        cases stops : inner.validUntil with
        | none =>
            have active := within (start - 1) (by simp [starts, stops])
            have late := active.1 start bound
            omega
        | some stop =>
            have active := within (min (start - 1) (stop - 1)) (by simp [starts, stops])
            have late := active.1 start bound
            omega
  · intro stop bound
    cases stops : inner.validUntil with
    | some given =>
        refine ⟨given, rfl, ?_⟩
        have early : ∀ start ∈ inner.validFrom, start ≤ given - 1 := by
          intro start isStart
          have before := ever start isStart given stops
          omega
        have active := within (given - 1) ⟨early, by simp [stops]⟩
        have inside := active.2 stop bound
        omega
    | none =>
        exfalso
        cases starts : inner.validFrom with
        | none =>
            have active := within stop (by simp [starts, stops])
            have inside := active.2 stop bound
            omega
        | some start =>
            have active := within (max stop start) (by simp [starts, stops])
            have inside := active.2 stop bound
            omega

theorem exists_active {entry : PinnedEntry} (ever : entry.EverActive) :
    ∃ now, entry.pinnedKey.activeAt now = true := by
  simp only [activeAt_iff]
  cases starts : entry.validFrom with
  | some start =>
      refine ⟨start, by simp, ?_⟩
      exact ever start starts
  | none =>
      cases stops : entry.validUntil with
      | none => exact ⟨0, by simp, by simp⟩
      | some stop => exact ⟨stop - 1, by simp, by simp⟩

theorem everActive_of_active {entry : PinnedEntry} {now : Int}
    (active : entry.pinnedKey.activeAt now = true) : entry.EverActive := by
  obtain ⟨begun, running⟩ := (activeAt_iff entry now).mp active
  intro start isStart stop isStop
  exact lt_of_le_of_lt (begun start isStart) (running stop isStop)

theorem active_of_covers {outer inner : PinnedEntry} (covers : outer.Covers inner) {now : Int}
    (active : inner.pinnedKey.activeAt now = true) : outer.pinnedKey.activeAt now = true := by
  obtain ⟨begun, running⟩ := (activeAt_iff inner now).mp active
  apply (activeAt_iff outer now).mpr
  constructor
  · intro start isStart
    obtain ⟨given, isGiven, below⟩ := covers.starts start isStart
    exact below.trans (begun given isGiven)
  · intro stop isStop
    obtain ⟨given, isGiven, below⟩ := covers.stops stop isStop
    exact lt_of_lt_of_le (running given isGiven) below

theorem lastConvertible_iff (lists : List (List PinnedEntry)) :
    LastConvertible lists ↔ ∀ entry ∈ mergeDedup lists, entry.Convertible := by
  constructor
  · intro kept entry member
    have last := (mem_mergeDedup lists entry).mp member
    exact kept entry (List.mem_filter.mp (List.mem_of_getLast? last)).1 entry last
  · intro merged entry present last isLast
    obtain ⟨found, _, isFound, named⟩ := exists_lastFor present
    rw [Option.mem_def, isFound] at isLast
    cases isLast
    apply merged
    rw [mem_mergeDedup, named]
    exact isFound

/-- What the control plane reads is the merge itself, when it can be written. -/
theorem lockStep_iff_merged {lists : List (List PinnedEntry)}
    (alphabet : ∀ entry ∈ lists.flatten, entry.InAlphabet) :
    LockStep lists ↔
      (∀ did now pair, pair ∈ activePairs (mergeDedup lists) did now ↔
        pair ∈ activePairs lists.flatten did now) ∧
      ∀ entry ∈ mergeDedup lists, entry.Convertible := by
  have merged : ∀ entry ∈ mergeDedup lists, entry.InAlphabet := by
    intro entry member
    have last := (mem_mergeDedup lists entry).mp member
    exact alphabet entry (List.mem_filter.mp (List.mem_of_getLast? last)).1
  unfold LockStep
  by_cases convertible : ∀ entry ∈ mergeDedup lists, entry.Convertible
  · have written := toEnvValue_of_convertible convertible
    have returned : Limited.parseEnvValue (toEnvValue (mergeDedup lists)) =
        .ok (mergeDedup lists) :=
      parseEnvValueWith_toEnvValue merged (fun entry member value bound =>
        limitedInt_intText (convertible entry member value bound))
    constructor
    · rintro ⟨value, entries, isValue, parsed, same⟩
      rw [written] at isValue
      cases isValue
      rw [returned] at parsed
      cases parsed
      exact ⟨same, convertible⟩
    · intro both
      exact ⟨_, _, written, returned, both.1⟩
  · constructor
    · rintro ⟨value, entries, isValue, _⟩
      push Not at convertible
      obtain ⟨entry, member, long⟩ := convertible
      rw [toEnvValue_of_not_convertible member long] at isValue
      cases isValue
    · intro both
      exact absurd both.2 convertible

/-- The keys of the merge are those of all entries exactly when every last entry covers. -/
theorem merged_iff_lastCovers (lists : List (List PinnedEntry)) :
    (∀ did now pair, pair ∈ activePairs (mergeDedup lists) did now ↔
      pair ∈ activePairs lists.flatten did now) ↔ LastCovers lists := by
  constructor
  · intro same entry present ever last isLast
    -- Whenever the entry is active, the only merged entry of its agent must be its equal.
    have matched : ∀ now, entry.pinnedKey.activeAt now = true →
        last.pinnedKey.activeAt now = true ∧
          (last.publicKeyB64, last.algorithm) = (entry.publicKeyB64, entry.algorithm) := by
      intro now active
      have inAll := (mem_activePairs lists.flatten entry.agentDid now _).mpr
        ⟨entry, present, rfl, active, rfl⟩
      obtain ⟨kept, member, named, keptActive, pair⟩ :=
        (mem_activePairs _ _ _ _).mp ((same entry.agentDid now _).mpr inAll)
      have keptLast := (mem_mergeDedup lists kept).mp member
      rw [named, Option.mem_def.mp isLast] at keptLast
      rw [Option.some.inj keptLast]
      exact ⟨keptActive, pair⟩
    obtain ⟨now, active⟩ := exists_active ever
    have pair := Prod.mk.inj (matched now active).2
    have window := covers_of_active ever (fun now active => (matched now active).1)
    exact ⟨pair.1, pair.2, window.1, window.2⟩
  · intro covered did now pair
    rw [mem_activePairs, mem_activePairs]
    constructor
    · rintro ⟨entry, member, named, active, same⟩
      have last := (mem_mergeDedup lists entry).mp member
      exact ⟨entry, (List.mem_filter.mp (List.mem_of_getLast? last)).1, named, active, same⟩
    · rintro ⟨entry, present, named, active, same⟩
      obtain ⟨last, _, isLast, lastNamed⟩ := exists_lastFor present
      have covers := covered entry present (everActive_of_active active) last isLast
      refine ⟨last, ?_, lastNamed.trans named, active_of_covers covers active, ?_⟩
      · rw [mem_mergeDedup, lastNamed]
        exact isLast
      · rw [covers.publicKey, covers.algorithm]
        exact same

theorem lockStep_iff_lastCovers_convertible (lists : List (List PinnedEntry))
    (alphabet : ∀ entry ∈ lists.flatten, entry.InAlphabet) :
    LockStep lists ↔ LastCovers lists ∧ LastConvertible lists := by
  rw [lockStep_iff_merged alphabet, merged_iff_lastCovers, lastConvertible_iff]

/-! ### The shipped rotation -/

def rotatingPublisher : Text :=
  text "did:web:registry-a.playground.local:agents:rotating-publisher"

/-- The outgoing and the incoming key of `config/registry-a.toml`. -/
def oldKey : PinnedEntry :=
  { agentDid := rotatingPublisher
    publicKeyB64 := text "9tsbbuOon0zOWgZYlL3m+nQ0PTVS9/MWOmQ/EQXgpRk="
    algorithm := text "ed25519"
    validFrom := none
    validUntil := some 1780358400 }

def newKey : PinnedEntry :=
  { agentDid := rotatingPublisher
    publicKeyB64 := text "V/U68CudHahBq0B1x0+vUM8XQ4ZkmpGwe8G4EScYagI="
    algorithm := text "ed25519"
    validFrom := some 1780272000
    validUntil := none }

/-- Before the overlap only the outgoing key verifies; the control plane has no key. -/
theorem shipped_rotation_not_lockStep :
    (∀ entry ∈ [[oldKey, newKey]].flatten, entry.InAlphabet) ∧
      ¬LockStep [[oldKey, newKey]] := by
  refine ⟨by decide +kernel, ?_⟩
  rintro ⟨value, entries, written, parsed, same⟩
  have translated : (Limited.toEnvValue (mergeDedup [[oldKey, newKey]])).map
      Limited.parseEnvValue = some (.ok [newKey]) := by decide +kernel
  rw [written, Option.map_some, parsed] at translated
  cases translated
  have pinned : (oldKey.publicKeyB64, oldKey.algorithm) ∈
      activePairs [[oldKey, newKey]].flatten rotatingPublisher 1780000000 := by
    decide +kernel
  have missing : (oldKey.publicKeyB64, oldKey.algorithm) ∉
      activePairs [newKey] rotatingPublisher 1780000000 := by decide +kernel
  exact missing ((same _ _ _).mpr pinned)

def extendedKey : PinnedEntry :=
  { oldKey with validUntil := some 1811894400 }

/-- The same key in two files, the later one with a later end. -/
theorem extended_key_lockStep : LockStep [[oldKey], [extendedKey]] := by
  have alphabet : ∀ entry ∈ [[oldKey], [extendedKey]].flatten, entry.InAlphabet := by
    decide +kernel
  have read : ∀ entry ∈ [[oldKey], [extendedKey]].flatten,
      lastFor entry.agentDid [[oldKey], [extendedKey]].flatten = some extendedKey ∧
        entry.publicKeyB64 = extendedKey.publicKeyB64 ∧
        entry.algorithm = extendedKey.algorithm ∧
        ∃ given ∈ entry.validUntil, given ≤ 1811894400 := by decide +kernel
  apply (lockStep_iff_lastCovers_convertible _ alphabet).mpr
  constructor
  · intro entry member _ last isLast
    obtain ⟨isExtended, key, algorithm, ends⟩ := read entry member
    rw [Option.mem_def, isExtended] at isLast
    cases isLast
    refine ⟨key.symm, algorithm.symm, ?_, ?_⟩
    · intro start bound
      cases bound
    · intro stop bound
      cases bound
      exact ends
  · intro entry member last isLast value bound
    rw [Option.mem_def, (read entry member).1] at isLast
    cases isLast
    rcases bound with isFrom | isUntil
    · cases isFrom
    · cases isUntil
      have tenDigits : (1811894400 : Int).natAbs < 10 ^ 10 := by decide
      exact tenDigits.trans_le (Nat.pow_le_pow_right (by decide) (by decide))

end AcdpPlayground.Keys

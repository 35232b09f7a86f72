/-
The sliding window of `RunLimiter` over whole sequences of calls. The abstract limiter
keeps every admitted launch for good and counts those inside the window. `RunLimiter`
keeps a deque per address, drops old launches when the address comes back, also when it
is then refused, and prunes the map across addresses once it has 1024 entries.

Sequences may mix any addresses, calls with no address and calls of `release`. Clock
readings are exact and do not decrease; the limits are fixed.
-/

import AcdpPlayground.Foundation.CallSequence
import AcdpPlayground.Foundation.KeyedTable
import AcdpPlayground.Runs.RunLimiter

namespace AcdpPlayground.Runs

open CallSequence KeyedTable

/-! ### Calls -/

inductive LimiterCall where
  | acquire (clientIp : Option String) (now : ℚ)
  | release

def LimiterCall.reading : LimiterCall → Option ℚ
  | .acquire _ now => some now
  | .release => none

def readings (calls : List LimiterCall) : List ℚ :=
  calls.filterMap LimiterCall.reading

def RunLimiter.call (limits : RunLimits) (limiter : RunLimiter) :
    LimiterCall → Except RunLimitExceeded Unit × RunLimiter
  | .acquire clientIp now => limiter.acquire limits clientIp now
  | .release => (.ok (), limiter.release)

/-- The time of a successful `acquire` by this address. -/
def launchBy (ip : String) : LimiterCall × Except RunLimitExceeded Unit → Option ℚ
  | (.acquire (some clientIp) now, .ok ()) => if clientIp = ip then some now else none
  | _ => none

def successfulLaunches (limits : RunLimits) (calls : List LimiterCall) (ip : String) : List ℚ :=
  (calls.zip (replies (RunLimiter.call limits) RunLimiter.fresh calls)).filterMap (launchBy ip)

/-- How many of the launches lie in `(t - window, t]`. -/
def countInWindow (limits : RunLimits) (t : ℚ) (launches : List ℚ) : Nat :=
  launches.countP (fun launch =>
    decide (t - limits.runRateLimitWindowSeconds < launch ∧ launch ≤ t))

/-! ### The abstract limiter -/

def recentOf (limits : RunLimits) (launches : List ℚ) (now : ℚ) : List ℚ :=
  launches.filter (fun launch => decide (now - limits.runRateLimitWindowSeconds < launch))

def concurrencyRefusal (limits : RunLimits) (active : Int) : RunLimitExceeded :=
  { code := .maxConcurrentRuns
    limit := limits.maxConcurrentRuns
    retryAfter := concurrencyRetryAfterSeconds
    message := toString active ++ " runs already in flight (limit " ++
      toString limits.maxConcurrentRuns ++ ")" }

def rateRefusal (limits : RunLimits) (recent : List ℚ) (now : ℚ) : RunLimitExceeded :=
  { code := .runRateLimited
    limit := limits.runRateLimitPerIp
    retryAfter := max 1 ⌈recent.headD now + limits.runRateLimitWindowSeconds - now⌉
    message := "at most " ++ toString limits.runRateLimitPerIp ++ " runs per " ++
      toString limits.runRateLimitWindowSeconds ++ " s per client" }

/-- Every launch ever admitted, oldest first. -/
structure LaunchHistory where
  admitted : List (String × ℚ)
  active : Int

namespace LaunchHistory

def empty : LaunchHistory :=
  { admitted := []
    active := 0 }

def launchesOf (history : LaunchHistory) (ip : String) : List ℚ :=
  history.admitted.filterMap (fun launch => if launch.1 = ip then some launch.2 else none)

def call (limits : RunLimits) (history : LaunchHistory) :
    LimiterCall → Except RunLimitExceeded Unit × LaunchHistory
  | .release => (.ok (), { history with active := max 0 (history.active - 1) })
  | .acquire clientIp now =>
      if (limits.maxConcurrentRuns : Int) ≤ history.active then
        (.error (concurrencyRefusal limits history.active), history)
      else
        match clientIp with
        | none => (.ok (), { history with active := history.active + 1 })
        | some ip =>
            let recent := recentOf limits (history.launchesOf ip) now
            if limits.runRateLimitPerIp ≤ recent.length then
              (.error (rateRefusal limits recent now), history)
            else
              (.ok (),
                { admitted := history.admitted ++ [(ip, now)]
                  active := history.active + 1 })

theorem launchesOf_append (history : LaunchHistory) (ip asked : String) (now : ℚ)
    (active : Int) :
    ({ admitted := history.admitted ++ [(ip, now)], active := active } :
      LaunchHistory).launchesOf asked =
        history.launchesOf asked ++ if ip = asked then [now] else [] := by
  unfold launchesOf
  rw [List.filterMap_append]
  congr 1
  by_cases same : ip = asked
  · simp only [same, List.filterMap_cons, if_true, List.filterMap_nil]
  · simp only [same, List.filterMap_cons, if_false, List.filterMap_nil]

theorem call_inert {limits : RunLimits} {history : LaunchHistory} {call : LimiterCall}
    {refusal : RunLimitExceeded} (refused : (history.call limits call).1 = .error refusal) :
    (history.call limits call).2 = history := by
  cases call with
  | release => cases refused
  | acquire clientIp now =>
      simp only [LaunchHistory.call] at refused ⊢
      split
      · rfl
      · next free =>
          rw [if_neg free] at refused
          cases clientIp with
          | none => cases refused
          | some ip =>
              simp only at refused ⊢
              split
              · rfl
              · next below =>
                  rw [if_neg below] at refused
                  cases refused

end LaunchHistory

/-! ### Deques against the history -/

/-- What lazy trimming may do to a deque once the clock shows `now`. -/
def Trimmed (limits : RunLimits) (now : ℚ) (old new : List ℚ) : Prop :=
  new.Sublist old ∧ ∀ later, now ≤ later → recentOf limits new later = recentOf limits old later

theorem Trimmed.refl (limits : RunLimits) (now : ℚ) (deque : List ℚ) :
    Trimmed limits now deque deque :=
  ⟨List.Sublist.refl _, fun _ _ => rfl⟩

theorem recentOf_recentOf (limits : RunLimits) (deque : List ℚ) {now later : ℚ}
    (after : now ≤ later) :
    recentOf limits (recentOf limits deque now) later = recentOf limits deque later := by
  unfold recentOf
  rw [List.filter_filter]
  apply List.filter_congr
  intro launch _
  rw [Bool.eq_iff_iff]
  simp only [Bool.and_eq_true, decide_eq_true_eq]
  constructor
  · exact fun both => both.1
  · intro inside
    exact ⟨inside, by linarith⟩

theorem trimmed_recentOf (limits : RunLimits) (now : ℚ) (deque : List ℚ) :
    Trimmed limits now deque (recentOf limits deque now) :=
  ⟨List.filter_sublist, fun _ after => recentOf_recentOf limits deque after⟩

theorem trimmed_nil {limits : RunLimits} {now : ℚ} {deque : List ℚ}
    (aged : ∀ launch ∈ deque, launch ≤ now - limits.runRateLimitWindowSeconds) :
    Trimmed limits now deque [] := by
  refine ⟨List.nil_sublist _, ?_⟩
  intro later after
  symm
  apply List.filter_eq_nil_iff.mpr
  intro launch member
  have old := aged launch member
  simp only [decide_eq_true_eq, not_lt]
  linarith

theorem dropWhile_eq_recentOf (limits : RunLimits) (now : ℚ) {deque : List ℚ}
    (ordered : deque.Pairwise (· ≤ ·)) :
    deque.dropWhile (fun launch => launch ≤ now - limits.runRateLimitWindowSeconds) =
      recentOf limits deque now := by
  induction deque with
  | nil => rfl
  | cons oldest rest ih =>
      obtain ⟨first, later⟩ := List.pairwise_cons.mp ordered
      unfold recentOf
      by_cases aged : oldest ≤ now - limits.runRateLimitWindowSeconds
      · rw [List.dropWhile_cons_of_pos (by simpa using aged),
          List.filter_cons_of_neg (by simpa using aged)]
        exact ih later
      · rw [List.dropWhile_cons_of_neg (by simpa using aged)]
        symm
        apply List.filter_eq_self.mpr
        intro launch member
        rw [decide_eq_true_eq]
        have inside := not_le.mp aged
        rcases List.mem_cons.mp member with same | remaining
        · rw [same]
          exact inside
        · exact lt_of_lt_of_le inside (first launch remaining)

theorem all_le_of_getLast {deque : List ℚ} {bound : ℚ} (ordered : deque.Pairwise (· ≤ ·))
    (latest : ∀ last ∈ deque.getLast?, last ≤ bound) : ∀ launch ∈ deque, launch ≤ bound := by
  intro launch member
  obtain ⟨last, found⟩ := List.getLast?_isSome.mpr (List.ne_nil_of_mem member) |>
    Option.isSome_iff_exists.mp
  obtain ⟨front, split⟩ := List.getLast?_eq_some_iff.mp found
  have below : launch ≤ last := by
    rw [split] at member ordered
    rcases List.mem_append.mp member with earlier | same
    · exact (List.pairwise_append.mp ordered).2.2 launch earlier last (List.mem_singleton_self _)
    · exact le_of_eq (List.mem_singleton.mp same)
  exact below.trans (latest last found)

namespace RunLimiter

theorem setLaunches_launches (limiter : RunLimiter) (ip : String) (deque : List ℚ) :
    (limiter.setLaunches ip deque).launches = insert limiter.launches ip deque := rfl

theorem launchesOf_setLaunches_self (limiter : RunLimiter) (ip : String) (deque : List ℚ) :
    (limiter.setLaunches ip deque).launchesOf ip = deque := by
  unfold launchesOf
  rw [setLaunches_launches, lookup_insert_self, Option.getD_some]

theorem launchesOf_setLaunches_ne (limiter : RunLimiter) {ip asked : String}
    (different : asked ≠ ip) (deque : List ℚ) :
    (limiter.setLaunches ip deque).launchesOf asked = limiter.launchesOf asked := by
  unfold launchesOf
  rw [setLaunches_launches, lookup_insert_ne different]

theorem keys_setLaunches_nodup {limiter : RunLimiter} (ip : String) (deque : List ℚ)
    (distinct : (keys limiter.launches).Nodup) :
    (keys (limiter.setLaunches ip deque).launches).Nodup := by
  rw [setLaunches_launches]
  exact keys_insert_nodup ip deque distinct

theorem keys_prune_nodup {limiter : RunLimiter} (cutoff : ℚ)
    (distinct : (keys limiter.launches).Nodup) :
    (keys (limiter.prune cutoff).launches).Nodup := by
  unfold prune
  split
  · exact distinct
  · exact keys_filter_nodup _ distinct

/-- Pruning keeps a deque or forgets one whose every launch has aged out. -/
theorem launchesOf_prune {limits : RunLimits} {limiter : RunLimiter} {now : ℚ}
    (distinct : (keys limiter.launches).Nodup) (ip : String)
    (ordered : (limiter.launchesOf ip).Pairwise (· ≤ ·)) :
    Trimmed limits now (limiter.launchesOf ip)
      ((limiter.prune (now - limits.runRateLimitWindowSeconds)).launchesOf ip) := by
  unfold prune
  split
  · exact Trimmed.refl limits now _
  · unfold launchesOf at ordered ⊢
    simp only
    rw [lookup_filter _ ip distinct]
    cases found : limiter.launches.lookup ip with
    | none => exact Trimmed.refl limits now []
    | some deque =>
        rw [found, Option.getD_some] at ordered
        rw [Option.filter_some, Option.getD_some]
        split
        · exact Trimmed.refl limits now deque
        · next dropped =>
            apply trimmed_nil
            apply all_le_of_getLast ordered
            intro last final
            rw [Option.mem_def.mp final] at dropped
            simpa using dropped

end RunLimiter

/-! ### Refinement -/

/-- `upcoming` lists the clock readings of the calls still to come. -/
structure Refines (limits : RunLimits) (upcoming : List ℚ) (limiter : RunLimiter)
    (history : LaunchHistory) : Prop where
  active : limiter.active = history.active
  distinct : (keys limiter.launches).Nodup
  ordered : ∀ ip, (limiter.launchesOf ip).Pairwise (· ≤ ·)
  past : ∀ ip, ∀ launch ∈ limiter.launchesOf ip, ∀ now ∈ upcoming, launch ≤ now
  agree : ∀ ip, ∀ now ∈ upcoming,
    recentOf limits (limiter.launchesOf ip) now = recentOf limits (history.launchesOf ip) now
  clock : upcoming.Pairwise (· ≤ ·)

theorem Refines.advance {limits : RunLimits} {now : ℚ} {rest : List ℚ} {limiter : RunLimiter}
    {history : LaunchHistory} (refines : Refines limits (now :: rest) limiter history) :
    Refines limits rest limiter history where
  active := refines.active
  distinct := refines.distinct
  ordered := refines.ordered
  past ip launch member later coming :=
    refines.past ip launch member later (List.mem_cons_of_mem _ coming)
  agree ip later coming := refines.agree ip later (List.mem_cons_of_mem _ coming)
  clock := (List.pairwise_cons.mp refines.clock).2

theorem Refines.trim {limits : RunLimits} {upcoming : List ℚ} {limiter trimmed : RunLimiter}
    {history : LaunchHistory} {now : ℚ} (refines : Refines limits upcoming limiter history)
    (reached : ∀ later ∈ upcoming, now ≤ later) (same : trimmed.active = limiter.active)
    (distinct : (keys trimmed.launches).Nodup)
    (trims : ∀ ip, Trimmed limits now (limiter.launchesOf ip) (trimmed.launchesOf ip)) :
    Refines limits upcoming trimmed history where
  active := same.trans refines.active
  distinct := distinct
  ordered ip := (refines.ordered ip).sublist (trims ip).1
  past ip launch member := refines.past ip launch ((trims ip).1.mem member)
  agree ip later coming :=
    ((trims ip).2 later (reached later coming)).trans (refines.agree ip later coming)
  clock := refines.clock

theorem Refines.record {limits : RunLimits} {upcoming : List ℚ} {limiter : RunLimiter}
    {history : LaunchHistory} {now : ℚ} {ip : String}
    (refines : Refines limits upcoming limiter history)
    (reached : ∀ later ∈ upcoming, now ≤ later)
    (latest : ∀ launch ∈ limiter.launchesOf ip, launch ≤ now) :
    Refines limits upcoming (limiter.setLaunches ip (limiter.launchesOf ip ++ [now]))
      { history with admitted := history.admitted ++ [(ip, now)] } := by
  constructor
  · exact refines.active
  · exact RunLimiter.keys_setLaunches_nodup _ _ refines.distinct
  · intro asked
    by_cases same : asked = ip
    · rw [same, RunLimiter.launchesOf_setLaunches_self, List.pairwise_append]
      refine ⟨refines.ordered ip, List.pairwise_singleton _ _, ?_⟩
      intro launch member final here
      rw [List.mem_singleton.mp here]
      exact latest launch member
    · rw [RunLimiter.launchesOf_setLaunches_ne _ same]
      exact refines.ordered asked
  · intro asked launch member later coming
    by_cases same : asked = ip
    · rw [same, RunLimiter.launchesOf_setLaunches_self] at member
      rcases List.mem_append.mp member with earlier | here
      · exact refines.past ip launch earlier later coming
      · rw [List.mem_singleton.mp here]
        exact reached later coming
    · rw [RunLimiter.launchesOf_setLaunches_ne _ same] at member
      exact refines.past asked launch member later coming
  · intro asked later coming
    have before := refines.agree asked later coming
    rw [LaunchHistory.launchesOf_append]
    unfold recentOf at before ⊢
    rw [List.filter_append, ← before]
    by_cases same : asked = ip
    · rw [same, RunLimiter.launchesOf_setLaunches_self, if_pos rfl, List.filter_append]
    · rw [RunLimiter.launchesOf_setLaunches_ne _ same, if_neg (Ne.symm same), List.filter_nil,
        List.append_nil]
  · exact refines.clock

theorem Refines.withActive {limits : RunLimits} {upcoming : List ℚ} {limiter : RunLimiter}
    {history : LaunchHistory} (refines : Refines limits upcoming limiter history)
    (active : Int) :
    Refines limits upcoming { limiter with active := active } { history with active := active } :=
  ⟨rfl, refines.distinct, refines.ordered, refines.past, refines.agree, refines.clock⟩

theorem acquire_some_eq (limits : RunLimits) {limiter : RunLimiter} {ip : String} (now : ℚ)
    (ordered : (limiter.launchesOf ip).Pairwise (· ≤ ·))
    (free : ¬(limits.maxConcurrentRuns : Int) ≤ limiter.active) :
    limiter.acquire limits (some ip) now =
      let recent := recentOf limits (limiter.launchesOf ip) now
      let dropped := limiter.setLaunches ip recent
      if limits.runRateLimitPerIp ≤ recent.length then
        (.error (rateRefusal limits recent now), dropped)
      else
        (.ok (),
          { (dropped.setLaunches ip (recent ++ [now])).prune
              (now - limits.runRateLimitWindowSeconds) with
            active := limiter.active + 1 }) := by
  unfold RunLimiter.acquire
  rw [if_neg free]
  simp only [dropWhile_eq_recentOf limits now ordered, RunLimiter.prune_active,
    RunLimiter.setLaunches_active]
  rfl

theorem trimmed_setLaunches (limits : RunLimits) (limiter : RunLimiter) (ip : String) (now : ℚ)
    (asked : String) :
    Trimmed limits now (limiter.launchesOf asked)
      ((limiter.setLaunches ip (recentOf limits (limiter.launchesOf ip) now)).launchesOf
        asked) := by
  by_cases same : asked = ip
  · rw [same, RunLimiter.launchesOf_setLaunches_self]
    exact trimmed_recentOf limits now _
  · rw [RunLimiter.launchesOf_setLaunches_ne _ same]
    exact Trimmed.refl limits now _

theorem acquire_refines {limits : RunLimits} {limiter : RunLimiter} {history : LaunchHistory}
    {clientIp : Option String} {now : ℚ} {rest : List ℚ}
    (refines : Refines limits (now :: rest) limiter history) :
    (limiter.acquire limits clientIp now).1 = (history.call limits (.acquire clientIp now)).1 ∧
      Refines limits rest (limiter.acquire limits clientIp now).2
        (history.call limits (.acquire clientIp now)).2 := by
  simp only [LaunchHistory.call]
  by_cases full : (limits.maxConcurrentRuns : Int) ≤ limiter.active
  · have abstractFull := full
    rw [refines.active] at abstractFull
    unfold RunLimiter.acquire
    rw [if_pos full, if_pos abstractFull, refines.active]
    exact ⟨rfl, refines.advance⟩
  · have abstractFree := full
    rw [refines.active] at abstractFree
    rw [if_neg abstractFree]
    cases clientIp with
    | none =>
        unfold RunLimiter.acquire
        rw [if_neg full, refines.active]
        exact ⟨rfl, refines.advance.withActive _⟩
    | some ip =>
        have reached := (List.pairwise_cons.mp refines.clock).1
        have agree := refines.agree ip now List.mem_cons_self
        have dropped : Refines limits rest
            (limiter.setLaunches ip (recentOf limits (limiter.launchesOf ip) now)) history :=
          refines.advance.trim reached rfl
            (RunLimiter.keys_setLaunches_nodup _ _ refines.distinct)
            (trimmed_setLaunches limits limiter ip now)
        rw [acquire_some_eq limits now (refines.ordered ip) full]
        simp only [← agree]
        split
        · exact ⟨rfl, dropped⟩
        · refine ⟨rfl, ?_⟩
          have latest : ∀ launch ∈ (limiter.setLaunches ip
              (recentOf limits (limiter.launchesOf ip) now)).launchesOf ip, launch ≤ now := by
            intro launch member
            rw [RunLimiter.launchesOf_setLaunches_self] at member
            exact refines.past ip launch (List.mem_of_mem_filter member) now List.mem_cons_self
          have recorded := dropped.record reached latest
          rw [RunLimiter.launchesOf_setLaunches_self] at recorded
          have pruned := recorded.trim reached (RunLimiter.prune_active _ _)
            (RunLimiter.keys_prune_nodup _ recorded.distinct)
            (fun asked => RunLimiter.launchesOf_prune recorded.distinct asked
              (recorded.ordered asked))
          rw [refines.active]
          exact pruned.withActive _

theorem call_refines {limits : RunLimits} (call : LimiterCall) (rest : List LimiterCall)
    (limiter : RunLimiter) (history : LaunchHistory)
    (refines : Refines limits (readings (call :: rest)) limiter history) :
    (limiter.call limits call).1 = (history.call limits call).1 ∧
      Refines limits (readings rest) (limiter.call limits call).2
        (history.call limits call).2 := by
  cases call with
  | acquire clientIp now => exact acquire_refines refines
  | release =>
      refine ⟨rfl, ?_⟩
      have released := refines.withActive (max 0 (limiter.active - 1))
      simp only [RunLimiter.call, LaunchHistory.call, RunLimiter.release, ← refines.active]
      exact released

theorem fresh_refines {limits : RunLimits} {calls : List LimiterCall}
    (clock : (readings calls).Pairwise (· ≤ ·)) :
    Refines limits (readings calls) RunLimiter.fresh LaunchHistory.empty where
  active := rfl
  distinct := List.nodup_nil
  ordered _ := List.Pairwise.nil
  past _ _ member := absurd member List.not_mem_nil
  agree _ _ _ := rfl
  clock := clock

theorem replies_eq_history {limits : RunLimits} {calls : List LimiterCall}
    (clock : (readings calls).Pairwise (· ≤ ·)) :
    replies (RunLimiter.call limits) RunLimiter.fresh calls =
      replies (LaunchHistory.call limits) LaunchHistory.empty calls :=
  replies_eq_of_simulation (fun upcoming => Refines limits (readings upcoming)) call_refines
    (fresh_refines clock)

/-! ### Windows of the history -/

structure WindowsBounded (limits : RunLimits) (upcoming : List ℚ) (history : LaunchHistory) :
    Prop where
  past : ∀ ip, ∀ launch ∈ history.launchesOf ip, ∀ now ∈ upcoming, launch ≤ now
  atMost : ∀ ip t, countInWindow limits t (history.launchesOf ip) ≤ limits.runRateLimitPerIp
  clock : upcoming.Pairwise (· ≤ ·)

theorem countInWindow_append (limits : RunLimits) (t : ℚ) (first second : List ℚ) :
    countInWindow limits t (first ++ second) =
      countInWindow limits t first + countInWindow limits t second :=
  List.countP_append

/-- A window that ends at or after `now` counts no past launch that `now` does not see. -/
theorem countInWindow_le_recent (limits : RunLimits) (launches : List ℚ) {now t : ℚ}
    (after : now ≤ t) :
    countInWindow limits t launches ≤ (recentOf limits launches now).length := by
  unfold countInWindow recentOf
  rw [← List.countP_eq_length_filter]
  apply List.countP_mono_left
  intro launch _ inside
  simp only [decide_eq_true_eq] at inside ⊢
  linarith [inside.1]

theorem countInWindow_eq_recent {limits : RunLimits} {launches : List ℚ} {now : ℚ}
    (past : ∀ launch ∈ launches, launch ≤ now) :
    countInWindow limits now launches = (recentOf limits launches now).length := by
  unfold countInWindow recentOf
  rw [← List.countP_eq_length_filter]
  apply List.countP_congr
  intro launch member
  simp only [decide_eq_true_eq]
  exact and_iff_left (past launch member)

theorem launchBy_refused (ip : String) (call : LimiterCall) (refusal : RunLimitExceeded) :
    launchBy ip (call, .error refusal) = none := by
  cases call with
  | release => rfl
  | acquire clientIp now => cases clientIp <;> rfl

theorem launchesOf_call (limits : RunLimits) (history : LaunchHistory) (call : LimiterCall)
    (ip : String) :
    (history.call limits call).2.launchesOf ip =
      history.launchesOf ip ++ (launchBy ip (call, (history.call limits call).1)).toList := by
  cases call with
  | release => exact (List.append_nil _).symm
  | acquire clientIp now =>
      simp only [LaunchHistory.call]
      split
      · rw [launchBy_refused]
        exact (List.append_nil _).symm
      · cases clientIp with
        | none => exact (List.append_nil _).symm
        | some who =>
            simp only
            split
            · rw [launchBy_refused]
              exact (List.append_nil _).symm
            · rw [LaunchHistory.launchesOf_append]
              simp only [launchBy]
              split <;> rfl

theorem launchesOf_stateAfter (limits : RunLimits) (history : LaunchHistory)
    (calls : List LimiterCall) (ip : String) :
    (stateAfter (LaunchHistory.call limits) history calls).launchesOf ip =
      history.launchesOf ip ++
        (calls.zip (replies (LaunchHistory.call limits) history calls)).filterMap
          (launchBy ip) := by
  induction calls generalizing history with
  | nil => exact (List.append_nil _).symm
  | cons call rest ih =>
      simp only [stateAfter, replies, List.zip_cons_cons, List.filterMap_cons]
      rw [ih, launchesOf_call, List.append_assoc]
      cases launchBy ip (call, (history.call limits call).1) <;> rfl

/-- An admitted launch is the last one of every window it lies in. -/
theorem countInWindow_admitted {limits : RunLimits} {launches : List ℚ} {now : ℚ}
    (atMost : ∀ t, countInWindow limits t launches ≤ limits.runRateLimitPerIp)
    (below : ¬limits.runRateLimitPerIp ≤ (recentOf limits launches now).length) (t : ℚ) :
    countInWindow limits t (launches ++ [now]) ≤ limits.runRateLimitPerIp := by
  rw [countInWindow_append]
  by_cases inside : t - limits.runRateLimitWindowSeconds < now ∧ now ≤ t
  · have one : countInWindow limits t [now] = 1 := by
      simp [countInWindow, inside]
    have seen := countInWindow_le_recent limits launches inside.2
    omega
  · have nothing : countInWindow limits t [now] = 0 := by
      simp only [countInWindow, List.countP_cons, List.countP_nil, decide_eq_true_eq, inside,
        if_false]
    rw [nothing]
    exact atMost t

theorem call_windowsBounded {limits : RunLimits} (call : LimiterCall) (rest : List LimiterCall)
    (history : LaunchHistory)
    (bounded : WindowsBounded limits (readings (call :: rest)) history) :
    WindowsBounded limits (readings rest) (history.call limits call).2 := by
  cases call with
  | release => exact ⟨bounded.past, bounded.atMost, bounded.clock⟩
  | acquire clientIp now =>
      obtain ⟨reached, clock⟩ := List.pairwise_cons.mp bounded.clock
      have earlier : ∀ ip, ∀ launch ∈ history.launchesOf ip, ∀ later ∈ readings rest,
          launch ≤ later := fun ip launch member later coming =>
        bounded.past ip launch member later (List.mem_cons_of_mem _ coming)
      simp only [LaunchHistory.call]
      split
      · exact ⟨earlier, bounded.atMost, clock⟩
      · cases clientIp with
        | none => exact ⟨earlier, bounded.atMost, clock⟩
        | some ip =>
            simp only
            split
            · exact ⟨earlier, bounded.atMost, clock⟩
            · next below =>
                refine ⟨?_, ?_, clock⟩
                · intro asked launch member later coming
                  rw [LaunchHistory.launchesOf_append] at member
                  rcases List.mem_append.mp member with before | here
                  · exact earlier asked launch before later coming
                  · split at here
                    · rw [List.mem_singleton.mp here]
                      exact reached later coming
                    · cases here
                · intro asked t
                  rw [LaunchHistory.launchesOf_append]
                  split
                  · next same =>
                      rw [same] at below
                      exact countInWindow_admitted (bounded.atMost asked) below t
                  · rw [List.append_nil]
                    exact bounded.atMost asked t

theorem stateAfter_windowsBounded (limits : RunLimits) (calls after : List LimiterCall)
    (clock : (readings (calls ++ after)).Pairwise (· ≤ ·)) :
    WindowsBounded limits (readings after)
      (stateAfter (LaunchHistory.call limits) LaunchHistory.empty calls) :=
  stateAfter_invariant (fun upcoming => WindowsBounded limits (readings upcoming))
    call_windowsBounded
    ⟨fun _ _ member => absurd member List.not_mem_nil, fun _ _ => Nat.zero_le _, clock⟩

theorem rate_refusal_at_limit {limits : RunLimits} {history : LaunchHistory}
    {clientIp : Option String} {now : ℚ} {refusal : RunLimitExceeded}
    (refused : (history.call limits (.acquire clientIp now)).1 = .error refusal)
    (code : refusal.code = .runRateLimited) :
    ∃ ip, clientIp = some ip ∧
      limits.runRateLimitPerIp ≤ (recentOf limits (history.launchesOf ip) now).length := by
  simp only [LaunchHistory.call] at refused
  split at refused
  · cases refused
    cases code
  · cases clientIp with
    | none => cases refused
    | some ip =>
        simp only at refused
        split at refused
        · next reached => exact ⟨ip, rfl, reached⟩
        · cases refused

/-! ### Sequences of calls -/

theorem readings_append (before after : List LimiterCall) :
    readings (before ++ after) = readings before ++ readings after :=
  List.filterMap_append

theorem successfulLaunches_eq_history {limits : RunLimits} {calls : List LimiterCall}
    (clock : (readings calls).Pairwise (· ≤ ·)) (ip : String) :
    successfulLaunches limits calls ip =
      (stateAfter (LaunchHistory.call limits) LaunchHistory.empty calls).launchesOf ip := by
  unfold successfulLaunches
  rw [launchesOf_stateAfter, replies_eq_history clock]
  rfl

/-- `calls` with the call that follows `before` left out gets the other calls' replies. -/
structure SlidingWindow (limits : RunLimits) (calls : List LimiterCall) : Prop where
  atMost : ∀ ip t,
    countInWindow limits t (successfulLaunches limits calls ip) ≤ limits.runRateLimitPerIp
  refusedAtLimit : ∀ before clientIp now after refusal,
    calls = before ++ .acquire clientIp now :: after →
    (replies (RunLimiter.call limits) RunLimiter.fresh calls)[before.length]? =
      some (.error refusal) →
    refusal.code = .runRateLimited →
    ∃ ip, clientIp = some ip ∧
      countInWindow limits now (successfulLaunches limits before ip) =
        limits.runRateLimitPerIp ∧
      countInWindow limits now (successfulLaunches limits calls ip) = limits.runRateLimitPerIp
  refusedInert : ∀ before clientIp now after refusal,
    calls = before ++ .acquire clientIp now :: after →
    (replies (RunLimiter.call limits) RunLimiter.fresh calls)[before.length]? =
      some (.error refusal) →
    replies (RunLimiter.call limits) RunLimiter.fresh (before ++ after) =
      (replies (RunLimiter.call limits) RunLimiter.fresh calls).eraseIdx before.length

theorem count_successfulLaunches_le {limits : RunLimits} {calls : List LimiterCall}
    (clock : (readings calls).Pairwise (· ≤ ·)) (ip : String) (t : ℚ) :
    countInWindow limits t (successfulLaunches limits calls ip) ≤ limits.runRateLimitPerIp := by
  rw [successfulLaunches_eq_history clock]
  have whole : (readings (calls ++ [])).Pairwise (· ≤ ·) := by
    rw [List.append_nil]
    exact clock
  exact (stateAfter_windowsBounded limits calls [] whole).atMost ip t

theorem count_before_le (limits : RunLimits) (before after : List LimiterCall) (ip : String)
    (t : ℚ) :
    countInWindow limits t (successfulLaunches limits before ip) ≤
      countInWindow limits t (successfulLaunches limits (before ++ after) ip) := by
  unfold successfulLaunches
  rw [replies_append, List.zip_append (length_replies _ _).symm, List.filterMap_append,
    countInWindow_append]
  exact Nat.le_add_right _ _

theorem sliding_window_limit (limits : RunLimits) (calls : List LimiterCall)
    (clock : (readings calls).Pairwise (· ≤ ·)) : SlidingWindow limits calls := by
  constructor
  · exact count_successfulLaunches_le clock
  · rintro before clientIp now after refusal rfl refused code
    have beforeClock : (readings before).Pairwise (· ≤ ·) := by
      rw [readings_append] at clock
      exact (List.pairwise_append.mp clock).1
    rw [replies_eq_history clock, getElem?_replies_append, Option.some.injEq] at refused
    obtain ⟨ip, rfl, reached⟩ := rate_refusal_at_limit refused code
    have bounded := stateAfter_windowsBounded limits before
      (.acquire (some ip) now :: after) clock
    have exactly : countInWindow limits now (successfulLaunches limits before ip) =
        limits.runRateLimitPerIp := by
      apply Nat.le_antisymm (count_successfulLaunches_le beforeClock ip now)
      rw [successfulLaunches_eq_history beforeClock, countInWindow_eq_recent]
      · exact reached
      · intro launch member
        exact bounded.past ip launch member now List.mem_cons_self
    refine ⟨ip, rfl, exactly, ?_⟩
    apply Nat.le_antisymm (count_successfulLaunches_le clock ip now)
    calc limits.runRateLimitPerIp
        = countInWindow limits now (successfulLaunches limits before ip) := exactly.symm
      _ ≤ _ := count_before_le limits before _ ip now
  · rintro before clientIp now after refusal rfl refused
    have shortClock : (readings (before ++ after)).Pairwise (· ≤ ·) := by
      have kept : (readings (before ++ after)).Sublist
          (readings (before ++ .acquire clientIp now :: after)) := by
        rw [readings_append, readings_append]
        exact (List.Sublist.refl _).append (List.sublist_cons_self _ _)
      exact List.Pairwise.sublist kept clock
    rw [replies_eq_history clock] at refused ⊢
    rw [replies_eq_history shortClock]
    apply replies_eraseIdx_of_inert
    rw [getElem?_replies_append, Option.some.injEq] at refused
    exact LaunchHistory.call_inert refused

/-- Two launches a minute: the third is refused, and one more fits once the first aged out. -/
def twoPerMinute : RunLimits :=
  { runRateLimitPerIp := 2
    runRateLimitWindowSeconds := 60
    maxConcurrentRuns := 10
    perIp_pos := Nat.two_pos
    window_pos := Nat.zero_lt_succ 59
    concurrent_pos := Nat.zero_lt_succ 9 }

def fiveCalls : List LimiterCall :=
  [.acquire (some "ip") 0, .acquire (some "ip") 10, .acquire (some "ip") 20,
    .acquire (some "ip") (121 / 2), .acquire none 61]

theorem five_calls_sliding_window :
    (readings fiveCalls).Pairwise (· ≤ ·) ∧
      successfulLaunches twoPerMinute fiveCalls "ip" = [0, 10, 121 / 2] ∧
      SlidingWindow twoPerMinute fiveCalls := by
  have clock : (readings fiveCalls).Pairwise (· ≤ ·) := by decide +kernel
  refine ⟨clock, by decide +kernel, sliding_window_limit twoPerMinute fiveCalls clock⟩

end AcdpPlayground.Runs

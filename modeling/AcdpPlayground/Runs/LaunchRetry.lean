/-
The `retry_after` of a launch refused by the rate limit. The refused address may come back
any number of calls later, other addresses and `release` in between; what it meets then
depends on the launches of its own in the window, which the abstract limiter keeps.
-/

import AcdpPlayground.Runs.LaunchWindow

namespace AcdpPlayground.Runs

open CallSequence

def reached (limits : RunLimits) (calls : List LimiterCall) : RunLimiter :=
  stateAfter (RunLimiter.call limits) RunLimiter.fresh calls

/-- What the `retry_after` of a rate-limited call tells its address. -/
structure ExactRetry (limits : RunLimits) (before : List LimiterCall) (ip : String) (now : ℚ)
    (retryAfter : Int) : Prop where
  atLeastOne : 1 ≤ retryAfter
  sufficient : ∀ (between : List LimiterCall) (t : ℚ),
    (readings (before ++ LimiterCall.acquire (some ip) now ::
      (between ++ [LimiterCall.acquire (some ip) t]))).Pairwise (· ≤ ·) →
    (∀ other, LimiterCall.acquire (some ip) other ∉ between) → now + retryAfter ≤ t →
    ∀ refusal, ((reached limits (before ++ LimiterCall.acquire (some ip) now :: between)).acquire
      limits (some ip) t).1 = .error refusal → refusal.code ≠ .runRateLimited
  necessary : 1 < retryAfter → ∀ (between : List LimiterCall) (t : ℚ),
    (readings (before ++ LimiterCall.acquire (some ip) now ::
      (between ++ [LimiterCall.acquire (some ip) t]))).Pairwise (· ≤ ·) →
    now ≤ t → t ≤ now + retryAfter - 1 →
    ∃ refusal, ((reached limits (before ++ LimiterCall.acquire (some ip) now :: between)).acquire
      limits (some ip) t).1 = .error refusal

/-! ### The abstract limiter at a call -/

/-- The abstract limiter after a sequence of calls. -/
def recorded (limits : RunLimits) (calls : List LimiterCall) : LaunchHistory :=
  stateAfter (LaunchHistory.call limits) LaunchHistory.empty calls

theorem reached_refines {limits : RunLimits} {calls after : List LimiterCall}
    (clock : (readings (calls ++ after)).Pairwise (· ≤ ·)) :
    Refines limits (readings after) (reached limits calls) (recorded limits calls) :=
  stateAfter_related (fun upcoming => Refines limits (readings upcoming)) call_refines
    (fresh_refines clock)

theorem acquire_eq_recorded {limits : RunLimits} {calls : List LimiterCall} {ip : String} {t : ℚ}
    (clock : (readings (calls ++ [.acquire (some ip) t])).Pairwise (· ≤ ·)) :
    ((reached limits calls).acquire limits (some ip) t).1 =
      ((recorded limits calls).call limits (.acquire (some ip) t)).1 :=
  (acquire_refines (reached_refines clock)).1

theorem recent_ordered {limits : RunLimits} {calls : List LimiterCall} {ip : String} {t : ℚ}
    (clock : (readings (calls ++ [.acquire (some ip) t])).Pairwise (· ≤ ·)) :
    (recentOf limits ((recorded limits calls).launchesOf ip) t).Pairwise (· ≤ ·) := by
  have refines : Refines limits _ _ (recorded limits calls) := reached_refines clock
  rw [← refines.agree ip t List.mem_cons_self]
  exact (refines.ordered ip).sublist List.filter_sublist

theorem recent_length_le {limits : RunLimits} {calls : List LimiterCall} {ip : String} {t : ℚ}
    (clock : (readings (calls ++ [.acquire (some ip) t])).Pairwise (· ≤ ·)) :
    (recentOf limits ((recorded limits calls).launchesOf ip) t).length ≤
      limits.runRateLimitPerIp := by
  have bounded := stateAfter_windowsBounded limits calls [.acquire (some ip) t] clock
  have counted := bounded.atMost ip t
  rw [countInWindow_eq_recent] at counted
  · exact counted
  · intro launch member
    exact bounded.past ip launch member t List.mem_cons_self

theorem rate_refusal_window {limits : RunLimits} {history : LaunchHistory} {ip : String} {now : ℚ}
    {refusal : RunLimitExceeded}
    (refused : (history.call limits (.acquire (some ip) now)).1 = .error refusal)
    (code : refusal.code = .runRateLimited) :
    ∃ oldest rest, recentOf limits (history.launchesOf ip) now = oldest :: rest ∧
      limits.runRateLimitPerIp ≤ rest.length + 1 ∧
      refusal.retryAfter = max 1 ⌈oldest + limits.runRateLimitWindowSeconds - now⌉ := by
  simp only [LaunchHistory.call] at refused
  split at refused
  · cases refused
    cases code
  · split at refused
    · next full =>
        cases refused
        cases window : recentOf limits (history.launchesOf ip) now with
        | nil =>
            rw [window] at full
            exact absurd limits.perIp_pos (Nat.not_lt.mpr full)
        | cons oldest rest =>
            rw [window] at full
            exact ⟨oldest, rest, rfl, full, rfl⟩
    · cases refused

/-- A refused call is as if it had not been made. -/
theorem recorded_of_refused {limits : RunLimits} {before between : List LimiterCall}
    {call : LimiterCall} {refusal : RunLimitExceeded}
    (refused : ((recorded limits before).call limits call).1 = .error refusal) :
    recorded limits (before ++ call :: between) =
      stateAfter (LaunchHistory.call limits) (recorded limits before) between := by
  unfold recorded at refused ⊢
  rw [stateAfter_append]
  simp only [stateAfter]
  rw [LaunchHistory.call_inert refused]

theorem launchBy_of_absent {ip : String} {calls : List LimiterCall}
    (absent : ∀ other, .acquire (some ip) other ∉ calls)
    (answers : List (Except RunLimitExceeded Unit)) :
    (calls.zip answers).filterMap (launchBy ip) = [] := by
  rw [List.filterMap_eq_nil_iff]
  rintro ⟨call, answer⟩ member
  have present := (List.of_mem_zip member).1
  cases call with
  | release => rfl
  | acquire clientIp now =>
      cases clientIp with
      | none => rfl
      | some who =>
          cases answer with
          | error refusal => rfl
          | ok granted =>
              have other : who ≠ ip := fun same => absent now (same ▸ present)
              simp only [launchBy, other, if_false]

/-! ### The promise -/

theorem refused_of_full {limits : RunLimits} {history : LaunchHistory} {ip : String} {t : ℚ}
    (full : limits.runRateLimitPerIp ≤ (recentOf limits (history.launchesOf ip) t).length) :
    ∃ refusal, (history.call limits (.acquire (some ip) t)).1 = .error refusal := by
  simp only [LaunchHistory.call]
  split
  · exact ⟨_, rfl⟩
  · exact ⟨_, rfl⟩

theorem recent_length_lt {limits : RunLimits} {launches rest : List ℚ} {oldest now t : ℚ}
    (window : recentOf limits launches now = oldest :: rest) (later : now ≤ t)
    (aged : oldest + limits.runRateLimitWindowSeconds ≤ t) :
    (recentOf limits launches t).length ≤ rest.length := by
  rw [← recentOf_recentOf limits launches later, window]
  unfold recentOf
  rw [List.filter_cons_of_neg]
  · exact List.length_filter_le _ _
  · rw [decide_eq_true_eq, not_lt]
    linarith

theorem recent_kept {limits : RunLimits} {launches rest : List ℚ} {oldest now t : ℚ}
    (window : recentOf limits launches now = oldest :: rest) (later : now ≤ t)
    (ordered : (oldest :: rest).Pairwise (· ≤ ·))
    (early : t < oldest + limits.runRateLimitWindowSeconds) :
    recentOf limits launches t = oldest :: rest := by
  rw [← recentOf_recentOf limits launches later, window]
  unfold recentOf
  apply List.filter_eq_self.mpr
  intro launch member
  have least : oldest ≤ launch := by
    rcases List.mem_cons.mp member with same | after
    · exact le_of_eq same.symm
    · exact (List.pairwise_cons.mp ordered).1 launch after
  rw [decide_eq_true_eq]
  linarith

theorem retry_after_exact (limits : RunLimits) (before : List LimiterCall) (ip : String) (now : ℚ)
    (refusal : RunLimitExceeded)
    (clock : (readings (before ++ [.acquire (some ip) now])).Pairwise (· ≤ ·))
    (refused : ((reached limits before).acquire limits (some ip) now).1 = .error refusal)
    (code : refusal.code = .runRateLimited) :
    ExactRetry limits before ip now refusal.retryAfter := by
  rw [acquire_eq_recorded clock] at refused
  obtain ⟨oldest, rest, window, full, promised⟩ := rate_refusal_window refused code
  have exactly : rest.length + 1 = limits.runRateLimitPerIp := by
    have atMost : (recentOf limits ((recorded limits before).launchesOf ip) now).length ≤ _ :=
      recent_length_le clock
    rw [window] at atMost
    exact Nat.le_antisymm atMost full
  have ordered : (oldest :: rest).Pairwise (· ≤ ·) := by
    rw [← window]
    exact recent_ordered clock
  constructor
  · rw [promised]
    exact le_max_left _ _
  · intro between t whole absent waited later answered
    rw [← List.cons_append, ← List.append_assoc] at whole
    rw [acquire_eq_recorded whole, recorded_of_refused refused] at answered
    intro limited
    obtain ⟨first, others, remaining, stillFull, _⟩ := rate_refusal_window answered limited
    rw [launchesOf_stateAfter, launchBy_of_absent absent, List.append_nil] at remaining
    have reachedWindow : oldest + limits.runRateLimitWindowSeconds ≤ t := by
      have ceiling := Int.le_ceil (oldest + limits.runRateLimitWindowSeconds - now)
      have bound : (⌈oldest + limits.runRateLimitWindowSeconds - now⌉ : ℚ) ≤ refusal.retryAfter := by
        rw [promised]
        exact_mod_cast le_max_right _ _
      linarith
    have one : (1 : ℚ) ≤ refusal.retryAfter := by
      rw [promised]
      exact_mod_cast le_max_left _ _
    have fewer := recent_length_lt window (by linarith) reachedWindow
    rw [remaining, List.length_cons] at fewer
    omega
  · intro more between t whole after early
    rw [← List.cons_append, ← List.append_assoc] at whole
    rw [acquire_eq_recorded whole, recorded_of_refused refused]
    apply refused_of_full
    have rounded : refusal.retryAfter = ⌈oldest + limits.runRateLimitWindowSeconds - now⌉ := by
      omega
    have below := Int.ceil_lt_add_one (oldest + limits.runRateLimitWindowSeconds - now)
    rw [← rounded] at below
    have kept := recent_kept window after ordered (by linarith)
    rw [launchesOf_stateAfter]
    unfold recentOf at kept ⊢
    rw [List.filter_append, kept, List.length_append, List.length_cons]
    omega

def twoLaunches : List LimiterCall :=
  [.acquire (some "ip") 0, .acquire (some "ip") 10]

/-- The third launch within a minute, at 20 seconds, has to wait for 40 seconds more. -/
theorem third_launch_retry_exact : ExactRetry twoPerMinute twoLaunches "ip" 20 40 := by
  have refused : ((reached twoPerMinute twoLaunches).acquire twoPerMinute (some "ip") 20).1 =
      .error
        { code := .runRateLimited
          limit := 2
          retryAfter := 40
          message := "at most 2 runs per 60 s per client" } := by decide +kernel
  exact retry_after_exact twoPerMinute twoLaunches "ip" 20 _ (by decide +kernel) refused rfl

end AcdpPlayground.Runs

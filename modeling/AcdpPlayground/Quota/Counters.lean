/-
The counters one LLM call charges: `counters_for`, `_next_month` and `_deny` of
`playground/quota.py`.

A call charges the global day and month rows and, when per-IP limits apply, the
day and month rows of its client address. Date arithmetic that leaves the
supported years makes `countersFor` fail, as it raises in the source.
-/

import AcdpPlayground.Foundation.Calendar

namespace AcdpPlayground.Quota

open Calendar

inductive QuotaName where
  | globalDaily
  | globalMonthly
  | perIpDaily
  | perIpMonthly
  | quotaStoreUnavailable
  deriving DecidableEq

def QuotaName.text : QuotaName → String
  | .globalDaily => "global_daily"
  | .globalMonthly => "global_monthly"
  | .perIpDaily => "per_ip_daily"
  | .perIpMonthly => "per_ip_monthly"
  | .quotaStoreUnavailable => "quota_store_unavailable"

structure QuotaDenial where
  quota : QuotaName
  limit : Option Nat
  resetsAt : Option String
  deriving DecidableEq

inductive Scope where
  | globalDay
  | globalMonth
  | ipDay
  | ipMonth
  deriving DecidableEq

structure Key where
  scope : Scope
  subject : String
  windowStart : Date
  deriving DecidableEq

structure Counter where
  quota : QuotaName
  scope : Scope
  subject : String
  windowStart : Date
  limit : Nat
  resetsAt : Instant
  deriving DecidableEq

def Counter.key (counter : Counter) : Key :=
  { scope := counter.scope
    subject := counter.subject
    windowStart := counter.windowStart }

/-- The quota limits of `Settings`, each declared with `gt=0`. -/
structure QuotaSettings where
  perIpPerDay : Nat
  perIpPerMonth : Nat
  globalPerDay : Nat
  globalPerMonth : Nat
  perIpPerDayPositive : 0 < perIpPerDay
  perIpPerMonthPositive : 0 < perIpPerMonth
  globalPerDayPositive : 0 < globalPerDay
  globalPerMonthPositive : 0 < globalPerMonth

def globalSubject : String := "*"

def nextMonth (date : Date) : Option Date :=
  Date.make? (date.year + if date.month = 12 then 1 else 0) (date.month % 12 + 1) 1

/-- The counters of one call, in the order in which Postgres locks their rows. -/
def countersFor (ip : Option String) (settings : QuotaSettings) (now : Datetime) :
    Option (List Counter) := do
  let utc ← now.astimezoneUtc
  let today := utc.date
  let month := today.firstOfMonth
  let tomorrow ← today.nextDay
  let dayReset := Instant.midnight tomorrow
  let followingMonth ← nextMonth month
  let monthReset := Instant.midnight followingMonth
  let global : List Counter :=
    [⟨.globalDaily, .globalDay, globalSubject, today, settings.globalPerDay, dayReset⟩,
      ⟨.globalMonthly, .globalMonth, globalSubject, month, settings.globalPerMonth, monthReset⟩]
  match ip with
  | none => pure global
  | some address =>
      pure (global ++
        [⟨.perIpDaily, .ipDay, address, today, settings.perIpPerDay, dayReset⟩,
          ⟨.perIpMonthly, .ipMonth, address, month, settings.perIpPerMonth, monthReset⟩])

def deny (counter : Counter) : QuotaDenial :=
  { quota := counter.quota
    limit := some counter.limit
    resetsAt := some (String.ofList
      (replaceAll "+00:00".toList "Z".toList 0 counter.resetsAt.isoformat)) }

/-- One `consume` call together with the counter list it was given. -/
structure Call (settings : QuotaSettings) where
  ip : Option String
  now : Datetime
  counters : List Counter
  built : countersFor ip settings now = some counters

/-! ### What a counter list looks like -/

def QuotaSettings.limitOf (settings : QuotaSettings) : Scope → Nat
  | .globalDay => settings.globalPerDay
  | .globalMonth => settings.globalPerMonth
  | .ipDay => settings.perIpPerDay
  | .ipMonth => settings.perIpPerMonth

def Scope.rank : Scope → Nat
  | .globalDay => 0
  | .globalMonth => 1
  | .ipDay => 2
  | .ipMonth => 3

variable {settings : QuotaSettings}

theorem countersFor_eq_some {ip : Option String} {now : Datetime} {counters : List Counter}
    (built : countersFor ip settings now = some counters) :
    ∃ utc tomorrow followingMonth, now.astimezoneUtc = some utc ∧
      utc.date.nextDay = some tomorrow ∧
      nextMonth utc.date.firstOfMonth = some followingMonth ∧
      counters =
        [⟨.globalDaily, .globalDay, globalSubject, utc.date, settings.globalPerDay,
            Instant.midnight tomorrow⟩,
          ⟨.globalMonthly, .globalMonth, globalSubject, utc.date.firstOfMonth,
            settings.globalPerMonth, Instant.midnight followingMonth⟩] ++
        ip.elim [] (fun address =>
          [⟨.perIpDaily, .ipDay, address, utc.date, settings.perIpPerDay,
              Instant.midnight tomorrow⟩,
            ⟨.perIpMonthly, .ipMonth, address, utc.date.firstOfMonth, settings.perIpPerMonth,
              Instant.midnight followingMonth⟩]) := by
  obtain ⟨utc, utcAt, afterUtc⟩ := Option.bind_eq_some_iff.mp built
  obtain ⟨tomorrow, tomorrowAt, afterDay⟩ := Option.bind_eq_some_iff.mp afterUtc
  obtain ⟨followingMonth, monthAt, rest⟩ := Option.bind_eq_some_iff.mp afterDay
  refine ⟨utc, tomorrow, followingMonth, utcAt, tomorrowAt, monthAt, ?_⟩
  cases ip with
  | none => exact (Option.some.inj rest).symm
  | some address => exact (Option.some.inj rest).symm

theorem Call.scopes_ascending (call : Call settings) :
    call.counters.Pairwise (fun earlier later => earlier.scope.rank < later.scope.rank) := by
  obtain ⟨utc, tomorrow, followingMonth, _, _, _, shape⟩ := countersFor_eq_some call.built
  rw [shape]
  cases call.ip with
  | none => simp [Scope.rank]
  | some address => simp [Scope.rank]

theorem Call.keys_nodup (call : Call settings) : (call.counters.map Counter.key).Nodup := by
  rw [List.Nodup, List.pairwise_map]
  apply call.scopes_ascending.imp
  intro earlier later below same
  have scopes : earlier.scope = later.scope := congrArg Key.scope same
  rw [scopes] at below
  exact Nat.lt_irrefl _ below

/-- Equal keys carry equal limits, whichever calls they come from. -/
theorem Call.limit_eq (call : Call settings) {counter : Counter}
    (member : counter ∈ call.counters) : counter.limit = settings.limitOf counter.key.scope := by
  obtain ⟨utc, tomorrow, followingMonth, _, _, _, shape⟩ := countersFor_eq_some call.built
  rw [shape] at member
  cases ipAt : call.ip with
  | none =>
      rw [ipAt] at member
      simp only [Option.elim, List.append_nil, List.mem_cons, List.not_mem_nil, or_false] at member
      rcases member with rfl | rfl <;> rfl
  | some address =>
      rw [ipAt] at member
      simp only [Option.elim, List.cons_append, List.nil_append, List.mem_cons, List.not_mem_nil,
        or_false] at member
      rcases member with rfl | rfl | rfl | rfl <;> rfl

theorem Call.windowStart_ge (call : Call settings) {utc : Instant}
    (utcAt : call.now.astimezoneUtc = some utc) {counter : Counter}
    (member : counter ∈ call.counters) : utc.date.firstOfMonth ≤ counter.windowStart := by
  obtain ⟨sameUtc, tomorrow, followingMonth, sameAt, _, _, shape⟩ := countersFor_eq_some call.built
  rw [utcAt] at sameAt
  cases sameAt
  rw [shape] at member
  have day := Date.firstOfMonth_le utc.date
  have month := Date.le_refl utc.date.firstOfMonth
  cases ipAt : call.ip with
  | none =>
      rw [ipAt] at member
      simp only [Option.elim, List.append_nil, List.mem_cons, List.not_mem_nil, or_false] at member
      rcases member with rfl | rfl
      · exact day
      · exact month
  | some address =>
      rw [ipAt] at member
      simp only [Option.elim, List.cons_append, List.nil_append, List.mem_cons, List.not_mem_nil,
        or_false] at member
      rcases member with rfl | rfl | rfl | rfl
      · exact day
      · exact month
      · exact day
      · exact month

/-! ### The shipped limits and two concrete calls -/

def defaultQuotas : QuotaSettings :=
  { perIpPerDay := 30
    perIpPerMonth := 300
    globalPerDay := 1000
    globalPerMonth := 10000
    perIpPerDayPositive := Nat.succ_pos _
    perIpPerMonthPositive := Nat.succ_pos _
    globalPerDayPositive := Nat.succ_pos _
    globalPerMonthPositive := Nat.succ_pos _ }

def singleQuotas : QuotaSettings :=
  { defaultQuotas with
    perIpPerDay := 1
    perIpPerDayPositive := Nat.succ_pos _ }

def novemberNoon : Instant :=
  { date := ⟨2026, 11, 7, by decide, by decide, by decide⟩
    micros := 43200000000
    inDay := by decide }

def novemberCall (settings : QuotaSettings) : Call settings :=
  { ip := some "198.51.100.1"
    now := novemberNoon.toDatetime
    counters :=
      let today := novemberNoon.date
      let month : Date := ⟨2026, 11, 1, by decide, by decide, by decide⟩
      let dayReset := Instant.midnight ⟨2026, 11, 8, by decide, by decide, by decide⟩
      let monthReset := Instant.midnight ⟨2026, 12, 1, by decide, by decide, by decide⟩
      [⟨.globalDaily, .globalDay, "*", today, settings.globalPerDay, dayReset⟩,
        ⟨.globalMonthly, .globalMonth, "*", month, settings.globalPerMonth, monthReset⟩,
        ⟨.perIpDaily, .ipDay, "198.51.100.1", today, settings.perIpPerDay, dayReset⟩,
        ⟨.perIpMonthly, .ipMonth, "198.51.100.1", month, settings.perIpPerMonth, monthReset⟩]
    built := by
      unfold countersFor
      rw [Instant.astimezoneUtc_toDatetime]
      rfl }

/-- A day later, from the same address. -/
def nextNoon : Instant :=
  { date := ⟨2026, 11, 8, by decide, by decide, by decide⟩
    micros := 43200000000
    inDay := by decide }

def nextNoonCall (settings : QuotaSettings) : Call settings :=
  { ip := some "198.51.100.1"
    now := nextNoon.toDatetime
    counters :=
      let today := nextNoon.date
      let month : Date := ⟨2026, 11, 1, by decide, by decide, by decide⟩
      let dayReset := Instant.midnight ⟨2026, 11, 9, by decide, by decide, by decide⟩
      let monthReset := Instant.midnight ⟨2026, 12, 1, by decide, by decide, by decide⟩
      [⟨.globalDaily, .globalDay, "*", today, settings.globalPerDay, dayReset⟩,
        ⟨.globalMonthly, .globalMonth, "*", month, settings.globalPerMonth, monthReset⟩,
        ⟨.perIpDaily, .ipDay, "198.51.100.1", today, settings.perIpPerDay, dayReset⟩,
        ⟨.perIpMonthly, .ipMonth, "198.51.100.1", month, settings.perIpPerMonth, monthReset⟩]
    built := by
      unfold countersFor
      rw [Instant.astimezoneUtc_toDatetime]
      rfl }

end AcdpPlayground.Quota

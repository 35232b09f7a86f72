/-
The two quota stores on one serial history.

A history is a list of `consume` calls and process restarts. The counters of a
call are built at one instant and the pool may be opened a moment later, within
the deadline that `check_llm_quota` puts on the whole check; the prune of a
restart therefore reads a clock that can already be in the next month. The
in-process store never restarts in such a history.
-/

import AcdpPlayground.Quota.PostgresStore

namespace AcdpPlayground.Quota

open Calendar LockedTransactions

variable {settings : QuotaSettings}

inductive StoreEvent (settings : QuotaSettings) where
  | restart
  | consume (call : Call settings) (clock : SystemClock)

/-- `QUOTA_CHECK_TIMEOUT_S` in microseconds. -/
def quotaCheckTimeout : Nat := 10000000

/-- Calls come in the order of their instants, and a pool opened for a call is
opened before the deadline of that call. -/
def ClockOrdered : Option Instant → List (StoreEvent settings) → Prop
  | _, [] => True
  | last, .restart :: rest => ClockOrdered last rest
  | last, .consume call clock :: rest =>
      ∃ utc deadline, call.now.astimezoneUtc = some utc ∧
        (∀ earlier, last = some earlier → earlier ≤ utc) ∧
        utc.addMicros quotaCheckTimeout (by decide) = some deadline ∧
        clock.instant ≤ deadline ∧ ClockOrdered (some utc) rest

/-- The day after the last day of the window a key counts. -/
def Key.windowEnd (key : Key) : Option Date :=
  match key.scope with
  | .globalDay => key.windowStart.nextDay
  | .globalMonth => nextMonth key.windowStart
  | .ipDay => key.windowStart.nextDay
  | .ipMonth => nextMonth key.windowStart

def Key.Live (key : Key) (now : Datetime) : Prop :=
  ∃ utc windowEnd, now.astimezoneUtc = some utc ∧ key.windowEnd = some windowEnd ∧
    utc.date < windowEnd

/-- Both stores reply alike to every call, and after it hold the same count for
every key whose window is still live. -/
def StoresAgree (postgres : PostgresQuotaStore) (memory : Counts) :
    List (StoreEvent settings) → Prop
  | [] => True
  | .restart :: rest => StoresAgree postgres.restart memory rest
  | .consume call clock :: rest =>
      (postgres.consume clock call.counters).1 =
          .ok (MemoryQuotaStore.consume memory call.counters).1 ∧
        (∀ key, key.Live call.now →
          PostgresQuotaStore.rowCount ((postgres.consume clock call.counters).2.table key) =
            (MemoryQuotaStore.consume memory call.counters).2 key) ∧
        StoresAgree (postgres.consume clock call.counters).2
          (MemoryQuotaStore.consume memory call.counters).2 rest

/-- No call finds, as its first full counter, one whose limit is the largest
value of the `calls` column. -/
def BelowIntegerCeiling (memory : Counts) : List (StoreEvent settings) → Prop
  | [] => True
  | .restart :: rest => BelowIntegerCeiling memory rest
  | .consume call _ :: rest =>
      (∀ counter, MemoryQuotaStore.FirstFull memory call.counters counter →
        counter.limit ≠ int4Max) ∧
        BelowIntegerCeiling (MemoryQuotaStore.consume memory call.counters).2 rest

/-! ### Live windows survive the prune -/

theorem live_windowStart_ge {key : Key} {now : Datetime} {utc : Instant}
    (live : key.Live now) (utcAt : now.astimezoneUtc = some utc) :
    utc.date.firstOfMonth ≤ key.windowStart := by
  obtain ⟨sameUtc, windowEnd, sameAt, endAt, open_⟩ := live
  rw [utcAt] at sameAt
  cases sameAt
  have dayCase (next : key.windowStart.nextDay = some windowEnd) :
      utc.date.firstOfMonth ≤ key.windowStart :=
    Date.le_trans (Date.firstOfMonth_le utc.date) (Date.le_of_lt_nextDay next open_)
  have monthCase (next : nextMonth key.windowStart = some windowEnd) :
      utc.date.firstOfMonth ≤ key.windowStart := by
    obtain ⟨years, months, days⟩ := Date.make?_eq_some next
    have monthRange := key.windowStart.monthRange
    have dayRange := key.windowStart.dayRange
    have todayMonth := utc.date.monthRange
    have todayDay := utc.date.dayRange
    rw [Date.le_iff_code]
    rw [Date.lt_iff_code] at open_
    change (utc.date.year * 13 + utc.date.month) * 32 + 1 ≤ key.windowStart.code
    unfold Date.code at open_ ⊢
    split_ifs at years <;> omega
  unfold Key.windowEnd at endAt
  cases scopeAt : key.scope with
  | globalDay => rw [scopeAt] at endAt; exact dayCase endAt
  | globalMonth => rw [scopeAt] at endAt; exact monthCase endAt
  | ipDay => rw [scopeAt] at endAt; exact dayCase endAt
  | ipMonth => rw [scopeAt] at endAt; exact monthCase endAt

/-- The stores hold the same counts from the month of the last call on. -/
def Synced (last : Option Instant) (table : Table) (memory : Counts) : Prop :=
  ∀ key, (∀ earlier, last = some earlier → earlier.date.firstOfMonth ≤ key.windowStart) →
    PostgresQuotaStore.rowCount (table key) = memory key

theorem Synced.at_call {last : Option Instant} {table : Table} {memory : Counts}
    (synced : Synced last table memory) {utc : Instant}
    (after : ∀ earlier, last = some earlier → earlier ≤ utc) {key : Key}
    (recent : utc.date.firstOfMonth ≤ key.windowStart) :
    PostgresQuotaStore.rowCount (table key) = memory key := by
  apply synced key
  intro earlier lastAt
  have month := Date.firstOfMonth_mono (Instant.date_le (after earlier lastAt))
  exact Date.le_trans month recent

theorem getPool_keeps_recent (store : PostgresQuotaStore) (clock : SystemClock)
    {utc deadline : Instant}
    (deadlineAt : utc.addMicros quotaCheckTimeout (by decide) = some deadline)
    (inTime : clock.instant ≤ deadline) (hasNext : utc.date.nextDay.isSome = true) :
    ∃ ready, store.getPool clock = .ok ready ∧
      ∀ key, utc.date.firstOfMonth ≤ key.windowStart → ready.table key = store.table key := by
  unfold PostgresQuotaStore.getPool
  split
  · exact ⟨store, rfl, fun _ _ => rfl⟩
  · have epoch := clock.sinceEpoch
    obtain ⟨cutoff, cutoffAt⟩ := Date.subDays_exists clock.instant.date.firstOfMonth 62
      (by change 62 < clock.instant.date.year; omega)
    rw [cutoffAt]
    refine ⟨_, rfl, ?_⟩
    intro key recent
    obtain ⟨next, nextAt⟩ := Option.isSome_iff_exists.mp hasNext
    have near : clock.instant.date ≤ next := by
      have order := Instant.date_le inTime
      rcases Instant.addMicros_date deadlineAt with sameDay | nextDay
      · rw [sameDay] at order
        have advance := Date.previousDay_lt (Date.previousDay_nextDay nextAt)
        exact Date.le_trans order (Or.inl advance)
      · rw [nextAt] at nextDay
        rw [Option.some.inj nextDay]
        exact order
    have cutoffOld := Date.subDays_firstOfMonth_le nextAt near (by decide) cutoffAt
    have kept : ¬ key.windowStart < cutoff :=
      Date.not_lt.mpr (Date.le_trans cutoffOld recent)
    exact if_neg kept

/-! ### One call on both stores -/

theorem firstFault_of_available {table : Table} {memory : Counts} {counters : List Counter}
    (same : ∀ counter ∈ counters,
      PostgresQuotaStore.rowCount (table counter.key) = memory counter.key)
    (fits : ∀ counter ∈ counters, counter.limit ≤ int4Max)
    (available : MemoryQuotaStore.firstExhausted memory counters = none) :
    PostgresQuotaStore.firstFault table counters = none := by
  rw [PostgresQuotaStore.firstFault_eq_none]
  intro counter member
  have below := MemoryQuotaStore.firstExhausted_eq_none.mp available counter member
  have bound := fits counter member
  rw [same counter member]
  omega

/-- At a full counter the increment is refused by the limit, or by the column
when the limit is the largest value the column holds. -/
theorem firstFault_of_exhausted {table : Table} {memory : Counts} {counters : List Counter}
    {counter : Counter}
    (same : ∀ counter ∈ counters,
      PostgresQuotaStore.rowCount (table counter.key) = memory counter.key)
    (fits : ∀ counter ∈ counters, counter.limit ≤ int4Max)
    (within : ∀ counter ∈ counters, memory counter.key ≤ counter.limit)
    (found : MemoryQuotaStore.firstExhausted memory counters = some counter) :
    PostgresQuotaStore.firstFault table counters =
      if counter.limit = int4Max then some (.raised .integerOutOfRange)
      else some (.overLimit counter) := by
  obtain ⟨before, after, split, below, atLimit⟩ :=
    MemoryQuotaStore.firstExhausted_eq_some.mp found
  have inBefore (earlier : Counter) (member : earlier ∈ before) : earlier ∈ counters := by
    rw [split]
    exact List.mem_append_left _ member
  have here : counter ∈ counters := by
    rw [split]
    exact List.mem_append_right _ List.mem_cons_self
  have clear : PostgresQuotaStore.firstFault table before = none := by
    rw [PostgresQuotaStore.firstFault_eq_none]
    intro earlier member
    have room := below earlier member
    have bound := fits earlier (inBefore earlier member)
    rw [same earlier (inBefore earlier member)]
    omega
  have full : PostgresQuotaStore.rowCount (table counter.key) = counter.limit := by
    have upper := within counter here
    rw [same counter here]
    omega
  have bound := fits counter here
  rw [PostgresQuotaStore.firstFault] at clear ⊢
  rw [split, List.findSome?_append, clear, Option.none_or, List.findSome?_cons, full,
    PostgresQuotaStore.faultAt]
  by_cases ceiling : counter.limit = int4Max
  · rw [if_pos ceiling, if_pos (by omega)]
  · rw [if_neg ceiling, if_neg (by omega), if_pos (by omega)]

/-- The tables stay synchronised whatever the call's outcome, and the replies
are equal exactly below the integer ceiling. -/
theorem consume_step {last : Option Instant} {postgres : PostgresQuotaStore} {memory : Counts}
    {call : Call settings} {clock : SystemClock} {utc deadline : Instant}
    (int4 : ∀ scope, settings.limitOf scope ≤ int4Max)
    (within : MemoryQuotaStore.WithinLimits settings memory)
    (synced : Synced last postgres.table memory)
    (utcAt : call.now.astimezoneUtc = some utc)
    (after : ∀ earlier, last = some earlier → earlier ≤ utc)
    (deadlineAt : utc.addMicros quotaCheckTimeout (by decide) = some deadline)
    (inTime : clock.instant ≤ deadline) :
    Synced (some utc) (postgres.consume clock call.counters).2.table
        (MemoryQuotaStore.consume memory call.counters).2 ∧
      ((postgres.consume clock call.counters).1 =
          .ok (MemoryQuotaStore.consume memory call.counters).1 ↔
        ∀ counter, MemoryQuotaStore.FirstFull memory call.counters counter →
          counter.limit ≠ int4Max) := by
  have hasNext : utc.date.nextDay.isSome = true := by
    obtain ⟨sameUtc, tomorrow, _, sameAt, nextAt, _, _⟩ := countersFor_eq_some call.built
    rw [utcAt] at sameAt
    cases sameAt
    rw [nextAt]
    rfl
  obtain ⟨ready, readyAt, kept⟩ := getPool_keeps_recent postgres clock deadlineAt inTime hasNext
  have recentSame (key : Key) (recent : utc.date.firstOfMonth ≤ key.windowStart) :
      PostgresQuotaStore.rowCount (ready.table key) = memory key := by
    rw [kept key recent]
    exact synced.at_call after recent
  have callSame : ∀ counter ∈ call.counters,
      PostgresQuotaStore.rowCount (ready.table counter.key) = memory counter.key :=
    fun counter member => recentSame counter.key (call.windowStart_ge utcAt member)
  have fits : ∀ counter ∈ call.counters, counter.limit ≤ int4Max := by
    intro counter member
    rw [call.limit_eq member]
    exact int4 _
  have bounded : ∀ counter ∈ call.counters, memory counter.key ≤ counter.limit := by
    intro counter member
    rw [call.limit_eq member]
    exact within _
  have recentOf (key : Key)
      (recent : ∀ earlier, some utc = some earlier → earlier.date.firstOfMonth ≤ key.windowStart) :
      utc.date.firstOfMonth ≤ key.windowStart := recent utc rfl
  simp only [PostgresQuotaStore.consume, readyAt]
  rcases MemoryQuotaStore.consume_cases memory call.counters with
    ⟨counter, found, replied⟩ | ⟨available, replied⟩
  · have fault := firstFault_of_exhausted callSame fits bounded found
    rcases PostgresQuotaStore.transact_cases ready.table call.counters call.keys_nodup with
      ⟨met, metAt, done⟩ | ⟨clear, _⟩
    · rw [done, replied]
      refine ⟨fun key recent => recentSame key (recentOf key recent), ?_⟩
      rw [metAt] at fault
      constructor
      · intro sameReply other otherFull
        have otherFound := MemoryQuotaStore.firstExhausted_eq_some.mpr otherFull
        rw [found] at otherFound
        cases otherFound
        intro ceiling
        rw [if_pos ceiling] at fault
        cases fault
        cases sameReply
      · intro below
        rw [if_neg (below counter (MemoryQuotaStore.firstExhausted_eq_some.mp found))] at fault
        cases fault
        rfl
    · rw [clear] at fault
      split_ifs at fault
  · have clear := firstFault_of_available callSame fits available
    rcases PostgresQuotaStore.transact_cases ready.table call.counters call.keys_nodup with
      ⟨met, metAt, _⟩ | ⟨_, done⟩
    · rw [clear] at metAt
      cases metAt
    · rw [done, replied]
      refine ⟨?_, fun _ counter full => ?_, fun _ => rfl⟩
      · intro key recent
        change PostgresQuotaStore.rowCount (PostgresQuotaStore.bumped ready.table call.counters key) =
          MemoryQuotaStore.charge memory call.counters key
        rw [PostgresQuotaStore.bumped_apply _ _ call.keys_nodup,
          MemoryQuotaStore.charge_apply _ _ _ call.keys_nodup,
          recentSame key (recentOf key recent)]
      · have found := MemoryQuotaStore.firstExhausted_eq_some.mpr full
        rw [available] at found
        cases found

/-! ### Whole histories -/

theorem storesAgree_iff {last : Option Instant} {postgres : PostgresQuotaStore}
    {memory : Counts} (int4 : ∀ scope, settings.limitOf scope ≤ int4Max)
    (within : MemoryQuotaStore.WithinLimits settings memory)
    (synced : Synced last postgres.table memory) (events : List (StoreEvent settings))
    (ordered : ClockOrdered last events) :
    StoresAgree postgres memory events ↔ BelowIntegerCeiling memory events := by
  induction events generalizing last postgres memory with
  | nil => exact Iff.rfl
  | cons event rest ih =>
      cases event with
      | restart =>
          change StoresAgree postgres.restart memory rest ↔ BelowIntegerCeiling memory rest
          exact ih within synced ordered
      | consume call clock =>
          obtain ⟨utc, deadline, utcAt, after, deadlineAt, inTime, later⟩ := ordered
          obtain ⟨resynced, replies⟩ :=
            consume_step int4 within synced utcAt after deadlineAt inTime
          have rest := ih (MemoryQuotaStore.withinLimits_consume within call) resynced later
          have live (key : Key) (open_ : key.Live call.now) :
              PostgresQuotaStore.rowCount ((postgres.consume clock call.counters).2.table key) =
                (MemoryQuotaStore.consume memory call.counters).2 key := by
            apply resynced key
            intro earlier same
            cases same
            exact live_windowStart_ge open_ utcAt
          simp only [StoresAgree, BelowIntegerCeiling]
          rw [replies, rest]
          exact ⟨fun all => ⟨all.1, all.2.2⟩, fun both => ⟨both.1, live, both.2⟩⟩

theorem fresh_storesAgree_iff (int4 : ∀ scope, settings.limitOf scope ≤ int4Max)
    (events : List (StoreEvent settings)) (ordered : ClockOrdered none events) :
    StoresAgree PostgresQuotaStore.fresh emptyCounts events ↔
      BelowIntegerCeiling emptyCounts events :=
  storesAgree_iff int4 (fun _ => Nat.zero_le _) (fun _ _ => rfl) events ordered

/-- With limits the column can hold, the two stores agree on a history exactly
when no call of it meets a full counter at the integer ceiling. -/
theorem stores_agree_iff_below_ceiling
    (representable : ∀ scope, settings.limitOf scope < 2147483648)
    (events : List (StoreEvent settings)) (ordered : ClockOrdered none events) :
    StoresAgree PostgresQuotaStore.fresh emptyCounts events ↔
      BelowIntegerCeiling emptyCounts events := by
  apply fresh_storesAgree_iff _ events ordered
  intro scope
  have bound := representable scope
  unfold int4Max
  omega

theorem belowIntegerCeiling_of_limits (smaller : ∀ scope, settings.limitOf scope ≠ int4Max)
    (memory : Counts) (events : List (StoreEvent settings)) :
    BelowIntegerCeiling memory events := by
  induction events generalizing memory with
  | nil => trivial
  | cons event rest ih =>
      cases event with
      | restart => exact ih memory
      | consume call clock =>
          refine ⟨?_, ih _⟩
          rintro counter ⟨before, after, split, _, _⟩
          have member : counter ∈ call.counters := by
            rw [split]
            exact List.mem_append_right _ List.mem_cons_self
          rw [call.limit_eq member]
          exact smaller _

def novemberClock : SystemClock :=
  { instant := novemberNoon
    sinceEpoch := by decide }

theorem clockOrdered_november (settings : QuotaSettings) {events : List (StoreEvent settings)}
    (only : ∀ event ∈ events,
      event = .restart ∨ event = .consume (novemberCall settings) novemberClock)
    (last : Option Instant) (known : ∀ earlier, last = some earlier → earlier = novemberNoon) :
    ClockOrdered last events := by
  induction events generalizing last with
  | nil => trivial
  | cons event rest ih =>
      have later := fun other member => only other (List.mem_cons_of_mem _ member)
      rcases only event List.mem_cons_self with rfl | rfl
      · exact ih later last known
      · have inDay : novemberNoon.micros + quotaCheckTimeout < dayMicros := by
          change 43200000000 + 10000000 < 86400000000
          omega
        refine ⟨novemberNoon, ⟨novemberNoon.date, novemberNoon.micros + quotaCheckTimeout, inDay⟩,
          Instant.astimezoneUtc_toDatetime novemberNoon, ?_, dif_pos inDay,
          Or.inr ⟨rfl, Nat.le_add_right _ _⟩,
          ih later (some novemberNoon) (fun _ same => (Option.some.inj same).symm)⟩
        intro earlier lastAt
        rw [known earlier lastAt]
        exact Or.inr ⟨rfl, Nat.le_refl _⟩

theorem defaultQuotas_representable (scope : Scope) : defaultQuotas.limitOf scope < 2147483648 := by
  cases scope <;> decide

theorem defaultQuotas_ne_int4Max (scope : Scope) : defaultQuotas.limitOf scope ≠ int4Max := by
  cases scope <;> decide

/-- The per-address limit is reached after the restart. -/
def restartedNovember : List (StoreEvent defaultQuotas) :=
  List.replicate 20 (.consume (novemberCall defaultQuotas) novemberClock) ++
    .restart :: List.replicate 20 (.consume (novemberCall defaultQuotas) novemberClock)

theorem stores_agree_november :
    StoresAgree PostgresQuotaStore.fresh emptyCounts restartedNovember := by
  have only : ∀ event ∈ restartedNovember,
      event = .restart ∨ event = .consume (novemberCall defaultQuotas) novemberClock := by
    intro event member
    rcases List.mem_append.mp member with before | behind
    · exact .inr (List.eq_of_mem_replicate before)
    · rcases List.mem_cons.mp behind with isRestart | after
      · exact .inl isRestart
      · exact .inr (List.eq_of_mem_replicate after)
  exact (stores_agree_iff_below_ceiling defaultQuotas_representable _
    (clockOrdered_november defaultQuotas only none (fun _ missing => by cases missing))).mpr
    (belowIntegerCeiling_of_limits defaultQuotas_ne_int4Max _ _)

/-- A run of equal calls that starts with `remaining` units left below the
ceiling meets it. -/
theorem not_belowIntegerCeiling_replicate (call : Call settings) (clock : SystemClock)
    (nonempty : call.counters ≠ []) (remaining : Nat) (memory : Counts)
    (atCeiling : ∀ counter ∈ call.counters,
      memory counter.key + remaining = int4Max ∧ counter.limit = int4Max) :
    ¬ BelowIntegerCeiling memory (List.replicate (remaining + 1) (.consume call clock)) := by
  induction remaining generalizing memory with
  | zero =>
      intro below
      cases countersAt : call.counters with
      | nil => exact nonempty countersAt
      | cons counter rest =>
          have full := atCeiling counter (by rw [countersAt]; exact List.mem_cons_self)
          refine below.1 counter ⟨[], rest, countersAt, ?_, by omega⟩ full.2
          intro earlier absent
          cases absent
  | succ remaining ih =>
      rw [List.replicate_succ]
      rintro ⟨_, below⟩
      have available : MemoryQuotaStore.firstExhausted memory call.counters = none := by
        rw [MemoryQuotaStore.firstExhausted_eq_none]
        intro counter member
        have room := atCeiling counter member
        omega
      have admitted : (MemoryQuotaStore.consume memory call.counters).2 =
          MemoryQuotaStore.charge memory call.counters := by
        rw [MemoryQuotaStore.consume, available]
      rw [admitted] at below
      apply ih _ _ below
      intro counter member
      have room := atCeiling counter member
      rw [MemoryQuotaStore.charge_apply _ _ _ call.keys_nodup,
        if_pos (List.mem_map.mpr ⟨counter, member, rfl⟩)]
      omega

/-- Limits at the largest value of the `calls` column, all below `2147483648`. -/
def ceilingQuotas : QuotaSettings :=
  { perIpPerDay := int4Max
    perIpPerMonth := int4Max
    globalPerDay := int4Max
    globalPerMonth := int4Max
    perIpPerDayPositive := Nat.succ_pos _
    perIpPerMonthPositive := Nat.succ_pos _
    globalPerDayPositive := Nat.succ_pos _
    globalPerMonthPositive := Nat.succ_pos _ }

theorem ceilingQuotas_limitOf (scope : Scope) : ceilingQuotas.limitOf scope = int4Max := by
  cases scope <;> rfl

/-- The call after the column is full is refused by name in memory and raises in
Postgres. -/
theorem stores_disagree_at_ceiling :
    (∀ scope, ceilingQuotas.limitOf scope < 2147483648) ∧
      ClockOrdered none (List.replicate (int4Max + 1)
        (StoreEvent.consume (novemberCall ceilingQuotas) novemberClock)) ∧
      ¬ StoresAgree PostgresQuotaStore.fresh emptyCounts (List.replicate (int4Max + 1)
        (StoreEvent.consume (novemberCall ceilingQuotas) novemberClock)) := by
  have ordered : ClockOrdered none (List.replicate (int4Max + 1)
      (StoreEvent.consume (novemberCall ceilingQuotas) novemberClock)) :=
    clockOrdered_november ceilingQuotas (fun _ member => .inr (List.eq_of_mem_replicate member))
      none (fun _ missing => by cases missing)
  refine ⟨?_, ordered, ?_⟩
  · intro scope
    rw [ceilingQuotas_limitOf]
    decide
  · rw [fresh_storesAgree_iff (fun scope => Nat.le_of_eq (ceilingQuotas_limitOf scope)) _ ordered]
    apply not_belowIntegerCeiling_replicate
    · obtain ⟨utc, tomorrow, followingMonth, _, _, _, shape⟩ :=
        countersFor_eq_some (novemberCall ceilingQuotas).built
      rw [shape]
      exact List.cons_ne_nil _ _
    · intro counter member
      refine ⟨Nat.zero_add _, ?_⟩
      rw [(novemberCall ceilingQuotas).limit_eq member, ceilingQuotas_limitOf]

end AcdpPlayground.Quota

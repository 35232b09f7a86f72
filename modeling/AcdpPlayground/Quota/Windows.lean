/-
The windows of the counters, and the promise that a denial makes with its `resets_at`.
The days and the months tile the calendar, so a counter keeps its key up to the instant it
names and not beyond; the store then refuses until that instant and has room after it.
-/

import AcdpPlayground.Quota.MemoryStore

namespace AcdpPlayground.Quota

open Calendar

/-! ### Scopes -/

/-- The first day of the window that a day falls into. -/
def Scope.start : Scope → Date → Date
  | .globalDay | .ipDay => id
  | .globalMonth | .ipMonth => Date.firstOfMonth

def Scope.quota : Scope → QuotaName
  | .globalDay => .globalDaily
  | .globalMonth => .globalMonthly
  | .ipDay => .perIpDaily
  | .ipMonth => .perIpMonthly

/-- Whom a call of `ip` charges in a scope, if anybody. -/
def Scope.subjectFor : Scope → Option String → Option String
  | .globalDay, _ | .globalMonth, _ => some globalSubject
  | .ipDay, ip | .ipMonth, ip => ip

variable {settings : QuotaSettings}

/-- Every counter by its scope. -/
structure CounterSpec (settings : QuotaSettings) (ip : Option String) (today : Date)
    (counter : Counter) : Prop where
  quota : counter.quota = counter.scope.quota
  subject : counter.scope.subjectFor ip = some counter.subject
  start : counter.windowStart = counter.scope.start today
  limit : counter.limit = settings.limitOf counter.scope
  window : ∃ next, counter.resetsAt = Instant.midnight next ∧
    Window counter.scope.start today next

theorem counter_spec {ip : Option String} {now : Datetime} {utc : Instant}
    {counters : List Counter} (built : countersFor ip settings now = some counters)
    (utcAt : now.astimezoneUtc = some utc) {counter : Counter} (member : counter ∈ counters) :
    CounterSpec settings ip utc.date counter := by
  obtain ⟨same, tomorrow, followingMonth, sameAt, tomorrowAt, monthAt, shape⟩ :=
    countersFor_eq_some built
  rw [utcAt] at sameAt
  cases sameAt
  have day := day_window tomorrowAt
  have month : Window Date.firstOfMonth utc.date followingMonth := month_window monthAt
  rw [shape] at member
  rcases List.mem_append.mp member with global | own
  · simp only [List.mem_cons, List.not_mem_nil, or_false] at global
    rcases global with rfl | rfl
    · exact ⟨rfl, rfl, rfl, rfl, tomorrow, rfl, day⟩
    · exact ⟨rfl, rfl, rfl, rfl, followingMonth, rfl, month⟩
  · cases ip with
    | none => cases own
    | some address =>
        simp only [Option.elim, List.mem_cons, List.not_mem_nil, or_false] at own
        rcases own with rfl | rfl
        · exact ⟨rfl, rfl, rfl, rfl, tomorrow, rfl, day⟩
        · exact ⟨rfl, rfl, rfl, rfl, followingMonth, rfl, month⟩

theorem counter_of_scope {ip : Option String} {now : Datetime} {counters : List Counter}
    (built : countersFor ip settings now = some counters) (scope : Scope) {subject : String}
    (charged : scope.subjectFor ip = some subject) :
    ∃ counter ∈ counters, counter.scope = scope ∧ counter.subject = subject := by
  obtain ⟨utc, tomorrow, followingMonth, _, _, _, shape⟩ := countersFor_eq_some built
  rw [shape]
  cases scope with
  | globalDay =>
      cases charged
      exact ⟨_, List.mem_append_left _ List.mem_cons_self, rfl, rfl⟩
  | globalMonth =>
      cases charged
      exact ⟨_, List.mem_append_left _ (List.mem_cons_of_mem _ List.mem_cons_self), rfl, rfl⟩
  | ipDay =>
      change ip = some subject at charged
      subst charged
      exact ⟨_, List.mem_append_right _ List.mem_cons_self, rfl, rfl⟩
  | ipMonth =>
      change ip = some subject at charged
      subst charged
      exact ⟨_, List.mem_append_right _ (List.mem_cons_of_mem _ List.mem_cons_self), rfl, rfl⟩

/-- The counters exist up to the last month of the last year. -/
theorem countersFor_exists (settings : QuotaSettings) (ip : Option String) {now : Datetime} {utc : Instant}
    (utcAt : now.astimezoneUtc = some utc) (early : utc.date.year < 9999 ∨ utc.date.month < 12) :
    ∃ counters, countersFor ip settings now = some counters := by
  obtain ⟨tomorrow, tomorrowAt⟩ := Date.nextDay_exists early
  obtain ⟨followingMonth, monthAt⟩ := Date.nextMonth_exists early
  have month : nextMonth utc.date.firstOfMonth = some followingMonth := monthAt
  simp only [countersFor, utcAt, Option.bind_eq_bind, Option.bind_some, tomorrowAt, month]
  cases ip with
  | none => exact ⟨_, rfl⟩
  | some address => exact ⟨_, rfl⟩

/-! ### One counter and the time line -/

theorem Scope.start_month (scope : Scope) {left right : Date}
    (same : scope.start left = scope.start right) :
    left.year = right.year ∧ left.month = right.month := by
  cases scope with
  | globalDay => exact ⟨congrArg Date.year same, congrArg Date.month same⟩
  | ipDay => exact ⟨congrArg Date.year same, congrArg Date.month same⟩
  | globalMonth =>
      have years := congrArg Date.year same
      have months := congrArg Date.month same
      exact ⟨years, months⟩
  | ipMonth =>
      have years := congrArg Date.year same
      have months := congrArg Date.month same
      exact ⟨years, months⟩

/-- A counter that an instant of `ip` builds: it lies in its window, every instant of the
window builds the same key, and at `resets_at` a later one takes its place. -/
structure HonestWindow (settings : QuotaSettings) (ip : Option String) (utc : Instant)
    (counter : Counter) : Prop where
  begins : Instant.midnight counter.windowStart ≤ utc
  ends : utc < counter.resetsAt
  same : ∀ other instant, other.astimezoneUtc = some instant →
    Instant.midnight counter.windowStart ≤ instant → instant < counter.resetsAt →
    ∃ counters, countersFor ip settings other = some counters ∧
      ∃ twin ∈ counters, twin.key = counter.key
  fresh : ∀ other, other.astimezoneUtc = some counter.resetsAt →
    ∃ counters, countersFor ip settings other = some counters ∧
      (∀ later ∈ counters, later.key ≠ counter.key) ∧
      ∃ later ∈ counters, later.scope = counter.scope ∧ later.subject = counter.subject ∧
        counter.windowStart < later.windowStart

/-- A window that begins before the last year does not reach into its last month: June of
that year would lie in it. -/
theorem window_next_early {scope : Scope} {date next : Date}
    (window : Window scope.start date next) (early : date.year < 9999) :
    next.year < 9999 ∨ next.month < 12 := by
  by_contra late
  have yearRange := next.yearRange
  have nextMonth := next.monthRange
  have dateMonth := date.monthRange
  have dateDay := date.day_lt
  let june : Date := ⟨9999, 6, 1, by decide, by decide, by decide⟩
  have begun := window.contains.1
  rw [Date.le_iff_code] at begun
  have after : scope.start date ≤ june := by
    rw [Date.le_iff_code]
    refine Nat.le_trans begun ?_
    change (date.year * 13 + date.month) * 32 + date.day ≤ (9999 * 13 + 6) * 32 + 1
    omega
  have before : june < next := by
    rw [Date.lt_iff_code]
    change (9999 * 13 + 6) * 32 + 1 < (next.year * 13 + next.month) * 32 + next.day
    omega
  have sameYear := (scope.start_month ((window.same_start june).mpr ⟨after, before⟩)).1
  change 9999 = date.year at sameYear
  omega

theorem counter_window_honest {ip : Option String} {now : Datetime} {utc : Instant}
    {counters : List Counter} (built : countersFor ip settings now = some counters)
    (utcAt : now.astimezoneUtc = some utc) (early : utc.date.year < 9999) {counter : Counter}
    (member : counter ∈ counters) : HonestWindow settings ip utc counter := by
  have spec := counter_spec built utcAt member
  obtain ⟨next, resets, window⟩ := spec.window
  obtain ⟨begun, ends⟩ := window.contains
  have nextEarly := window_next_early window early
  refine ⟨?_, ?_, ?_, ?_⟩
  · rw [Instant.midnight_le, spec.start]
    exact begun
  · rw [resets, Instant.lt_midnight]
    exact ends
  · intro other instant otherAt after before
    rw [Instant.midnight_le, spec.start] at after
    rw [resets, Instant.lt_midnight] at before
    have sameStart := (window.same_start instant.date).mpr ⟨after, before⟩
    have sameYear := (counter.scope.start_month sameStart).1
    obtain ⟨others, otherBuilt⟩ :=
      countersFor_exists settings ip otherAt (.inl (by omega))
    obtain ⟨twin, twinMember, scope, subject⟩ :=
      counter_of_scope otherBuilt counter.scope spec.subject
    have twinStart := (counter_spec otherBuilt otherAt twinMember).start
    refine ⟨others, otherBuilt, twin, twinMember, ?_⟩
    rw [Counter.key, Counter.key, twinStart, scope, subject, sameStart, spec.start]
  · intro other otherAt
    rw [resets] at otherAt
    obtain ⟨others, otherBuilt⟩ :=
      countersFor_exists settings ip otherAt nextEarly
    have later : ∀ laterCounter ∈ others, laterCounter.scope = counter.scope →
        counter.windowStart < laterCounter.windowStart := by
      intro laterCounter laterMember scope
      rw [(counter_spec otherBuilt otherAt laterMember).start, scope, spec.start]
      change _ < counter.scope.start next
      rw [window.next_starts, Date.lt_iff_code]
      rw [Date.le_iff_code] at begun
      rw [Date.lt_iff_code] at ends
      omega
    refine ⟨others, otherBuilt, ?_, ?_⟩
    · intro laterCounter laterMember same
      have order := later laterCounter laterMember (congrArg Key.scope same)
      have equal : laterCounter.windowStart = counter.windowStart := congrArg Key.windowStart same
      rw [equal, Date.lt_iff_code] at order
      exact Nat.lt_irrefl _ order
    · obtain ⟨laterCounter, laterMember, scope, subject⟩ :=
        counter_of_scope otherBuilt counter.scope spec.subject
      exact ⟨laterCounter, laterMember, scope, subject, later laterCounter laterMember scope⟩

/-! ### Histories -/

def Call.Charges (call : Call settings) (scope : Scope) (subject : String) : Prop :=
  ∃ counter ∈ call.counters, counter.scope = scope ∧ counter.subject = subject

def Call.At (call : Call settings) (instant : Instant) : Prop :=
  call.now.astimezoneUtc = some instant

def NonDecreasing (calls : List (Call settings)) : Prop :=
  calls.Pairwise (fun earlier later => ∀ first second, earlier.At first → later.At second →
    first ≤ second)

theorem Call.spec (call : Call settings) {instant : Instant} (isAt : call.At instant)
    {counter : Counter} (member : counter ∈ call.counters) :
    CounterSpec settings call.ip instant.date counter :=
  counter_spec call.built isAt member

theorem Call.at_exists (call : Call settings) : ∃ instant, call.At instant := by
  obtain ⟨utc, _, _, utcAt, _⟩ := countersFor_eq_some call.built
  exact ⟨utc, utcAt⟩

namespace MemoryQuotaStore

theorem serve_append (counts : Counts) (first second : List (Call settings)) :
    (serve counts (first ++ second)).2 = (serve (serve counts first).2 second).2 := by
  induction first generalizing counts with
  | nil => rfl
  | cons call rest ih => exact ih _

theorem serve_le (counts : Counts) (calls : List (Call settings)) (key : Key) :
    counts key ≤ (serve counts calls).2 key := by
  rw [serve_apply]
  exact Nat.le_add_right _ _

theorem serve_uncharged {calls : List (Call settings)} {key : Key}
    (uncharged : ∀ call ∈ calls, key ∉ call.counters.map Counter.key) :
    (serve emptyCounts calls).2 key = 0 := by
  rw [serve_apply, emptyCounts, Nat.zero_add, admittedCharges, List.countP_eq_zero]
  rintro ⟨call, reply⟩ served
  have member := uncharged call (List.of_mem_zip served).1
  simp only [member, decide_false, Bool.and_false, Bool.false_eq_true, not_false_eq_true]

theorem firstExhausted_full {counts : Counts} {counters : List Counter} {counter : Counter}
    (named : firstExhausted counts counters = some counter) :
    counter ∈ counters ∧ counter.limit ≤ counts counter.key := by
  obtain ⟨before, after, split, _, atLimit⟩ := firstExhausted_eq_some.mp named
  rw [split]
  exact ⟨List.mem_append_right _ List.mem_cons_self, atLimit⟩

/-- The full counter stays full, and up to `resets_at` it is the one that is asked. -/
theorem refused_until_reset {before middle : List (Call settings)} {refused next : Call settings}
    {counter : Counter} {first second : Instant}
    (named : firstExhausted (serve emptyCounts before).2 refused.counters = some counter)
    (refusedAt : refused.At first) (nextAt : next.At second) (order : first ≤ second)
    (early : second < counter.resetsAt) (charges : next.Charges counter.scope counter.subject) :
    (consume (serve emptyCounts (before ++ refused :: middle)).2 next.counters).1.isSome =
      true := by
  obtain ⟨member, full⟩ := firstExhausted_full named
  have spec := refused.spec refusedAt member
  obtain ⟨reset, resets, window⟩ := spec.window
  obtain ⟨twin, twinMember, scope, subject⟩ := charges
  have twinSpec := next.spec nextAt twinMember
  have inWindow : counter.scope.start second.date = counter.scope.start first.date := by
    refine (window.same_start second.date).mpr ⟨?_, ?_⟩
    · exact Date.le_trans window.contains.1 (Instant.date_le order)
    · rw [resets, Instant.lt_midnight] at early
      exact early
  have sameKey : twin.key = counter.key := by
    rw [Counter.key, Counter.key, twinSpec.start, scope, subject, inWindow, spec.start]
  have sameLimit : twin.limit = counter.limit := by
    rw [twinSpec.limit, scope, spec.limit]
  refine (consume_refused_iff _ _).mpr ⟨twin, twinMember, ?_⟩
  rw [sameKey, sameLimit, serve_append]
  exact Nat.le_trans full (serve_le _ _ _)

theorem uncharged_before_reset {call next : Call settings} {own : Counter}
    {first second : Instant} {reset : Date} (callAt : call.At first) (nextAt : next.At second)
    (starts : ∀ other, reset ≤ other → reset ≤ own.scope.start other)
    (before : first.date < reset) (after : reset ≤ second.date) (member : own ∈ next.counters) :
    own.key ∉ call.counters.map Counter.key := by
  intro charged
  obtain ⟨earlier, earlierMember, same⟩ := List.mem_map.mp charged
  have earlierSpec := call.spec callAt earlierMember
  obtain ⟨_, _, window⟩ := earlierSpec.window
  have sameStart : earlier.windowStart = own.windowStart := congrArg Key.windowStart same
  have upTo := window.start_le first.date
  have from_reset := starts second.date after
  rw [← earlierSpec.start, sameStart, Date.le_iff_code] at upTo
  rw [← (next.spec nextAt member).start, Date.le_iff_code] at from_reset
  rw [Date.lt_iff_code] at before
  omega

theorem scope_of_quota {left right : Scope} (same : left.quota = right.quota) : left = right := by
  cases left <;> cases right <;> first | rfl | cases same

theorem limitOf_pos (settings : QuotaSettings) (scope : Scope) : 0 < settings.limitOf scope := by
  cases scope with
  | globalDay => exact settings.globalPerDayPositive
  | globalMonth => exact settings.globalPerMonthPositive
  | ipDay => exact settings.perIpPerDayPositive
  | ipMonth => exact settings.perIpPerMonthPositive

/-- The first call after `resets_at` finds a counter that nobody has charged. -/
theorem room_after_reset {history : List (Call settings)} {refused next : Call settings}
    {counter : Counter} {second : Instant} (member : counter ∈ refused.counters)
    (nextAt : next.At second) (after : counter.resetsAt ≤ second)
    (firstOne : ∀ call ∈ history, ∀ instant, call.At instant → counter.resetsAt ≤ instant →
      ∀ subject, next.Charges counter.scope subject → ¬ call.Charges counter.scope subject)
    {denial : QuotaDenial}
    (denied : (consume (serve emptyCounts history).2 next.counters).1 = some denial) :
    denial.quota ≠ counter.quota := by
  obtain ⟨first, refusedAt⟩ := refused.at_exists
  have spec := refused.spec refusedAt member
  obtain ⟨reset, resets, window⟩ := spec.window
  rw [resets, Instant.midnight_le] at after
  rcases consume_cases (serve emptyCounts history).2 next.counters with
    ⟨own, named, replied⟩ | ⟨_, replied⟩
  · rw [replied] at denied
    cases denied
    intro sameQuota
    obtain ⟨ownMember, full⟩ := firstExhausted_full named
    have ownSpec := next.spec nextAt ownMember
    have sameScope : own.scope = counter.scope := by
      apply scope_of_quota
      rw [← ownSpec.quota, ← spec.quota]
      exact sameQuota
    have uncharged : ∀ call ∈ history, own.key ∉ call.counters.map Counter.key := by
      intro call called
      obtain ⟨instant, callAt⟩ := call.at_exists
      by_cases late : counter.resetsAt ≤ instant
      · intro charged
        obtain ⟨other, otherMember, same⟩ := List.mem_map.mp charged
        have otherScope : other.scope = own.scope := congrArg Key.scope same
        exact firstOne call called instant callAt late own.subject
          ⟨own, ownMember, sameScope, rfl⟩
          ⟨other, otherMember, otherScope.trans sameScope, congrArg Key.subject same⟩
      · rw [resets] at late
        refine uncharged_before_reset callAt nextAt ?_ (Instant.not_midnight_le late) after
          ownMember
        rw [sameScope]
        exact window.next_le_start
    rw [serve_uncharged uncharged, ownSpec.limit] at full
    exact Nat.lt_irrefl _ (Nat.lt_of_lt_of_le (limitOf_pos settings own.scope) full)
  · rw [replied] at denied
    cases denied

end MemoryQuotaStore

/-- After a denial that named `counter`: no admission of its subject before `resets_at`, and
from then on no denial for its quota to the first call that charges it. -/
structure HonestReset (history : List (Call settings)) (counter : Counter) (next : Call settings)
    (instant : Instant) : Prop where
  refused : instant < counter.resetsAt → next.Charges counter.scope counter.subject →
    (MemoryQuotaStore.consume (MemoryQuotaStore.serve emptyCounts history).2
      next.counters).1.isSome = true
  room : counter.resetsAt ≤ instant →
    (∀ call ∈ history, ∀ earlier, call.At earlier → counter.resetsAt ≤ earlier →
      ∀ subject, next.Charges counter.scope subject → ¬ call.Charges counter.scope subject) →
    ∀ denial, (MemoryQuotaStore.consume (MemoryQuotaStore.serve emptyCounts history).2
      next.counters).1 = some denial → denial.quota ≠ counter.quota

/-- The windows of every instant before the last year, and what every history of the store
makes of a denial. -/
theorem quota_windows_honest (settings : QuotaSettings) :
    (∀ (ip : Option String) (now : Datetime) (utc : Instant), now.astimezoneUtc = some utc →
      utc.date.year < 9999 →
      ∃ counters, countersFor ip settings now = some counters ∧
        ∀ counter ∈ counters, HonestWindow settings ip utc counter) ∧
    (∀ (before middle : List (Call settings)) (refused next : Call settings) (counter : Counter)
      (instant : Instant),
      NonDecreasing (before ++ refused :: (middle ++ [next])) →
      MemoryQuotaStore.firstExhausted (MemoryQuotaStore.serve emptyCounts before).2
        refused.counters = some counter →
      next.At instant →
      HonestReset (before ++ refused :: middle) counter next instant) := by
  constructor
  · intro ip now utc utcAt early
    obtain ⟨counters, built⟩ := countersFor_exists settings ip utcAt (.inl early)
    refine ⟨counters, built, ?_⟩
    intro counter member
    exact counter_window_honest built utcAt early member
  · intro before middle refused next counter instant clock named nextAt
    obtain ⟨first, refusedAt⟩ := refused.at_exists
    have later := (List.pairwise_cons.mp (List.pairwise_append.mp clock).2.1).1 next
      (List.mem_append_right _ (List.mem_singleton_self _))
    refine ⟨?_, ?_⟩
    · intro early charges
      exact MemoryQuotaStore.refused_until_reset named refusedAt nextAt
        (later first instant refusedAt nextAt) early charges
    · intro after firstOne denial denied
      exact MemoryQuotaStore.room_after_reset (MemoryQuotaStore.firstExhausted_full named).1
        nextAt after firstOne denied

/-- One call a day for each address. -/
theorem november_windows_honest :
    (∃ counters, countersFor (some "198.51.100.1") singleQuotas novemberNoon.toDatetime =
        some counters ∧
      ∀ counter ∈ counters,
        HonestWindow singleQuotas (some "198.51.100.1") novemberNoon counter) ∧
    ∃ counter, counter.quota = .perIpDaily ∧
      HonestReset [novemberCall singleQuotas, novemberCall singleQuotas] counter
        (novemberCall singleQuotas) novemberNoon := by
  have noon : novemberNoon.toDatetime.astimezoneUtc = some novemberNoon :=
    Instant.astimezoneUtc_toDatetime novemberNoon
  have clock : NonDecreasing ([novemberCall singleQuotas] ++
      novemberCall singleQuotas :: ([] ++ [novemberCall singleQuotas])) := by
    have never_back : ∀ first second, (novemberCall singleQuotas).At first →
        (novemberCall singleQuotas).At second → first ≤ second := by
      intro first second firstAt secondAt
      have same := firstAt.symm.trans secondAt
      cases same
      exact .inr ⟨rfl, Nat.le_refl _⟩
    exact List.pairwise_of_forall_mem_list (l := List.replicate 3 (novemberCall singleQuotas))
      (fun left isLeft right isRight => by
        rw [List.eq_of_mem_replicate isLeft, List.eq_of_mem_replicate isRight]
        exact never_back)
  refine ⟨(quota_windows_honest singleQuotas).1 _ _ _ noon (by decide), _, ?_,
    (quota_windows_honest singleQuotas).2 [novemberCall singleQuotas] []
      (novemberCall singleQuotas) (novemberCall singleQuotas) _ novemberNoon clock rfl noon⟩
  rfl

end AcdpPlayground.Quota

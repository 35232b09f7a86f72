/-
The in-process quota store, `MemoryQuotaStore.consume` of `playground/quota.py`.

The store's lock is held across code that never suspends, so concurrent calls
are served one after another and a sequence of calls is the whole behaviour. The
dictionary is the function from keys to `dict.get(key, 0)`.
-/

import AcdpPlayground.Quota.Counters
import Mathlib.Data.List.Count
import Mathlib.Logic.Function.Basic

namespace AcdpPlayground.Quota

open Calendar

abbrev Counts := Key → Nat

def emptyCounts : Counts := fun _ => 0

namespace MemoryQuotaStore

/-- The first loop: the first counter that has reached its limit. -/
def firstExhausted (counts : Counts) (counters : List Counter) : Option Counter :=
  counters.find? (fun counter => decide (counter.limit ≤ counts counter.key))

/-- The second loop: one unit on every counter. -/
def charge (counts : Counts) : List Counter → Counts
  | [] => counts
  | counter :: rest =>
      charge (Function.update counts counter.key (counts counter.key + 1)) rest

def consume (counts : Counts) (counters : List Counter) : Option QuotaDenial × Counts :=
  match firstExhausted counts counters with
  | some counter => (some (deny counter), counts)
  | none => (none, charge counts counters)

variable {settings : QuotaSettings}

def serve (counts : Counts) : List (Call settings) → List (Option QuotaDenial) × Counts
  | [] => ([], counts)
  | call :: rest =>
      let reply := consume counts call.counters
      let later := serve reply.2 rest
      (reply.1 :: later.1, later.2)

def admittedCharges (key : Key) (calls : List (Call settings))
    (replies : List (Option QuotaDenial)) : Nat :=
  (calls.zip replies).countP fun served =>
    served.2.isNone && decide (key ∈ served.1.counters.map Counter.key)

/-! ### One call -/

theorem charge_apply (counts : Counts) (counters : List Counter) (key : Key)
    (distinct : (counters.map Counter.key).Nodup) :
    charge counts counters key =
      counts key + if key ∈ counters.map Counter.key then 1 else 0 := by
  induction counters generalizing counts with
  | nil => rfl
  | cons counter rest ih =>
      have separate := List.nodup_cons.mp distinct
      rw [charge, ih _ separate.2]
      by_cases here : key = counter.key
      · subst here
        rw [Function.update_self, if_neg separate.1, List.map_cons,
          if_pos List.mem_cons_self, Nat.add_zero]
      · rw [Function.update_of_ne here]
        congr 1
        simp only [List.map_cons, List.mem_cons, here, false_or]

theorem firstExhausted_eq_none {counts : Counts} {counters : List Counter} :
    firstExhausted counts counters = none ↔
      ∀ counter ∈ counters, counts counter.key < counter.limit := by
  simp only [firstExhausted, List.find?_eq_none, decide_eq_true_eq, Nat.not_le]

/-- `counter` is full and every counter before it in the list still has room. -/
def FirstFull (counts : Counts) (counters : List Counter) (counter : Counter) : Prop :=
  ∃ before after, counters = before ++ counter :: after ∧
    (∀ earlier ∈ before, counts earlier.key < earlier.limit) ∧
    counter.limit ≤ counts counter.key

theorem firstExhausted_eq_some {counts : Counts} {counters : List Counter} {counter : Counter} :
    firstExhausted counts counters = some counter ↔ FirstFull counts counters counter := by
  simp only [firstExhausted, List.find?_eq_some_iff_append, FirstFull, decide_eq_true_eq,
    Bool.not_eq_true', decide_eq_false_iff_not, Nat.not_le]
  constructor
  · rintro ⟨atLimit, before, after, split, below⟩
    exact ⟨before, after, split, below, atLimit⟩
  · rintro ⟨before, after, split, below, atLimit⟩
    exact ⟨atLimit, before, after, split, below⟩

theorem consume_cases (counts : Counts) (counters : List Counter) :
    (∃ counter, firstExhausted counts counters = some counter ∧
        consume counts counters = (some (deny counter), counts)) ∨
      (firstExhausted counts counters = none ∧
        consume counts counters = (none, charge counts counters)) := by
  cases found : firstExhausted counts counters with
  | some counter =>
      refine Or.inl ⟨counter, rfl, ?_⟩
      rw [consume, found]
  | none =>
      refine Or.inr ⟨rfl, ?_⟩
      rw [consume, found]

/-! ### Sequences of calls -/

/-- No count is above the limit of its scope. -/
def WithinLimits (settings : QuotaSettings) (counts : Counts) : Prop :=
  ∀ key, counts key ≤ settings.limitOf key.scope

theorem withinLimits_consume {counts : Counts} (within : WithinLimits settings counts)
    (call : Call settings) : WithinLimits settings (consume counts call.counters).2 := by
  rcases consume_cases counts call.counters with
    ⟨counter, _, replied⟩ | ⟨available, replied⟩
  · rw [replied]
    exact within
  · rw [replied]
    intro key
    change charge counts call.counters key ≤ settings.limitOf key.scope
    rw [charge_apply counts call.counters key call.keys_nodup]
    split
    · rename_i charged
      obtain ⟨counter, member, rfl⟩ := List.mem_map.mp charged
      have below := firstExhausted_eq_none.mp available counter member
      rw [call.limit_eq member] at below
      omega
    · exact within key

theorem serve_withinLimits {counts : Counts} (within : WithinLimits settings counts)
    (calls : List (Call settings)) : WithinLimits settings (serve counts calls).2 := by
  induction calls generalizing counts with
  | nil => exact within
  | cons call rest ih => exact ih (withinLimits_consume within call)

theorem serve_apply (counts : Counts) (calls : List (Call settings)) (key : Key) :
    (serve counts calls).2 key =
      counts key + admittedCharges key calls (serve counts calls).1 := by
  induction calls generalizing counts with
  | nil => rfl
  | cons call rest ih =>
      simp only [serve, admittedCharges, List.zip_cons_cons, List.countP_cons]
      rw [ih]
      rcases consume_cases counts call.counters with
        ⟨counter, _, replied⟩ | ⟨_, replied⟩
      · rw [replied]
        simp only [Option.isNone_some, Bool.false_and, Bool.false_eq_true, if_false, Nat.add_zero]
        rfl
      · rw [replied]
        simp only [Option.isNone_none, Bool.true_and, decide_eq_true_eq]
        rw [charge_apply counts call.counters key call.keys_nodup, Nat.add_assoc, Nat.add_comm
          (if key ∈ call.counters.map Counter.key then 1 else 0)]
        rfl

theorem consume_refused_iff (counts : Counts) (counters : List Counter) :
    (consume counts counters).1.isSome = true ↔
      ∃ counter ∈ counters, counter.limit ≤ counts counter.key := by
  rcases consume_cases counts counters with ⟨counter, found, replied⟩ | ⟨available, replied⟩
  · obtain ⟨before, after, split, _, atLimit⟩ := firstExhausted_eq_some.mp found
    rw [replied]
    refine ⟨fun _ => ⟨counter, ?_, atLimit⟩, fun _ => rfl⟩
    rw [split]
    exact List.mem_append_right before List.mem_cons_self
  · rw [replied]
    refine ⟨fun refused => (by cases refused), ?_⟩
    rintro ⟨counter, member, atLimit⟩
    have below := firstExhausted_eq_none.mp available counter member
    omega

/-- Exact, bounded and all-or-nothing accounting: after any sequence of calls
every count is the number of admitted calls that charged the key, no count is
above its counter's limit, and the next call is refused exactly when one of its
counters is full, naming the first full one and charging nothing. -/
theorem consume_accounting (calls : List (Call settings)) (next : Call settings) :
    (∀ key, (serve emptyCounts calls).2 key =
        admittedCharges key calls (serve emptyCounts calls).1) ∧
      (∀ call : Call settings, ∀ counter ∈ call.counters,
        (serve emptyCounts calls).2 counter.key ≤ counter.limit) ∧
      ((consume (serve emptyCounts calls).2 next.counters).1.isSome = true →
        (consume (serve emptyCounts calls).2 next.counters).2 = (serve emptyCounts calls).2) ∧
      ((consume (serve emptyCounts calls).2 next.counters).1.isSome = true ↔
        ∃ counter ∈ next.counters, counter.limit ≤ (serve emptyCounts calls).2 counter.key) ∧
      (∀ denial, (consume (serve emptyCounts calls).2 next.counters).1 = some denial →
        ∃ counter, FirstFull (serve emptyCounts calls).2 next.counters counter ∧
          denial = deny counter) := by
  refine ⟨?_, ?_, ?_, consume_refused_iff _ _, ?_⟩
  · intro key
    rw [serve_apply, emptyCounts, Nat.zero_add]
  · intro call counter member
    have within : WithinLimits settings (serve emptyCounts calls).2 :=
      serve_withinLimits (fun _ => Nat.zero_le _) calls
    rw [call.limit_eq member]
    exact within counter.key
  · intro refused
    rcases consume_cases (serve emptyCounts calls).2 next.counters with
      ⟨counter, _, replied⟩ | ⟨_, replied⟩
    · rw [replied]
    · rw [replied] at refused
      cases refused
  · intro denial refused
    rcases consume_cases (serve emptyCounts calls).2 next.counters with
      ⟨counter, found, replied⟩ | ⟨_, replied⟩
    · rw [replied] at refused
      exact ⟨counter, firstExhausted_eq_some.mp found, (Option.some.inj refused).symm⟩
    · rw [replied] at refused
      cases refused

end MemoryQuotaStore

end AcdpPlayground.Quota

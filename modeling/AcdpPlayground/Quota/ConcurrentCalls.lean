/-
Concurrent `PostgresQuotaStore.consume` calls.

Every call is one transaction over the rows of its counters, executed one upsert
at a time. What is used of Postgres is the row locking of
`LockedTransactions`: locks are held to the end of the transaction and a rollback
restores every row. The calls may have different addresses and instants, so they
share some rows and not others; the position of a row's scope in the counter
list ranks the rows.
-/

import AcdpPlayground.Quota.PostgresStore

namespace AcdpPlayground.Quota

open LockedTransactions TransitionRun

variable {settings : QuotaSettings} {count : Nat}

abbrev TransactionState (count : Nat) := State Key (Option Nat) Fault count

def emptyTable : Table := fun _ => none

def startTransactions (calls : Fin count → Call settings) : TransactionState count :=
  initial emptyTable (fun index => PostgresQuotaStore.transaction (calls index).counters)

def admitted (state : TransactionState count) (index : Fin count) : Bool :=
  decide ((state.phase index).outcome? = some .committed)

/-- How many admitted calls charged the row. -/
def admittedCharging (calls : Fin count → Call settings) (state : TransactionState count)
    (key : Key) : Nat :=
  (List.finRange count).countP fun index =>
    admitted state index && decide (key ∈ (calls index).counters.map Counter.key)

def reply? (state : TransactionState count) (index : Fin count) :
    Option (Except StoreError (Option QuotaDenial)) :=
  (state.phase index).outcome?.map PostgresQuotaStore.replyOf

/-- The same calls one after another through `consume`. -/
def serveSerially (clock : Calendar.SystemClock) (store : PostgresQuotaStore) :
    List (Call settings) → List (Except StoreError (Option QuotaDenial)) × PostgresQuotaStore
  | [] => ([], store)
  | call :: rest =>
      let done := store.consume clock call.counters
      let later := serveSerially clock done.2 rest
      (done.1 :: later.1, later.2)

/-! ### The serial execution -/

theorem transaction_keys (counters : List Counter) :
    (PostgresQuotaStore.transaction counters).map Operation.key = counters.map Counter.key := by
  rw [PostgresQuotaStore.transaction, List.map_map]
  rfl

theorem serveSerially_eq_serial (clock : Calendar.SystemClock) (table : Table)
    (calls : List (Call settings)) :
    serveSerially clock ⟨table, true⟩ calls =
      ((serial table (calls.map fun call =>
          PostgresQuotaStore.transaction call.counters)).1.map PostgresQuotaStore.replyOf,
        ⟨(serial table (calls.map fun call =>
          PostgresQuotaStore.transaction call.counters)).2, true⟩) := by
  induction calls generalizing table with
  | nil => rfl
  | cons call rest ih =>
      have opened : (⟨table, true⟩ : PostgresQuotaStore).consume clock call.counters =
          (PostgresQuotaStore.replyOf
            (transact table (PostgresQuotaStore.transaction call.counters)).1,
          ⟨(transact table (PostgresQuotaStore.transaction call.counters)).2, true⟩) := rfl
      simp only [serveSerially, opened, ih, List.map_cons, serial]

def TableWithinLimits (settings : QuotaSettings) (table : Table) : Prop :=
  ∀ key, PostgresQuotaStore.rowCount (table key) ≤ settings.limitOf key.scope

theorem tableWithinLimits_transact {table : Table} (within : TableWithinLimits settings table)
    (call : Call settings) :
    TableWithinLimits settings
      (transact table (PostgresQuotaStore.transaction call.counters)).2 := by
  rcases PostgresQuotaStore.transact_cases table call.counters call.keys_nodup with
    ⟨fault, _, done⟩ | ⟨clear, done⟩
  · rw [done]
    exact within
  · rw [done]
    intro key
    change PostgresQuotaStore.rowCount (PostgresQuotaStore.bumped table call.counters key) ≤ _
    rw [PostgresQuotaStore.bumped_apply table call.counters call.keys_nodup key]
    split
    · rename_i charged
      obtain ⟨counter, member, rfl⟩ := List.mem_map.mp charged
      have room := (PostgresQuotaStore.firstFault_eq_none.mp clear counter member).1
      rw [call.limit_eq member] at room
      exact room
    · exact within key

theorem tableWithinLimits_serial {table : Table} (within : TableWithinLimits settings table)
    (calls : List (Call settings)) :
    TableWithinLimits settings
      (serial table (calls.map fun call => PostgresQuotaStore.transaction call.counters)).2 := by
  induction calls generalizing table with
  | nil => exact within
  | cons call rest ih => exact ih (tableWithinLimits_transact within call)

theorem serial_rowCount (table : Table) (calls : List (Call settings)) (key : Key) :
    PostgresQuotaStore.rowCount ((serial table (calls.map fun call =>
        PostgresQuotaStore.transaction call.counters)).2 key) =
      PostgresQuotaStore.rowCount (table key) +
        (calls.zip (serial table (calls.map fun call =>
          PostgresQuotaStore.transaction call.counters)).1).countP (fun served =>
            decide (served.2 = .committed) &&
              decide (key ∈ served.1.counters.map Counter.key)) := by
  induction calls generalizing table with
  | nil => rfl
  | cons call rest ih =>
      simp only [List.map_cons, serial, List.zip_cons_cons, List.countP_cons]
      rw [ih]
      rcases PostgresQuotaStore.transact_cases table call.counters call.keys_nodup with
        ⟨fault, _, done⟩ | ⟨_, done⟩
      · rw [done]
        simp only [reduceCtorEq, decide_false, Bool.false_and, Bool.false_eq_true, if_false,
          Nat.add_zero]
      · rw [done]
        simp only [decide_true, Bool.true_and, decide_eq_true_eq]
        rw [PostgresQuotaStore.bumped_apply table call.counters call.keys_nodup key, Nat.add_assoc,
          Nat.add_comm (if key ∈ call.counters.map Counter.key then 1 else 0)]

/-! ### Every interleaving -/

theorem countP_zip_outcomes (calls : Fin count → Call settings) (state : TransactionState count)
    (key : Key) (order : List (Fin count)) (outcomes : List (Outcome Fault))
    (same : outcomes.map some = order.map (fun index => (state.phase index).outcome?)) :
    ((order.map calls).zip outcomes).countP (fun served =>
        decide (served.2 = .committed) && decide (key ∈ served.1.counters.map Counter.key)) =
      order.countP (fun index =>
        admitted state index && decide (key ∈ (calls index).counters.map Counter.key)) := by
  induction order generalizing outcomes with
  | nil => rfl
  | cons index rest ih =>
      cases outcomes with
      | nil => cases same
      | cons outcome later =>
          rw [List.map_cons, List.map_cons, List.cons.injEq] at same
          have head : decide (outcome = .committed) = admitted state index := by
            rw [admitted, ← same.1]
            simp only [Option.some.injEq]
          rw [List.map_cons, List.zip_cons_cons, List.countP_cons, List.countP_cons,
            ih later same.2, head]

theorem countP_finished (order : List (Fin count)) (once : order.Nodup)
    (selected : Fin count → Bool) (covers : ∀ index, selected index = true → index ∈ order) :
    order.countP selected = (List.finRange count).countP selected := by
  rw [List.countP_eq_length_filter, List.countP_eq_length_filter]
  apply List.Perm.length_eq
  rw [List.perm_ext_iff_of_nodup (once.filter selected) ((List.nodup_finRange count).filter selected)]
  intro index
  rw [List.mem_filter, List.mem_filter]
  exact ⟨fun both => ⟨List.mem_finRange index, both.2⟩, fun both => ⟨covers index both.2, both.2⟩⟩

theorem map_transaction (calls : Fin count → Call settings) (order : List (Fin count)) :
    order.map (fun index => PostgresQuotaStore.transaction (calls index).counters) =
      (order.map calls).map (fun call => PostgresQuotaStore.transaction call.counters) := by
  rw [List.map_map]
  rfl

theorem committed_rowCount {calls : Fin count → Call settings} {schedule : List (Action count)}
    {state : TransactionState count}
    (invariant : SerialInvariant
      (fun index => PostgresQuotaStore.transaction (calls index).counters) emptyTable schedule state)
    (key : Key) :
    PostgresQuotaStore.rowCount (state.committed key) = admittedCharging calls state key := by
  have outcomes := invariant.outcomes
  have table := invariant.store
  rw [map_transaction] at outcomes table
  rw [← table, serial_rowCount, countP_zip_outcomes calls state key _ _ outcomes,
    countP_finished _ invariant.once, admittedCharging]
  · exact Nat.zero_add _
  · intro index selected
    rw [Bool.and_eq_true, admitted, decide_eq_true_eq] at selected
    rw [invariant.finished, selected.1]
    rfl

/-- Every interleaving of concurrent calls is free of waiting cycles, charges
exactly the admitted calls within their limits, and replies as some serial
order of the finished calls does. -/
theorem concurrent_consume (calls : Fin count → Call settings) (schedule : List (Action count))
    (state : TransactionState count)
    (ran : runFrom step (startTransactions calls) schedule = some state) :
    (∀ index, ¬ Relation.TransGen (WaitsFor state) index index) ∧
      (∀ key, PostgresQuotaStore.rowCount (state.committed key) =
        admittedCharging calls state key) ∧
      (∀ index, ∀ counter ∈ (calls index).counters,
        PostgresQuotaStore.rowCount (state.committed counter.key) ≤ counter.limit) ∧
      ∃ order : List (Fin count), order.Nodup ∧
        (∀ index, index ∈ order ↔ (reply? state index).isSome = true) ∧
        ∀ clock,
          (serveSerially clock ⟨emptyTable, true⟩ (order.map calls)).1.map some =
            order.map (reply? state) ∧
          (serveSerially clock ⟨emptyTable, true⟩ (order.map calls)).2.table =
            state.committed := by
  have ordered (index : Fin count) :
      (PostgresQuotaStore.transaction (calls index).counters).Pairwise
        (fun earlier later => earlier.key.scope.rank < later.key.scope.rank) := by
    rw [PostgresQuotaStore.transaction, List.pairwise_map]
    exact (calls index).scopes_ascending
  have distinct (index : Fin count) :
      ((PostgresQuotaStore.transaction (calls index).counters).map Operation.key).Nodup := by
    rw [transaction_keys]
    exact (calls index).keys_nodup
  have invariant := serial_equivalence distinct emptyTable ran
  have outcomes := invariant.outcomes
  have table := invariant.store
  rw [map_transaction] at outcomes table
  refine ⟨no_waiting_cycle (fun key => key.scope.rank) ordered emptyTable ran,
    committed_rowCount invariant, ?_, finishOrder schedule, invariant.once, ?_, ?_⟩
  · intro index counter member
    have started : TableWithinLimits settings emptyTable := fun _ => Nat.zero_le _
    have within := tableWithinLimits_serial started ((finishOrder schedule).map calls) counter.key
    rw [table] at within
    rw [(calls index).limit_eq member]
    exact within
  · intro index
    rw [invariant.finished, reply?, Option.isSome_map]
  · intro clock
    rw [serveSerially_eq_serial]
    generalize serial emptyTable (((finishOrder schedule).map calls).map
      (fun call => PostgresQuotaStore.transaction call.counters)) = served at outcomes table ⊢
    refine ⟨?_, table⟩
    have replies := congrArg (List.map (Option.map PostgresQuotaStore.replyOf)) outcomes
    rw [List.map_map, List.map_map] at replies
    rw [List.map_map]
    exact replies

/-- Two calls of one day and one of the next day, with one call a day for an address. -/
def twoDays : Fin 3 → Call singleQuotas
  | 0 | 1 => novemberCall singleQuotas
  | 2 => nextNoonCall singleQuotas

/-- The second call waits for the first from the start, the third from the row of the month. -/
def upToTheWaits : List (Action 3) :=
  [.execute 0, .execute 0, .execute 2]

def afterTheWaits : List (Action 3) :=
  [.execute 0, .execute 0, .commit 0, .execute 1, .execute 2, .execute 2, .execute 2, .commit 2,
    .execute 1, .execute 1, .rollback 1]

theorem concurrent_consume_two_days :
    (∃ waiting, runFrom step (startTransactions twoDays) upToTheWaits = some waiting ∧
      step waiting (.execute 1) = none ∧ step waiting (.execute 2) = none) ∧
    ∃ state, runFrom step (startTransactions twoDays) (upToTheWaits ++ afterTheWaits) =
        some state ∧
      [admitted state 0, admitted state 1, admitted state 2] = [true, false, true] ∧
      ∀ key, PostgresQuotaStore.rowCount (state.committed key) =
        admittedCharging twoDays state key := by
  have waits : (runFrom step (startTransactions twoDays) upToTheWaits).any (fun waiting =>
      (step waiting (.execute 1)).isNone && (step waiting (.execute 2)).isNone) = true := by
    decide +kernel
  have runs : (runFrom step (startTransactions twoDays) (upToTheWaits ++ afterTheWaits)).any
      (fun state => [admitted state 0, admitted state 1, admitted state 2] ==
        [true, false, true]) = true := by
    decide +kernel
  obtain ⟨waiting, reached, blocked⟩ := (Option.any_eq_true _ _).mp waits
  obtain ⟨state, ran, replied⟩ := (Option.any_eq_true _ _).mp runs
  obtain ⟨first, second⟩ := Bool.and_eq_true_iff.mp blocked
  exact ⟨⟨waiting, reached, Option.isNone_iff_eq_none.mp first, Option.isNone_iff_eq_none.mp second⟩,
    state, ran, beq_iff_eq.mp replied, (concurrent_consume _ _ state ran).2.1⟩

end AcdpPlayground.Quota

/-
The durable quota store, `PostgresQuotaStore` of `playground/quota.py`, and its
agreement with the in-process store on serial histories.

Each call is one transaction that increments its rows one by one, compares the
new value with the limit and rolls everything back on the first row that passes
it. The `calls` column is a four-byte integer: incrementing its largest value
fails before the limit is compared. Opening the connection pool after a restart
deletes the rows whose window started more than 62 days before the current
month. A rolled back transaction leaves the table unchanged.
-/

import AcdpPlayground.Foundation.LockedTransactions
import AcdpPlayground.Quota.MemoryStore

namespace AcdpPlayground.Quota

open Calendar LockedTransactions

/-- The rows of `playground_llm_usage` with their `calls` column. -/
abbrev Table := Key → Option Nat

def int4Max : Nat := 2147483647

inductive StoreError where
  | integerOutOfRange
  | dateOutOfRange
  deriving DecidableEq

inductive Fault where
  | overLimit (counter : Counter)
  | raised (error : StoreError)
  deriving DecidableEq

namespace PostgresQuotaStore

/-- `INSERT … ON CONFLICT DO UPDATE SET calls = calls + 1 RETURNING calls`. -/
def upsert : Option Nat → Except StoreError Nat
  | none => .ok 1
  | some calls => if calls + 1 ≤ int4Max then .ok (calls + 1) else .error .integerOutOfRange

/-- One turn of the loop in `consume`. -/
def chargeRow (counter : Counter) : Operation Key (Option Nat) Fault :=
  { key := counter.key
    apply := fun row =>
      match upsert row with
      | .error error => .error (.raised error)
      | .ok calls => if counter.limit < calls then .error (.overLimit counter) else .ok (some calls) }

def transaction (counters : List Counter) : List (Operation Key (Option Nat) Fault) :=
  counters.map chargeRow

def replyOf : Outcome Fault → Except StoreError (Option QuotaDenial)
  | .committed => .ok none
  | .rolledBack (.overLimit counter) => .ok (some (deny counter))
  | .rolledBack (.raised error) => .error error

end PostgresQuotaStore

structure PostgresQuotaStore where
  table : Table
  poolOpen : Bool

namespace PostgresQuotaStore

def fresh : PostgresQuotaStore :=
  { table := fun _ => none
    poolOpen := false }

def prune (table : Table) (cutoff : Date) : Table :=
  fun key => if key.windowStart < cutoff then none else table key

/-- `_get_pool`: the first call after a start prunes with the clock of that moment. -/
def getPool (store : PostgresQuotaStore) (clock : SystemClock) :
    Except StoreError PostgresQuotaStore :=
  if store.poolOpen then .ok store
  else
    match clock.instant.date.firstOfMonth.subDays 62 with
    | none => .error .dateOutOfRange
    | some cutoff =>
        .ok
          { table := prune store.table cutoff
            poolOpen := true }

def consume (store : PostgresQuotaStore) (clock : SystemClock) (counters : List Counter) :
    Except StoreError (Option QuotaDenial) × PostgresQuotaStore :=
  match store.getPool clock with
  | .error error => (.error error, store)
  | .ok ready =>
      let done := transact ready.table (transaction counters)
      (replyOf done.1, { ready with table := done.2 })

def restart (store : PostgresQuotaStore) : PostgresQuotaStore :=
  { store with poolOpen := false }

/-! ### One transaction -/

def rowCount (row : Option Nat) : Nat := row.getD 0

def faultAt (calls : Nat) (counter : Counter) : Option Fault :=
  if int4Max < calls + 1 then some (.raised .integerOutOfRange)
  else if counter.limit < calls + 1 then some (.overLimit counter)
  else none

def firstFault (table : Table) (counters : List Counter) : Option Fault :=
  counters.findSome? (fun counter => faultAt (rowCount (table counter.key)) counter)

def bumped (table : Table) : List Counter → Table
  | [] => table
  | counter :: rest =>
      bumped (Function.update table counter.key (some (rowCount (table counter.key) + 1))) rest

@[simp] theorem chargeRow_key (counter : Counter) : (chargeRow counter).key = counter.key := rfl

theorem chargeRow_apply (counter : Counter) (row : Option Nat) :
    (chargeRow counter).apply row =
      match faultAt (rowCount row) counter with
      | some fault => .error fault
      | none => .ok (some (rowCount row + 1)) := by
  have positive : ¬ int4Max < 0 + 1 := by decide
  cases row with
  | none =>
      change (if counter.limit < 1 then _ else _) = _
      rw [faultAt, rowCount, Option.getD_none, if_neg positive]
      split_ifs <;> rfl
  | some calls =>
      have count : rowCount (some calls) = calls := rfl
      rw [count]
      by_cases fits : calls + 1 ≤ int4Max
      · rw [faultAt, if_neg (by omega), chargeRow]
        simp only [upsert, if_pos fits]
        split_ifs <;> rfl
      · rw [faultAt, if_pos (by omega), chargeRow]
        simp only [upsert, if_neg fits]

theorem firstFault_update (table : Table) (key : Key) (row : Option Nat)
    (counters : List Counter) (absent : key ∉ counters.map Counter.key) :
    firstFault (Function.update table key row) counters = firstFault table counters := by
  induction counters with
  | nil => rfl
  | cons counter rest ih =>
      rw [List.map_cons, List.mem_cons, not_or] at absent
      simp only [firstFault, List.findSome?_cons]
      rw [Function.update_of_ne (Ne.symm absent.1)]
      have later := ih absent.2
      rw [firstFault, firstFault] at later
      rw [later]

theorem execute_transaction (table : Table) (counters : List Counter)
    (distinct : (counters.map Counter.key).Nodup) :
    execute table (transaction counters) =
      match firstFault table counters with
      | some fault => .error fault
      | none => .ok (bumped table counters) := by
  induction counters generalizing table with
  | nil => rfl
  | cons counter rest ih =>
      have separate := List.nodup_cons.mp distinct
      simp only [transaction, List.map_cons, execute]
      rw [chargeRow_key, chargeRow_apply]
      cases met : faultAt (rowCount (table counter.key)) counter with
      | some fault => simp only [firstFault, List.findSome?_cons, met]
      | none =>
          have later := ih (Function.update table counter.key
            (some (rowCount (table counter.key) + 1))) separate.2
          rw [transaction] at later
          dsimp only
          rw [later, firstFault_update _ _ _ _ separate.1, bumped]
          simp only [firstFault, List.findSome?_cons, met]

theorem bumped_apply (table : Table) (counters : List Counter)
    (distinct : (counters.map Counter.key).Nodup) (key : Key) :
    rowCount (bumped table counters key) =
      rowCount (table key) + if key ∈ counters.map Counter.key then 1 else 0 := by
  induction counters generalizing table with
  | nil => rfl
  | cons counter rest ih =>
      have separate := List.nodup_cons.mp distinct
      rw [bumped, ih _ separate.2]
      by_cases here : key = counter.key
      · subst here
        rw [Function.update_self, if_neg separate.1, List.map_cons, if_pos List.mem_cons_self]
        rfl
      · rw [Function.update_of_ne here]
        congr 1
        simp only [List.map_cons, List.mem_cons, here, false_or]

theorem firstFault_eq_none {table : Table} {counters : List Counter} :
    firstFault table counters = none ↔
      ∀ counter ∈ counters, rowCount (table counter.key) + 1 ≤ counter.limit ∧
        rowCount (table counter.key) + 1 ≤ int4Max := by
  simp only [firstFault, List.findSome?_eq_none_iff, faultAt]
  constructor
  · intro clear counter member
    have free := clear counter member
    split_ifs at free
    omega
  · intro room counter member
    have bounds := room counter member
    rw [if_neg (by omega), if_neg (by omega)]

/-- A transaction commits exactly when every row has room, and otherwise leaves
the table as it was. -/
theorem transact_cases (table : Table) (counters : List Counter)
    (distinct : (counters.map Counter.key).Nodup) :
    (∃ fault, firstFault table counters = some fault ∧
        transact table (transaction counters) = (.rolledBack fault, table)) ∨
      (firstFault table counters = none ∧
        transact table (transaction counters) = (.committed, bumped table counters)) := by
  cases met : firstFault table counters with
  | some fault =>
      refine Or.inl ⟨fault, rfl, ?_⟩
      rw [transact, execute_transaction table counters distinct, met]
  | none =>
      refine Or.inr ⟨rfl, ?_⟩
      rw [transact, execute_transaction table counters distinct, met]

end PostgresQuotaStore

end AcdpPlayground.Quota

/-
Concurrent transactions over a keyed store under strict row locking.

Each transaction is a fixed list of read-modify-write operations. A row written
by an open transaction stays locked until that transaction commits or rolls
back, an operation on a row locked by somebody else is not enabled, and a
rollback discards every private row version. These are the only properties of
the store that the results below use.

Two facts are proved for every schedule: transactions that visit their rows in
ascending rank never wait for each other in a cycle, and the finished
transactions have the outcomes and the store of the serial execution in the
order in which they finished.
-/

import AcdpPlayground.Foundation.TransitionRun
import Mathlib.Logic.Relation
import Mathlib.Logic.Function.Basic
import Mathlib.Data.List.FinRange
import Mathlib.Data.List.Nodup

namespace AcdpPlayground.LockedTransactions

open TransitionRun

/-- One read-modify-write of a row; a fault aborts the whole transaction. -/
structure Operation (Key Value Fault : Type) where
  key : Key
  apply : Value → Except Fault Value

inductive Outcome (Fault : Type) where
  | committed
  | rolledBack (fault : Fault)
  deriving DecidableEq

variable {Key Value Fault : Type} [DecidableEq Key]

/-! ### Serial execution -/

def execute (store : Key → Value) :
    List (Operation Key Value Fault) → Except Fault (Key → Value)
  | [] => .ok store
  | operation :: rest =>
      match operation.apply (store operation.key) with
      | .error fault => .error fault
      | .ok value => execute (Function.update store operation.key value) rest

def transact (store : Key → Value) (program : List (Operation Key Value Fault)) :
    Outcome Fault × (Key → Value) :=
  match execute store program with
  | .ok final => (.committed, final)
  | .error fault => (.rolledBack fault, store)

def serial (store : Key → Value) :
    List (List (Operation Key Value Fault)) → List (Outcome Fault) × (Key → Value)
  | [] => ([], store)
  | program :: rest =>
      let done := transact store program
      let later := serial done.2 rest
      (done.1 :: later.1, later.2)

theorem serial_append_singleton (store : Key → Value)
    (earlier : List (List (Operation Key Value Fault)))
    (last : List (Operation Key Value Fault)) :
    serial store (earlier ++ [last]) =
      ((serial store earlier).1 ++ [(transact (serial store earlier).2 last).1],
        (transact (serial store earlier).2 last).2) := by
  induction earlier generalizing store with
  | nil => rfl
  | cons program rest ih =>
      simp only [List.cons_append, serial, ih]

/-! ### Interleaved execution -/

inductive Phase (Key Value Fault : Type) where
  /-- Private row versions, newest first, and the operations still to run. -/
  | running (writes : List (Key × Value)) (rest : List (Operation Key Value Fault))
  | aborting (held : List Key) (fault : Fault)
  | finished (outcome : Outcome Fault)

def Phase.holds : Phase Key Value Fault → List Key
  | .running writes _ => writes.map Prod.fst
  | .aborting held _ => held
  | .finished _ => []

def Phase.wants : Phase Key Value Fault → Option Key
  | .running _ (operation :: _) => some operation.key
  | _ => none

def Phase.outcome? : Phase Key Value Fault → Option (Outcome Fault)
  | .finished outcome => some outcome
  | _ => none

structure State (Key Value Fault : Type) (owners : Nat) where
  committed : Key → Value
  phase : Fin owners → Phase Key Value Fault

inductive Action (owners : Nat) where
  | execute (owner : Fin owners)
  | commit (owner : Fin owners)
  | rollback (owner : Fin owners)

variable {owners : Nat}

def State.setPhase (state : State Key Value Fault owners) (owner : Fin owners)
    (phase : Phase Key Value Fault) : State Key Value Fault owners :=
  { state with phase := Function.update state.phase owner phase }

def State.blocked (state : State Key Value Fault owners) (owner : Fin owners) (key : Key) : Bool :=
  (List.finRange owners).any
    (fun other => decide (other ≠ owner) && decide (key ∈ (state.phase other).holds))

def visible (committed : Key → Value) (writes : List (Key × Value)) (key : Key) : Value :=
  (writes.lookup key).getD (committed key)

def install (committed : Key → Value) : List (Key × Value) → Key → Value
  | [] => committed
  | write :: older => Function.update (install committed older) write.1 write.2

def step (state : State Key Value Fault owners) :
    Action owners → Option (State Key Value Fault owners)
  | .execute owner =>
      match state.phase owner with
      | .running writes (operation :: rest) =>
          if state.blocked owner operation.key then none
          else
            match operation.apply (visible state.committed writes operation.key) with
            | .ok value =>
                some (state.setPhase owner (.running ((operation.key, value) :: writes) rest))
            | .error fault =>
                some (state.setPhase owner
                  (.aborting (operation.key :: writes.map Prod.fst) fault))
      | _ => none
  | .commit owner =>
      match state.phase owner with
      | .running writes [] =>
          some { (state.setPhase owner (.finished .committed)) with
            committed := install state.committed writes }
      | _ => none
  | .rollback owner =>
      match state.phase owner with
      | .aborting _ fault => some (state.setPhase owner (.finished (.rolledBack fault)))
      | _ => none

def initial (store : Key → Value) (programs : Fin owners → List (Operation Key Value Fault)) :
    State Key Value Fault owners :=
  { committed := store
    phase := fun owner => .running [] (programs owner) }

/-- The waiter's next row is locked by the blocker. -/
def WaitsFor (state : State Key Value Fault owners) (waiter blocker : Fin owners) : Prop :=
  waiter ≠ blocker ∧
    ∃ key, (state.phase waiter).wants = some key ∧ key ∈ (state.phase blocker).holds

def finishOrder (schedule : List (Action owners)) : List (Fin owners) :=
  schedule.filterMap fun action =>
    match action with
    | .execute _ => none
    | .commit owner => some owner
    | .rollback owner => some owner

/-! ### What one step can do -/

theorem blocked_eq_false_iff (state : State Key Value Fault owners) (owner : Fin owners)
    (key : Key) :
    state.blocked owner key = false ↔
      ∀ other, other ≠ owner → key ∉ (state.phase other).holds := by
  simp only [State.blocked, List.any_eq_false, List.mem_finRange, Bool.and_eq_true,
    decide_eq_true_eq, not_and, true_implies]

theorem step_cases {state next : State Key Value Fault owners} {action : Action owners}
    (taken : step state action = some next) :
    (∃ owner writes operation rest value, action = .execute owner ∧
        state.phase owner = .running writes (operation :: rest) ∧
        (∀ other, other ≠ owner → operation.key ∉ (state.phase other).holds) ∧
        operation.apply (visible state.committed writes operation.key) = .ok value ∧
        next = state.setPhase owner (.running ((operation.key, value) :: writes) rest)) ∨
      (∃ owner writes operation rest fault, action = .execute owner ∧
        state.phase owner = .running writes (operation :: rest) ∧
        (∀ other, other ≠ owner → operation.key ∉ (state.phase other).holds) ∧
        operation.apply (visible state.committed writes operation.key) = .error fault ∧
        next = state.setPhase owner (.aborting (operation.key :: writes.map Prod.fst) fault)) ∨
      (∃ owner writes, action = .commit owner ∧ state.phase owner = .running writes [] ∧
        next = { (state.setPhase owner (.finished .committed)) with
          committed := install state.committed writes }) ∨
      (∃ owner held fault, action = .rollback owner ∧ state.phase owner = .aborting held fault ∧
        next = state.setPhase owner (.finished (.rolledBack fault))) := by
  cases action with
  | execute owner =>
      simp only [step] at taken
      split at taken
      · rename_i writes operation rest phaseAt
        split at taken
        · cases taken
        · rename_i free
          have unlocked := (blocked_eq_false_iff state owner operation.key).mp
            (Bool.not_eq_true _ ▸ free)
          split at taken
          · rename_i value applied
            exact Or.inl ⟨owner, writes, operation, rest, value, rfl, phaseAt, unlocked, applied,
              (Option.some.inj taken).symm⟩
          · rename_i fault applied
            exact Or.inr (Or.inl ⟨owner, writes, operation, rest, fault, rfl, phaseAt, unlocked,
              applied, (Option.some.inj taken).symm⟩)
      · cases taken
  | commit owner =>
      simp only [step] at taken
      split at taken
      · rename_i writes phaseAt
        exact Or.inr (Or.inr (Or.inl ⟨owner, writes, rfl, phaseAt,
          (Option.some.inj taken).symm⟩))
      · cases taken
  | rollback owner =>
      simp only [step] at taken
      split at taken
      · rename_i held fault phaseAt
        exact Or.inr (Or.inr (Or.inr ⟨owner, held, fault, rfl, phaseAt,
          (Option.some.inj taken).symm⟩))
      · cases taken

omit [DecidableEq Key] in
@[simp] theorem setPhase_committed (state : State Key Value Fault owners) (owner : Fin owners)
    (phase : Phase Key Value Fault) : (state.setPhase owner phase).committed = state.committed :=
  rfl

omit [DecidableEq Key] in
@[simp] theorem setPhase_same (state : State Key Value Fault owners) (owner : Fin owners)
    (phase : Phase Key Value Fault) : (state.setPhase owner phase).phase owner = phase := by
  unfold State.setPhase
  exact Function.update_self owner phase state.phase

omit [DecidableEq Key] in
theorem setPhase_other (state : State Key Value Fault owners) {owner other : Fin owners}
    (different : other ≠ owner) (phase : Phase Key Value Fault) :
    (state.setPhase owner phase).phase other = state.phase other := by
  unfold State.setPhase
  exact Function.update_of_ne different phase state.phase

/-! ### Private row versions replay on the committed store -/

/-- The performed operations, newest first, read exactly the committed rows. -/
def Replays (committed : Key → Value) (performed : List (Operation Key Value Fault))
    (writes : List (Key × Value)) : Prop :=
  List.Forall₂ (fun operation write => write.1 = operation.key ∧
    operation.apply (committed operation.key) = .ok write.2) performed writes

omit [DecidableEq Key] in
theorem Replays.keys {committed : Key → Value} {performed : List (Operation Key Value Fault)}
    {writes : List (Key × Value)} (replays : Replays committed performed writes) :
    writes.map Prod.fst = performed.map Operation.key := by
  induction replays with
  | nil => rfl
  | cons first _ ih => simp only [List.map_cons, first.1, ih]

omit [DecidableEq Key] in
theorem Replays.of_agree {before after : Key → Value}
    {performed : List (Operation Key Value Fault)} {writes : List (Key × Value)}
    (replays : Replays before performed writes)
    (agree : ∀ key, key ∈ writes.map Prod.fst → after key = before key) :
    Replays after performed writes := by
  induction replays with
  | nil => exact .nil
  | @cons operation write older olderWrites first _ ih =>
      have same : after operation.key = before operation.key :=
        agree operation.key (by rw [List.map_cons, first.1]; exact List.mem_cons_self)
      refine .cons ⟨first.1, by rw [same]; exact first.2⟩ (ih ?_)
      intro key member
      exact agree key (List.mem_cons_of_mem _ member)

theorem install_of_not_mem (committed : Key → Value) (writes : List (Key × Value)) (key : Key)
    (absent : key ∉ writes.map Prod.fst) : install committed writes key = committed key := by
  induction writes with
  | nil => rfl
  | cons write older ih =>
      rw [List.map_cons, List.mem_cons, not_or] at absent
      rw [install, Function.update_of_ne absent.1]
      exact ih absent.2

theorem visible_of_not_mem (committed : Key → Value) (writes : List (Key × Value)) (key : Key)
    (absent : key ∉ writes.map Prod.fst) : visible committed writes key = committed key := by
  have missing : writes.lookup key = none := by
    rw [List.lookup_eq_none_iff]
    intro write member
    rw [bne_iff_ne]
    intro same
    exact absent (List.mem_map.mpr ⟨write, member, same.symm⟩)
  rw [visible, missing, Option.getD_none]

/-- A transaction alone on the committed store passes through the same private
row versions as the interleaved one. -/
theorem Replays.execute {committed : Key → Value}
    {performed : List (Operation Key Value Fault)} {writes : List (Key × Value)}
    (replays : Replays committed performed writes)
    (distinct : (performed.map Operation.key).Nodup)
    (rest : List (Operation Key Value Fault)) :
    execute committed (performed.reverse ++ rest) = execute (install committed writes) rest := by
  induction replays generalizing rest with
  | nil => rfl
  | @cons operation write older olderWrites first earlier ih =>
      have separate := List.nodup_cons.mp distinct
      have unread : operation.key ∉ olderWrites.map Prod.fst := by
        rw [Replays.keys earlier]
        exact separate.1
      rw [List.reverse_cons, List.append_assoc, List.singleton_append, ih separate.2]
      simp only [LockedTransactions.execute, install]
      rw [install_of_not_mem committed olderWrites operation.key unread, first.2, first.1]

/-! ### The lock invariant -/

def Consistent (committed : Key → Value) (program : List (Operation Key Value Fault)) :
    Phase Key Value Fault → Prop
  | .running writes rest =>
      ∃ performed, program = performed.reverse ++ rest ∧ Replays committed performed writes
  | .aborting held fault =>
      ∃ performed failing rest writes, program = performed.reverse ++ failing :: rest ∧
        Replays committed performed writes ∧ held = failing.key :: writes.map Prod.fst ∧
        failing.apply (committed failing.key) = .error fault
  | .finished _ => True

structure LockInvariant (programs : Fin owners → List (Operation Key Value Fault))
    (state : State Key Value Fault owners) : Prop where
  exclusive : ∀ left right key, left ≠ right → key ∈ (state.phase left).holds →
    key ∉ (state.phase right).holds
  consistent : ∀ owner, Consistent state.committed (programs owner) (state.phase owner)

omit [DecidableEq Key] in
theorem Consistent.of_agree {before after : Key → Value}
    {program : List (Operation Key Value Fault)} {phase : Phase Key Value Fault}
    (consistent : Consistent before program phase)
    (agree : ∀ key, key ∈ phase.holds → after key = before key) :
    Consistent after program phase := by
  cases phase with
  | running writes rest =>
      obtain ⟨performed, split, replays⟩ := consistent
      exact ⟨performed, split, replays.of_agree agree⟩
  | aborting held fault =>
      obtain ⟨performed, failing, rest, writes, split, replays, heldEq, faulted⟩ := consistent
      refine ⟨performed, failing, rest, writes, split, replays.of_agree ?_, heldEq, ?_⟩
      · intro key member
        exact agree key (by rw [Phase.holds, heldEq]; exact List.mem_cons_of_mem _ member)
      · rw [agree failing.key (by rw [Phase.holds, heldEq]; exact List.mem_cons_self)]
        exact faulted
  | finished outcome => trivial

omit [DecidableEq Key] in
theorem lockInvariant_initial (store : Key → Value)
    (programs : Fin owners → List (Operation Key Value Fault)) :
    LockInvariant programs (initial store programs) :=
  { exclusive := fun _ _ _ _ member => by cases member
    consistent := fun _ => ⟨[], rfl, .nil⟩ }

omit [DecidableEq Key] in
/-- One owner changes phase; everybody else keeps both locks and row versions. -/
theorem LockInvariant.setPhase {programs : Fin owners → List (Operation Key Value Fault)}
    {state : State Key Value Fault owners} (invariant : LockInvariant programs state)
    (owner : Fin owners) (phase : Phase Key Value Fault)
    (fresh : ∀ key, key ∈ phase.holds → ∀ other, other ≠ owner →
      key ∉ (state.phase other).holds)
    (consistent : Consistent state.committed (programs owner) phase) :
    LockInvariant programs (state.setPhase owner phase) := by
  constructor
  · intro left right key different heldLeft heldRight
    by_cases leftOwner : left = owner
    · subst left
      rw [setPhase_same] at heldLeft
      rw [setPhase_other state (Ne.symm different)] at heldRight
      exact fresh key heldLeft right (Ne.symm different) heldRight
    · rw [setPhase_other state leftOwner] at heldLeft
      by_cases rightOwner : right = owner
      · subst right
        rw [setPhase_same] at heldRight
        exact fresh key heldRight left leftOwner heldLeft
      · rw [setPhase_other state rightOwner] at heldRight
        exact invariant.exclusive left right key different heldLeft heldRight
  · intro other
    rw [setPhase_committed]
    by_cases same : other = owner
    · subst other
      rw [setPhase_same]
      exact consistent
    · rw [setPhase_other state same]
      exact invariant.consistent other

omit [DecidableEq Key] in
theorem unwritten_of_distinct {program performed rest : List (Operation Key Value Fault)}
    {operation : Operation Key Value Fault} {committed : Key → Value}
    {writes : List (Key × Value)} (distinct : (program.map Operation.key).Nodup)
    (split : program = performed.reverse ++ operation :: rest)
    (replays : Replays committed performed writes) : operation.key ∉ writes.map Prod.fst := by
  rw [replays.keys]
  rw [split, List.map_append, List.map_cons, List.nodup_append] at distinct
  intro member
  have reversed : operation.key ∈ performed.reverse.map Operation.key := by
    rw [List.map_reverse, List.mem_reverse]
    exact member
  exact distinct.2.2 operation.key reversed operation.key List.mem_cons_self rfl

/-- An owner about to execute has replayed its program so far and sees the committed row. -/
theorem LockInvariant.running {programs : Fin owners → List (Operation Key Value Fault)}
    {state : State Key Value Fault owners} (invariant : LockInvariant programs state)
    {owner : Fin owners} (distinct : ((programs owner).map Operation.key).Nodup)
    {writes : List (Key × Value)} {operation : Operation Key Value Fault}
    {rest : List (Operation Key Value Fault)}
    (phaseAt : state.phase owner = .running writes (operation :: rest)) :
    ∃ performed, programs owner = performed.reverse ++ operation :: rest ∧
      Replays state.committed performed writes ∧
      visible state.committed writes operation.key = state.committed operation.key := by
  have consistent := invariant.consistent owner
  rw [phaseAt] at consistent
  obtain ⟨performed, split, replays⟩ := consistent
  exact ⟨performed, split, replays,
    visible_of_not_mem _ _ _ (unwritten_of_distinct distinct split replays)⟩

omit [DecidableEq Key] in
/-- What an owner holds with one more unlocked key is held by nobody else. -/
theorem LockInvariant.fresh {programs : Fin owners → List (Operation Key Value Fault)}
    {state : State Key Value Fault owners} (invariant : LockInvariant programs state)
    {owner : Fin owners} {writes : List (Key × Value)} {operation : Operation Key Value Fault}
    {rest : List (Operation Key Value Fault)}
    (phaseAt : state.phase owner = .running writes (operation :: rest))
    (unlocked : ∀ other, other ≠ owner → operation.key ∉ (state.phase other).holds) :
    ∀ key, key ∈ operation.key :: writes.map Prod.fst → ∀ other, other ≠ owner →
      key ∉ (state.phase other).holds := by
  intro key member other different
  rcases List.mem_cons.mp member with rfl | older
  · exact unlocked other different
  · apply invariant.exclusive owner other key (Ne.symm different)
    rw [phaseAt]
    exact older

theorem lockInvariant_step {programs : Fin owners → List (Operation Key Value Fault)}
    (distinct : ∀ owner, ((programs owner).map Operation.key).Nodup)
    {state next : State Key Value Fault owners} {action : Action owners}
    (invariant : LockInvariant programs state) (taken : step state action = some next) :
    LockInvariant programs next := by
  rcases step_cases taken with
    ⟨owner, writes, operation, rest, value, rfl, phaseAt, unlocked, applied, rfl⟩ |
    ⟨owner, writes, operation, rest, fault, rfl, phaseAt, unlocked, applied, rfl⟩ |
    ⟨owner, writes, rfl, phaseAt, rfl⟩ | ⟨owner, held, fault, rfl, phaseAt, rfl⟩
  · obtain ⟨performed, split, replays, unwritten⟩ := invariant.running (distinct owner) phaseAt
    rw [unwritten] at applied
    apply invariant.setPhase
    · exact invariant.fresh phaseAt unlocked
    · refine ⟨operation :: performed, ?_, .cons ⟨rfl, applied⟩ replays⟩
      rw [split, List.reverse_cons, List.append_assoc, List.singleton_append]
  · obtain ⟨performed, split, replays, unwritten⟩ := invariant.running (distinct owner) phaseAt
    rw [unwritten] at applied
    apply invariant.setPhase
    · exact invariant.fresh phaseAt unlocked
    · exact ⟨performed, operation, rest, writes, split, replays, rfl, applied⟩
  · have released : LockInvariant programs (state.setPhase owner (.finished .committed)) :=
      invariant.setPhase owner _ (fun key member => by cases member) trivial
    constructor
    · exact released.exclusive
    · intro other
      by_cases same : other = owner
      · subst other
        change Consistent _ _ ((state.setPhase owner (.finished .committed)).phase owner)
        rw [setPhase_same]
        trivial
      · apply (released.consistent other).of_agree
        intro key member
        change install state.committed writes key = state.committed key
        rw [setPhase_other state same] at member
        apply install_of_not_mem
        intro written
        exact invariant.exclusive other owner key same member (by rw [phaseAt]; exact written)
  · exact invariant.setPhase owner _ (fun key member => by cases member) trivial

/-! ### No waiting cycle -/

omit [DecidableEq Key] in
/-- Along a waiting chain the rank of the wanted row strictly increases. -/
theorem waits_rank_increases {state : State Key Value Fault owners} (rank : Key → Nat)
    (ascending : ∀ owner wanted held, (state.phase owner).wants = some wanted →
      held ∈ (state.phase owner).holds → rank held < rank wanted)
    {waiter blocker : Fin owners} (chain : Relation.TransGen (WaitsFor state) waiter blocker) :
    ∃ wanted, (state.phase waiter).wants = some wanted ∧
      ∀ later, (state.phase blocker).wants = some later → rank wanted < rank later := by
  induction chain with
  | single edge =>
      obtain ⟨_, key, wants, held⟩ := edge
      exact ⟨key, wants, fun later wantsLater => ascending _ later key wantsLater held⟩
  | tail _ edge ih =>
      obtain ⟨wanted, wants, below⟩ := ih
      obtain ⟨_, key, wantsKey, held⟩ := edge
      refine ⟨wanted, wants, ?_⟩
      intro later wantsLater
      exact Nat.lt_trans (below key wantsKey) (ascending _ later key wantsLater held)

theorem no_waiting_cycle {programs : Fin owners → List (Operation Key Value Fault)}
    (rank : Key → Nat)
    (ordered : ∀ owner, (programs owner).Pairwise
      (fun earlier later => rank earlier.key < rank later.key))
    (store : Key → Value) {schedule : List (Action owners)} {state : State Key Value Fault owners}
    (ran : runFrom step (initial store programs) schedule = some state) (owner : Fin owners) :
    ¬ Relation.TransGen (WaitsFor state) owner owner := by
  have distinct (other : Fin owners) : ((programs other).map Operation.key).Nodup := by
    rw [List.Nodup, List.pairwise_map]
    exact (ordered other).imp (fun below same => by rw [same] at below; omega)
  have invariant : LockInvariant programs state :=
    runFrom_invariant (fun _ _ _ => lockInvariant_step distinct)
      (lockInvariant_initial store programs) ran
  have ascending (other : Fin owners) (wanted held : Key)
      (wants : (state.phase other).wants = some wanted)
      (holds : held ∈ (state.phase other).holds) : rank held < rank wanted := by
    have consistent := invariant.consistent other
    cases phaseAt : state.phase other with
    | running writes rest =>
        rw [phaseAt] at wants holds consistent
        obtain ⟨performed, split, replays⟩ := consistent
        cases rest with
        | nil => cases wants
        | cons operation rest =>
            cases wants
            rw [Phase.holds, replays.keys, List.mem_map] at holds
            obtain ⟨done, member, rfl⟩ := holds
            have pairwise := ordered other
            rw [split, List.pairwise_append] at pairwise
            exact pairwise.2.2 done (List.mem_reverse.mpr member) operation List.mem_cons_self
    | aborting held fault =>
        rw [phaseAt] at wants
        cases wants
    | finished outcome =>
        rw [phaseAt] at wants
        cases wants
  intro cycle
  obtain ⟨wanted, wants, below⟩ := waits_rank_increases rank ascending cycle
  exact Nat.lt_irrefl _ (below wanted wants)

/-! ### Equivalence with the serial execution in finishing order -/

structure SerialInvariant (programs : Fin owners → List (Operation Key Value Fault))
    (store : Key → Value) (trace : List (Action owners)) (state : State Key Value Fault owners) :
    Prop where
  locks : LockInvariant programs state
  finished : ∀ owner, owner ∈ finishOrder trace ↔ (state.phase owner).outcome?.isSome = true
  once : (finishOrder trace).Nodup
  outcomes : (serial store ((finishOrder trace).map programs)).1.map some =
    (finishOrder trace).map (fun owner => (state.phase owner).outcome?)
  store : (serial store ((finishOrder trace).map programs)).2 = state.committed

omit [DecidableEq Key] in
theorem outcome?_setPhase_of_not_mem (state : State Key Value Fault owners)
    (owner : Fin owners) (phase : Phase Key Value Fault) (order : List (Fin owners))
    (absent : owner ∉ order) :
    order.map (fun other => ((state.setPhase owner phase).phase other).outcome?) =
      order.map (fun other => (state.phase other).outcome?) := by
  apply List.map_congr_left
  intro other member
  have different : other ≠ owner := fun same => absent (same ▸ member)
  rw [setPhase_other state different]

theorem serialInvariant_execute {programs : Fin owners → List (Operation Key Value Fault)}
    {store : Key → Value} {trace : List (Action owners)} {state : State Key Value Fault owners}
    (invariant : SerialInvariant programs store trace state) {owner : Fin owners}
    {phase : Phase Key Value Fault} (open_before : (state.phase owner).outcome? = none)
    (open_after : phase.outcome? = none)
    (locks : LockInvariant programs (state.setPhase owner phase)) :
    SerialInvariant programs store (trace ++ [.execute owner]) (state.setPhase owner phase) := by
  have sameOrder : finishOrder (trace ++ [.execute owner]) = finishOrder trace := by
    rw [finishOrder, List.filterMap_append]
    exact List.append_nil _
  have absent : owner ∉ finishOrder trace := by
    rw [invariant.finished owner, open_before]
    exact Bool.false_ne_true
  constructor
  · exact locks
  · intro other
    rw [sameOrder, invariant.finished other]
    by_cases same : other = owner
    · subst other
      rw [setPhase_same, open_before, open_after]
    · rw [setPhase_other state same]
  · rw [sameOrder]
    exact invariant.once
  · rw [sameOrder, outcome?_setPhase_of_not_mem state owner phase _ absent]
    exact invariant.outcomes
  · rw [sameOrder]
    exact invariant.store

/-- Finishing `owner` appends it to the serial order; `serialStep` is what the
serial execution does with its program on the store committed so far. -/
theorem serialInvariant_finish {programs : Fin owners → List (Operation Key Value Fault)}
    {store : Key → Value} {trace : List (Action owners)}
    {state next : State Key Value Fault owners} {action : Action owners} {owner : Fin owners}
    {outcome : Outcome Fault} (invariant : SerialInvariant programs store trace state)
    (finishes : finishOrder [action] = [owner])
    (open_before : (state.phase owner).outcome? = none)
    (phases : next.phase = (state.setPhase owner (.finished outcome)).phase)
    (serialStep : transact state.committed (programs owner) = (outcome, next.committed))
    (locks : LockInvariant programs next) :
    SerialInvariant programs store (trace ++ [action]) next := by
  have extended : finishOrder (trace ++ [action]) = finishOrder trace ++ [owner] := by
    rw [finishOrder, List.filterMap_append]
    exact congrArg _ finishes
  have absent : owner ∉ finishOrder trace := by
    rw [invariant.finished owner, open_before]
    exact Bool.false_ne_true
  have serialExtended := serial_append_singleton store
    ((finishOrder trace).map programs) (programs owner)
  rw [invariant.store, serialStep] at serialExtended
  constructor
  · exact locks
  · intro other
    rw [extended, List.mem_append, List.mem_singleton, invariant.finished other, phases]
    by_cases same : other = owner
    · subst other
      rw [setPhase_same]
      exact ⟨fun _ => rfl, fun _ => Or.inr rfl⟩
    · rw [setPhase_other state same]
      exact or_iff_left same
  · rw [extended]
    exact List.nodup_append.mpr ⟨invariant.once, List.nodup_singleton owner, by
      intro left member right single same
      rw [List.mem_singleton] at single
      exact absent (single ▸ same ▸ member)⟩
  · rw [extended, List.map_append, List.map_singleton, serialExtended, List.map_append,
      List.map_append, invariant.outcomes, phases,
      outcome?_setPhase_of_not_mem state owner _ _ absent, List.map_singleton,
      List.map_singleton, setPhase_same]
    rfl
  · rw [extended, List.map_append, List.map_singleton, serialExtended]

theorem serialInvariant_step {programs : Fin owners → List (Operation Key Value Fault)}
    (distinct : ∀ owner, ((programs owner).map Operation.key).Nodup) {store : Key → Value}
    {trace : List (Action owners)} {state next : State Key Value Fault owners}
    {action : Action owners} (invariant : SerialInvariant programs store trace state)
    (taken : step state action = some next) :
    SerialInvariant programs store (trace ++ [action]) next := by
  have locks := lockInvariant_step distinct invariant.locks taken
  rcases step_cases taken with
    ⟨owner, writes, operation, rest, value, rfl, phaseAt, _, _, rfl⟩ |
    ⟨owner, writes, operation, rest, fault, rfl, phaseAt, _, _, rfl⟩ |
    ⟨owner, writes, rfl, phaseAt, rfl⟩ | ⟨owner, held, fault, rfl, phaseAt, rfl⟩
  · exact serialInvariant_execute invariant (by rw [phaseAt]; rfl) rfl locks
  · exact serialInvariant_execute invariant (by rw [phaseAt]; rfl) rfl locks
  · have consistent := invariant.locks.consistent owner
    rw [phaseAt] at consistent
    obtain ⟨performed, split, replays⟩ := consistent
    have separate := distinct owner
    rw [split, List.append_nil, List.map_reverse, List.nodup_reverse] at separate
    have executed := replays.execute separate []
    rw [← split] at executed
    refine serialInvariant_finish invariant rfl (by rw [phaseAt]; rfl) rfl ?_ locks
    rw [transact, executed]
    rfl
  · have consistent := invariant.locks.consistent owner
    rw [phaseAt] at consistent
    obtain ⟨performed, failing, rest, writes, split, replays, _, faulted⟩ := consistent
    have unwritten := unwritten_of_distinct (distinct owner) split replays
    have separate := distinct owner
    rw [split, List.map_append, List.map_reverse, List.nodup_append, List.nodup_reverse] at separate
    have executed := replays.execute separate.1 (failing :: rest)
    rw [← split] at executed
    refine serialInvariant_finish invariant rfl (by rw [phaseAt]; rfl) rfl ?_ locks
    rw [transact, executed, LockedTransactions.execute,
      install_of_not_mem _ _ _ unwritten, faulted]
    rfl

theorem serial_equivalence {programs : Fin owners → List (Operation Key Value Fault)}
    (distinct : ∀ owner, ((programs owner).map Operation.key).Nodup) (store : Key → Value)
    {schedule : List (Action owners)} {state : State Key Value Fault owners}
    (ran : runFrom step (initial store programs) schedule = some state) :
    SerialInvariant programs store schedule state := by
  have started : SerialInvariant programs store [] (initial store programs) :=
    { locks := lockInvariant_initial store programs
      finished := fun _ => ⟨fun member => (by cases member), fun done => (by cases done)⟩
      once := List.nodup_nil
      outcomes := rfl
      store := rfl }
  exact runFrom_trace_invariant (fun _ _ _ _ => serialInvariant_step distinct) started ran

end AcdpPlayground.LockedTransactions

/-
`try: return conclude(await gather(*strands)) finally: last`. The strands of a pool take turns
in any order. When all of them have returned the gathering ends with their values, in the order
of the strands; when one has raised it may end with that failure, and the strands that are left
go on, after the gathering is over.
-/

import AcdpPlayground.Foundation.Strands
import AcdpPlayground.Foundation.TransitionRun
import Mathlib.Data.List.Forall2

namespace AcdpPlayground.Gather

open Strands TransitionRun

variable {Effect Failure Value Result : Type}

structure Gathering (Effect Failure Value Result : Type) where
  pool : Pool Effect Failure Value
  outcome : Option (Except Failure Result)

inductive Turn where
  | advance (place : Nat)
  | finish
  | abort (place : Nat)

def returnedAll : List (Strand Effect Failure Value) → Option (List Value)
  | [] => some []
  | .returned value :: rest => (returnedAll rest).map (value :: ·)
  | _ :: _ => none

namespace Gathering

def start (strands : List (Strand Effect Failure Value)) (before : List Effect) :
    Gathering Effect Failure Value Result where
  pool := Pool.start strands before
  outcome := none

def step (conclude : List Value → Result) (last : Effect)
    (gathering : Gathering Effect Failure Value Result) :
    Turn → Option (Gathering Effect Failure Value Result)
  | .advance place =>
      (gathering.pool.advance place).map (fun pool => { gathering with pool := pool })
  | .finish =>
      match gathering.outcome, returnedAll gathering.pool.strands with
      | none, some values => some {
          pool := gathering.pool.note last
          outcome := some (.ok (conclude values)) }
      | _, _ => none
  | .abort place =>
      match gathering.outcome, gathering.pool.strands[place]? with
      | none, some (.raised failure) => some {
          pool := gathering.pool.note last
          outcome := some (.error failure) }
      | _, _ => none

end Gathering

theorem returnedAll_eq_some {strands : List (Strand Effect Failure Value)} {values : List Value} :
    returnedAll strands = some values ↔ strands = values.map .returned := by
  induction strands generalizing values with
  | nil => cases values <;> simp [returnedAll]
  | cons strand rest ih =>
      cases strand with
      | returned value =>
          cases values with
          | nil => simp [returnedAll]
          | cons head tail => simp [returnedAll, ih, and_comm]
      | raised failure => cases values <;> simp [returnedAll]
      | act effect next => cases values <;> simp [returnedAll]

/-- Strands that have not all returned: one of them raised or can act. -/
theorem exists_of_returnedAll_eq_none {strands : List (Strand Effect Failure Value)}
    (pending : returnedAll strands = none) :
    ∃ place : Nat, (∃ failure, strands[place]? = some (.raised failure)) ∨
      ∃ effect next, strands[place]? = some (.act effect next) := by
  induction strands with
  | nil => cases pending
  | cons strand rest ih =>
      cases strand with
      | returned value =>
          obtain ⟨place, found⟩ := ih (Option.map_eq_none_iff.mp pending)
          exact ⟨place + 1, found⟩
      | raised failure => exact ⟨0, .inl ⟨failure, rfl⟩⟩
      | act effect next => exact ⟨0, .inr ⟨effect, next, rfl⟩⟩

variable {conclude : List Value → Result} {last : Effect}
  {gathering next : Gathering Effect Failure Value Result} {turn : Turn}

theorem step_cases (taken : gathering.step conclude last turn = some next) :
    (∃ place pool, gathering.pool.advance place = some pool ∧
      next = { gathering with pool := pool }) ∨
    (∃ values, gathering.outcome = none ∧ gathering.pool.strands = values.map .returned ∧
      next = ⟨gathering.pool.note last, some (.ok (conclude values))⟩) ∨
    ∃ (place : Nat) (failure : Failure), gathering.outcome = none ∧
      gathering.pool.strands[place]? = some (.raised failure) ∧
      next = ⟨gathering.pool.note last, some (.error failure)⟩ := by
  cases turn with
  | advance place =>
      obtain ⟨pool, advanced, same⟩ := Option.map_eq_some_iff.mp taken
      exact .inl ⟨place, pool, advanced, same.symm⟩
  | finish =>
      simp only [Gathering.step] at taken
      split at taken
      · next values undecided all =>
          exact .inr (.inl ⟨values, undecided, returnedAll_eq_some.mp all,
            (Option.some.inj taken).symm⟩)
      · cases taken
  | abort place =>
      simp only [Gathering.step] at taken
      split at taken
      · next failure undecided found =>
          exact .inr (.inr ⟨place, failure, undecided, found, (Option.some.inj taken).symm⟩)
      · cases taken

theorem step_of_undecided (undecided : gathering.outcome = none) :
    ∃ turn next, gathering.step conclude last turn = some next := by
  cases all : returnedAll gathering.pool.strands with
  | some values =>
      refine ⟨.finish, ⟨gathering.pool.note last, some (.ok (conclude values))⟩, ?_⟩
      simp only [Gathering.step, undecided, all]
  | none =>
      obtain ⟨place, ⟨failure, found⟩ | ⟨effect, after, found⟩⟩ :=
        exists_of_returnedAll_eq_none all
      · refine ⟨.abort place, ⟨gathering.pool.note last, some (.error failure)⟩, ?_⟩
        simp only [Gathering.step, undecided, found]
      · refine ⟨.advance place, ?_⟩
        simp only [Gathering.step, Pool.advance, found, Option.map_some]
        exact ⟨_, rfl⟩

/-- What holds of a gathering at any time. -/
structure Sound (returns : Nat → Value → List Effect → Prop)
    (raises : Nat → Failure → List Effect → Prop) (conclude : List Value → Result)
    (last : Effect) (before : List Effect) (count : Nat)
    (gathering : Gathering Effect Failure Value Result) : Prop where
  meets : Pool.Meets returns raises gathering.pool
  places : gathering.pool.strands.length = count
  starts : before.map (fun effect => (none, effect)) <+: gathering.pool.log
  outside : gathering.pool.outside = before ++ if gathering.outcome.isSome then [last] else []
  inside : ∀ entry ∈ gathering.pool.log, ∀ place, entry.1 = some place → place < count
  finished : ∀ result, gathering.outcome = some (.ok result) → ∃ values,
    gathering.pool.strands = values.map .returned ∧ result = conclude values ∧
    ∃ done, gathering.pool.log = done ++ [(none, last)] ∧
      before.map (fun effect => (none, effect)) <+: done
  aborted : ∀ failure, gathering.outcome = some (.error failure) → ∃ place : Nat,
    gathering.pool.strands[place]? = some (.raised failure)

variable {returns : Nat → Value → List Effect → Prop}
  {raises : Nat → Failure → List Effect → Prop} {before : List Effect} {count : Nat}

theorem sound_start {strands : List (Strand Effect Failure Value)}
    (ensures : ∀ place strand, strands[place]? = some strand →
      Ensures List.Sublist (returns place) (raises place) strand []) :
    Sound returns raises conclude last before strands.length
      (Gathering.start strands before) where
  meets := Pool.Meets.start ensures
  places := rfl
  starts := List.prefix_refl _
  outside := (Pool.outside_start strands before).trans (List.append_nil before).symm
  inside := by
    intro entry member place same
    obtain ⟨effect, _, rfl⟩ := List.mem_map.mp member
    cases same
  finished := by
    intro result same
    cases same
  aborted := by
    intro failure same
    cases same

theorem Sound.advance {place : Nat} {pool : Pool Effect Failure Value}
    (sound : Sound returns raises conclude last before count gathering)
    (taken : gathering.pool.advance place = some pool) :
    Sound returns raises conclude last before count { gathering with pool := pool } := by
  have meets := sound.meets.advance taken
  obtain ⟨effect, after, found, rfl⟩ := Pool.advance_eq_some taken
  have within : place < gathering.pool.strands.length := (List.getElem?_eq_some_iff.mp found).1
  constructor
  · exact meets
  · exact List.length_set.trans sound.places
  · exact sound.starts.trans (List.prefix_append _ _)
  · exact (Pool.outside_log _ effect place).trans sound.outside
  · intro entry member other same
    rcases List.mem_append.mp member with old | new
    · exact sound.inside entry old other same
    · rw [List.mem_singleton.mp new] at same
      cases same
      exact sound.places ▸ within
  · intro result same
    obtain ⟨values, all, _⟩ := sound.finished result same
    rw [all, List.getElem?_map] at found
    obtain ⟨value, _, impossible⟩ := Option.map_eq_some_iff.mp found
    cases impossible
  · intro failure same
    obtain ⟨other, raised⟩ := sound.aborted failure same
    have distinct : place ≠ other := by
      rintro rfl
      rw [found] at raised
      cases raised
    exact ⟨other, (List.getElem?_set_ne distinct).trans raised⟩

theorem Sound.decide {outcome : Except Failure Result}
    (sound : Sound returns raises conclude last before count gathering)
    (undecided : gathering.outcome = none)
    (finished : ∀ result, outcome = .ok result → ∃ values,
      gathering.pool.strands = values.map .returned ∧ result = conclude values)
    (aborted : ∀ failure, outcome = .error failure → ∃ place : Nat,
      gathering.pool.strands[place]? = some (.raised failure)) :
    Sound returns raises conclude last before count
      ⟨gathering.pool.note last, some outcome⟩ := by
  constructor
  · exact sound.meets.note last
  · exact sound.places
  · exact sound.starts.trans (List.prefix_append _ _)
  · rw [Pool.outside_note, sound.outside, undecided]
    simp
  · intro entry member place same
    rcases List.mem_append.mp member with old | new
    · exact sound.inside entry old place same
    · rw [List.mem_singleton.mp new] at same
      cases same
  · intro result same
    obtain ⟨values, all, concluded⟩ := finished result (Option.some.inj same)
    exact ⟨values, all, concluded, gathering.pool.log, rfl, sound.starts⟩
  · intro failure same
    exact aborted failure (Option.some.inj same)

theorem Sound.step (sound : Sound returns raises conclude last before count gathering)
    (taken : gathering.step conclude last turn = some next) :
    Sound returns raises conclude last before count next := by
  rcases step_cases taken with ⟨place, pool, advanced, rfl⟩ | ⟨values, undecided, all, rfl⟩ |
    ⟨place, failure, undecided, found, rfl⟩
  · exact sound.advance advanced
  · refine sound.decide undecided ?_ ?_
    · intro result same
      cases same
      exact ⟨values, all, rfl⟩
    · intro failure same
      cases same
  · refine sound.decide undecided ?_ ?_
    · intro result same
      cases same
    · intro other same
      cases same
      exact ⟨place, found⟩

theorem sound_run {strands : List (Strand Effect Failure Value)}
    {schedule : List Turn} {final : Gathering Effect Failure Value Result}
    (ensures : ∀ place strand, strands[place]? = some strand →
      Ensures List.Sublist (returns place) (raises place) strand [])
    (ran : runFrom (Gathering.step conclude last) (.start strands before) schedule = some final) :
    Sound returns raises conclude last before strands.length final :=
  runFrom_invariant (fun _ _ _ sound taken => Sound.step sound taken) (sound_start ensures) ran

theorem log_length_run {strands : List (Strand Effect Failure Value)}
    {schedule : List Turn} {final : Gathering Effect Failure Value Result}
    (ran : runFrom (Gathering.step conclude last) (.start strands before) schedule = some final) :
    final.pool.log.length = before.length + schedule.length := by
  have counted := @runFrom_trace_invariant _ _ (Gathering.step conclude last)
    (fun trace state => state.pool.log.length = before.length + trace.length) ?_ _ _ []
    schedule ?_ ran
  · exact counted
  · intro trace state turn next holds taken
    rw [List.length_append, List.length_singleton, ← Nat.add_assoc, ← holds]
    rcases step_cases taken with ⟨place, pool, advanced, rfl⟩ | ⟨values, _, _, rfl⟩ |
      ⟨place, failure, _, _, rfl⟩
    · obtain ⟨effect, after, _, rfl⟩ := Pool.advance_eq_some advanced
      exact List.length_append
    · exact List.length_append
    · exact List.length_append
  · exact List.length_map _

theorem Sound.stuck {result : Result}
    (sound : Sound returns raises conclude last before count gathering)
    (isOver : gathering.outcome = some (.ok result)) (turn : Turn) :
    gathering.step conclude last turn = none := by
  obtain ⟨values, all, _⟩ := sound.finished result isOver
  cases taken : gathering.step conclude last turn with
  | none => rfl
  | some next =>
      rcases step_cases taken with ⟨place, pool, advanced, _⟩ | ⟨_, undecided, _⟩ |
        ⟨_, _, undecided, _⟩
      · obtain ⟨effect, after, found, _⟩ := Pool.advance_eq_some advanced
        rw [all, List.getElem?_map] at found
        obtain ⟨value, _, impossible⟩ := Option.map_eq_some_iff.mp found
        cases impossible
      · rw [isOver] at undecided
        cases undecided
      · rw [isOver] at undecided
        cases undecided

/-! ### Lists by place -/

section Lists

variable {Item Other : Type}

theorem forall₂_flatMap_range {related : Item → Other → Prop} {items : List Item}
    {entries : Nat → List Other}
    (each : ∀ place item, items[place]? = some item →
      ∃ entry, entries place = [entry] ∧ related item entry) :
    List.Forall₂ related items ((List.range items.length).flatMap entries) := by
  induction items generalizing entries with
  | nil => exact .nil
  | cons item rest ih =>
      obtain ⟨entry, only, isRelated⟩ := each 0 item rfl
      rw [List.length_cons, List.range_succ_eq_map, List.flatMap_cons, List.flatMap_map, only]
      exact .cons isRelated (ih (fun place => each (place + 1)))

theorem length_flatMap_range_le {entries : Nat → List Other} {bound count : Nat}
    (each : ∀ place < count, (entries place).length ≤ bound) :
    ((List.range count).flatMap entries).length ≤ bound * count := by
  induction count with
  | zero => exact Nat.zero_le _
  | succ count ih =>
      have earlier := ih (fun place within => each place (Nat.lt_succ_of_lt within))
      have last := each count (Nat.lt_succ_self count)
      rw [List.range_succ, List.flatMap_append, List.flatMap_singleton, List.length_append,
        Nat.mul_succ]
      omega

theorem map_eq_flatMap_range {items : List Item} {entries : Nat → List Other} {read : Item → Other}
    (each : ∀ place item, items[place]? = some item → entries place = [read item]) :
    items.map read = (List.range items.length).flatMap entries := by
  have paired : List.Forall₂ (fun item entry => read item = entry) items
      ((List.range items.length).flatMap entries) := by
    apply forall₂_flatMap_range
    intro place item found
    exact ⟨read item, each place item found, rfl⟩
  have same := List.forall₂_map_left_iff.mpr paired
  rw [List.forall₂_eq_eq_eq] at same
  exact same

theorem zipWith_snd {First : Type} {firsts : List First} {items : List Item}
    (read : Item → Other) (long : items.length ≤ firsts.length) :
    List.zipWith (fun _ item => read item) firsts items = items.map read := by
  induction firsts generalizing items with
  | nil =>
      cases items with
      | nil => rfl
      | cons item rest => exact absurd long (Nat.not_succ_le_zero _)
  | cons first others ih =>
      cases items with
      | nil => rfl
      | cons item rest =>
          rw [List.zipWith_cons_cons, List.map_cons, ih (Nat.le_of_succ_le_succ long)]

theorem sublist_split {before after whole : List Item} {item : Item}
    (within : (before ++ item :: after).Sublist whole) :
    ∃ first last, whole = first ++ item :: last ∧ after.Sublist last := by
  obtain ⟨start, rest, rfl, _, later⟩ := List.append_sublist_iff.mp within
  obtain ⟨middle, last, rfl, member, tail⟩ := List.cons_sublist_iff.mp later
  obtain ⟨left, right, rfl⟩ := List.append_of_mem member
  refine ⟨start ++ left, right ++ last, ?_, tail.trans (List.sublist_append_right _ _)⟩
  simp only [List.append_assoc, List.cons_append]

end Lists

end AcdpPlayground.Gather

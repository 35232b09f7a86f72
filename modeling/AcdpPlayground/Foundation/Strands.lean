/-
Strands: programs that act on an environment one effect at a time. What a strand goes on with
after an effect may depend on everything that was done before it, also by others; a strand
that raises keeps what it did. The same strand runs alone or in a pool, where any other strand
may act between two of its effects.

The rules are those of pre- and postconditions over what the strand itself did. `admits`
relates that to the histories in which it may act next, so one specification serves both ways
of running.
-/

import Mathlib.Data.List.Basic

namespace AcdpPlayground.Strands

variable {Effect Failure First Value : Type}

inductive Strand (Effect Failure Value : Type) where
  | returned (value : Value)
  | raised (failure : Failure)
  | act (effect : Effect) (next : List Effect → Strand Effect Failure Value)

def Strand.bind : Strand Effect Failure First → (First → Strand Effect Failure Value) →
    Strand Effect Failure Value
  | .returned value, next => next value
  | .raised failure, _ => .raised failure
  | .act effect after, next => .act effect (fun history => (after history).bind next)

instance : Monad (Strand Effect Failure) where
  pure := .returned
  bind := Strand.bind

/-- A computation that may raise and that nobody sees. -/
def attempt : Except Failure Value → Strand Effect Failure Value
  | .ok value => .returned value
  | .error failure => .raised failure

def emit (effect : Effect) : Strand Effect Failure Unit :=
  .act effect (fun _ => .returned ())

/-- A request of the environment, which knows what went before it. -/
def ask (effect : Effect) (answer : List Effect → Except Failure Value) :
    Strand Effect Failure Value :=
  .act effect (fun history => attempt (answer history))

/-- `try: strand finally: emit(last)`. -/
def finallyEmit (last : Effect) : Strand Effect Failure Value → Strand Effect Failure Value
  | .returned value => .act last (fun _ => .returned value)
  | .raised failure => .act last (fun _ => .raised failure)
  | .act effect next => .act effect (fun history => finallyEmit last (next history))

def Strand.run : Strand Effect Failure Value → List Effect → Except Failure Value × List Effect
  | .returned value, history => (.ok value, history)
  | .raised failure, history => (.error failure, history)
  | .act effect next, history => (next history).run (history ++ [effect])

/-! ### Postconditions -/

/-- Every way in which the strand can go on from `own` ends as in `returns` or in `raises`. -/
def Ensures (admits : List Effect → List Effect → Prop) (returns : Value → List Effect → Prop)
    (raises : Failure → List Effect → Prop) : Strand Effect Failure Value → List Effect → Prop
  | .returned value, own => returns value own
  | .raised failure, own => raises failure own
  | .act effect next, own => ∀ history, admits own history →
      Ensures admits returns raises (next history) (own ++ [effect])

/-- What the environment may say to a strand that did `own`. -/
def Told {Answer : Type} (admits : List Effect → List Effect → Prop) (own : List Effect)
    (answer : List Effect → Answer) (told : Answer) : Prop :=
  ∃ history, admits own history ∧ answer history = told

section Rules

variable {admits : List Effect → List Effect → Prop} {own : List Effect}
  {returns : Value → List Effect → Prop} {raises : Failure → List Effect → Prop}

theorem ensures_bind {first : Strand Effect Failure First}
    {next : First → Strand Effect Failure Value}
    (ensures : Ensures admits
      (fun value middle => Ensures admits returns raises (next value) middle) raises first own) :
    Ensures admits returns raises (first >>= next) own := by
  induction first generalizing own with
  | returned value => exact ensures
  | raised failure => exact ensures
  | act effect after ih =>
      intro history known
      exact ih history (ensures history known)

theorem ensures_pure {value : Value} (holds : returns value own) :
    Ensures admits returns raises (pure value : Strand Effect Failure Value) own :=
  holds

theorem ensures_emit {effect : Effect} {returns : Unit → List Effect → Prop}
    (holds : returns () (own ++ [effect])) :
    Ensures admits returns raises (emit effect) own :=
  fun _ _ => holds

theorem ensures_attempt {result : Except Failure Value}
    (done : ∀ value, result = .ok value → returns value own)
    (failed : ∀ failure, result = .error failure → raises failure own) :
    Ensures admits returns raises (attempt result) own := by
  cases result with
  | ok value => exact done value rfl
  | error failure => exact failed failure rfl

theorem ensures_ask {effect : Effect} {answer : List Effect → Except Failure Value}
    (answered : ∀ value, Told admits own answer (.ok value) → returns value (own ++ [effect]))
    (refused : ∀ failure, Told admits own answer (.error failure) →
      raises failure (own ++ [effect])) :
    Ensures admits returns raises (ask effect answer) own := by
  intro history known
  apply ensures_attempt
  · intro value told
    exact answered value ⟨history, known, told⟩
  · intro failure told
    exact refused failure ⟨history, known, told⟩

theorem ensures_finallyEmit {strand : Strand Effect Failure Value} {last : Effect}
    (ensures : Ensures admits (fun value after => returns value (after ++ [last]))
      (fun failure after => raises failure (after ++ [last])) strand own) :
    Ensures admits returns raises (finallyEmit last strand) own := by
  induction strand generalizing own with
  | returned value => exact fun _ _ => ensures
  | raised failure => exact fun _ _ => ensures
  | act effect next ih =>
      intro history known
      exact ih history (ensures history known)

/-- The rule of consequence. -/
theorem Ensures.weaken {strand : Strand Effect Failure Value}
    {returns' : Value → List Effect → Prop} {raises' : Failure → List Effect → Prop}
    (ensures : Ensures admits returns raises strand own)
    (ok : ∀ value after, returns value after → returns' value after)
    (error : ∀ failure after, raises failure after → raises' failure after) :
    Ensures admits returns' raises' strand own := by
  induction strand generalizing own with
  | returned value => exact ok value own ensures
  | raised failure => exact error failure own ensures
  | act effect next ih =>
      intro history known
      exact ih history (ensures history known)

theorem Ensures.completes {strand : Strand Effect Failure Value}
    (open_ : ∀ own, ∃ history, admits own history)
    (ensures : Ensures admits returns raises strand own) :
    ∃ more, (∃ value, returns value (own ++ more)) ∨ ∃ failure, raises failure (own ++ more) := by
  induction strand generalizing own with
  | returned value => exact ⟨[], .inl ⟨value, by rwa [List.append_nil]⟩⟩
  | raised failure => exact ⟨[], .inr ⟨failure, by rwa [List.append_nil]⟩⟩
  | act effect next ih =>
      obtain ⟨history, known⟩ := open_ own
      obtain ⟨more, ends⟩ := ih history (ensures history known)
      rw [List.append_assoc] at ends
      exact ⟨effect :: more, ends⟩

end Rules

/-! ### Alone -/

/-- Alone, a strand acts in the history it started in and what it did itself. -/
def Alone (before own history : List Effect) : Prop :=
  history = before ++ own

theorem ensures_run {returns : Value → List Effect → Prop}
    {raises : Failure → List Effect → Prop} {strand : Strand Effect Failure Value}
    {before own : List Effect}
    (ensures : Ensures (Alone before) returns raises strand own) :
    ∃ final, (strand.run (before ++ own)).2 = before ++ final ∧
      (∀ value, (strand.run (before ++ own)).1 = .ok value → returns value final) ∧
      ∀ failure, (strand.run (before ++ own)).1 = .error failure → raises failure final := by
  induction strand generalizing own with
  | returned value =>
      refine ⟨own, rfl, ?_, ?_⟩
      · intro result same
        cases same
        exact ensures
      · intro failure same
        cases same
  | raised failure =>
      refine ⟨own, rfl, ?_, ?_⟩
      · intro value same
        cases same
      · intro other same
        cases same
        exact ensures
  | act effect next ih =>
      have later := ih (before ++ own) (ensures (before ++ own) rfl)
      rw [← List.append_assoc] at later
      exact later

/-! ### Pools -/

/-- Strands that take turns. An entry of the log names the strand that acted, or none. -/
structure Pool (Effect Failure Value : Type) where
  strands : List (Strand Effect Failure Value)
  log : List (Option Nat × Effect)

namespace Pool

variable (pool : Pool Effect Failure Value)

def history : List Effect :=
  pool.log.map Prod.snd

/-- What the strand at `place` did. -/
def own (place : Nat) : List Effect :=
  (pool.log.filter (fun entry => entry.1 = some place)).map Prod.snd

/-- What nobody in the pool did. -/
def outside : List Effect :=
  (pool.log.filter (fun entry => entry.1 = none)).map Prod.snd

def advance (place : Nat) : Option (Pool Effect Failure Value) :=
  match pool.strands[place]? with
  | some (.act effect next) => some {
      strands := pool.strands.set place (next pool.history)
      log := pool.log ++ [(some place, effect)] }
  | _ => none

def note (effect : Effect) : Pool Effect Failure Value :=
  { pool with log := pool.log ++ [(none, effect)] }

def start (strands : List (Strand Effect Failure Value)) (before : List Effect) :
    Pool Effect Failure Value where
  strands := strands
  log := before.map (fun effect => (none, effect))

variable {pool}

theorem advance_eq_some {place : Nat} {next : Pool Effect Failure Value}
    (taken : pool.advance place = some next) :
    ∃ effect after, pool.strands[place]? = some (.act effect after) ∧
      next = ⟨pool.strands.set place (after pool.history), pool.log ++ [(some place, effect)]⟩ := by
  unfold advance at taken
  split at taken
  · next effect after found =>
      exact ⟨effect, after, found, (Option.some.inj taken).symm⟩
  · cases taken

theorem own_sublist_history (place : Nat) : (pool.own place).Sublist pool.history :=
  List.filter_sublist.map Prod.snd

theorem own_start (strands : List (Strand Effect Failure Value)) (before : List Effect)
    (place : Nat) : (start strands before).own place = [] := by
  simp [own, start, List.filter_map, Function.comp_def]

theorem own_note (effect : Effect) (place : Nat) : (pool.note effect).own place = pool.own place := by
  simp [own, note]

theorem own_log (strands : List (Strand Effect Failure Value)) (effect : Effect)
    (actor place : Nat) :
    own ⟨strands, pool.log ++ [(some actor, effect)]⟩ place =
      pool.own place ++ if actor = place then [effect] else [] := by
  by_cases same : actor = place
  · simp [own, same]
  · simp [own, same]

theorem outside_start (strands : List (Strand Effect Failure Value)) (before : List Effect) :
    (start strands before).outside = before := by
  simp [outside, start, List.filter_map, Function.comp_def]

theorem outside_note (effect : Effect) : (pool.note effect).outside = pool.outside ++ [effect] := by
  simp [outside, note]

theorem outside_log (strands : List (Strand Effect Failure Value)) (effect : Effect)
    (actor : Nat) :
    outside ⟨strands, pool.log ++ [(some actor, effect)]⟩ = pool.outside := by
  simp [outside]

theorem own_sublist_after {before : List Effect} {more : List (Option Nat × Effect)}
    (starts : pool.log = before.map (fun effect => (none, effect)) ++ more) (place : Nat) :
    (pool.own place).Sublist (more.map Prod.snd) := by
  have skipped : (before.map (fun effect => ((none : Option Nat), effect))).filter
      (fun entry => entry.1 = some place) = [] := by
    simp [List.filter_map, Function.comp_def]
  unfold own
  rw [starts, List.filter_append, skipped, List.nil_append]
  exact List.filter_sublist.map Prod.snd

private theorem filter_perm (log : List (Option Nat × Effect)) (count : Nat) :
    (log.filter (fun entry => entry.1.all (· < count))).Perm
      (log.filter (fun entry => entry.1 = none) ++
        (List.range count).flatMap (fun place => log.filter (fun entry => entry.1 = some place))) := by
  induction count with
  | zero =>
      rw [List.range_zero, List.flatMap_nil, List.append_nil]
      apply List.Perm.of_eq
      apply List.filter_congr
      intro entry _
      cases entry.1 with
      | none => rfl
      | some place => simp
  | succ count ih =>
      have split := List.filter_append_perm (fun entry => entry.1.all (· < count))
        (log.filter (fun entry => entry.1.all (· < count + 1)))
      rw [List.filter_filter, List.filter_filter] at split
      have lower : log.filter (fun entry => entry.1.all (· < count) &&
          entry.1.all (· < count + 1)) = log.filter (fun entry => entry.1.all (· < count)) := by
        apply List.filter_congr
        intro entry _
        cases entry.1 with
        | none => rfl
        | some place =>
            simp only [Option.all_some, ← Bool.decide_and, decide_eq_decide]
            omega
      have upper : log.filter (fun entry => !entry.1.all (· < count) &&
          entry.1.all (· < count + 1)) = log.filter (fun entry => entry.1 = some count) := by
        apply List.filter_congr
        intro entry _
        cases entry.1 with
        | none => rfl
        | some place =>
            simp only [Option.all_some, ← decide_not, ← Bool.decide_and, decide_eq_decide,
              Option.some.injEq]
            omega
      rw [lower, upper] at split
      rw [List.range_succ, List.flatMap_append, List.flatMap_singleton, ← List.append_assoc]
      exact split.symm.trans (ih.append_right _)

/-- Everything that was done: what nobody in the pool did and what each strand did. -/
theorem history_perm {count : Nat}
    (inside : ∀ entry ∈ pool.log, ∀ place, entry.1 = some place → place < count) :
    pool.history.Perm (pool.outside ++ (List.range count).flatMap pool.own) := by
  have all : pool.log.filter (fun entry => entry.1.all (· < count)) = pool.log := by
    apply List.filter_eq_self.mpr
    intro entry member
    rw [Option.all_eq_true]
    intro place same
    exact decide_eq_true (inside entry member place same)
  have permuted := (filter_perm pool.log count).map Prod.snd
  rw [all, List.map_append, List.map_flatMap] at permuted
  exact permuted

/-- Each strand of the pool meets its specification, whatever the others do. -/
def Meets (returns : Nat → Value → List Effect → Prop)
    (raises : Nat → Failure → List Effect → Prop) (pool : Pool Effect Failure Value) : Prop :=
  ∀ place strand, pool.strands[place]? = some strand →
    Ensures List.Sublist (returns place) (raises place) strand (pool.own place)

variable {returns : Nat → Value → List Effect → Prop}
  {raises : Nat → Failure → List Effect → Prop}

theorem Meets.start {strands : List (Strand Effect Failure Value)} {before : List Effect}
    (ensures : ∀ place strand, strands[place]? = some strand →
      Ensures List.Sublist (returns place) (raises place) strand []) :
    Meets returns raises (start strands before) := by
  intro place strand found
  rw [own_start]
  exact ensures place strand found

theorem Meets.note (meets : Meets returns raises pool) (effect : Effect) :
    Meets returns raises (pool.note effect) := by
  intro place strand found
  rw [own_note]
  exact meets place strand found

theorem Meets.advance {place : Nat} {next : Pool Effect Failure Value}
    (meets : Meets returns raises pool) (taken : pool.advance place = some next) :
    Meets returns raises next := by
  obtain ⟨effect, after, found, rfl⟩ := advance_eq_some taken
  intro other strand present
  rw [own_log]
  by_cases same : place = other
  · subst same
    have inside : place < pool.strands.length := (List.getElem?_eq_some_iff.mp found).1
    rw [List.getElem?_set_self inside] at present
    cases present
    rw [if_pos rfl]
    exact meets place _ found pool.history (own_sublist_history place)
  · rw [List.getElem?_set_ne same] at present
    rw [if_neg same, List.append_nil]
    exact meets other strand present

end Pool

end AcdpPlayground.Strands

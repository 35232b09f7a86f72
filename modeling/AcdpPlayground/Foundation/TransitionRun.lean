/-
Runs of an executable transition system. A schedule is a list of actions; an
action that is not enabled stops the whole run, so a run that returns a state
has executed every action of its schedule.

The environment's choices are part of the action, which keeps the step function
deterministic and lets a concrete schedule be evaluated. No fairness or
termination statement is made here.
-/

import Mathlib.Data.List.Basic

namespace AcdpPlayground.TransitionRun

variable {State Action : Type}

def runFrom (step : State → Action → Option State) : State → List Action → Option State
  | state, [] => some state
  | state, action :: rest =>
      match step state action with
      | none => none
      | some next => runFrom step next rest

/-- Every action of the schedule meets `condition` in the state it is taken in. -/
def StepsMeet (step : State → Action → Option State) (condition : State → Action → Prop) :
    State → List Action → Prop
  | _, [] => True
  | state, action :: rest =>
      condition state action ∧
        ∀ next, step state action = some next → StepsMeet step condition next rest

variable {step : State → Action → Option State}

theorem stepsMeet_cons_of_step {condition : State → Action → Prop} {state next : State}
    {action : Action} {rest : List Action} (taken : step state action = some next) :
    StepsMeet step condition state (action :: rest) ↔
      condition state action ∧ StepsMeet step condition next rest := by
  refine and_congr_right (fun _ => ⟨fun all => all next taken, ?_⟩)
  intro later other same
  rw [taken] at same
  cases same
  exact later

theorem stepsMeet_cons_of_stuck {condition : State → Action → Prop} {state : State}
    {action : Action} {rest : List Action} (stuck : step state action = none) :
    StepsMeet step condition state (action :: rest) ↔ condition state action := by
  refine and_iff_left ?_
  intro next taken
  rw [stuck] at taken
  cases taken

theorem StepsMeet.and {first second : State → Action → Prop} {state : State}
    {schedule : List Action} (left : StepsMeet step first state schedule)
    (right : StepsMeet step second state schedule) :
    StepsMeet step (fun state action => first state action ∧ second state action) state
      schedule := by
  induction schedule generalizing state with
  | nil => trivial
  | cons action rest ih =>
      exact ⟨⟨left.1, right.1⟩, fun next taken => ih (left.2 next taken) (right.2 next taken)⟩

instance decidableStepsMeet (condition : State → Action → Prop)
    [∀ state action, Decidable (condition state action)] :
    ∀ state schedule, Decidable (StepsMeet step condition state schedule)
  | _, [] => .isTrue trivial
  | state, action :: rest =>
      match taken : step state action with
      | none => decidable_of_iff' _ (stepsMeet_cons_of_stuck taken)
      | some next =>
          have := decidableStepsMeet condition next rest
          decidable_of_iff' _ (stepsMeet_cons_of_step taken)

theorem runFrom_cons_eq_some {state final : State} {action : Action} {rest : List Action}
    (ran : runFrom step state (action :: rest) = some final) :
    ∃ next, step state action = some next ∧ runFrom step next rest = some final := by
  unfold runFrom at ran
  cases taken : step state action with
  | none =>
      rw [taken] at ran
      cases ran
  | some next =>
      rw [taken] at ran
      exact ⟨next, rfl, ran⟩

theorem runFrom_cons_of_step {state next : State} {action : Action} {rest : List Action}
    (taken : step state action = some next) :
    runFrom step state (action :: rest) = runFrom step next rest := by
  simp only [runFrom, taken]

/-- The rule for facts that also mention the schedule executed so far. -/
theorem runFrom_trace_invariant {invariant : List Action → State → Prop}
    (preserved : ∀ trace state action next, invariant trace state →
      step state action = some next → invariant (trace ++ [action]) next)
    {state final : State} {trace schedule : List Action}
    (holds : invariant trace state) (ran : runFrom step state schedule = some final) :
    invariant (trace ++ schedule) final := by
  induction schedule generalizing state trace with
  | nil =>
      cases ran
      rw [List.append_nil]
      exact holds
  | cons action rest ih =>
      obtain ⟨next, taken, remaining⟩ := runFrom_cons_eq_some ran
      have advanced := preserved trace state action next holds taken
      have finished := ih advanced remaining
      rw [List.append_assoc] at finished
      exact finished

theorem runFrom_append {state middle final : State} {first second : List Action}
    (ran : runFrom step state first = some middle) (later : runFrom step middle second = some final) :
    runFrom step state (first ++ second) = some final := by
  induction first generalizing state with
  | nil =>
      cases ran
      exact later
  | cons action rest ih =>
      obtain ⟨next, taken, remaining⟩ := runFrom_cons_eq_some ran
      rw [List.cons_append, runFrom_cons_of_step taken]
      exact ih remaining

/-- The run of the schedule takes the action in the state. -/
def TakenIn (step : State → Action → Option State) (initial : State) (schedule : List Action)
    (state : State) (action : Action) : Prop :=
  ∃ before after, schedule = before ++ action :: after ∧ runFrom step initial before = some state

theorem TakenIn.append {initial state : State} {schedule : List Action} {action : Action}
    (taken : TakenIn step initial schedule state action) (later : List Action) :
    TakenIn step initial (schedule ++ later) state action := by
  obtain ⟨before, after, rfl, reached⟩ := taken
  exact ⟨before, after ++ later, by rw [List.append_assoc, List.cons_append], reached⟩

theorem takenIn_last {initial state : State} {trace : List Action}
    (reached : runFrom step initial trace = some state) (action : Action) :
    TakenIn step initial (trace ++ [action]) state action :=
  ⟨trace, [], rfl, reached⟩

/-- The rule for facts about the steps taken so far. -/
theorem runFrom_takenIn_invariant {initial : State}
    {invariant : (State → Action → Prop) → State → Prop}
    (widened : ∀ few many : State → Action → Prop, (∀ state action, few state action →
      many state action) → ∀ state, invariant few state → invariant many state)
    (preserved : ∀ (taken : State → Action → Prop) state action next, taken state action →
      invariant taken state → step state action = some next → invariant taken next)
    (holds : ∀ taken, invariant taken initial) {schedule : List Action} {final : State}
    (ran : runFrom step initial schedule = some final) :
    invariant (TakenIn step initial schedule) final := by
  have advance : ∀ trace state action next,
      (runFrom step initial trace = some state ∧ invariant (TakenIn step initial trace) state) →
      step state action = some next →
      runFrom step initial (trace ++ [action]) = some next ∧
        invariant (TakenIn step initial (trace ++ [action])) next := by
    rintro trace state action next ⟨reached, here⟩ taken
    have later : runFrom step state [action] = some next := by
      rw [runFrom_cons_of_step taken]
      rfl
    have before := widened _ _ (fun _ _ old => TakenIn.append old [action]) state here
    exact ⟨runFrom_append reached later,
      preserved _ state action next (takenIn_last reached action) before taken⟩
  have kept : runFrom step initial ([] ++ schedule) = some final ∧
      invariant (TakenIn step initial ([] ++ schedule)) final :=
    runFrom_trace_invariant advance ⟨rfl, holds _⟩ ran
  exact kept.2

theorem runFrom_invariant {invariant : State → Prop}
    (preserved : ∀ state action next, invariant state →
      step state action = some next → invariant next)
    {state final : State} {schedule : List Action}
    (holds : invariant state) (ran : runFrom step state schedule = some final) :
    invariant final := by
  induction schedule generalizing state with
  | nil =>
      cases ran
      exact holds
  | cons action rest ih =>
      obtain ⟨next, taken, remaining⟩ := runFrom_cons_eq_some ran
      exact ih (preserved state action next holds taken) remaining

/-- An invariant that only the steps meeting `condition` preserve holds along
every run all of whose steps meet it. -/
theorem runFrom_conditional_invariant {invariant : State → Prop}
    {condition : State → Action → Prop}
    (preserved : ∀ state action next, invariant state → condition state action →
      step state action = some next → invariant next)
    {state final : State} {schedule : List Action}
    (holds : invariant state) (meets : StepsMeet step condition state schedule)
    (ran : runFrom step state schedule = some final) : invariant final := by
  induction schedule generalizing state with
  | nil =>
      cases ran
      exact holds
  | cons action rest ih =>
      obtain ⟨next, taken, remaining⟩ := runFrom_cons_eq_some ran
      exact ih (preserved state action next holds meets.1 taken) (meets.2 next taken) remaining

/-- A property that each step keeps exactly when its action meets `condition` holds at the
end of a run exactly when it held at the start and every action met it. -/
theorem runFrom_iff_forall {property invariant : State → Prop} {condition : Action → Prop}
    (preserved : ∀ state action next, invariant state →
      step state action = some next → invariant next)
    (exact_step : ∀ state action next, invariant state → step state action = some next →
      (property next ↔ property state ∧ condition action))
    {state final : State} {schedule : List Action}
    (holds : invariant state) (ran : runFrom step state schedule = some final) :
    property final ↔ property state ∧ ∀ action ∈ schedule, condition action := by
  induction schedule generalizing state with
  | nil =>
      cases ran
      exact (and_iff_left (List.forall_mem_nil condition)).symm
  | cons action rest ih =>
      obtain ⟨next, taken, remaining⟩ := runFrom_cons_eq_some ran
      rw [ih (preserved state action next holds taken) remaining,
        exact_step state action next holds taken, List.forall_mem_cons, and_assoc]

/-! ### Logs

A run appends to its log. A marker in the longer log stands in the old part or in the
new one.
-/

theorem marker_in_append {Item : Type} {log more before after : List Item} {marker : Item}
    (same : log ++ more = before ++ marker :: after) :
    (∃ rest, log = before ++ marker :: rest ∧ after = rest ++ more) ∨
      ∃ middle, before = log ++ middle ∧ more = middle ++ marker :: after := by
  rcases List.append_eq_append_iff.mp same with ⟨middle, left, right⟩ | ⟨middle, left, right⟩
  · exact .inr ⟨middle, left, right⟩
  · cases middle with
    | nil =>
        rw [List.append_nil] at left
        exact .inr ⟨[], by rw [left, List.append_nil], right.symm⟩
    | cons head rest =>
        rw [List.cons_append] at right
        obtain ⟨sameMarker, tail⟩ := List.cons.inj right
        rw [← sameMarker] at left
        exact .inl ⟨rest, left, tail⟩

/-- The marker itself, appended to a log that does not hold it yet. -/
theorem marker_appended {Item : Type} {log before after : List Item} {marker : Item}
    (missing : marker ∉ log) (same : log ++ [marker] = before ++ marker :: after) :
    before = log ∧ after = [] := by
  rcases marker_in_append same with ⟨rest, left, _⟩ | ⟨middle, left, right⟩
  · exact absurd (by rw [left]; exact List.mem_append_right _ List.mem_cons_self) missing
  · have lengths := congrArg List.length right
    simp only [List.length_append, List.length_cons, List.length_nil] at lengths
    have noMiddle : middle = [] := List.length_eq_zero_iff.mp (by omega)
    have noAfter : after = [] := List.length_eq_zero_iff.mp (by omega)
    rw [noMiddle, List.append_nil] at left
    exact ⟨left, noAfter⟩

end AcdpPlayground.TransitionRun

/-
The fan-out scenario `s3_fanout` under the runner: one producer, then one task for
each facet under `asyncio.gather`, then the clients of the run are closed and the
runner puts the terminal event. An agent is `BasePlaygroundAgent.run` with a
`LangChainAgent` model, cut at its suspension points; it may fail at each of them.

`gather` ends with the first failure and leaves the other tasks alone. The run
deadline cancels every task that has not ended, if `gather` is still pending; a
cancelled task does nothing more, except that a charge already sent to the quota
store may still be applied. A publish on closed clients raises at once. What the
agents say and what they publish is left out; the control plane is not involved.
-/

import AcdpPlayground.Foundation.TransitionRun
import AcdpPlayground.Foundation.TaskTable
import AcdpPlayground.Events

namespace AcdpPlayground.Runs

open TransitionRun TaskTable

/-! ### One agent -/

inductive AgentPhase where
  | created
  | retrieving
  | charging (applied : Bool)
  | callingModel
  | publishing
  | ended (succeeded : Bool)
  deriving DecidableEq

inductive AgentMove where
  | start
  | retrieved
  | charged
  | admitted
  | refused
  | answered
  | published
  | fail
  deriving DecidableEq

/-- What a segment of an agent does outside its own task. -/
inductive Work where
  | event (type : EventType)
  | charge
  | modelCall
  deriving DecidableEq

/-- What a segment reads: whether a real model is configured, whether the clients of
the run are closed and whether the run has been refused a call before. -/
structure AgentView where
  realModel : Bool
  clientsClosed : Bool
  deniedBefore : Bool

def AgentView.enterPublish (view : AgentView) : AgentPhase :=
  if view.clientsClosed then .ended false else .publishing

/-- The mock model answers without suspending. -/
def AgentView.enterModel (view : AgentView) : AgentPhase :=
  if view.realModel then .charging false else view.enterPublish

/-- `derives` says whether the task has a context to retrieve first. -/
def AgentPhase.advance (view : AgentView) (derives : Bool) (phase : AgentPhase) :
    AgentMove → Option (AgentPhase × List Work)
  | .start =>
      match phase with
      | .created =>
          if derives then some (.retrieving, [.event .agentStarted])
          else some (view.enterModel, [.event .agentStarted, .event .llmThinking])
      | _ => none
  | .retrieved =>
      match phase with
      | .retrieving => some (view.enterModel, [.event .acdpRetrieve, .event .llmThinking])
      | _ => none
  | .charged =>
      match phase with
      | .charging false => some (.charging true, [.charge])
      | _ => none
  | .admitted =>
      match phase with
      | .charging true => some (.callingModel, [.modelCall])
      | _ => none
  | .refused =>
      match phase with
      | .charging _ =>
          some (view.enterPublish,
            if view.deniedBefore then [] else [.event .llmQuotaExceeded])
      | _ => none
  | .answered =>
      match phase with
      | .callingModel => some (view.enterPublish, [])
      | _ => none
  | .published =>
      match phase with
      | .publishing => some (.ended true, [.event .acdpPublish])
      | _ => none
  | .fail =>
      match phase with
      | .ended _ => none
      | _ => some (.ended false, [])

/-! ### The scenario and its runner -/

structure Consumer where
  phase : AgentPhase
  cancelRequested : Bool
  deriving DecidableEq

def Consumer.isEnded (consumer : Consumer) : Bool :=
  match consumer.phase with
  | .ended _ => true
  | _ => false

/-- The moves left to a task: all of them, or after `cancel()` the unwinding and the
charge that is already under way. -/
def Consumer.mayMove (consumer : Consumer) (move : AgentMove) : Bool :=
  !consumer.cancelRequested || move == .fail || move == .charged

inductive ScenarioPhase where
  | producing
  | gathering (settled : Bool)
  | closing
  | concluded
  | released
  deriving DecidableEq

inductive Effect where
  | producer (work : Work)
  | consumer (index : Nat) (work : Work)
  | terminal
  | slotReleased
  deriving DecidableEq

def Effect.isWork : Effect → Bool
  | .producer _ => true
  | .consumer _ _ => true
  | .terminal => false
  | .slotReleased => false

structure FanOut where
  realModel : Bool
  facets : Nat

structure FanOutState where
  scenario : ScenarioPhase
  producer : AgentPhase
  consumers : List Consumer
  clientsClosed : Bool
  denied : Bool
  log : List Effect

inductive FanOutAction where
  | producer (move : AgentMove)
  | consumer (index : Nat) (move : AgentMove)
  | deadline
  | gatherReturns
  | outcome (clientsClosed : Bool)
  | releaseSlot
  deriving DecidableEq

def FanOutState.initial : FanOutState :=
  { scenario := .producing
    producer := .created
    consumers := []
    clientsClosed := false
    denied := false
    log := [] }

def FanOutState.view (setup : FanOut) (state : FanOutState) : AgentView :=
  { realModel := setup.realModel
    clientsClosed := state.clientsClosed
    deniedBefore := state.denied }

/-- The done callback of `gather`: the first failure settles it, and so does the end of
the last task. -/
def ScenarioPhase.afterTask (scenario : ScenarioPhase) (phase : AgentPhase)
    (consumers : List Consumer) : ScenarioPhase :=
  match scenario, phase with
  | .gathering _, .ended false => .gathering true
  | .gathering settled, .ended true => .gathering (settled || consumers.all Consumer.isEnded)
  | unchanged, _ => unchanged

def fanOutStep (setup : FanOut) (state : FanOutState) : FanOutAction → Option FanOutState
  | .producer move =>
      match state.scenario with
      | .producing =>
          (state.producer.advance (state.view setup) false move).map (fun moved =>
            let advanced :=
              { state with
                producer := moved.1
                denied := state.denied || move == .refused
                log := state.log ++ moved.2.map .producer }
            match moved.1 with
            | .ended true =>
                { advanced with
                  scenario := .gathering (setup.facets == 0)
                  consumers := List.replicate setup.facets
                    { phase := .created, cancelRequested := false } }
            | .ended false => { advanced with scenario := .closing }
            | _ => advanced)
      | _ => none
  | .consumer index move =>
      match state.consumers[index]? with
      | none => none
      | some consumer =>
          if consumer.mayMove move then
            (consumer.phase.advance (state.view setup) true move).map (fun moved =>
              let consumers := state.consumers.set index { consumer with phase := moved.1 }
              { state with
                scenario := state.scenario.afterTask moved.1 consumers
                consumers := consumers
                denied := state.denied || move == .refused
                log := state.log ++ moved.2.map (.consumer index) })
          else none
  | .deadline =>
      match state.scenario with
      | .producing => some { state with scenario := .closing, producer := .ended false }
      | .gathering false =>
          some
            { state with
              consumers := state.consumers.map (fun consumer =>
                { consumer with cancelRequested := true }) }
      | .gathering true => some { state with scenario := .closing }
      | _ => none
  | .gatherReturns =>
      match state.scenario with
      | .gathering true => some { state with scenario := .closing }
      | _ => none
  | .outcome clientsClosed =>
      match state.scenario with
      | .closing =>
          some
            { state with
              scenario := .concluded
              clientsClosed := clientsClosed
              log := state.log ++ [.terminal] }
      | _ => none
  | .releaseSlot =>
      match state.scenario with
      | .concluded => some { state with scenario := .released, log := state.log ++ [.slotReleased] }
      | _ => none

/-! ### Work after the outcome -/

def NoWorkAfterOutcome (log : List Effect) : Prop :=
  ∀ before after, log = before ++ .terminal :: after → ∀ effect ∈ after, effect.isWork = false

/-- A task that can do nothing any more: it has ended; or it is cancelled with no charge
under way; or it waits for the model and will find its client closed. -/
def Consumer.quiet (clientsClosed : Bool) (consumer : Consumer) : Bool :=
  match consumer.phase with
  | .ended _ => true
  | .charging false => false
  | .callingModel => clientsClosed || consumer.cancelRequested
  | _ => consumer.cancelRequested

/-- When the runner puts the terminal event, every task of the scenario is quiet. -/
def QuietAtOutcome (state : FanOutState) : FanOutAction → Prop
  | .outcome clientsClosed =>
      ∀ consumer ∈ state.consumers, consumer.quiet clientsClosed = true
  | _ => True

instance (state : FanOutState) (action : FanOutAction) :
    Decidable (QuietAtOutcome state action) :=
  match action with
  | .outcome clientsClosed =>
      inferInstanceAs
        (Decidable (∀ consumer ∈ state.consumers, consumer.quiet clientsClosed = true))
  | .producer _ | .consumer _ _ | .deadline | .gatherReturns | .releaseSlot => .isTrue trivial

/-! ### The log -/

theorem noWork_append {log more : List Effect} (noWork : NoWorkAfterOutcome log)
    (plain : .terminal ∉ more)
    (allowed : .terminal ∉ log ∨ ∀ effect ∈ more, effect.isWork = false) :
    NoWorkAfterOutcome (log ++ more) := by
  intro before after same effect member
  rcases marker_in_append same with ⟨rest, left, tail⟩ | ⟨middle, _, right⟩
  · rcases allowed with unfinished | idle
    · exact absurd (by rw [left]; exact List.mem_append_right _ List.mem_cons_self) unfinished
    · rw [tail] at member
      rcases List.mem_append.mp member with old | new
      · exact noWork before rest left effect old
      · exact idle effect new
  · exact absurd (by rw [right]; exact List.mem_append_right _ List.mem_cons_self) plain

theorem noWork_terminal {log : List Effect} (unfinished : .terminal ∉ log) :
    NoWorkAfterOutcome (log ++ [.terminal]) := by
  intro before after same effect member
  rw [(marker_appended unfinished same).2] at member
  cases member

theorem terminal_not_mem_map (works : List Work) (wrap : Work → Effect)
    (work : ∀ item, (wrap item).isWork = true) : .terminal ∉ works.map wrap := by
  intro member
  obtain ⟨item, _, same⟩ := List.mem_map.mp member
  have worked := work item
  rw [same] at worked
  cases worked

/-! ### Steps -/

def ScenarioPhase.isOver : ScenarioPhase → Bool
  | .concluded => true
  | .released => true
  | _ => false

structure FanOutInvariant (state : FanOutState) : Prop where
  noWork : NoWorkAfterOutcome state.log
  unfinished : state.scenario.isOver = false → .terminal ∉ state.log
  quiet : state.scenario.isOver = true →
    ∀ consumer ∈ state.consumers, consumer.quiet state.clientsClosed = true

theorem isOver_afterTask (scenario : ScenarioPhase) (phase : AgentPhase)
    (consumers : List Consumer) :
    (scenario.afterTask phase consumers).isOver = scenario.isOver := by
  unfold ScenarioPhase.afterTask
  split <;> rfl

/-- A quiet task does no work and stays quiet. -/
theorem quiet_advance {view : AgentView} {consumer : Consumer} {move : AgentMove}
    {phase : AgentPhase} {works : List Work}
    (quiet : consumer.quiet view.clientsClosed = true) (may : consumer.mayMove move = true)
    (taken : consumer.phase.advance view true move = some (phase, works)) :
    works = [] ∧ ({ consumer with phase := phase } : Consumer).quiet view.clientsClosed = true := by
  obtain ⟨before, cancelRequested⟩ := consumer
  have ended (succeeded : Bool) :
      ({ phase := .ended succeeded, cancelRequested := cancelRequested } : Consumer).quiet
        view.clientsClosed = true := rfl
  cases before with
  | ended succeeded => cases move <;> cases taken
  | callingModel =>
      cases move with
      | answered =>
          cases taken
          refine ⟨rfl, ?_⟩
          -- Not cancelled, since a cancelled task cannot use the answer.
          have live : cancelRequested = false := by
            cases cancelRequested with
            | false => rfl
            | true => cases may
          rw [live] at quiet
          have closed : view.clientsClosed = true := by
            cases same : view.clientsClosed with
            | true => rfl
            | false =>
                rw [same] at quiet
                cases quiet
          rw [AgentView.enterPublish, closed]
          rfl
      | fail =>
          cases taken
          exact ⟨rfl, ended false⟩
      | start | retrieved | charged | admitted | refused | published => cases taken
  | charging applied =>
      cases applied with
      | false => cases quiet
      | true =>
          have cancelled : cancelRequested = true := quiet
          subst cancelled
          cases move with
          | fail =>
              cases taken
              exact ⟨rfl, ended false⟩
          | charged => cases taken
          | start | retrieved | admitted | refused | answered | published => cases may
  | created | retrieving | publishing =>
      have cancelled : cancelRequested = true := quiet
      subst cancelled
      cases move with
      | fail =>
          cases taken
          exact ⟨rfl, ended false⟩
      | charged => cases taken
      | start | retrieved | admitted | refused | answered | published => cases may

theorem producer_invariant {setup : FanOut} {state next : FanOutState} {move : AgentMove}
    (invariant : FanOutInvariant state)
    (taken : fanOutStep setup state (.producer move) = some next) : FanOutInvariant next := by
  simp only [fanOutStep] at taken
  split at taken
  · next producing =>
      obtain ⟨moved, _, same⟩ := Option.map_eq_some_iff.mp taken
      have unfinished := invariant.unfinished (by rw [producing]; rfl)
      have plain := terminal_not_mem_map moved.2 .producer (fun _ => rfl)
      have noWork := noWork_append invariant.noWork plain (.inl unfinished)
      have absent : .terminal ∉ state.log ++ moved.2.map .producer := by
        intro member
        rcases List.mem_append.mp member with old | new
        · exact unfinished old
        · exact plain new
      rw [← same]
      split
      · exact ⟨noWork, fun _ => absent, fun concluded => by cases concluded⟩
      · exact ⟨noWork, fun _ => absent, fun concluded => by cases concluded⟩
      · refine ⟨noWork, fun _ => absent, fun concluded => ?_⟩
        change state.scenario.isOver = true at concluded
        rw [producing] at concluded
        cases concluded
  · cases taken

theorem consumer_invariant {setup : FanOut} {state next : FanOutState} {index : Nat}
    {move : AgentMove} (invariant : FanOutInvariant state)
    (taken : fanOutStep setup state (.consumer index move) = some next) :
    FanOutInvariant next := by
  simp only [fanOutStep] at taken
  split at taken
  · cases taken
  · next consumer found =>
      split at taken
      · next may =>
          obtain ⟨moved, advanced, same⟩ := Option.map_eq_some_iff.mp taken
          have plain := terminal_not_mem_map moved.2 (.consumer index) (fun _ => rfl)
          rw [← same]
          cases concluded : state.scenario.isOver with
          | false =>
              have unfinished := invariant.unfinished concluded
              refine ⟨noWork_append invariant.noWork plain (.inl unfinished), ?_, ?_⟩
              · intro _ member
                rcases List.mem_append.mp member with old | new
                · exact unfinished old
                · exact plain new
              · intro impossible
                rw [isOver_afterTask, concluded] at impossible
                cases impossible
          | true =>
              have calm := invariant.quiet concluded
              have here : consumer.quiet (state.view setup).clientsClosed = true :=
                calm consumer (List.mem_of_getElem? found)
              obtain ⟨idle, stays⟩ := quiet_advance here may advanced
              refine ⟨?_, ?_, ?_⟩
              · rw [idle]
                exact noWork_append invariant.noWork List.not_mem_nil
                  (.inr (fun _ member => by cases member))
              · intro impossible
                rw [isOver_afterTask, concluded] at impossible
                cases impossible
              · intro _
                exact forall_mem_set calm stays
      · cases taken

theorem fanOutStep_invariant {setup : FanOut} {state next : FanOutState}
    {action : FanOutAction} (invariant : FanOutInvariant state)
    (quiet : QuietAtOutcome state action) (taken : fanOutStep setup state action = some next) :
    FanOutInvariant next := by
  cases action with
  | producer move => exact producer_invariant invariant taken
  | consumer index move => exact consumer_invariant invariant taken
  | deadline =>
      simp only [fanOutStep] at taken
      split at taken
      · next phase =>
          cases taken
          exact ⟨invariant.noWork, fun _ => invariant.unfinished (by rw [phase]; rfl),
            fun concluded => by cases concluded⟩
      · next phase =>
          cases taken
          refine ⟨invariant.noWork, fun _ => invariant.unfinished (by rw [phase]; rfl), ?_⟩
          intro concluded
          change state.scenario.isOver = true at concluded
          rw [phase] at concluded
          cases concluded
      · next phase =>
          cases taken
          exact ⟨invariant.noWork, fun _ => invariant.unfinished (by rw [phase]; rfl),
            fun concluded => by cases concluded⟩
      · cases taken
  | gatherReturns =>
      simp only [fanOutStep] at taken
      split at taken
      · next phase =>
          cases taken
          exact ⟨invariant.noWork, fun _ => invariant.unfinished (by rw [phase]; rfl),
            fun concluded => by cases concluded⟩
      · cases taken
  | outcome clientsClosed =>
      simp only [fanOutStep] at taken
      split at taken
      · next phase =>
          cases taken
          exact ⟨noWork_terminal (invariant.unfinished (by rw [phase]; rfl)),
            fun impossible => (by cases impossible), fun _ => quiet⟩
      · cases taken
  | releaseSlot =>
      simp only [fanOutStep] at taken
      split at taken
      · next phase =>
          cases taken
          refine ⟨?_, fun impossible => (by cases impossible), fun _ => ?_⟩
          · apply noWork_append invariant.noWork
            · intro member
              have impossible := List.mem_singleton.mp member
              cases impossible
            · right
              intro effect member
              rw [List.mem_singleton.mp member]
              rfl
          · exact invariant.quiet (by rw [phase]; rfl)
      · cases taken

theorem quietAtOutcome_of_over {setup : FanOut} {state next : FanOutState}
    {action : FanOutAction} (concluded : state.scenario.isOver = true)
    (taken : fanOutStep setup state action = some next) : QuietAtOutcome state action := by
  cases action with
  | outcome clientsClosed =>
      simp only [fanOutStep] at taken
      split at taken
      · next closing =>
          rw [closing] at concluded
          cases concluded
      · cases taken
  | producer | consumer | deadline | gatherReturns | releaseSlot => trivial

theorem isOver_step {setup : FanOut} {state next : FanOutState} {action : FanOutAction}
    (concluded : state.scenario.isOver = true) (taken : fanOutStep setup state action = some next) :
    next.scenario.isOver = true := by
  cases action with
  | consumer index move =>
      simp only [fanOutStep] at taken
      split at taken
      · cases taken
      · split at taken
        · obtain ⟨moved, _, same⟩ := Option.map_eq_some_iff.mp taken
          rw [← same]
          exact (isOver_afterTask _ _ _).trans concluded
        · cases taken
  | releaseSlot =>
      simp only [fanOutStep] at taken
      split at taken
      · cases taken
        rfl
      · cases taken
  | producer _ | deadline | gatherReturns | outcome _ =>
      cases scenario : state.scenario with
      | concluded | released =>
          rw [fanOutStep, scenario] at taken
          cases taken
      | producing | gathering _ | closing =>
          rw [scenario] at concluded
          cases concluded

/-- After the outcome no step needs a condition any more. -/
theorem over_and_invariant {setup : FanOut} (state : FanOutState) (action : FanOutAction)
    (next : FanOutState) (known : state.scenario.isOver = true ∧ FanOutInvariant state)
    (taken : fanOutStep setup state action = some next) :
    next.scenario.isOver = true ∧ FanOutInvariant next :=
  ⟨isOver_step known.1 taken,
    fanOutStep_invariant known.2 (quietAtOutcome_of_over known.1 taken) taken⟩

/-- Before the outcome no step needs a condition either. -/
theorem over_or_invariant {setup : FanOut} (state : FanOutState) (action : FanOutAction)
    (next : FanOutState) (known : state.scenario.isOver = true ∨ FanOutInvariant state)
    (taken : fanOutStep setup state action = some next) :
    next.scenario.isOver = true ∨ FanOutInvariant next := by
  rcases known with concluded | invariant
  · exact .inl (isOver_step concluded taken)
  · cases action with
    | outcome clientsClosed =>
        simp only [fanOutStep] at taken
        split at taken
        · cases taken
          exact .inl rfl
        · cases taken
    | producer | consumer | deadline | gatherReturns | releaseSlot =>
        right
        refine fanOutStep_invariant invariant ?_ taken
        trivial

theorem initial_fanOutInvariant : FanOutInvariant FanOutState.initial where
  noWork := fun before after same => by
    have short := congrArg List.length same
    simp [FanOutState.initial] at short
  unfinished := fun _ => List.not_mem_nil
  quiet := fun concluded => by cases concluded

/-! ### Tasks that are not quiet -/

theorem consumer_step {setup : FanOut} {state : FanOutState} {index : Nat}
    {move : AgentMove} {consumer : Consumer} {moved : AgentPhase × List Work}
    (found : state.consumers[index]? = some consumer) (may : consumer.mayMove move = true)
    (advanced : consumer.phase.advance (state.view setup) true move = some moved) :
    ∃ next, fanOutStep setup state (.consumer index move) = some next ∧
      next.consumers[index]? = some { consumer with phase := moved.1 } ∧
      next.clientsClosed = state.clientsClosed ∧
      next.log = state.log ++ moved.2.map (.consumer index) := by
  have bound := (List.getElem?_eq_some_iff.mp found).1
  simp only [fanOutStep, found, may, if_true, advanced, Option.map_some]
  refine ⟨_, rfl, ?_, rfl, rfl⟩
  rw [List.getElem?_set_self bound]

theorem works_in_one_move {setup : FanOut} {state : FanOutState} {index : Nat}
    (move : AgentMove) {consumer : Consumer} {phase : AgentPhase} {work : Work}
    {works : List Work} (found : state.consumers[index]? = some consumer)
    (live : consumer.mayMove move = true)
    (advanced : consumer.phase.advance (state.view setup) true move =
      some (phase, work :: works)) :
    ∃ schedule final rest, runFrom (fanOutStep setup) state schedule = some final ∧
      final.log = state.log ++ .consumer index work :: rest := by
  obtain ⟨next, taken, _, _, log⟩ := consumer_step found live advanced
  exact ⟨[.consumer index move], next, _, runFrom_cons_of_step taken, log⟩

/-- A task that is not quiet has work left that nothing can take from it. -/
theorem unquiet_works {setup : FanOut} {state : FanOutState} {index : Nat}
    {consumer : Consumer} (found : state.consumers[index]? = some consumer)
    (unquiet : consumer.quiet state.clientsClosed = false) :
    ∃ work schedule final rest, runFrom (fanOutStep setup) state schedule = some final ∧
      final.log = state.log ++ .consumer index work :: rest := by
  obtain ⟨phase, cancelRequested⟩ := consumer
  cases phase with
  | ended succeeded => cases unquiet
  | charging applied =>
      cases applied with
      | false =>
          have may : ({ phase := .charging false, cancelRequested := cancelRequested } :
              Consumer).mayMove .charged = true := by cases cancelRequested <;> rfl
          exact ⟨.charge, works_in_one_move .charged found may rfl⟩
      | true =>
          have live : cancelRequested = false := unquiet
          subst live
          exact ⟨.modelCall, works_in_one_move .admitted found rfl rfl⟩
  | created =>
      have live : cancelRequested = false := unquiet
      subst live
      exact ⟨.event .agentStarted, works_in_one_move .start found rfl rfl⟩
  | retrieving =>
      have live : cancelRequested = false := unquiet
      subst live
      exact ⟨.event .acdpRetrieve, works_in_one_move .retrieved found rfl rfl⟩
  | publishing =>
      have live : cancelRequested = false := unquiet
      subst live
      exact ⟨.event .acdpPublish, works_in_one_move .published found rfl rfl⟩
  | callingModel =>
      have both : state.clientsClosed = false ∧ cancelRequested = false :=
        Bool.or_eq_false_iff.mp unquiet
      obtain ⟨openClients, live⟩ := both
      subst live
      have answered : AgentPhase.callingModel.advance (state.view setup) true .answered =
          some (.publishing, []) := by
        have closed : (state.view setup).clientsClosed = false := openClients
        simp only [AgentPhase.advance, AgentView.enterPublish, closed, Bool.false_eq_true,
          if_false]
      obtain ⟨next, taken, here, _, log⟩ := consumer_step found rfl answered
      obtain ⟨schedule, final, rest, ran, published⟩ :
          ∃ schedule final rest, runFrom (fanOutStep setup) next schedule = some final ∧
            final.log = next.log ++ .consumer index (.event .acdpPublish) :: rest :=
        works_in_one_move .published here rfl rfl
      refine ⟨.event .acdpPublish, .consumer index .answered :: schedule, final, rest, ?_, ?_⟩
      · rw [runFrom_cons_of_step taken]
        exact ran
      · rw [published, log, List.map_nil, List.append_nil]

/-! ### Whole runs -/

/-- When every task is quiet at the moment the terminal event is put, the run does no
work after it. -/
theorem no_work_after_outcome (setup : FanOut) {schedule : List FanOutAction}
    {state : FanOutState}
    (meets : StepsMeet (fanOutStep setup) QuietAtOutcome FanOutState.initial schedule)
    (ran : runFrom (fanOutStep setup) FanOutState.initial schedule = some state) :
    NoWorkAfterOutcome state.log :=
  (runFrom_conditional_invariant
    (fun _ _ _ invariant quiet taken => fanOutStep_invariant invariant quiet taken)
    initial_fanOutInvariant meets ran).noWork

/-- The condition is exact: from a state about to put the outcome, every continuation is
free of work if and only if every task is quiet. -/
theorem outcome_final_iff_quiet (setup : FanOut) {schedule : List FanOutAction}
    {state : FanOutState} (clientsClosed : Bool)
    (ran : runFrom (fanOutStep setup) FanOutState.initial schedule = some state)
    (closing : state.scenario = .closing) :
    (∀ rest final,
        runFrom (fanOutStep setup) state (.outcome clientsClosed :: rest) = some final →
          NoWorkAfterOutcome final.log) ↔
      ∀ consumer ∈ state.consumers, consumer.quiet clientsClosed = true := by
  have invariant : FanOutInvariant state := by
    rcases runFrom_invariant over_or_invariant (.inr initial_fanOutInvariant) ran
      with concluded | invariant
    · rw [closing] at concluded
      cases concluded
    · exact invariant
  constructor
  · intro final consumer member
    obtain ⟨index, bound, same⟩ := List.getElem_of_mem member
    have found : state.consumers[index]? = some consumer := by
      rw [List.getElem?_eq_getElem bound, same]
    cases quiet : consumer.quiet clientsClosed with
    | true => rfl
    | false =>
        obtain ⟨next, taken, log, consumers, closed⟩ :
            ∃ next, fanOutStep setup state (.outcome clientsClosed) = some next ∧
              next.log = state.log ++ [.terminal] ∧ next.consumers = state.consumers ∧
              next.clientsClosed = clientsClosed := by
          simp only [fanOutStep, closing]
          exact ⟨_, rfl, rfl, rfl, rfl⟩
        rw [← consumers] at found
        rw [← closed] at quiet
        obtain ⟨work, moves, last, rest, worked, logged⟩ := unquiet_works found quiet
        rw [log, List.append_assoc] at logged
        have idle := final moves last (by rw [runFrom_cons_of_step taken]; exact worked)
          state.log _ logged (.consumer index work) List.mem_cons_self
        cases idle
  · intro quiet rest final continued
    obtain ⟨next, taken, remaining⟩ := runFrom_cons_eq_some continued
    have calm : QuietAtOutcome state (.outcome clientsClosed) := quiet
    have after : FanOutInvariant next := fanOutStep_invariant invariant calm taken
    have concluded : next.scenario.isOver = true := by
      simp only [fanOutStep, closing] at taken
      cases taken
      rfl
    exact (runFrom_invariant over_and_invariant ⟨concluded, after⟩ remaining).2.noWork

def twoFacets : FanOut :=
  { realModel := true
    facets := 2 }

/-- The producer publishes, both consumers have retrieved its context and the first one
has been charged and is calling the model. -/
def untilCharging : List FanOutAction :=
  [.producer .start, .producer .charged, .producer .admitted, .producer .answered,
    .producer .published, .consumer 0 .start, .consumer 1 .start, .consumer 0 .retrieved,
    .consumer 1 .retrieved, .consumer 0 .charged, .consumer 0 .admitted]

/-- Both consumers publish before the outcome. -/
def bothPublish : List FanOutAction :=
  untilCharging ++
    [.consumer 1 .charged, .consumer 1 .admitted, .consumer 0 .answered, .consumer 1 .answered,
      .consumer 1 .published, .consumer 0 .published, .gatherReturns, .outcome true,
      .releaseSlot]

theorem both_publish_no_work_after_outcome :
    ∃ state,
      runFrom (fanOutStep twoFacets) FanOutState.initial bothPublish = some state ∧
        .terminal ∈ state.log ∧ NoWorkAfterOutcome state.log := by
  have meets : StepsMeet (fanOutStep twoFacets) QuietAtOutcome FanOutState.initial
      bothPublish := by decide
  exact ⟨_, rfl, by decide, no_work_after_outcome twoFacets meets rfl⟩

/-- The model call of the first consumer fails while the second waits for the quota
store. The run ends and frees its slot; then the second consumer is charged and calls
the model. -/
def failureBesideCharge : List FanOutAction :=
  untilCharging ++
    [.consumer 0 .fail, .gatherReturns, .outcome true, .releaseSlot, .consumer 1 .charged,
      .consumer 1 .admitted]

def effectsUntilCharging : List Effect :=
  [.producer (.event .agentStarted), .producer (.event .llmThinking), .producer .charge,
    .producer .modelCall, .producer (.event .acdpPublish), .consumer 0 (.event .agentStarted),
    .consumer 1 (.event .agentStarted), .consumer 0 (.event .acdpRetrieve),
    .consumer 0 (.event .llmThinking), .consumer 1 (.event .acdpRetrieve),
    .consumer 1 (.event .llmThinking), .consumer 0 .charge, .consumer 0 .modelCall]

theorem work_after_outcome :
    ∃ state,
      runFrom (fanOutStep twoFacets) FanOutState.initial failureBesideCharge = some state ∧
        ¬ NoWorkAfterOutcome state.log := by
  have logged : (runFrom (fanOutStep twoFacets) FanOutState.initial failureBesideCharge).map
      FanOutState.log = some (effectsUntilCharging ++ .terminal ::
        [.slotReleased, .consumer 1 .charge, .consumer 1 .modelCall]) := rfl
  obtain ⟨state, ran, log⟩ := Option.map_eq_some_iff.mp logged
  refine ⟨state, ran, ?_⟩
  intro noWork
  have idle := noWork _ _ log (.consumer 1 .charge) (List.mem_cons_of_mem _ List.mem_cons_self)
  cases idle

end AcdpPlayground.Runs

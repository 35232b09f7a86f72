/-
The fan-out, `s3_fanout.py`: a producer publishes a brief, then one consumer for each facet
derives its analysis from it, all of them at once under `asyncio.gather`.

`make` is `make_langchain_agent` with the other arguments of the scenario, `indexError` what
`facet.split()[0]` raises for a blank facet. The topic and the facets are the texts that the
f-strings print for them. Between any two effects of a consumer any other one may act; closing
the bundle does not raise, and the run is not cancelled.
-/

import AcdpPlayground.Foundation.Gather
import AcdpPlayground.Scenarios.Chain

namespace AcdpPlayground.Scenarios

open Agents Strands Gather PythonText TransitionRun

variable {Request Failure : Type}

namespace Fanout

def briefTask (topic : String) : AgentTask where
  prompt := "Write a structured brief on " ++ topic ++ ". Include market size, " ++
    "key players, and unknowns."
  title := "Brief — " ++ topic
  contextType := "data_snapshot"
  domain := some "pharma"
  tags := ["brief", "raw"]

/-- `facet.split()[0]`. -/
def firstWord (facet : String) : Option String :=
  let word := (lstrip (text facet)).takeWhile (fun point => !isSpace point)
  if word = [] then none else some (string word)

def facetTask (topic facet word : String) (prodOut : AgentOutput) : AgentTask where
  prompt := "From the brief, write a 4-sentence analysis focused on '" ++ facet ++ "'."
  title := "Facet (" ++ facet ++ ") — " ++ topic
  contextType := "analysis"
  domain := some "pharma"
  tags := ["facet", word]
  derivedFrom := [prodOut.ctxId]

def makeDerivative (indexError : Failure) (topic : String) (prodOut : AgentOutput)
    (consumer : Agent Request Failure) (facet : String) :
    Strand (AgentEffect Request) Failure AgentOutput := do
  let word ← attempt (match firstWord facet with
    | some word => .ok word
    | none => .error indexError)
  consumer.run (facetTask topic facet word prodOut)

/-- The agents of the scenario, and the context of the brief. -/
structure Cast (Request Failure : Type) where
  producer : Agent Request Failure
  consumers : List (Agent Request Failure)
  prodOut : AgentOutput

def makeConsumers (make : String → Except Failure (Agent Request Failure)) :
    List Nat → Except Failure (List (Agent Request Failure))
  | [] => return []
  | place :: rest => do
      let consumer ← make ("facet-" ++ toString place)
      let others ← makeConsumers make rest
      return consumer :: others

def setup (make : String → Except Failure (Agent Request Failure)) (topic : String)
    (facets : List String) : Strand (AgentEffect Request) Failure (Cast Request Failure) := do
  let producer ← attempt (make "producer")
  let consumers ← attempt (makeConsumers make (List.range facets.length))
  let prodOut ← producer.run (briefTask topic)
  return ⟨producer, consumers, prodOut⟩

variable (cast : Cast Request Failure)

def strands (indexError : Failure) (topic : String) (facets : List String) :
    List (Strand (AgentEffect Request) Failure AgentOutput) :=
  List.zipWith (makeDerivative indexError topic cast.prodOut) cast.consumers facets

def graph (authority : String) (derivOuts : List AgentOutput) : LineageGraph where
  nodes := Chain.node cast.producer cast.prodOut "data_snapshot" authority 1 ::
    List.zipWith (fun consumer out => Chain.node consumer out "analysis" authority 2)
      cast.consumers derivOuts
  edges := derivOuts.map (fun out => ⟨cast.prodOut.ctxId, out.ctxId⟩)

def result (runId authority : String) (derivOuts : List AgentOutput) : RunResult where
  runId := runId
  scenarioId := "s3_fanout"
  contexts := cast.prodOut.ctxId :: derivOuts.map AgentOutput.ctxId
  lineageGraph := some (graph cast authority derivOuts)

/-- One turn of the scenario while the consumers run. -/
def step (runId authority : String) :
    Gathering (AgentEffect Request) Failure AgentOutput RunResult → Turn →
      Option (Gathering (AgentEffect Request) Failure AgentOutput RunResult) :=
  Gathering.step (result cast runId authority) .closed

def consuming (indexError : Failure) (topic : String) (facets : List String)
    (before : List (AgentEffect Request)) :
    Gathering (AgentEffect Request) Failure AgentOutput RunResult :=
  .start (strands cast indexError topic facets) before

/-! ### One consumer -/

/-- The consumer at `place` returned. -/
def Derives (place : Nat) (output : AgentOutput) (own : List (AgentEffect Request)) : Prop :=
  ∃ consumer task contexts request response, cast.consumers[place]? = some consumer ∧
    task.derivedFrom = [cast.prodOut.ctxId] ∧
    consumer.Published List.Sublist task [] output own contexts request response

/-- The consumer at `place` raised. -/
def GivesUp (place : Nat) (failure : Failure) (own : List (AgentEffect Request)) : Prop :=
  own = [] ∨ ∃ consumer task, cast.consumers[place]? = some consumer ∧
    task.derivedFrom = [cast.prodOut.ctxId] ∧
    consumer.Abandoned List.Sublist task [] failure own

theorem strands_ensures (indexError : Failure) (topic : String) (facets : List String)
    (place : Nat) (strand : Strand (AgentEffect Request) Failure AgentOutput)
    (found : (strands cast indexError topic facets)[place]? = some strand) :
    Ensures List.Sublist (Derives cast place) (GivesUp cast place) strand [] := by
  obtain ⟨consumer, facet, isConsumer, _, rfl⟩ := List.getElem?_zipWith_eq_some.mp found
  apply ensures_bind
  apply ensures_attempt
  · intro word _
    refine consumer.run_ensures.weaken ?_ ?_
    · rintro output own ⟨contexts, request, response, published⟩
      exact ⟨consumer, _, contexts, request, response, isConsumer, rfl, published⟩
    · intro failure own abandoned
      exact .inr ⟨consumer, _, isConsumer, rfl, abandoned⟩
  · intro failure _
    exact .inl rfl

/-- What a consumer may have done at any time. -/
structure Portion (place : Nat) (own : List (AgentEffect Request)) : Prop where
  few : own.length ≤ 7
  events : (publishEvents own).length ≤ 1
  requests : (posts own).length ≤ 1
  closes : closings own = 0
  derived : ∀ event ∈ publishEvents own, event.derivedFrom = [cast.prodOut.ctxId] ∧
    ∃ consumer, cast.consumers[place]? = some consumer ∧ event.agentId = consumer.agentDid

variable {cast} {place : Nat} {own : List (AgentEffect Request)} {output : AgentOutput}
  {failure : Failure}

theorem single_length {task : AgentTask} {ctxId : String} (derived : task.derivedFrom = [ctxId]) :
    (task.derivedFrom.take 2).length = 1 := by
  rw [derived]
  rfl

theorem Derives.portion (derives : Derives cast place output own) : Portion cast place own := by
  obtain ⟨consumer, task, contexts, request, response, isConsumer, derived, published⟩ := derives
  have announces := published.announces
  have events : publishEvents own = [consumer.publishEvent task output.llmResponse response] :=
    announces.events
  have requests : posts own = [request] := announces.requests
  constructor
  · have bound := published.length
    rw [single_length derived] at bound
    exact bound
  · rw [events, List.length_singleton]
  · rw [requests, List.length_singleton]
  · exact announces.closes
  · intro event member
    rw [events] at member
    rw [List.mem_singleton.mp member]
    exact ⟨derived, consumer, isConsumer, rfl⟩

theorem portion_nil : Portion cast place ([] : List (AgentEffect Request)) where
  few := Nat.zero_le 7
  events := Nat.zero_le 1
  requests := Nat.zero_le 1
  closes := rfl
  derived := by
    intro event member
    exact absurd member List.not_mem_nil

theorem GivesUp.portion (givesUp : GivesUp cast place failure own) : Portion cast place own := by
  rcases givesUp with rfl | ⟨consumer, task, isConsumer, derived, abandoned⟩
  · exact portion_nil
  · obtain ⟨noEvent, ⟨sent, few, arePosts⟩, closes⟩ := abandoned.fails
    have events : publishEvents own = [] := noEvent
    have requests : posts own = sent := arePosts
    constructor
    · have bound := abandoned.length
      rw [single_length derived] at bound
      exact bound
    · rw [events]
      exact Nat.zero_le 1
    · rw [requests]
      exact few
    · exact closes
    · intro event member
      rw [events] at member
      exact absurd member List.not_mem_nil

/-- What a consumer did so far is a part of what it will have done. -/
theorem Portion.of_append {more : List (AgentEffect Request)}
    (portion : Portion cast place (own ++ more)) : Portion cast place own := by
  have few := portion.few
  have events := portion.events
  have requests := portion.requests
  have closes := portion.closes
  rw [List.length_append] at few
  rw [Agent.publishEvents_append, List.length_append] at events
  rw [Agent.posts_append, List.length_append] at requests
  rw [Agent.closings_append] at closes
  refine ⟨by omega, by omega, by omega, by omega, ?_⟩
  intro event member
  apply portion.derived event
  rw [Agent.publishEvents_append]
  exact List.mem_append_left _ member

theorem portion_of_ensures {strand : Strand (AgentEffect Request) Failure AgentOutput}
    (ensures : Ensures List.Sublist (Derives cast place) (GivesUp cast place) strand own) :
    Portion cast place own := by
  obtain ⟨more, ⟨value, derives⟩ | ⟨failure, givesUp⟩⟩ :=
    ensures.completes (fun own => ⟨own, List.Sublist.refl own⟩)
  · exact derives.portion.of_append
  · exact givesUp.portion.of_append

/-! ### All consumers -/

section Whole

variable {topic : String} {before : List (AgentEffect Request)} {count : Nat}
  {runId authority : String} {fan : Gathering (AgentEffect Request) Failure AgentOutput RunResult}

/-- The invariant of the scenario while the consumers run. -/
abbrev FanSound (cast : Cast Request Failure) (runId authority : String)
    (before : List (AgentEffect Request)) (count : Nat)
    (fan : Gathering (AgentEffect Request) Failure AgentOutput RunResult) : Prop :=
  Sound (Derives cast) (GivesUp cast) (result cast runId authority) .closed before count fan

theorem portions (sound : FanSound cast runId authority before count fan) (place : Nat)
    (within : place < count) : Portion cast place (fan.pool.own place) := by
  have inside : place < fan.pool.strands.length := sound.places ▸ within
  exact portion_of_ensures (sound.meets place _ (List.getElem?_eq_getElem inside))

theorem history_length (sound : FanSound cast runId authority before count fan) :
    fan.pool.log.length ≤ before.length + 1 + 7 * count := by
  have permuted := (Pool.history_perm sound.inside).length_eq
  have each := length_flatMap_range_le (fun place within => (portions sound place within).few)
  have ends : (if fan.outcome.isSome then [(.closed : AgentEffect Request)] else []).length ≤ 1 := by
    split
    · exact Nat.le_refl 1
    · exact Nat.zero_le 1
  rw [Pool.history, List.length_map, sound.outside, List.length_append, List.length_append]
    at permuted
  omega

/-- What was done before the bundle was closed: the brief, then the consumers in some order. -/
theorem done_perm {done : List (Option Nat × AgentEffect Request)}
    (sound : FanSound cast runId authority before count fan) (isOver : fan.outcome.isSome)
    (closed : fan.pool.log = done ++ [(none, .closed)]) :
    (done.map Prod.snd).Perm (before ++ (List.range count).flatMap fan.pool.own) := by
  have permuted := Pool.history_perm sound.inside
  rw [Pool.history, closed, List.map_append, sound.outside, if_pos isOver] at permuted
  have reordered : (before ++ [(.closed : AgentEffect Request)] ++
      (List.range count).flatMap fan.pool.own).Perm
      (before ++ (List.range count).flatMap fan.pool.own ++ [.closed]) := by
    rw [List.append_assoc, List.append_assoc]
    exact List.Perm.append_left before List.perm_append_comm
  exact (List.perm_append_right_iff _).mp (permuted.trans reordered)

theorem own_of_closed {done : List (Option Nat × AgentEffect Request)}
    (closed : fan.pool.log = done ++ [(none, .closed)]) (place : Nat) :
    fan.pool.own place = Pool.own ⟨fan.pool.strands, done⟩ place := by
  have noted : fan.pool = Pool.note ⟨fan.pool.strands, done⟩ .closed := by
    rw [Pool.note, ← closed]
  rw [noted, Pool.own_note]
  rfl

theorem follows_brief {done : List (AgentEffect Request)} {more : List (AgentEffect Request)}
    (announced : ∃ event ∈ publishEvents before, event.ctxId = some cast.prodOut.ctxId)
    (split : done = before ++ more) (within : own.Sublist more)
    (derives : Derives cast place output own) :
    Follows done ⟨cast.prodOut.ctxId, output.ctxId⟩ := by
  obtain ⟨consumer, task, contexts, request, response, _, derived, published⟩ := derives
  have cited : cast.prodOut.ctxId ∈ task.derivedFrom.take 2 := by
    rw [derived]
    exact List.mem_singleton_self _
  obtain ⟨start, later, isOwn, _, announces⟩ := published.resolved cited
  rw [isOwn] at within
  obtain ⟨first, last, rfl, tail⟩ := sublist_split within
  obtain ⟨event, member, isBrief⟩ := announced
  refine ⟨before ++ first, consumer.agentDid, last, ?_, ⟨event, ?_, isBrief⟩,
    consumer.publishEvent task output.llmResponse response, ?_, ?_, rfl⟩
  · rw [split, List.append_assoc]
  · rw [Agent.publishEvents_append]
    exact List.mem_append_left _ member
  · apply (tail.filterMap AgentEffect.publishEvent).subset
    change _ ∈ publishEvents later
    rw [announces]
    exact List.mem_singleton_self _
  · rw [published.ctxId]
    rfl

theorem Derives.told (derives : Derives cast place output own) (authority : String) :
    ∃ event request consumer, publishEvents own = [event] ∧ posts own = [request] ∧
      cast.consumers[place]? = some consumer ∧
      Tells (Chain.node consumer output "analysis" authority 2) event ∧
      edgesOf event = [⟨cast.prodOut.ctxId, output.ctxId⟩] := by
  obtain ⟨consumer, task, contexts, request, response, isConsumer, derived, published⟩ := derives
  have edges := edgesOf_published published
  rw [derived] at edges
  exact ⟨_, request, consumer, published.announces.events, published.announces.requests,
    isConsumer, tells_published "analysis" authority 2 published, edges⟩

/-- The brief, as the scenario tells of it. -/
structure Briefed (cast : Cast Request Failure) (authority : String)
    (before : List (AgentEffect Request)) (brief : AgentEvent) : Prop where
  events : publishEvents before = [brief]
  requests : (posts before).length = 1
  closes : closings before = 0
  told : Tells (Chain.node cast.producer cast.prodOut "data_snapshot" authority 1) brief
  underived : edgesOf brief = []

theorem finished_told {brief : AgentEvent} {values : List AgentOutput}
    {done : List (Option Nat × AgentEffect Request)}
    (briefed : Briefed cast authority before brief)
    (sized : cast.consumers.length = values.length)
    (each : ∀ place output, values[place]? = some output →
      Derives cast place output (fan.pool.own place))
    (starts : before.map (fun effect => (none, effect)) <+: done)
    (closed : fan.pool.log = done ++ [(none, .closed)])
    (permuted : (done.map Prod.snd).Perm
      (before ++ (List.range values.length).flatMap fan.pool.own)) :
    GraphTold (result cast runId authority values) (graph cast authority values)
      (publishEvents (before ++ (List.range values.length).flatMap fan.pool.own))
      (done.map Prod.snd) := by
  have events : publishEvents (before ++ (List.range values.length).flatMap fan.pool.own) =
      brief :: (List.range values.length).flatMap
        (fun place => publishEvents (fan.pool.own place)) := by
    rw [Agent.publishEvents_append, briefed.events]
    exact congrArg (brief :: ·) List.filterMap_flatMap
  have nodesLength : (List.zipWith
      (fun consumer out => Chain.node consumer out "analysis" authority 2) cast.consumers
      values).length = values.length := by
    rw [List.length_zipWith, sized, Nat.min_self]
  constructor
  · rfl
  · have ids : (List.zipWith (fun consumer out => Chain.node consumer out "analysis" authority 2)
        cast.consumers values).map LineageNode.ctxId = values.map AgentOutput.ctxId := by
      rw [List.map_zipWith]
      exact zipWith_snd AgentOutput.ctxId sized.ge
    exact congrArg (cast.prodOut.ctxId :: ·) ids.symm
  · rw [events]
    refine .cons briefed.told ?_
    rw [← nodesLength]
    apply forall₂_flatMap_range
    intro place node found
    obtain ⟨consumer, output, isConsumer, isOutput, rfl⟩ := List.getElem?_zipWith_eq_some.mp found
    obtain ⟨event, request, other, only, _, isOther, told, _⟩ :=
      (each place output isOutput).told authority
    rw [isConsumer] at isOther
    cases isOther
    exact ⟨event, only, told⟩
  · rw [events, List.flatMap_cons, briefed.underived, List.nil_append, List.flatMap_assoc]
    apply map_eq_flatMap_range
    intro place output isOutput
    obtain ⟨event, request, consumer, only, _, _, _, edges⟩ :=
      (each place output isOutput).told authority
    rw [only, List.flatMap_singleton, edges]
  · intro edge member
    obtain ⟨output, isOutput, rfl⟩ := List.mem_map.mp member
    obtain ⟨place, found⟩ := List.mem_iff_getElem?.mp isOutput
    obtain ⟨more, split⟩ := starts
    have derives := each place output found
    rw [own_of_closed closed] at derives
    have within : (Pool.own ⟨fan.pool.strands, done⟩ place).Sublist (more.map Prod.snd) :=
      Pool.own_sublist_after split.symm place
    have announced : ∃ event ∈ publishEvents before, event.ctxId = some cast.prodOut.ctxId := by
      refine ⟨brief, ?_, briefed.told.2.1⟩
      rw [briefed.events]
      exact List.mem_singleton_self _
    refine follows_brief announced ?_ within derives
    rw [← split, List.map_append, List.map_map]
    exact congrArg (· ++ _) (List.map_id _)
  · have sent := (permuted.filterMap AgentEffect.posted).length_eq
    have consumed : List.Forall₂ (fun _ _ => True) values
        ((List.range values.length).flatMap (fun place => posts (fan.pool.own place))) := by
      apply forall₂_flatMap_range
      intro place output isOutput
      obtain ⟨event, request, consumer, _, only, _⟩ := (each place output isOutput).told authority
      exact ⟨request, only, trivial⟩
    have apart : posts (before ++ (List.range values.length).flatMap fan.pool.own) =
        posts before ++ (List.range values.length).flatMap
          (fun place => posts (fan.pool.own place)) := by
      rw [Agent.posts_append]
      exact congrArg (posts before ++ ·) List.filterMap_flatMap
    calc (posts (done.map Prod.snd)).length
        = (posts (before ++ (List.range values.length).flatMap fan.pool.own)).length := sent
      _ = 1 + values.length := by
          rw [apart, List.length_append, briefed.requests, ← consumed.length_eq]
      _ = (graph cast authority values).nodes.length := by
          rw [graph, List.length_cons, nodesLength, Nat.add_comm]

/-- What holds of the scenario in every order of turns. -/
structure Law (cast : Cast Request Failure) (runId authority : String)
    (before : List (AgentEffect Request)) (count : Nat) (schedule : List Turn)
    (fan : Gathering (AgentEffect Request) Failure AgentOutput RunResult) : Prop where
  bounded : schedule.length ≤ 7 * count + 1
  goesOn : fan.outcome = none → ∃ turn next, step cast runId authority fan turn = some next
  each : ∀ place < count, Portion cast place (fan.pool.own place)
  finished : ∀ result, fan.outcome = some (.ok result) →
    (∀ turn, step cast runId authority fan turn = none) ∧
    ∃ done events graph, fan.pool.history = done ++ [.closed] ∧ closings done = 0 ∧
      events.Perm (publishEvents done) ∧ GraphTold result graph events done
  aborted : ∀ failure, fan.outcome = some (.error failure) →
    closings fan.pool.history = 1 ∧
    ∃ place : Nat, fan.pool.strands[place]? = some (.raised failure) ∧
      publishEvents (fan.pool.own place) = []

theorem GivesUp.silent (givesUp : GivesUp cast place failure own) : publishEvents own = [] := by
  rcases givesUp with rfl | ⟨consumer, task, _, _, abandoned⟩
  · rfl
  · exact abandoned.fails.events

theorem closings_consumers (sound : FanSound cast runId authority before count fan) :
    closings ((List.range count).flatMap fan.pool.own) = 0 := by
  apply List.countP_eq_zero.mpr
  intro effect member
  obtain ⟨place, within, isOwn⟩ := List.mem_flatMap.mp member
  have closes := (portions sound place (List.mem_range.mp within)).closes
  exact List.countP_eq_zero.mp closes effect isOwn

theorem law_of_sound {brief : AgentEvent} {schedule : List Turn}
    (briefed : Briefed cast authority before brief) (sized : cast.consumers.length = count)
    (sound : FanSound cast runId authority before count fan)
    (turns : fan.pool.log.length = before.length + schedule.length) :
    Law cast runId authority before count schedule fan := by
  constructor
  · have long := history_length sound
    omega
  · exact step_of_undecided
  · exact portions sound
  · intro result isOver
    refine ⟨sound.stuck isOver, ?_⟩
    have over_ : fan.outcome.isSome := by rw [isOver]; rfl
    obtain ⟨values, all, rfl, done, closed, starts⟩ := sound.finished result isOver
    have measured : count = values.length := by
      rw [← sound.places, all, List.length_map]
    subst measured
    have permuted := done_perm sound over_ closed
    refine ⟨done.map Prod.snd, _, _, ?_, ?_, (permuted.filterMap _).symm,
      finished_told briefed sized ?_ starts closed permuted⟩
    · rw [Pool.history, closed, List.map_append]
      rfl
    · rw [closings, permuted.countP_eq]
      change closings (before ++ _) = 0
      rw [Agent.closings_append, briefed.closes, closings_consumers sound]
    · intro place output found
      apply sound.meets place (.returned output)
      rw [all, List.getElem?_map, found]
      rfl
  · intro failure isOver
    obtain ⟨place, raised⟩ := sound.aborted failure isOver
    refine ⟨?_, place, raised, ?_⟩
    · have permuted := Pool.history_perm sound.inside
      rw [sound.outside, isOver] at permuted
      rw [closings, permuted.countP_eq]
      change closings (before ++ [.closed] ++ _) = 1
      rw [Agent.closings_append, Agent.closings_append, briefed.closes, closings_consumers sound]
      rfl
    · have givesUp : GivesUp cast place failure (fan.pool.own place) :=
        sound.meets place (.raised failure) raised
      exact givesUp.silent

end Whole

/-! ### The scenario -/

theorem makeConsumers_length {make : String → Except Failure (Agent Request Failure)}
    {places : List Nat} {consumers : List (Agent Request Failure)}
    (made : makeConsumers make places = .ok consumers) : consumers.length = places.length := by
  induction places generalizing consumers with
  | nil =>
      cases made
      rfl
  | cons place rest ih =>
      unfold makeConsumers at made
      cases consumer : make ("facet-" ++ toString place) with
      | error failure =>
          rw [consumer] at made
          cases made
      | ok first =>
          rw [consumer] at made
          cases others : makeConsumers make rest with
          | error failure =>
              rw [others] at made
              cases made
          | ok later =>
              rw [others] at made
              cases made
              rw [List.length_cons, List.length_cons, ih others]

theorem setup_ensures (make : String → Except Failure (Agent Request Failure)) (topic : String)
    (facets : List String)
    (admits : List (AgentEffect Request) → List (AgentEffect Request) → Prop) :
    Ensures admits
      (fun cast after => cast.consumers.length = facets.length ∧
        ∃ contexts request response, cast.producer.Published admits (briefTask topic) []
          cast.prodOut after contexts request response)
      (fun _ after => Agent.Fails [] after)
      (setup make topic facets) [] := by
  have nothing : Agent.Fails ([] : List (AgentEffect Request)) [] :=
    Agent.Quiet.fails ⟨rfl, rfl, rfl⟩
  apply ensures_bind
  apply ensures_attempt
  · intro producer _made
    apply ensures_bind
    apply ensures_attempt
    · intro consumers made
      have sized : consumers.length = facets.length := by
        rw [makeConsumers_length made, List.length_range]
      apply ensures_bind
      refine producer.run_ensures.weaken ?_ ?_
      · intro prodOut after published
        apply ensures_pure
        exact ⟨sized, published⟩
      · intro failure after abandoned
        exact abandoned.fails
    · intro failure _
      exact nothing
  · intro failure _
    exact nothing

theorem briefed_of_published
    {admits : List (AgentEffect Request) → List (AgentEffect Request) → Prop}
    {topic : String} {before : List (AgentEffect Request)} {contexts : List GroundingContext}
    {request : Request} {response : PublishResponse} (authority : String)
    (published : cast.producer.Published admits (briefTask topic) [] cast.prodOut before contexts
      request response) :
    ∃ brief, Briefed cast authority before brief := by
  refine ⟨cast.producer.publishEvent (briefTask topic) cast.prodOut.llmResponse response, ?_⟩
  constructor
  · exact published.announces.events
  · rw [published.announces.requests]
    rfl
  · exact published.announces.closes
  · exact tells_published "data_snapshot" authority 1 published
  · exact edgesOf_published published

end Fanout

/-- The consumers of a fan-out in every order of their effects. Until the brief is published no
consumer acts. Then each consumer sends and announces one context at most, derived from the
brief; the scenario always ends, within seven effects for each facet; when it returns, all
consumers have returned and the graph is the one that the events of the run tell of, whatever
the order they came in; when it raises, a consumer raised that announced nothing. -/
theorem fanout_in_every_order (make : String → Except Failure (Agent Request Failure))
    (indexError : Failure) (runId authority topic : String) (facets : List String) :
    (∀ failure before, (Fanout.setup make topic facets).run [] = (.error failure, before) →
      publishEvents before = [] ∧ (posts before).length ≤ 1) ∧
    ∀ cast before, (Fanout.setup make topic facets).run [] = (.ok cast, before) →
      ∀ schedule fan, runFrom (Fanout.step cast runId authority)
          (Fanout.consuming cast indexError topic facets before) schedule = some fan →
        Fanout.Law cast runId authority before facets.length schedule fan := by
  obtain ⟨final, did, returned, raised⟩ :=
    ensures_run (Fanout.setup_ensures make topic facets (Alone []))
  rw [List.nil_append] at did returned raised
  constructor
  · intro failure before ran
    rw [ran] at did raised
    obtain ⟨noEvent, ⟨sent, few, arePosts⟩, _⟩ := raised failure rfl
    rw [show before = final from did]
    exact ⟨noEvent, (congrArg List.length arePosts).trans_le few⟩
  · intro cast before ran schedule fan turns
    rw [ran] at did returned
    obtain ⟨sized, contexts, request, response, published⟩ := returned cast rfl
    rw [← show before = final from did] at published
    obtain ⟨brief, briefed⟩ := Fanout.briefed_of_published authority published
    have count : (Fanout.strands cast indexError topic facets).length = facets.length := by
      rw [Fanout.strands, List.length_zipWith, sized, Nat.min_self]
    have sound := sound_run (Fanout.strands_ensures cast indexError topic facets) turns
    rw [count] at sound
    exact Fanout.law_of_sound briefed sized sound (log_length_run turns)

end AcdpPlayground.Scenarios

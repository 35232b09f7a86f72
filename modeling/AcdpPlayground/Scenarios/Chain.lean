/-
The linear chain, `s4_chain.py`: three agents run one after the other, the second grounds on
the context of the first and the third on both.

`make` is `make_langchain_agent` with the other arguments of the scenario. The topic is the
text that the f-strings print for it, and closing the bundle does not raise.
-/

import AcdpPlayground.Agents.AgentRun

namespace AcdpPlayground.Scenarios

open Agents Strands

variable {Request Failure : Type}

namespace Chain

def riskTask (topic : String) : AgentTask where
  prompt := "Research and summarize the top 5 risks in " ++ topic ++ ". " ++
    "Be specific and cite recent trends."
  title := "Risk landscape — " ++ topic
  contextType := "data_snapshot"
  domain := some "supply_chain"
  tags := ["research", "risk"]

def opportunityTask (topic : String) (outA : AgentOutput) : AgentTask where
  prompt := "Based on the risk analysis, identify the top 3 investment " ++
    "opportunities in " ++ topic ++ "."
  title := "Investment opportunities — " ++ topic
  contextType := "analysis"
  domain := some "supply_chain"
  tags := ["investment", "analysis"]
  derivedFrom := [outA.ctxId]

def recommendationTask (topic : String) (outA outB : AgentOutput) : AgentTask where
  prompt := "Draft a 3-paragraph executive recommendation for a CFO " ++
    "considering exposure to " ++ topic ++ "."
  title := "CFO recommendation — " ++ topic
  contextType := "analysis"
  domain := some "supply_chain"
  tags := ["recommendation", "executive"]
  derivedFrom := [outA.ctxId, outB.ctxId]

def node (agent : Agent Request Failure) (output : AgentOutput) (contextType authority : String)
    (step : Nat) : LineageNode where
  ctxId := output.ctxId
  agentId := agent.agentDid
  title := output.title
  contextType := contextType
  registryAuthority := authority
  step := step

def graph (a b c : Agent Request Failure) (outA outB outC : AgentOutput) (authority : String) :
    LineageGraph where
  nodes := [node a outA "data_snapshot" authority 1, node b outB "analysis" authority 2,
    node c outC "analysis" authority 3]
  edges := [⟨outA.ctxId, outB.ctxId⟩, ⟨outA.ctxId, outC.ctxId⟩, ⟨outB.ctxId, outC.ctxId⟩]

def run (make : String → Except Failure (Agent Request Failure)) (runId authority topic : String) :
    Strand (AgentEffect Request) Failure RunResult :=
  finallyEmit .closed do
    let a ← attempt (make "agent-alpha")
    let b ← attempt (make "agent-beta")
    let c ← attempt (make "agent-gamma")
    let outA ← a.run (riskTask topic)
    let outB ← b.run (opportunityTask topic outA)
    let outC ← c.run (recommendationTask topic outA outB)
    return {
      runId := runId
      scenarioId := "s4_chain"
      contexts := [outA.ctxId, outB.ctxId, outC.ctxId]
      lineageGraph := some (graph a b c outA outB outC authority) }

end Chain

/-! ### The graph and the events -/

/-- A node tells what an `acdp.publish` event tells. -/
def Tells (node : LineageNode) (event : AgentEvent) : Prop :=
  event.type = .acdpPublish ∧ event.ctxId = some node.ctxId ∧ event.agentId = node.agentId ∧
    event.title = some node.title

def edgesOf (event : AgentEvent) : List LineageEdge :=
  event.derivedFrom.map (fun src => ⟨src, event.ctxId.getD ""⟩)

/-- The source was announced, then retrieved, and the target was announced after that. -/
def Follows (effects : List (AgentEffect Request)) (edge : LineageEdge) : Prop :=
  ∃ before agentId later, effects = before ++ .resolve agentId edge.src :: later ∧
    (∃ event ∈ publishEvents before, event.ctxId = some edge.src) ∧
    ∃ event ∈ publishEvents later, event.ctxId = some edge.dst ∧ event.agentId = agentId

/-- The graph of a result is the one that the events of its run tell of. -/
structure GraphTold (result : RunResult) (graph : LineageGraph) (events : List AgentEvent)
    (effects : List (AgentEffect Request)) : Prop where
  isGraph : result.lineageGraph = some graph
  contexts : result.contexts = graph.nodes.map LineageNode.ctxId
  nodes : List.Forall₂ Tells graph.nodes events
  edges : graph.edges = events.flatMap edgesOf
  follows : ∀ edge ∈ graph.edges, Follows effects edge
  sent : (posts effects).length = graph.nodes.length

/-- After some agents are done, each with its request and its event. -/
structure Steady (effects : List (AgentEffect Request)) (agents : Nat) : Prop where
  events : (publishEvents effects).length = agents
  requests : (posts effects).length = agents
  closes : closings effects = 0

/-- After a run that stopped: one request may have no event. -/
structure Stopped (effects : List (AgentEffect Request)) (agents : Nat) : Prop where
  events : (publishEvents effects).length ≤ agents
  requests : (posts effects).length ≤ (publishEvents effects).length + 1
  closes : closings effects = 0

section Steps

variable {own after : List (AgentEffect Request)} {agents : Nat}

theorem steady_nil : Steady ([] : List (AgentEffect Request)) 0 :=
  ⟨rfl, rfl, rfl⟩

theorem Steady.announces {event : AgentEvent} {request : Request} (steady : Steady own agents)
    (announces : Agent.Announces own after event request) : Steady after (agents + 1) := by
  constructor
  · rw [announces.events, List.length_append, steady.events, List.length_singleton]
  · rw [announces.requests, List.length_append, steady.requests, List.length_singleton]
  · rw [announces.closes, steady.closes]

theorem Steady.fails {limit : Nat} (steady : Steady own agents) (within : agents ≤ limit)
    (fails : Agent.Fails own after) : Stopped after limit := by
  obtain ⟨sent, few, arePosts⟩ := fails.requests
  constructor
  · rw [fails.events, steady.events]
    exact within
  · rw [fails.events, arePosts, List.length_append, steady.requests, steady.events]
    omega
  · rw [fails.closes, steady.closes]

theorem Steady.stopped {limit : Nat} (steady : Steady own agents) (within : agents ≤ limit) :
    Stopped own limit :=
  steady.fails within (Agent.Quiet.fails ⟨rfl, rfl, rfl⟩)

theorem Follows.append {edge : LineageEdge} (follows : Follows own edge)
    (more : List (AgentEffect Request)) : Follows (own ++ more) edge := by
  obtain ⟨before, agentId, later, rfl, source, event, announced, isTarget⟩ := follows
  refine ⟨before, agentId, later ++ more, ?_, source, event, ?_, isTarget⟩
  · rw [List.append_assoc, List.cons_append]
  · rw [Agent.publishEvents_append]
    exact List.mem_append_left _ announced

theorem follows_published {admits : List (AgentEffect Request) → List (AgentEffect Request) → Prop}
    {agent : Agent Request Failure} {task : AgentTask} {output : AgentOutput}
    {contexts : List GroundingContext} {request : Request} {response : PublishResponse}
    {src : String} (cited : src ∈ task.derivedFrom.take 2)
    (announced : ∃ event ∈ publishEvents own, event.ctxId = some src)
    (published : agent.Published admits task own output after contexts request response) :
    Follows after ⟨src, output.ctxId⟩ := by
  obtain ⟨before, later, split, ⟨more, rfl⟩, announces⟩ := published.resolved cited
  obtain ⟨event, member, isSource⟩ := announced
  refine ⟨own ++ more, agent.agentDid, later, split, ⟨event, ?_, isSource⟩,
    agent.publishEvent task output.llmResponse response, ?_, ?_, rfl⟩
  · rw [Agent.publishEvents_append]
    exact List.mem_append_left _ member
  · rw [announces]
    exact List.mem_singleton_self _
  · rw [published.ctxId]
    rfl

theorem tells_published {admits : List (AgentEffect Request) → List (AgentEffect Request) → Prop}
    {agent : Agent Request Failure} {task : AgentTask} {output : AgentOutput}
    {contexts : List GroundingContext} {request : Request} {response : PublishResponse}
    (contextType authority : String) (step : Nat)
    (published : agent.Published admits task own output after contexts request response) :
    Tells (Chain.node agent output contextType authority step)
      (agent.publishEvent task output.llmResponse response) := by
  refine ⟨rfl, ?_, rfl, ?_⟩
  · exact congrArg some published.ctxId.symm
  · exact congrArg some published.title.symm

theorem edgesOf_published
    {admits : List (AgentEffect Request) → List (AgentEffect Request) → Prop}
    {agent : Agent Request Failure} {task : AgentTask} {output : AgentOutput}
    {contexts : List GroundingContext} {request : Request} {response : PublishResponse}
    (published : agent.Published admits task own output after contexts request response) :
    edgesOf (agent.publishEvent task output.llmResponse response) =
      task.derivedFrom.map (fun src => ⟨src, output.ctxId⟩) := by
  rw [published.ctxId]
  rfl

end Steps

/-! ### Three agents -/

theorem Chain.graphTold {admits : List (AgentEffect Request) → List (AgentEffect Request) → Prop}
    {a b c : Agent Request Failure} {outA outB outC : AgentOutput}
    {afterA afterB afterC : List (AgentEffect Request)}
    {contextsA contextsB contextsC : List GroundingContext} {requestA requestB requestC : Request}
    {responseA responseB responseC : PublishResponse} (runId authority topic : String)
    (publishedA : a.Published admits (riskTask topic) [] outA afterA contextsA requestA responseA)
    (publishedB : b.Published admits (opportunityTask topic outA) afterA outB afterB contextsB
      requestB responseB)
    (publishedC : c.Published admits (recommendationTask topic outA outB) afterB outC afterC
      contextsC requestC responseC) :
    GraphTold
      { runId := runId, scenarioId := "s4_chain"
        contexts := [outA.ctxId, outB.ctxId, outC.ctxId]
        lineageGraph := some (graph a b c outA outB outC authority) }
      (graph a b c outA outB outC authority) (publishEvents afterC) afterC := by
  have eventsA : publishEvents afterA =
      [a.publishEvent (riskTask topic) outA.llmResponse responseA] := publishedA.announces.events
  have eventsB := publishedB.announces.events
  rw [eventsA] at eventsB
  have eventsC := publishedC.announces.events
  rw [eventsB] at eventsC
  have toldA := tells_published "data_snapshot" authority 1 publishedA
  have toldB := tells_published "analysis" authority 2 publishedB
  have toldC := tells_published "analysis" authority 3 publishedC
  have knownA (effects : List (AgentEffect Request))
      (told : a.publishEvent (riskTask topic) outA.llmResponse responseA ∈
        publishEvents effects) :
      ∃ event ∈ publishEvents effects, event.ctxId = some outA.ctxId :=
    ⟨_, told, toldA.2.1⟩
  have followsAB : Follows afterB ⟨outA.ctxId, outB.ctxId⟩ :=
    follows_published (List.mem_singleton_self _)
      (knownA afterA (eventsA ▸ List.mem_singleton_self _)) publishedB
  have followsAC : Follows afterC ⟨outA.ctxId, outC.ctxId⟩ :=
    follows_published List.mem_cons_self (knownA afterB (eventsB ▸ List.mem_cons_self)) publishedC
  have followsBC : Follows afterC ⟨outB.ctxId, outC.ctxId⟩ :=
    follows_published (List.mem_cons_of_mem _ (List.mem_singleton_self _))
      ⟨_, eventsB ▸ List.mem_cons_of_mem _ (List.mem_singleton_self _), toldB.2.1⟩ publishedC
  obtain ⟨more, extended⟩ := publishedC.extends
  constructor
  · rfl
  · rfl
  · rw [eventsC]
    exact .cons toldA (.cons toldB (.cons toldC .nil))
  · simp only [eventsC, List.flatMap_append, List.flatMap_singleton, edgesOf_published publishedA,
      edgesOf_published publishedB, edgesOf_published publishedC]
    rfl
  · intro edge member
    simp only [graph, List.mem_cons, List.not_mem_nil, or_false] at member
    rcases member with rfl | rfl | rfl
    · rw [extended]
      exact followsAB.append more
    · exact followsAC
    · exact followsBC
  · have steadyC := ((steady_nil.announces publishedA.announces).announces
      publishedB.announces).announces publishedC.announces
    exact steadyC.requests

theorem Chain.run_ensures
    (admits : List (AgentEffect Request) → List (AgentEffect Request) → Prop)
    (make : String → Except Failure (Agent Request Failure)) (runId authority topic : String) :
    Ensures admits
      (fun result after => ∃ done graph, after = done ++ [.closed] ∧ closings done = 0 ∧
        GraphTold result graph (publishEvents done) done)
      (fun _ after => ∃ done, after = done ++ [.closed] ∧ Stopped done 2)
      (Chain.run make runId authority topic) [] := by
  have nothing : Stopped ([] : List (AgentEffect Request)) 2 := steady_nil.stopped (by decide)
  apply ensures_finallyEmit
  apply ensures_bind
  apply ensures_attempt
  · intro a _madeA
    apply ensures_bind
    apply ensures_attempt
    · intro b _madeB
      apply ensures_bind
      apply ensures_attempt
      · intro c _madeC
        apply ensures_bind
        refine a.run_ensures.weaken ?_ ?_
        · rintro outA afterA ⟨contextsA, requestA, responseA, publishedA⟩
          have steadyA := steady_nil.announces publishedA.announces
          apply ensures_bind
          refine b.run_ensures.weaken ?_ ?_
          · rintro outB afterB ⟨contextsB, requestB, responseB, publishedB⟩
            have steadyB := steadyA.announces publishedB.announces
            apply ensures_bind
            refine c.run_ensures.weaken ?_ ?_
            · rintro outC afterC ⟨contextsC, requestC, responseC, publishedC⟩
              have steadyC := steadyB.announces publishedC.announces
              apply ensures_pure
              refine ⟨afterC, Chain.graph a b c outA outB outC authority, rfl, steadyC.closes, ?_⟩
              exact Chain.graphTold runId authority topic publishedA publishedB publishedC
            · intro failure after abandoned
              exact ⟨after, rfl, steadyB.fails (Nat.le_refl 2) abandoned.fails⟩
          · intro failure after abandoned
            exact ⟨after, rfl, steadyA.fails (by decide) abandoned.fails⟩
        · intro failure after abandoned
          exact ⟨after, rfl, steady_nil.fails (by decide) abandoned.fails⟩
      · intro failure _notMade
        exact ⟨[], rfl, nothing⟩
    · intro failure _notMade
      exact ⟨[], rfl, nothing⟩
  · intro failure _notMade
    exact ⟨[], rfl, nothing⟩

/-- The graph that the chain returns is the one its events tell of, and no edge stands in it
whose source the deriving agent did not retrieve; a chain that raises has announced two
contexts at most. The bundle is closed once, and last. -/
theorem chain_graph_told (make : String → Except Failure (Agent Request Failure))
    (runId authority topic : String) (history : List (AgentEffect Request)) :
    ∃ done, ((Chain.run make runId authority topic).run history).2 =
        history ++ done ++ [.closed] ∧ closings done = 0 ∧
      (∀ result, ((Chain.run make runId authority topic).run history).1 = .ok result →
        ∃ graph, GraphTold result graph (publishEvents done) done) ∧
      ∀ failure, ((Chain.run make runId authority topic).run history).1 = .error failure →
        Stopped done 2 := by
  obtain ⟨final, did, returned, raised⟩ :=
    ensures_run (Chain.run_ensures (Alone history) make runId authority topic)
  rw [List.append_nil] at did returned raised
  cases outcome : ((Chain.run make runId authority topic).run history).1 with
  | ok result =>
      obtain ⟨done, graph, rfl, open_, told⟩ := returned result outcome
      refine ⟨done, ?_, open_, ?_, ?_⟩
      · rw [did, List.append_assoc]
      · intro other same
        cases same
        exact ⟨graph, told⟩
      · intro failure same
        cases same
  | error failure =>
      obtain ⟨done, rfl, stopped⟩ := raised failure outcome
      refine ⟨done, ?_, stopped.closes, ?_, ?_⟩
      · rw [did, List.append_assoc]
      · intro result same
        cases same
      · intro _ _
        exact stopped

end AcdpPlayground.Scenarios

/-
The mock model and the two ways a refused call reaches it: `QuotaGuardedLLM.ainvoke` of
`playground/quota.py` and `CrewAIAgent.call_llm` of `playground/agents/crewai_agent.py`, with
`_MockLLM` and `response_text` of `playground/agents/base.py`.

The mock echoes the first line of the stripped prompt, and a prompt of nothing but
whitespace has none. The real models are parameters.
-/

import AcdpPlayground.Foundation.TextMethods
import AcdpPlayground.Quota.Guard

namespace AcdpPlayground.Agents

open PythonText TextMethods Calendar Quota

/-! ### Answers -/

/-- A block of a content list; a text block has `str(block.get("text", ""))`. -/
inductive ContentBlock where
  | str (value : Text)
  | text (value : Text)
  | other

inductive Content where
  | str (value : Text)
  | blocks (blocks : List ContentBlock)
  | object (shown : Text)

def ContentBlock.part : ContentBlock → Option Text
  | .str value => some value
  | .text value => some value
  | .other => none

def responseText : Content → Text
  | .str value => value
  | .blocks blocks => (blocks.filterMap ContentBlock.part).flatten
  | .object shown => shown

inductive LlmError where
  | indexError
  | overflowError
  | model

def mockAinvoke (prompt : Text) : Except LlmError Content :=
  match splitlines (strip prompt) with
  | [] => .error .indexError
  | line :: _ =>
      let snippet := line.take 80
      .ok (.str (text "MOCK_LLM_RESPONSE :: " ++ text "echoing first line: " ++ snippet ++
        text " :: " ++ text "this would be an LLM-generated answer in production."))

/-! ### The quota check -/

inductive StoreBehaviour where
  | admits
  | denies (denial : QuotaDenial)
  | raises
  | timesOut

/-- Every exception and the expired deadline are a denial. -/
def StoreBehaviour.denial : StoreBehaviour → Option QuotaDenial
  | .admits => none
  | .denies denial => some denial
  | .raises => some storeUnavailable
  | .timesOut => some storeUnavailable

structure CheckSetting where
  settings : QuotaSettings
  now : Datetime
  /-- The time of the event, `datetime.now(UTC).isoformat()`. -/
  ts : String
  context : Option RunQuotaContext
  store : StoreBehaviour

def CheckSetting.counters (setting : CheckSetting) : Option (List Counter) :=
  countersFor (setting.context.bind RunQuotaContext.clientIp) setting.settings setting.now

/-- `check_llm_quota`: the denial, and the run's context behind it. Naming the counters may
overflow. -/
def checkLlmQuota (setting : CheckSetting) :
    Except LlmError (Option QuotaDenial × Option RunQuotaContext) :=
  match setting.counters with
  | none => .error .overflowError
  | some _ =>
      match setting.store.denial with
      | none => .ok (none, setting.context)
      | some denial =>
          .ok (some denial,
            setting.context.map (fun context => context.recordDenial setting.ts denial))

abbrev ChatModel := Text → Except LlmError Content

/-- `QuotaGuardedLLM.ainvoke`, with the mock behind it. -/
def guardedAinvoke (inner : ChatModel) (setting : CheckSetting) (prompt : Text) :
    Except LlmError Content :=
  match checkLlmQuota setting with
  | .error failure => .error failure
  | .ok (some _, _) => mockAinvoke prompt
  | .ok (none, _) => inner prompt

inductive LlmProvider where
  | mock
  | openai
  | anthropic
deriving DecidableEq

/-- `llm_for_settings` by the `ainvoke` of the model it builds. -/
def llmForSettings (provider : LlmProvider) (inner : ChatModel) (setting : CheckSetting) :
    ChatModel :=
  if provider = .mock then mockAinvoke else guardedAinvoke inner setting

/-- `CrewAIAgent.call_llm`. The mock provider asks no store. -/
def callLlm (provider : LlmProvider) (crew : Text → Except LlmError Text)
    (setting : CheckSetting) (prompt : Text) : Except LlmError Text :=
  if provider = .mock then (mockAinvoke prompt).map responseText
  else
    match checkLlmQuota setting with
    | .error failure => .error failure
    | .ok (some _, _) => (mockAinvoke prompt).map responseText
    | .ok (none, _) => crew prompt

/-! ### A refused call -/

/-- The store is asked and does not admit the call. -/
def CheckSetting.Refused (setting : CheckSetting) : Prop :=
  setting.counters.isSome = true ∧ setting.store.denial.isSome = true

def Answered (result : Except LlmError Content) : Prop :=
  ∃ content, result = .ok content ∧ responseText content ≠ []

def AnsweredText (result : Except LlmError Text) : Prop :=
  ∃ answer, result = .ok answer ∧ answer ≠ []

/-- A prompt is answered on every way to the mock. -/
structure NeverFails (prompt : Text) : Prop where
  mock : Answered (mockAinvoke prompt)
  guarded : ∀ inner setting, setting.Refused → Answered (guardedAinvoke inner setting prompt)
  crew : ∀ provider crew setting, provider = .mock ∨ setting.Refused →
    AnsweredText (callLlm provider crew setting prompt)
  provided : ∀ inner setting, Answered (llmForSettings .mock inner setting prompt)

theorem strip_ne_nil_iff (given : Text) :
    strip given ≠ [] ↔ ∃ point ∈ given, isSpace point = false := by
  constructor
  · intro nonempty
    by_contra hidden
    apply nonempty
    have spaces : given.dropWhile isSpace = [] := by
      rw [List.dropWhile_eq_nil_iff]
      intro point member
      by_contra visible
      exact hidden ⟨point, member, Bool.eq_false_iff.mpr visible⟩
    unfold strip lstrip
    rw [spaces]
    rfl
  · rintro ⟨point, member, visible⟩
    exact List.ne_nil_of_mem (mem_strip member visible)

theorem mockAinvoke_answered_iff (prompt : Text) :
    Answered (mockAinvoke prompt) ↔ ∃ point ∈ prompt, isSpace point = false := by
  rw [← strip_ne_nil_iff]
  unfold mockAinvoke
  cases lines : splitlines (strip prompt) with
  | nil =>
      refine iff_of_false ?_ ?_
      · rintro ⟨content, impossible, _⟩
        cases impossible
      · intro nonempty
        exact nonempty ((splitlines_eq_nil_iff _).mp lines)
  | cons line rest =>
      refine iff_of_true ⟨_, rfl, ?_⟩ ?_
      · exact List.cons_ne_nil _ _
      · intro empty
        rw [(splitlines_eq_nil_iff _).mpr empty] at lines
        cases lines

theorem answeredText_map {result : Except LlmError Content} (answered : Answered result) :
    AnsweredText (result.map responseText) := by
  obtain ⟨content, rfl, nonempty⟩ := answered
  exact ⟨_, rfl, nonempty⟩

theorem checkLlmQuota_of_refused {setting : CheckSetting} (refused : setting.Refused) :
    ∃ denial context, checkLlmQuota setting = .ok (some denial, context) := by
  obtain ⟨counters, isCounters⟩ := Option.isSome_iff_exists.mp refused.1
  obtain ⟨denial, isDenial⟩ := Option.isSome_iff_exists.mp refused.2
  unfold checkLlmQuota
  rw [isCounters, isDenial]
  exact ⟨_, _, rfl⟩

theorem guardedAinvoke_of_refused {setting : CheckSetting} (refused : setting.Refused)
    (inner : ChatModel) (prompt : Text) :
    guardedAinvoke inner setting prompt = mockAinvoke prompt := by
  obtain ⟨denial, context, checked⟩ := checkLlmQuota_of_refused refused
  unfold guardedAinvoke
  rw [checked]

theorem callLlm_of_refused {provider : LlmProvider} {setting : CheckSetting}
    (ways : provider = .mock ∨ setting.Refused) (crew : Text → Except LlmError Text)
    (prompt : Text) :
    callLlm provider crew setting prompt = (mockAinvoke prompt).map responseText := by
  unfold callLlm
  by_cases mock : provider = .mock
  · rw [if_pos mock]
  · obtain ⟨denial, context, checked⟩ := checkLlmQuota_of_refused (ways.resolve_left mock)
    rw [if_neg mock, checked]

/-- Every way to the mock answers exactly the prompts with a visible character. -/
theorem refused_call_answered_iff (prompt : Text) :
    NeverFails prompt ↔ ∃ point ∈ prompt, isSpace point = false := by
  constructor
  · intro answered
    exact (mockAinvoke_answered_iff prompt).mp answered.mock
  · intro visible
    have answered := (mockAinvoke_answered_iff prompt).mpr visible
    constructor
    · exact answered
    · intro inner setting refused
      rw [guardedAinvoke_of_refused refused]
      exact answered
    · intro provider crew setting ways
      rw [callLlm_of_refused ways]
      exact answeredText_map answered
    · intro inner setting
      exact answered

theorem blank_prompt_fails : ¬NeverFails (text "  \n") := by
  intro answered
  obtain ⟨content, impossible, _⟩ := answered.mock
  cases impossible

end AcdpPlayground.Agents

/-
What the two consumers of a delivery are told: the tenant and the event id of the
`StepEvent` on the queue of the run, and the headers of the request to the control plane.

The receiver takes a header where the body has `None`; `forward_webhook` takes it where the
tenant it is given is not truthy. They part on an empty tenant in the body.
-/

import AcdpPlayground.Webhooks.Receiver

namespace AcdpPlayground.Webhooks

open PythonText JsonValue TextEncoding Bridge KeyedTable

variable {Datetime : Type}

/-! ### The forwarded headers -/

def forwardedNames : List Text :=
  [text "X-ACDP-Event", text "X-ACDP-Event-Id", text "X-Run-Id", text "X-Tenant-Id"]

/-- The tenant of a forwarded request: the argument, else the inbound header. -/
def forwardedTenant (headers : Headers) (tenantId : Option Text) : Option Text :=
  (tenantId.filter (fun tenant => tenant ≠ [])).or (headerText headers "x-tenant-id")

theorem forwardHeaders_eq {headers extra : Headers} {tenantId : Option Text}
    (built : forwardHeaders headers tenantId = some extra) :
    extra =
      ((headerText headers "x-acdp-event").map (text "X-ACDP-Event", ·)).toList ++
        ((headerText headers "x-acdp-event-id").map (text "X-ACDP-Event-Id", ·)).toList ++
        ((headerText headers "x-run-id").map (text "X-Run-Id", ·)).toList ++
        ((forwardedTenant headers tenantId).map (text "X-Tenant-Id", ·)).toList := by
  have carried : carriedHeaders.filterMap (fun header =>
      (headerText headers header.1).map (fun value => (text header.2, value))) =
        ((headerText headers "x-acdp-event").map (text "X-ACDP-Event", ·)).toList ++
          ((headerText headers "x-acdp-event-id").map (text "X-ACDP-Event-Id", ·)).toList ++
          ((headerText headers "x-run-id").map (text "X-Run-Id", ·)).toList := by
    simp only [carriedHeaders, List.filterMap_cons, List.filterMap_nil]
    cases headerText headers "x-acdp-event" <;> cases headerText headers "x-acdp-event-id" <;>
      cases headerText headers "x-run-id" <;> rfl
  have resolved : (tenantId.filter (fun tenant => tenant ≠ [])).or
      (headerText headers "x-tenant-id") = forwardedTenant headers tenantId := rfl
  unfold forwardHeaders at built
  rw [carried, resolved] at built
  cases tenant : forwardedTenant headers tenantId with
  | none =>
      rw [tenant] at built
      cases built
      exact (List.append_nil _).symm
  | some given =>
      rw [tenant] at built
      dsimp only at built
      split at built
      · cases built
      · cases built
        rfl

theorem keys_optional (name : Text) (value : Option Text) :
    (keys (value.map (name, ·)).toList).Sublist [name] := by
  cases value with
  | none => exact List.nil_sublist _
  | some _ => exact List.Sublist.refl _

theorem forwardHeaders_nodup {headers extra : Headers} {tenantId : Option Text}
    (built : forwardHeaders headers tenantId = some extra) : (keys extra).Nodup := by
  have names : (keys extra).Sublist forwardedNames := by
    rw [forwardHeaders_eq built]
    unfold keys
    simp only [List.map_append]
    exact (((keys_optional _ _).append (keys_optional _ _)).append (keys_optional _ _)).append
      (keys_optional _ _)
  exact names.nodup (by decide)

theorem lookup_buildRequest {platform : Platform} {settings : CpSettings} {path : Text}
    {body : Bytes} {extra : Headers} (distinct : (keys extra).Nodup) {asked : Text}
    (other : asked ≠ text "Content-Type") (unsigned : asked ≠ text "X-ACDP-Signature") :
    (buildRequest platform settings path body extra).headers.lookup asked =
      extra.lookup asked := by
  unfold buildRequest
  dsimp only
  by_cases added : asked ∈ keys extra
  · obtain ⟨entry, member, rfl⟩ := List.mem_map.mp added
    rw [lookup_foldl_insert distinct member]
    exact ((mem_iff_lookup distinct _ _).mp member).symm
  · rw [lookup_foldl_insert_ne added, lookup_eq_none_of_not_mem added]
    have plain : ([(text "Content-Type", text "application/json")] : Headers).lookup asked = none :=
      lookup_eq_none_of_not_mem (by simpa [keys] using other)
    split
    · exact plain
    · rw [lookup_insert_ne unsigned]
      exact plain

theorem lookup_forwarded_tenant {headers extra : Headers} {tenantId : Option Text}
    (built : forwardHeaders headers tenantId = some extra) :
    extra.lookup (text "X-Tenant-Id") = forwardedTenant headers tenantId := by
  rw [forwardHeaders_eq built]
  cases headerText headers "x-acdp-event" <;> cases headerText headers "x-acdp-event-id" <;>
    cases headerText headers "x-run-id" <;> cases forwardedTenant headers tenantId <;> rfl

theorem lookup_forwarded_eventId {headers extra : Headers} {tenantId : Option Text}
    (built : forwardHeaders headers tenantId = some extra) :
    extra.lookup (text "X-ACDP-Event-Id") = headerText headers "x-acdp-event-id" := by
  rw [forwardHeaders_eq built]
  cases headerText headers "x-acdp-event" <;> cases headerText headers "x-acdp-event-id" <;>
    cases headerText headers "x-run-id" <;> cases forwardedTenant headers tenantId <;> rfl

/-! ### The effects of a delivery -/

section Effects

variable {receiver : Receiver Datetime} {delivery : Delivery} {payload : Json}
  {event : WebhookPayload Datetime}

theorem mem_effects_of_validated {effect : Effect}
    (loaded : loads receiver.platform.depth delivery.body = .ok payload)
    (validated : WebhookPayload.modelValidate receiver.lax payload = some event)
    (member : effect ∈ (answer receiver delivery).effects) :
    effect ∈ fanIn receiver delivery (event.lift delivery.headers) ++
      forward receiver delivery (event.lift delivery.headers) := by
  cases verified : verify receiver.platform receiver.settings.webhookSecret delivery.body
      (delivery.headers.lookup (text "x-acdp-signature")) with
  | error raised =>
      rw [answer_of_raised verified] at member
      cases member
  | ok _ =>
      unfold answer receiveAcdpWebhook loadPayload at member
      rw [verified, loaded] at member
      simp only [bind, Except.bind, validated] at member
      exact member

theorem put_of_mem_fanIn {lifted : WebhookPayload Datetime} {runId : Text} {step : StepEvent}
    (member : Effect.put runId step ∈ fanIn receiver delivery lifted) :
    step = StepEvent.fromWebhook (string runId) delivery.ts lifted.event := by
  unfold fanIn at member
  split at member
  · cases member
  · split at member
    · cases List.mem_singleton.mp member
      rfl
    · cases member

theorem not_forwarded_of_fanIn {lifted : WebhookPayload Datetime} {request : Request} :
    Effect.forwarded request ∉ fanIn receiver delivery lifted := by
  intro member
  unfold fanIn at member
  split at member
  · cases member
  · split at member
    · cases List.mem_singleton.mp member
    · cases member

theorem mem_forward_iff {lifted : WebhookPayload Datetime} {effect : Effect} :
    effect ∈ forward receiver delivery lifted ↔
      ∃ request, forwardWebhook receiver.platform receiver.settings.controlPlane delivery.body
        delivery.headers lifted.tenantId = some request ∧ Effect.forwarded request = effect := by
  unfold forward
  rw [Option.mem_toList, Option.map_eq_some_iff]

theorem forwardWebhook_some {platform : Platform} {settings : CpSettings} {body : Bytes}
    {headers : Headers} {tenantId : Option Text} {request : Request}
    (sent : forwardWebhook platform settings body headers tenantId = some request) :
    ∃ extra, forwardHeaders headers tenantId = some extra ∧
      request = buildRequest platform settings (text "/ingest/acdp") body extra := by
  unfold forwardWebhook at sent
  split at sent
  · cases sent
  · obtain ⟨extra, built, same⟩ := Option.map_eq_some_iff.mp sent
    exact ⟨extra, built, same.symm⟩

end Effects

/-! ### Agreement -/

/-- Both absent or empty, or equal. -/
def SameOrBlank (step : Option String) (header : Option Text) : Prop :=
  ((step = none ∨ step = some "") ∧ (header = none ∨ header = some [])) ∨
    step = header.map string

/-- The two consumers are told the same. -/
structure Agreement (event : WebhookPayload Datetime) (step : StepEvent) (request : Request) :
    Prop where
  tenant : SameOrBlank step.tenantId (request.headers.lookup (text "X-Tenant-Id"))
  eventId : event.eventId = none →
    SameOrBlank step.eventId (request.headers.lookup (text "X-ACDP-Event-Id"))

/-- The body has an empty tenant and the request names one. -/
def EmptyTenantOverridden (event : WebhookPayload Datetime) (headers : Headers) : Prop :=
  event.tenantId = some [] ∧
    ∃ tenant, headers.lookup (text "x-tenant-id") = some tenant ∧ tenant ≠ []

theorem sameOrBlank_headerText (headers : Headers) (name : String) :
    SameOrBlank ((headers.lookup (text name)).map string) (headerText headers name) := by
  unfold headerText
  cases headers.lookup (text name) with
  | none => exact .inr rfl
  | some value =>
      cases value with
      | nil => exact .inl ⟨.inr rfl, .inl rfl⟩
      | cons point rest => exact .inr rfl

theorem not_sameOrBlank_empty {tenant : Text} (nonempty : tenant ≠ []) :
    ¬SameOrBlank (some "") (some tenant) := by
  rintro (⟨_, absent | empty⟩ | same)
  · cases absent
  · exact nonempty (Option.some.inj empty)
  · have characters := congrArg String.toList (Option.some.inj same).symm
    change (String.ofList (tenant.map Char.ofNat)).toList = [] at characters
    rw [String.toList_ofList] at characters
    exact nonempty (List.map_eq_nil_iff.mp characters)

theorem tenant_agrees_iff (event : WebhookPayload Datetime) (headers : Headers) :
    SameOrBlank ((event.lift headers).tenantId.map string)
        (forwardedTenant headers (event.lift headers).tenantId) ↔
      ¬EmptyTenantOverridden event headers := by
  change SameOrBlank ((event.tenantId.or (headers.lookup (text "x-tenant-id"))).map string)
    (forwardedTenant headers (event.tenantId.or (headers.lookup (text "x-tenant-id")))) ↔ _
  unfold EmptyTenantOverridden
  cases body : event.tenantId with
  | none =>
      refine iff_of_true ?_ (by rintro ⟨⟨⟩, _⟩)
      have same := sameOrBlank_headerText headers "x-tenant-id"
      unfold forwardedTenant
      rw [Option.none_or]
      unfold headerText at same ⊢
      rw [Option.or_self]
      exact same
  | some tenant =>
      cases tenant with
      | nil =>
          change SameOrBlank (some "") (headerText headers "x-tenant-id") ↔ _
          unfold headerText
          cases headers.lookup (text "x-tenant-id") with
          | none => exact iff_of_true (.inl ⟨.inr rfl, .inl rfl⟩) (by rintro ⟨_, _, ⟨⟩, _⟩)
          | some given =>
              cases given with
              | nil =>
                  refine iff_of_true (.inl ⟨.inr rfl, .inl rfl⟩) ?_
                  rintro ⟨_, _, same, nonempty⟩
                  exact nonempty (Option.some.inj same).symm
              | cons point rest =>
                  refine iff_of_false (not_sameOrBlank_empty (List.cons_ne_nil _ _)) ?_
                  intro agrees
                  exact agrees ⟨rfl, _, rfl, List.cons_ne_nil _ _⟩
      | cons point rest => exact iff_of_true (.inr rfl) (by rintro ⟨⟨⟩, _⟩)

/-- Whenever a validated delivery reaches the queue of its run and the control plane. -/
theorem consumers_agree_iff (receiver : Receiver Datetime) (delivery : Delivery) {payload : Json}
    {event : WebhookPayload Datetime} {runId : Text} {step : StepEvent} {request : Request}
    (loaded : loads receiver.platform.depth delivery.body = .ok payload)
    (validated : WebhookPayload.modelValidate receiver.lax payload = some event)
    (queued : Effect.put runId step ∈ (answer receiver delivery).effects)
    (sent : Effect.forwarded request ∈ (answer receiver delivery).effects) :
    Agreement event step request ↔ ¬EmptyTenantOverridden event delivery.headers := by
  have isStep : step =
      StepEvent.fromWebhook (string runId) delivery.ts (event.lift delivery.headers).event := by
    rcases List.mem_append.mp (mem_effects_of_validated loaded validated queued) with put | later
    · exact put_of_mem_fanIn put
    · obtain ⟨_, _, same⟩ := mem_forward_iff.mp later
      cases same
  have built : ∃ extra, forwardHeaders delivery.headers (event.lift delivery.headers).tenantId =
      some extra ∧ request = buildRequest receiver.platform receiver.settings.controlPlane
        (text "/ingest/acdp") delivery.body extra := by
    rcases List.mem_append.mp (mem_effects_of_validated loaded validated sent) with put | later
    · exact absurd put not_forwarded_of_fanIn
    · obtain ⟨_, forwarded, same⟩ := mem_forward_iff.mp later
      cases same
      exact forwardWebhook_some forwarded
  obtain ⟨extra, isExtra, rfl⟩ := built
  have distinct := forwardHeaders_nodup isExtra
  have tenantHeader := lookup_forwarded_tenant isExtra
  have eventHeader := lookup_forwarded_eventId isExtra
  rw [← tenant_agrees_iff, isStep]
  constructor
  · rintro ⟨tenant, _⟩
    rw [lookup_buildRequest distinct (by decide) (by decide), tenantHeader] at tenant
    exact tenant
  · intro tenant
    constructor
    · rw [lookup_buildRequest distinct (by decide) (by decide), tenantHeader]
      exact tenant
    · intro absent
      rw [lookup_buildRequest distinct (by decide) (by decide), eventHeader]
      have lifted : (event.lift delivery.headers).eventId =
          delivery.headers.lookup (text "x-acdp-event-id") := by
        change event.eventId.or _ = _
        rw [absent, Option.none_or]
      change SameOrBlank ((event.lift delivery.headers).eventId.map string) _
      rw [lifted]
      exact sameOrBlank_headerText delivery.headers "x-acdp-event-id"

/-- An unsigned receiver with a queue for every run and a control plane. -/
def liveReceiver : Receiver Unit where
  platform := utcPlatform
  lax := { acceptsStr := fun _ => true, int := fun _ => none, datetime := fun _ => none }
  settings :=
    { webhookSecret := ""
      controlPlane := { controlPlaneUrl := text "http://localhost:3100"
                        controlPlaneHmacSecret := "" } }
  hasQueue := fun _ => true

def tenantDelivery (body : String) : Delivery where
  headers := [(text "x-tenant-id", text "acme"), (text "x-acdp-event-id", text "evt-1")]
  body := text body
  ts := "2026-01-01T00:00:00+00:00"

/-- A validated delivery that reaches both consumers, by what they are told. -/
def toldBoth (receiver : Receiver Datetime) (delivery : Delivery) :
    Option (WebhookPayload Datetime × StepEvent × Request) :=
  match loads receiver.platform.depth delivery.body with
  | .error _ => none
  | .ok payload =>
      match WebhookPayload.modelValidate receiver.lax payload with
      | none => none
      | some event =>
          match (answer receiver delivery).effects with
          | [.put _ step, .forwarded request] => some (event, step, request)
          | _ => none

theorem toldBoth_eq_some {receiver : Receiver Datetime} {delivery : Delivery}
    {event : WebhookPayload Datetime} {step : StepEvent} {request : Request}
    (told : toldBoth receiver delivery = some (event, step, request)) :
    ∃ payload runId, loads receiver.platform.depth delivery.body = .ok payload ∧
      WebhookPayload.modelValidate receiver.lax payload = some event ∧
      (answer receiver delivery).effects = [.put runId step, .forwarded request] := by
  unfold toldBoth at told
  split at told
  · cases told
  · next payload loaded =>
      split at told
      · cases told
      · next given validated =>
          split at told
          · next runId _ _ effects =>
              cases told
              exact ⟨payload, runId, loaded, validated, effects⟩
          · cases told

def headerOnly : Delivery :=
  tenantDelivery "\x7b\"type\":\"search_executed\",\"run_id\":\"r1\"\x7d"

def emptyTenant : Delivery :=
  tenantDelivery "\x7b\"type\":\"search_executed\",\"run_id\":\"r1\",\"tenant_id\":\"\"\x7d"

/-- The tenant in the header, none in the body. -/
theorem header_tenant_agrees :
    ∃ payload event runId step request,
      loads liveReceiver.platform.depth headerOnly.body = .ok payload ∧
      WebhookPayload.modelValidate liveReceiver.lax payload = some event ∧
      (answer liveReceiver headerOnly).effects = [.put runId step, .forwarded request] ∧
      Agreement event step request := by
  have told : (toldBoth liveReceiver headerOnly).map (fun both => both.1.tenantId) = some none := by
    decide +kernel
  obtain ⟨⟨event, step, request⟩, both, absent⟩ := Option.map_eq_some_iff.mp told
  obtain ⟨payload, runId, loaded, validated, effects⟩ := toldBoth_eq_some both
  refine ⟨payload, event, runId, step, request, loaded, validated, effects, ?_⟩
  refine (consumers_agree_iff liveReceiver headerOnly loaded validated
    (by rw [effects]; exact List.mem_cons_self)
    (by rw [effects]; exact List.mem_cons_of_mem _ List.mem_cons_self)).mpr ?_
  rintro ⟨empty, _⟩
  rw [absent] at empty
  cases empty

/-- An empty tenant in the body: the queue has none, the control plane is told of one. -/
theorem empty_tenant_disagrees :
    ∃ payload event runId step request,
      loads liveReceiver.platform.depth emptyTenant.body = .ok payload ∧
      WebhookPayload.modelValidate liveReceiver.lax payload = some event ∧
      (answer liveReceiver emptyTenant).effects = [.put runId step, .forwarded request] ∧
      ¬Agreement event step request := by
  have told : (toldBoth liveReceiver emptyTenant).map (fun both =>
      (both.2.1.tenantId, both.2.2.headers.lookup (text "X-Tenant-Id"))) =
        some (some "", some (text "acme")) := by
    decide +kernel
  obtain ⟨⟨event, step, request⟩, both, values⟩ := Option.map_eq_some_iff.mp told
  obtain ⟨payload, runId, loaded, validated, effects⟩ := toldBoth_eq_some both
  refine ⟨payload, event, runId, step, request, loaded, validated, effects, ?_⟩
  obtain ⟨isStep, isHeader⟩ := Prod.mk.inj values
  intro agrees
  have same := agrees.tenant
  rw [isStep, isHeader] at same
  exact not_sameOrBlank_empty (by decide) same

end AcdpPlayground.Webhooks

/-
The wire models of `acdp_client/models.py` that the retrieval routes validate into:
`Signature`, `Body`, `RegistryState` and `FullContext`, with every declared field and the
undeclared ones that `extra="allow"` keeps.

Validation is pydantic's lax mode. Which strings pass as `str` and how `int` and
`datetime` are read from JSON are parameters; a string that passes is kept as it is. The
error list of a failed validation is not modelled.
-/

import AcdpPlayground.Foundation.JsonValue

namespace AcdpPlayground.Client

open PythonText JsonValue

structure LaxMode (Datetime : Type) where
  acceptsStr : Text → Bool
  int : Json → Option Int
  datetime : Json → Option Datetime

abbrev Members := List (Text × Json)

/-! ### Fields -/

section Fields

variable {Value : Type}

def required (convert : Json → Option Value) (members : Members) (name : String) :
    Option Value :=
  (members.lookup (text name)).bind convert

def defaulted (convert : Json → Option Value) (default : Value) (members : Members)
    (name : String) : Option Value :=
  match members.lookup (text name) with
  | none => some default
  | some value => convert value

/-- `T | None = None`. -/
def optional (convert : Json → Option Value) (members : Members) (name : String) :
    Option (Option Value) :=
  match members.lookup (text name) with
  | none | some .null => some none
  | some value => (convert value).map some

theorem required_eq_some {convert : Json → Option Value} {members : Members} {name : String}
    {value : Value} (valid : required convert members name = some value) :
    ∃ served, members.lookup (text name) = some served ∧ convert served = some value :=
  Option.bind_eq_some_iff.mp valid

end Fields

namespace LaxMode

variable {Datetime : Type}

def str (lax : LaxMode Datetime) : Json → Option Text
  | .string value => if lax.acceptsStr value then some value else none
  | _ => none

def list {Value : Type} (convert : Json → Option Value) : Json → Option (List Value)
  | .array items => items.mapM convert
  | _ => none

def dict : Json → Option Members
  | .object members => some members
  | _ => none

theorem str_eq_some {lax : LaxMode Datetime} {served : Json} {value : Text}
    (valid : lax.str served = some value) : served = .string value := by
  cases served with
  | string given =>
      simp only [str] at valid
      split at valid
      · rw [Option.some.inj valid]
      · cases valid
  | null => cases valid
  | boolean _ => cases valid
  | integer _ => cases valid
  | float _ => cases valid
  | array _ => cases valid
  | object _ => cases valid

end LaxMode

/-- Members whose name is not declared, kept by `extra="allow"`. -/
def undeclared (declared : List String) (members : Members) : Members :=
  members.filter (fun member => !(declared.map text).contains member.1)

/-! ### Models -/

structure Signature where
  algorithm : Text
  keyId : Text
  value : Text
  extra : Members

structure Body (Datetime : Type) where
  ctxId : Text
  lineageId : Text
  originRegistry : Text
  createdAt : Datetime
  contentHash : Text
  signature : Signature
  version : Int
  agentId : Text
  title : Text
  type : Text
  visibility : Text
  derivedFrom : List Text
  dataRefs : List Json
  contributors : List Text
  supersedes : Option Text
  audience : Option (List Text)
  description : Option Text
  summary : Option Text
  tags : Option (List Text)
  domain : Option Text
  expiresAt : Option Datetime
  metadata : Option Members
  schemaUri : Option Text
  extra : Members

structure RegistryState where
  status : Text
  lifecycleEvents : Option (List Members)
  extra : Members

structure FullContext (Datetime : Type) where
  body : Body Datetime
  registryState : RegistryState
  registryReceipt : Option Members
  lineageHeadReceipt : Option Members
  extra : Members

/-! ### Validation -/

section Validation

variable {Datetime : Type} (lax : LaxMode Datetime)

def Signature.modelValidate (served : Json) : Option Signature := do
  let members ← LaxMode.dict served
  return {
    algorithm := ← required lax.str members "algorithm"
    keyId := ← required lax.str members "key_id"
    value := ← required lax.str members "value"
    extra := undeclared ["algorithm", "key_id", "value"] members }

def bodyFields : List String :=
  ["ctx_id", "lineage_id", "origin_registry", "created_at", "content_hash", "signature",
    "version", "agent_id", "title", "type", "visibility", "derived_from", "data_refs",
    "contributors", "supersedes", "audience", "description", "summary", "tags", "domain",
    "expires_at", "metadata", "schema_uri"]

def Body.modelValidate (served : Json) : Option (Body Datetime) := do
  let members ← LaxMode.dict served
  return {
    ctxId := ← required lax.str members "ctx_id"
    lineageId := ← required lax.str members "lineage_id"
    originRegistry := ← required lax.str members "origin_registry"
    createdAt := ← required lax.datetime members "created_at"
    contentHash := ← required lax.str members "content_hash"
    signature := ← required (Signature.modelValidate lax) members "signature"
    version := ← required lax.int members "version"
    agentId := ← required lax.str members "agent_id"
    title := ← required lax.str members "title"
    type := ← required lax.str members "type"
    visibility := ← required lax.str members "visibility"
    derivedFrom := ← defaulted (LaxMode.list lax.str) [] members "derived_from"
    dataRefs := ← defaulted (LaxMode.list some) [] members "data_refs"
    contributors := ← defaulted (LaxMode.list lax.str) [] members "contributors"
    supersedes := ← optional lax.str members "supersedes"
    audience := ← optional (LaxMode.list lax.str) members "audience"
    description := ← optional lax.str members "description"
    summary := ← optional lax.str members "summary"
    tags := ← optional (LaxMode.list lax.str) members "tags"
    domain := ← optional lax.str members "domain"
    expiresAt := ← optional lax.datetime members "expires_at"
    metadata := ← optional LaxMode.dict members "metadata"
    schemaUri := ← optional lax.str members "schema_uri"
    extra := undeclared bodyFields members }

def RegistryState.modelValidate (served : Json) : Option RegistryState := do
  let members ← LaxMode.dict served
  return {
    status := ← required lax.str members "status"
    lifecycleEvents := ← optional (LaxMode.list LaxMode.dict) members "lifecycle_events"
    extra := undeclared ["status", "lifecycle_events"] members }

def FullContext.modelValidate (served : Json) : Option (FullContext Datetime) := do
  let members ← LaxMode.dict served
  return {
    body := ← required (Body.modelValidate lax) members "body"
    registryState := ← required (RegistryState.modelValidate lax) members "registry_state"
    registryReceipt := ← optional LaxMode.dict members "registry_receipt"
    lineageHeadReceipt := ← optional LaxMode.dict members "lineage_head_receipt"
    extra := undeclared
      ["body", "registry_state", "registry_receipt", "lineage_head_receipt"] members }

end Validation

section Kept

variable {Datetime : Type} {lax : LaxMode Datetime}

theorem dict_eq_some {served : Json} {members : Members}
    (valid : LaxMode.dict served = some members) : served = .object members := by
  cases served with
  | object given => rw [Option.some.inj valid]
  | null => cases valid
  | boolean _ => cases valid
  | integer _ => cases valid
  | float _ => cases valid
  | string _ => cases valid
  | array _ => cases valid

theorem required_str_eq_some {members : Members} {name : String} {value : Text}
    (valid : required lax.str members name = some value) :
    members.lookup (text name) = some (.string value) := by
  obtain ⟨served, found, converted⟩ := required_eq_some valid
  rw [found, LaxMode.str_eq_some converted]

theorem bind_ensures {First Last : Type} {holds : Last → Prop} {first : Option First}
    {next : First → Option Last}
    (each : ∀ value, first = some value → ∀ result, next value = some result →
      holds result) :
    ∀ result, first.bind next = some result → holds result := by
  intro result valid
  obtain ⟨value, found, later⟩ := Option.bind_eq_some_iff.mp valid
  exact each value found result later

theorem Body.modelValidate_ids {served : Json} :
    ∀ body : Body Datetime, Body.modelValidate lax served = some body →
      served.get? "ctx_id" = some (.string body.ctxId) ∧
        served.get? "lineage_id" = some (.string body.lineageId) := by
  apply bind_ensures
  intro members isObject
  apply bind_ensures
  intro ctxId ctxValid
  apply bind_ensures
  intro lineageId lineageValid
  iterate 21
    apply bind_ensures
    intro _ _
  intro body valid
  cases valid
  rw [dict_eq_some isObject]
  exact ⟨required_str_eq_some ctxValid, required_str_eq_some lineageValid⟩

theorem FullContext.modelValidate_body {served : Json} :
    ∀ full : FullContext Datetime, FullContext.modelValidate lax served = some full →
      ∃ body, served.get? "body" = some body ∧
        Body.modelValidate lax body = some full.body := by
  apply bind_ensures
  intro members isObject
  apply bind_ensures
  intro validated bodyValid
  iterate 3
    apply bind_ensures
    intro _ _
  intro full valid
  cases valid
  obtain ⟨body, found, converted⟩ := required_eq_some bodyValid
  rw [dict_eq_some isObject]
  exact ⟨body, found, converted⟩

end Kept

end AcdpPlayground.Client

/-
`_verify_inputs` of the sensor analyst, `a2a/acdp_a2a_demo/producer.py`: which of the cited
inputs it keeps, and when it raises instead.

Retrieval and verification run inside a `try` that drops the input. Reading the embedded
dataset comes after it, so that a verified body with data of another shape ends the loop.
The SDK's verdict on a body, `str()` of a decoded value and the conversion to a float are
parameters; which values `float()` accepts is not.
-/

import AcdpPlayground.Client.ServedBinding
import AcdpPlayground.Client.SyntheticIds

namespace AcdpPlayground.A2a

open PythonText JsonValue TextMethods Client

/-! ### Reading a dataset -/

inductive ReadError where
  | attributeError
  | typeError
  | valueError
  | overflowError
  deriving DecidableEq

/-- What a run of `_verify_inputs` depends on beside the registry. -/
structure Analyst (Reading : Type) where
  /-- `settings.registry`. -/
  registry : Text
  verifier : AcdpVerifier
  /-- `AcdpVerifier.verify_body_offline(json.dumps(body))` returns. -/
  verifyBodyOffline : Json → Bool
  /-- Float literals that are 0.0. -/
  isZero : Text → Bool
  /-- `str(value)`. -/
  shown : Json → Text
  /-- `float(value)` where it returns. -/
  reading : Json → Reading

structure Input (Reading : Type) where
  ctxId : Text
  station : Text
  unit : Text
  readings : List Reading

/-- Whether `float(value)` returns. An integer must round to a finite double. -/
def isFloatable : Json → Bool
  | .boolean _ => true
  | .integer value => decide (value.natAbs < 2 ^ 1024 - 2 ^ 970)
  | .float _ => true
  | .string value => isFloatText value
  | .null => false
  | .array _ => false
  | .object _ => false

def floatError : Json → ReadError
  | .integer _ => .overflowError
  | .string _ => .valueError
  | _ => .typeError

namespace Analyst

variable {Reading : Type} (analyst : Analyst Reading)

def toFloat (value : Json) : Except ReadError Reading :=
  if isFloatable value then .ok (analyst.reading value) else .error (floatError value)

/-- `value.get(name) or default`, nothing when the value is falsy or absent. -/
def truthyMember (members : Members) (name : String) : Option Json :=
  (members.lookup (text name)).filter (fun value => value.truthy analyst.isZero)

/-- The content of a JSON dataset in the `embedded` of a data ref. -/
def jsonContent (embedded : Members) : Option Members :=
  match embedded.lookup (text "encoding"), embedded.lookup (text "content") with
  | some (.string encoding), some (.object content) =>
      if encoding = text "json" then some content else none
  | _, _ => none

/-- The loop of `_embedded_dataset`. -/
def firstDataset : List Json → Except ReadError (Option Members)
  | [] => .ok none
  | .object ref :: rest =>
      match analyst.truthyMember ref "embedded" with
      | none => firstDataset rest
      | some (.object embedded) =>
          match jsonContent embedded with
          | some content => .ok (some content)
          | none => firstDataset rest
      | some _ => .error .attributeError
  | _ :: _ => .error .attributeError

def embeddedDataset : Json → Except ReadError (Option Members)
  | .object body =>
      match analyst.truthyMember body "data_refs" with
      | none => .ok none
      | some refs =>
          match refs.iterated with
          | none => .error .typeError
          | some items => analyst.firstDataset items
  | _ => .error .attributeError

/-- `[float(x) for x in dataset.get("readings", [])]`. -/
def readReadings (dataset : Members) : Except ReadError (List Reading) :=
  match dataset.lookup (text "readings") with
  | none => .ok []
  | some value =>
      match value.iterated with
      | none => .error .typeError
      | some items => items.mapM analyst.toFloat

/-- The lines behind the `try`. -/
def readInput (ctxId : Text) (body : Json) : Except ReadError (Input Reading) := do
  let dataset := (← analyst.embeddedDataset body).getD []
  let readings ← analyst.readReadings dataset
  let title := (body.get? "title").getD (.string (text "?"))
  return {
    ctxId := ctxId
    station := analyst.shown ((dataset.lookup (text "station")).getD title)
    unit := analyst.shown ((dataset.lookup (text "unit")).getD (.string []))
    readings := readings }

/-! ### The loop -/

def isAllowlisted (ctxId : Text) : Bool :=
  authorityPart ctxId = analyst.registry

/-- The lines inside the `try`: the body, when nothing is raised. An answer is missing where
the request fails or is not answered with a success. -/
def verifiedBody (ctxId : Text) (answer : Option Answer) : Option Json := do
  let served ← answer
  let raw ← (retrieveRaw analyst.verifier { verifyBinding := true } ctxId none served).toOption
  let body ← raw.get? "body"
  if analyst.verifyBodyOffline body then some body else none

/-- `_verify_inputs` behind a number of retrievals. The registry answers each of them as it
likes. -/
def verifyInputsFrom (serve : Nat → Text → Option Answer) :
    Nat → List Text → Except ReadError (List (Input Reading))
  | _, [] => .ok []
  | retrieved, ctxId :: rest =>
      if !analyst.isAllowlisted ctxId then verifyInputsFrom serve retrieved rest
      else
        match analyst.verifiedBody ctxId (serve retrieved ctxId) with
        | none => verifyInputsFrom serve (retrieved + 1) rest
        | some body => do
            let input ← analyst.readInput ctxId body
            let later ← verifyInputsFrom serve (retrieved + 1) rest
            return input :: later

def verifyInputs (serve : Nat → Text → Option Answer) (cited : List Text) :
    Except ReadError (List (Input Reading)) :=
  analyst.verifyInputsFrom serve 0 cited

/-! ### What can be read -/

/-- An object whose `embedded` is falsy or an object. -/
def isReadableRef : Json → Bool
  | .object ref =>
      match analyst.truthyMember ref "embedded" with
      | none => true
      | some (.object _) => true
      | some _ => false
  | _ => false

def datasetOf : Json → Option Members
  | .object ref =>
      match analyst.truthyMember ref "embedded" with
      | some (.object embedded) => jsonContent embedded
      | _ => none
  | _ => none

def ReadableRefs : List Json → Prop
  | [] => True
  | ref :: rest =>
      analyst.isReadableRef ref = true ∧ (analyst.datasetOf ref = none → ReadableRefs rest)

def refsOf (body : Members) : List Json :=
  ((analyst.truthyMember body "data_refs").bind Json.iterated).getD []

def datasetIn (body : Members) : Members :=
  ((analyst.refsOf body).findSome? analyst.datasetOf).getD []

structure Readable (body : Members) : Prop where
  iterable : ∀ value, analyst.truthyMember body "data_refs" = some value →
    value.iterated.isSome = true
  refs : analyst.ReadableRefs (analyst.refsOf body)
  readings : ∀ value, (analyst.datasetIn body).lookup (text "readings") = some value →
    ∃ items, value.iterated = some items ∧ ∀ item ∈ items, isFloatable item = true

end Analyst

namespace Analyst

variable {Reading : Type} {analyst : Analyst Reading}

theorem firstDataset_cons (ref : Json) (rest : List Json) :
    analyst.firstDataset (ref :: rest) =
      if analyst.isReadableRef ref = true then
        match analyst.datasetOf ref with
        | some content => .ok (some content)
        | none => analyst.firstDataset rest
      else .error .attributeError := by
  cases ref with
  | object members =>
      cases found : analyst.truthyMember members "embedded" with
      | none => simp only [firstDataset, isReadableRef, datasetOf, found, if_true]
      | some value =>
          cases value with
          | object embedded =>
              simp only [firstDataset, isReadableRef, datasetOf, found, if_true]
          | null => simp [firstDataset, isReadableRef, found]
          | boolean _ => simp [firstDataset, isReadableRef, found]
          | integer _ => simp [firstDataset, isReadableRef, found]
          | float _ => simp [firstDataset, isReadableRef, found]
          | string _ => simp [firstDataset, isReadableRef, found]
          | array _ => simp [firstDataset, isReadableRef, found]
  | null => rfl
  | boolean _ => rfl
  | integer _ => rfl
  | float _ => rfl
  | string _ => rfl
  | array _ => rfl

theorem firstDataset_ok_iff (refs : List Json) (found : Option Members) :
    analyst.firstDataset refs = .ok found ↔
      analyst.ReadableRefs refs ∧ found = refs.findSome? analyst.datasetOf := by
  induction refs with
  | nil =>
      constructor
      · intro done
        cases done
        exact ⟨trivial, rfl⟩
      · rintro ⟨_, rfl⟩
        rfl
  | cons ref rest ih =>
      rw [firstDataset_cons, List.findSome?_cons]
      by_cases readable : analyst.isReadableRef ref = true
      · rw [if_pos readable]
        cases dataset : analyst.datasetOf ref with
        | none =>
            rw [ih]
            simp only [ReadableRefs, readable, dataset, true_and, forall_const]
        | some content =>
            simp only [ReadableRefs, readable, dataset, true_and, Except.ok.injEq, reduceCtorEq,
              false_implies]
            exact eq_comm
      · rw [if_neg readable]
        refine iff_of_false (by rintro ⟨⟩) ?_
        rintro ⟨refs, _⟩
        exact readable refs.1

theorem embeddedDataset_ok_iff (body : Members) (found : Option Members) :
    analyst.embeddedDataset (.object body) = .ok found ↔
      (∀ value, analyst.truthyMember body "data_refs" = some value →
          value.iterated.isSome = true) ∧
        analyst.ReadableRefs (analyst.refsOf body) ∧
        found = (analyst.refsOf body).findSome? analyst.datasetOf := by
  unfold refsOf
  cases refs : analyst.truthyMember body "data_refs" with
  | none =>
      have done : analyst.embeddedDataset (.object body) = .ok none := by
        simp only [embeddedDataset, refs]
      rw [done]
      constructor
      · intro same
        cases same
        exact ⟨by rintro value ⟨⟩, trivial, rfl⟩
      · rintro ⟨_, _, rfl⟩
        rfl
  | some value =>
      cases iterated : value.iterated with
      | none =>
          have raised : analyst.embeddedDataset (.object body) = .error .typeError := by
            simp only [embeddedDataset, refs, iterated]
          rw [raised]
          refine iff_of_false (by rintro ⟨⟩) ?_
          rintro ⟨iterable, _⟩
          have isSome := iterable value rfl
          rw [iterated] at isSome
          cases isSome
      | some items =>
          have searched : analyst.embeddedDataset (.object body) = analyst.firstDataset items := by
            simp only [embeddedDataset, refs, iterated]
          rw [searched, firstDataset_ok_iff, Option.bind_some, iterated, Option.getD_some]
          constructor
          · intro done
            refine ⟨?_, done⟩
            rintro other same
            rw [← Option.some.inj same, iterated]
            rfl
          · exact fun done => done.2

theorem mapM_toFloat_ok_iff (items : List Json) :
    (∃ readings, items.mapM analyst.toFloat = .ok readings) ↔
      ∀ item ∈ items, isFloatable item = true := by
  induction items with
  | nil => exact iff_of_true ⟨[], rfl⟩ (fun _ absent => absurd absent List.not_mem_nil)
  | cons item rest ih =>
      rw [List.forall_mem_cons, ← ih, List.mapM_cons]
      by_cases floatable : isFloatable item = true
      · have converted : analyst.toFloat item = .ok (analyst.reading item) := if_pos floatable
        rw [converted]
        cases rest.mapM analyst.toFloat with
        | error failure => exact iff_of_false (by rintro ⟨_, ⟨⟩⟩) (by rintro ⟨_, _, ⟨⟩⟩)
        | ok values => exact iff_of_true ⟨_, rfl⟩ ⟨floatable, values, rfl⟩
      · have refused : analyst.toFloat item = .error (floatError item) := if_neg floatable
        rw [refused]
        exact iff_of_false (by rintro ⟨_, ⟨⟩⟩) (fun both => floatable both.1)

theorem readReadings_ok_iff (dataset : Members) :
    (∃ readings, analyst.readReadings dataset = .ok readings) ↔
      ∀ value, dataset.lookup (text "readings") = some value →
        ∃ items, value.iterated = some items ∧ ∀ item ∈ items, isFloatable item = true := by
  unfold readReadings
  cases dataset.lookup (text "readings") with
  | none => exact iff_of_true ⟨[], rfl⟩ (by rintro value ⟨⟩)
  | some value =>
      cases iterated : value.iterated with
      | none =>
          simp only [iterated]
          refine iff_of_false (by rintro ⟨_, ⟨⟩⟩) ?_
          intro readable
          obtain ⟨items, isItems, _⟩ := readable value rfl
          rw [iterated] at isItems
          cases isItems
      | some items =>
          simp only [iterated, mapM_toFloat_ok_iff]
          constructor
          · rintro floatable other same
            rw [← Option.some.inj same]
            exact ⟨items, iterated, floatable⟩
          · intro readable
            obtain ⟨found, isFound, floatable⟩ := readable value rfl
            rw [iterated] at isFound
            rw [Option.some.inj isFound]
            exact floatable

/-- The lines behind the `try` return exactly on a readable body. -/
theorem readInput_ok_iff (ctxId : Text) (body : Members) :
    (∃ input, analyst.readInput ctxId (.object body) = .ok input) ↔ analyst.Readable body := by
  cases found : analyst.embeddedDataset (.object body) with
  | error failure =>
      have raised : analyst.readInput ctxId (.object body) = .error failure := by
        simp only [readInput, found, bind, Except.bind]
      rw [raised]
      refine iff_of_false (by rintro ⟨_, ⟨⟩⟩) ?_
      rintro ⟨iterable, refs, _⟩
      have done := (embeddedDataset_ok_iff body _).mpr ⟨iterable, refs, rfl⟩
      rw [found] at done
      cases done
  | ok dataset =>
      obtain ⟨iterable, refs, isDataset⟩ := (embeddedDataset_ok_iff body dataset).mp found
      have readings := @readReadings_ok_iff _ analyst (analyst.datasetIn body)
      have same : dataset.getD [] = analyst.datasetIn body := by
        rw [isDataset]
        rfl
      cases read : analyst.readReadings (analyst.datasetIn body) with
      | error failure =>
          have raised : analyst.readInput ctxId (.object body) = .error failure := by
            simp only [readInput, found, same, read, bind, Except.bind]
          rw [raised]
          refine iff_of_false (by rintro ⟨_, ⟨⟩⟩) ?_
          rintro ⟨_, _, floatable⟩
          obtain ⟨_, done⟩ := readings.mpr floatable
          rw [read] at done
          cases done
      | ok values =>
          refine iff_of_true ?_ ⟨iterable, refs, readings.mp ⟨values, read⟩⟩
          simp only [readInput, found, same, read, bind, Except.bind]
          exact ⟨_, rfl⟩

theorem readInput_ctxId {ctxId : Text} {body : Json} {input : Input Reading}
    (read : analyst.readInput ctxId body = .ok input) : input.ctxId = ctxId := by
  unfold readInput at read
  cases found : analyst.embeddedDataset body with
  | error failure =>
      simp only [found, bind, Except.bind] at read
      cases read
  | ok dataset =>
      simp only [found, bind, Except.bind] at read
      split at read
      · cases read
      · cases read
        rfl

/-! ### What is kept -/

theorem verifiedBody_eq_some (exact : analyst.verifier.BindsExactly) {ctxId : Text}
    {answer : Option Answer} {body : Json}
    (verified : analyst.verifiedBody ctxId answer = some body) :
    ∃ served, answer = some served ∧ served.payload.get? "body" = some body ∧
      body.get? "ctx_id" = some (.string ctxId) ∧ analyst.verifyBodyOffline body = true := by
  obtain ⟨served, isServed, verified⟩ := Option.bind_eq_some_iff.mp verified
  obtain ⟨raw, retrieved, verified⟩ := Option.bind_eq_some_iff.mp verified
  obtain ⟨given, isGiven, accepted⟩ := Option.bind_eq_some_iff.mp verified
  cases result : retrieveRaw analyst.verifier { verifyBinding := true } ctxId none served with
  | error failure =>
      rw [result] at retrieved
      cases retrieved
  | ok payload =>
      rw [result] at retrieved
      cases retrieved
      obtain ⟨same, bound⟩ := getFullContext_ok exact rfl result
      split at accepted
      · next verifies =>
          cases accepted
          refine ⟨served, isServed, ?_, bound body (mem_servedInEnvelope isGiven), verifies⟩
          rw [← same]
          exact isGiven
      · cases accepted

def allowlisted (analyst : Analyst Reading) (cited : List Text) : List Text :=
  cited.filter analyst.isAllowlisted

/-- Every body that gets through the `try` is readable. -/
def AllReadable (analyst : Analyst Reading) (serve : Nat → Text → Option Answer)
    (retrieved : Nat) (cited : List Text) : Prop :=
  ∀ index ctxId body, (analyst.allowlisted cited)[index]? = some ctxId →
    analyst.verifiedBody ctxId (serve (retrieved + index) ctxId) = some (.object body) →
    analyst.Readable body

/-- The allowlisted ids, in order, whose retrieval is served with a verified body. -/
def verifiedIds (analyst : Analyst Reading) (serve : Nat → Text → Option Answer)
    (cited : List Text) : List Text :=
  ((analyst.allowlisted cited).zipIdx.filter
    (fun asked => (analyst.verifiedBody asked.1 (serve asked.2 asked.1)).isSome)).map Prod.fst

/-- Inputs from the cited ones, each of them allowlisted, bound and verified. -/
structure Filtered (analyst : Analyst Reading) (serve : Nat → Text → Option Answer)
    (retrieved : Nat) (cited : List Text) (inputs : List (Input Reading)) : Prop where
  kept : (inputs.map Input.ctxId).Sublist cited
  authority : ∀ input ∈ inputs, authorityPart input.ctxId = analyst.registry
  verified : ∀ input ∈ inputs, ∃ index answer body,
    (analyst.allowlisted cited)[index]? = some input.ctxId ∧
      serve (retrieved + index) input.ctxId = some answer ∧
      answer.payload.get? "body" = some body ∧
      body.get? "ctx_id" = some (.string input.ctxId) ∧ analyst.verifyBodyOffline body = true

section Loop

variable {serve : Nat → Text → Option Answer} {retrieved : Nat} {ctxId : Text} {rest : List Text}

theorem allowlisted_skip (other : analyst.isAllowlisted ctxId = false) :
    analyst.allowlisted (ctxId :: rest) = analyst.allowlisted rest :=
  List.filter_cons_of_neg (by rw [other]; exact Bool.false_ne_true)

theorem allowlisted_take (listed : analyst.isAllowlisted ctxId = true) :
    analyst.allowlisted (ctxId :: rest) = ctxId :: analyst.allowlisted rest :=
  List.filter_cons_of_pos listed

theorem allReadable_skip (other : analyst.isAllowlisted ctxId = false) :
    analyst.AllReadable serve retrieved (ctxId :: rest) ↔
      analyst.AllReadable serve retrieved rest := by
  unfold AllReadable
  rw [allowlisted_skip other]

theorem allReadable_take (listed : analyst.isAllowlisted ctxId = true) :
    analyst.AllReadable serve retrieved (ctxId :: rest) ↔
      (∀ body, analyst.verifiedBody ctxId (serve retrieved ctxId) = some (.object body) →
        analyst.Readable body) ∧ analyst.AllReadable serve (retrieved + 1) rest := by
  unfold AllReadable
  rw [allowlisted_take listed]
  constructor
  · intro readable
    refine ⟨fun body verified => readable 0 ctxId body rfl verified, ?_⟩
    intro index other body found verified
    apply readable (index + 1) other body found
    rw [Nat.add_right_comm] at verified
    exact verified
  · rintro ⟨here, later⟩ index other body found verified
    cases index with
    | zero =>
        cases found
        exact here body verified
    | succ index =>
        apply later index other body found
        rw [Nat.add_right_comm]
        exact verified

theorem filtered_skip (other : analyst.isAllowlisted ctxId = false)
    {inputs : List (Input Reading)} (filtered : analyst.Filtered serve retrieved rest inputs) :
    analyst.Filtered serve retrieved (ctxId :: rest) inputs := by
  refine ⟨filtered.kept.cons _, filtered.authority, ?_⟩
  rw [allowlisted_skip other]
  exact filtered.verified

/-- An input behind an allowlisted one is retrieved one later. -/
theorem filtered_drop (listed : analyst.isAllowlisted ctxId = true)
    {inputs : List (Input Reading)}
    (filtered : analyst.Filtered serve (retrieved + 1) rest inputs) :
    analyst.Filtered serve retrieved (ctxId :: rest) inputs := by
  refine ⟨filtered.kept.cons _, filtered.authority, ?_⟩
  intro input member
  obtain ⟨index, answer, body, found, served, later⟩ := filtered.verified input member
  refine ⟨index + 1, answer, body, ?_, ?_, later⟩
  · rw [allowlisted_take listed]
    exact found
  · rw [Nat.add_comm index 1, ← Nat.add_assoc]
    exact served

theorem filtered_keep (exact : analyst.verifier.BindsExactly)
    (listed : analyst.isAllowlisted ctxId = true) {inputs : List (Input Reading)}
    (filtered : analyst.Filtered serve (retrieved + 1) rest inputs) {body : Json}
    (verified : analyst.verifiedBody ctxId (serve retrieved ctxId) = some body)
    {input : Input Reading} (isInput : input.ctxId = ctxId) :
    analyst.Filtered serve retrieved (ctxId :: rest) (input :: inputs) := by
  have behind := filtered_drop listed filtered
  constructor
  · rw [List.map_cons, isInput]
    exact filtered.kept.cons_cons _
  · intro other member
    rcases List.mem_cons.mp member with rfl | inside
    · rw [isInput]
      exact of_decide_eq_true listed
    · exact behind.authority other inside
  · intro other member
    rcases List.mem_cons.mp member with rfl | inside
    · obtain ⟨answer, served, isBody, bound, accepted⟩ := verifiedBody_eq_some exact verified
      rw [isInput]
      refine ⟨0, answer, body, ?_, served, isBody, bound, accepted⟩
      rw [allowlisted_take listed]
      rfl
    · exact behind.verified other inside

end Loop

theorem verifyInputsFrom_filtered (exact : analyst.verifier.BindsExactly)
    (serve : Nat → Text → Option Answer) (cited : List Text) :
    ∀ retrieved inputs, analyst.verifyInputsFrom serve retrieved cited = .ok inputs →
      analyst.Filtered serve retrieved cited inputs := by
  induction cited with
  | nil =>
      intro retrieved inputs done
      cases done
      exact ⟨List.Sublist.refl _, fun _ absent => absurd absent List.not_mem_nil,
        fun _ absent => absurd absent List.not_mem_nil⟩
  | cons ctxId rest ih =>
      intro retrieved inputs done
      unfold verifyInputsFrom at done
      cases listed : analyst.isAllowlisted ctxId with
      | false =>
          rw [listed] at done
          exact filtered_skip listed (ih retrieved inputs done)
      | true =>
          rw [listed] at done
          simp only [Bool.not_true, Bool.false_eq_true, if_false] at done
          cases verified : analyst.verifiedBody ctxId (serve retrieved ctxId) with
          | none =>
              rw [verified] at done
              exact filtered_drop listed (ih (retrieved + 1) inputs done)
          | some body =>
              rw [verified] at done
              dsimp only at done
              cases read : analyst.readInput ctxId body with
              | error failure =>
                  rw [read] at done
                  cases done
              | ok input =>
                  cases later : analyst.verifyInputsFrom serve (retrieved + 1) rest with
                  | error failure =>
                      rw [read, later] at done
                      cases done
                  | ok more =>
                      rw [read, later] at done
                      cases done
                      exact filtered_keep exact listed (ih (retrieved + 1) more later) verified
                        (readInput_ctxId read)

/-- The inputs are exactly the allowlisted ids that are served with a verified body. -/
theorem verifyInputsFrom_ids (serve : Nat → Text → Option Answer) (cited : List Text) :
    ∀ retrieved inputs, analyst.verifyInputsFrom serve retrieved cited = .ok inputs →
      inputs.map Input.ctxId =
        (((analyst.allowlisted cited).zipIdx retrieved).filter
          (fun asked => (analyst.verifiedBody asked.1 (serve asked.2 asked.1)).isSome)).map
            Prod.fst := by
  induction cited with
  | nil =>
      intro retrieved inputs done
      cases done
      rfl
  | cons ctxId rest ih =>
      intro retrieved inputs done
      unfold verifyInputsFrom at done
      cases listed : analyst.isAllowlisted ctxId with
      | false =>
          rw [listed] at done
          rw [allowlisted_skip listed]
          exact ih retrieved inputs done
      | true =>
          rw [listed] at done
          simp only [Bool.not_true, Bool.false_eq_true, if_false] at done
          rw [allowlisted_take listed, List.zipIdx_cons]
          cases verified : analyst.verifiedBody ctxId (serve retrieved ctxId) with
          | none =>
              rw [verified] at done
              rw [List.filter_cons_of_neg (by rw [verified]; exact Bool.false_ne_true)]
              exact ih (retrieved + 1) inputs done
          | some body =>
              rw [verified] at done
              rw [List.filter_cons_of_pos (by rw [verified]; rfl), List.map_cons]
              dsimp only at done
              cases read : analyst.readInput ctxId body with
              | error failure =>
                  rw [read] at done
                  cases done
              | ok input =>
                  cases later : analyst.verifyInputsFrom serve (retrieved + 1) rest with
                  | error failure =>
                      rw [read, later] at done
                      cases done
                  | ok more =>
                      rw [read, later] at done
                      cases done
                      rw [List.map_cons, readInput_ctxId read, ih (retrieved + 1) more later]

theorem verifyInputsFrom_ok_iff (exact : analyst.verifier.BindsExactly)
    (serve : Nat → Text → Option Answer) (cited : List Text) :
    ∀ retrieved, (∃ inputs, analyst.verifyInputsFrom serve retrieved cited = .ok inputs) ↔
      analyst.AllReadable serve retrieved cited := by
  induction cited with
  | nil =>
      intro retrieved
      refine iff_of_true ⟨[], rfl⟩ ?_
      rintro index ctxId body ⟨⟩
  | cons ctxId rest ih =>
      intro retrieved
      unfold verifyInputsFrom
      cases listed : analyst.isAllowlisted ctxId with
      | false =>
          rw [allReadable_skip listed]
          exact ih retrieved
      | true =>
          rw [allReadable_take listed, ← ih (retrieved + 1)]
          simp only [Bool.not_true, Bool.false_eq_true, if_false]
          cases verified : analyst.verifiedBody ctxId (serve retrieved ctxId) with
          | none =>
              constructor
              · intro done
                exact ⟨by rintro body ⟨⟩, done⟩
              · exact fun both => both.2
          | some body =>
              obtain ⟨_, _, _, bound, _⟩ := verifiedBody_eq_some exact verified
              obtain ⟨members, rfl⟩ := object_of_get? bound
              have readable : (∀ body, some (Json.object members) = some (.object body) →
                  analyst.Readable body) ↔ ∃ input,
                    analyst.readInput ctxId (.object members) = .ok input := by
                rw [readInput_ok_iff]
                constructor
                · intro every
                  exact every members rfl
                · rintro one body ⟨⟩
                  exact one
              rw [readable]
              dsimp only
              cases analyst.readInput ctxId (.object members) with
              | error failure => exact iff_of_false (by rintro ⟨_, ⟨⟩⟩) (by rintro ⟨⟨_, ⟨⟩⟩, _⟩)
              | ok input =>
                  cases analyst.verifyInputsFrom serve (retrieved + 1) rest with
                  | error failure =>
                      exact iff_of_false (by rintro ⟨_, ⟨⟩⟩) (by rintro ⟨_, _, ⟨⟩⟩)
                  | ok more => exact iff_of_true ⟨_, rfl⟩ ⟨⟨_, rfl⟩, _, rfl⟩

/-- The cited inputs are filtered without an exception exactly when every allowlisted,
bound and verified body that is served for them can be read. -/
theorem cited_inputs_filtered_iff (exact : analyst.verifier.BindsExactly)
    (serve : Nat → Text → Option Answer) (cited : List Text) :
    (∃ inputs, analyst.verifyInputs serve cited = .ok inputs ∧
        analyst.Filtered serve 0 cited inputs) ↔
      analyst.AllReadable serve 0 cited := by
  rw [← verifyInputsFrom_ok_iff exact]
  constructor
  · rintro ⟨inputs, done, _⟩
    exact ⟨inputs, done⟩
  · rintro ⟨inputs, done⟩
    exact ⟨inputs, done, verifyInputsFrom_filtered exact serve cited 0 inputs done⟩

end Analyst

/-! ### Served inputs -/

def demoAnalyst : Analyst Json where
  registry := text "registry-a.playground.local"
  verifier := sampleVerifier
  verifyBodyOffline body := (body.get? "signature").any (fun signature =>
    match signature with
    | .string value => value ≠ text "forged"
    | _ => false)
  isZero literal := literal = text "0.0"
  shown _ := []
  reading := id

def datasetRef (readings : Json) : Json :=
  .object [(text "embedded", .object
    [(text "encoding", .string (text "json")),
      (text "content", .object [(text "readings", readings)])])]

def servedMembers (ctxId : Text) (signature : String) (readings : Json) : Members :=
  requiredBodyMembers.map (fun name =>
    (text name, .string (if name = "signature" then text signature else ctxId))) ++
      [(text "data_refs", .array [datasetRef readings])]

def servedInput (ctxId : Text) (signature : String) (readings : Json) : Answer where
  url := text "http://registry-a/contexts/x"
  payload := .object [(text "body", .object (servedMembers ctxId signature readings))]

def citedId : Text :=
  text "acdp://registry-a.playground.local/00000000-0000-4000-8000-000000000000"

def forgedId : Text :=
  text "acdp://registry-a.playground.local/00000000-0000-4000-8000-000000000001"

def foreignId : Text :=
  text "acdp://elsewhere.example/00000000-0000-4000-8000-000000000000"

def numbers : Json :=
  .array [.integer 21, .string (text " 4.5 ")]

/-- The forged context has a reading that is no number. -/
def servesMixed (_ : Nat) (ctxId : Text) : Option Answer :=
  if ctxId = forgedId then
    some (servedInput ctxId "forged" (.array [.string (text "n/a")]))
  else some (servedInput ctxId "signed" numbers)

theorem numbers_readable : demoAnalyst.Readable (servedMembers citedId "signed" numbers) := by
  have refs : demoAnalyst.truthyMember (servedMembers citedId "signed" numbers) "data_refs" =
      some (.array [datasetRef numbers]) := rfl
  have dataset : demoAnalyst.datasetIn (servedMembers citedId "signed" numbers) =
      [(text "readings", numbers)] := rfl
  constructor
  · intro value found
    rw [refs] at found
    cases found
    rfl
  · exact ⟨rfl, fun _ => trivial⟩
  · intro value found
    rw [dataset] at found
    cases found
    refine ⟨_, rfl, ?_⟩
    intro item member
    rcases List.mem_cons.mp member with rfl | later
    · decide +kernel
    · rw [List.mem_singleton.mp later]
      decide +kernel

theorem servedInput_body (ctxId : Text) (signature : String) (readings : Json) :
    (servedInput ctxId signature readings).payload.get? "body" =
      some (.object (servedMembers ctxId signature readings)) := rfl

/-- One id of another registry, one with a forged body and one cited twice. -/
theorem mixed_inputs_filtered :
    demoAnalyst.verifier.BindsExactly ∧
      ∃ inputs, demoAnalyst.verifyInputs servesMixed [foreignId, citedId, forgedId, citedId] =
          .ok inputs ∧
        demoAnalyst.Filtered servesMixed 0 [foreignId, citedId, forgedId, citedId] inputs := by
  have exact : demoAnalyst.verifier.BindsExactly := sampleVerifier_bindsExactly
  have listed : demoAnalyst.allowlisted [foreignId, citedId, forgedId, citedId] =
      [citedId, forgedId, citedId] := by decide +kernel
  refine ⟨exact, (Analyst.cited_inputs_filtered_iff exact _ _).mpr ?_⟩
  intro index ctxId body found verified
  obtain ⟨served, isServed, isBody, _, accepted⟩ := Analyst.verifiedBody_eq_some exact verified
  rw [listed] at found
  have cited : ctxId = citedId ∨ ctxId = forgedId := by
    have member := List.mem_of_getElem? found
    simp only [List.mem_cons, List.not_mem_nil, or_false] at member
    rcases member with isCited | isForged | isCited
    · exact .inl isCited
    · exact .inr isForged
    · exact .inl isCited
  rcases cited with rfl | rfl
  · have answer : servesMixed (0 + index) citedId = some (servedInput citedId "signed" numbers) :=
      if_neg (by decide +kernel)
    rw [answer] at isServed
    rw [← Option.some.inj isServed, servedInput_body] at isBody
    rw [← Json.object.inj (Option.some.inj isBody)]
    exact numbers_readable
  · have answer : servesMixed (0 + index) forgedId =
        some (servedInput forgedId "forged" (.array [.string (text "n/a")])) := if_pos rfl
    rw [answer] at isServed
    rw [← Option.some.inj isServed, servedInput_body] at isBody
    have refused : demoAnalyst.verifyBodyOffline (.object (servedMembers forgedId "forged"
        (.array [.string (text "n/a")]))) = false := by decide +kernel
    rw [← Option.some.inj isBody, refused] at accepted
    cases accepted

/-- A reading that is no number ends the loop. -/
theorem text_reading_raises :
    demoAnalyst.verifier.BindsExactly ∧
      ¬∃ inputs, demoAnalyst.verifyInputs
          (fun _ ctxId => some (servedInput ctxId "signed" (.array [.string (text "n/a")])))
          [citedId] = .ok inputs ∧
        demoAnalyst.Filtered
          (fun _ ctxId => some (servedInput ctxId "signed" (.array [.string (text "n/a")])))
          0 [citedId] inputs := by
  have raises : (demoAnalyst.verifyInputs
      (fun _ ctxId => some (servedInput ctxId "signed" (.array [.string (text "n/a")])))
      [citedId]).toOption.isSome = false := by
    decide +kernel
  refine ⟨sampleVerifier_bindsExactly, ?_⟩
  rintro ⟨inputs, done, _⟩
  rw [done] at raises
  cases raises

end AcdpPlayground.A2a

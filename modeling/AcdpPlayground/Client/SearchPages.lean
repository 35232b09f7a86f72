/-
`search` and `search_all` of `AcdpClient`: what the loop over the pages of a search asks for
and what it yields.

A registry answers by every request it has been sent so far, so it may keep state, fail or
never stop naming cursors. Requests are listed by their parameters. After a 401 `_retrying`
sends a request once more, and these repetitions are counted apart from the pages.
-/

import AcdpPlayground.Bridge.ControlPlane
import AcdpPlayground.Client.Operations
import AcdpPlayground.Client.WireModels

namespace AcdpPlayground.Client

open PythonText JsonValue

/-! ### Pages -/

structure SearchHit where
  ctxId : Text
  title : Option Text
  agentId : Option Text
  contextType : Option Text
  visibility : Option Text
  lineageId : Option Text
  summary : Option Text
  extra : Members

/-- The matches under the name of their property. -/
structure SearchResponse where
  results : List SearchHit
  totalEstimate : Option Int
  nextCursor : Option Text
  extra : Members

section Validation

variable {Datetime : Type} (lax : LaxMode Datetime)

def SearchHit.modelValidate (served : Json) : Option SearchHit := do
  let members ← LaxMode.dict served
  return {
    ctxId := ← required lax.str members "ctx_id"
    title := ← optional lax.str members "title"
    agentId := ← optional lax.str members "agent_id"
    contextType := ← optional lax.str members "context_type"
    visibility := ← optional lax.str members "visibility"
    lineageId := ← optional lax.str members "lineage_id"
    summary := ← optional lax.str members "summary"
    extra := undeclared
      ["ctx_id", "title", "agent_id", "context_type", "visibility", "lineage_id", "summary"]
      members }

def SearchResponse.modelValidate (served : Json) : Option SearchResponse := do
  let members ← LaxMode.dict served
  return {
    results := ← defaulted (LaxMode.list (SearchHit.modelValidate lax)) [] members "matches"
    totalEstimate := ← optional lax.int members "total_estimate"
    nextCursor := ← optional lax.str members "next_cursor"
    extra := undeclared ["matches", "total_estimate", "next_cursor"] members }

end Validation

/-- The cursor to go on with: neither absent nor empty. -/
def SearchResponse.cursor? (page : SearchResponse) : Option String :=
  truthyText (page.nextCursor.map string)

/-! ### One search -/

abbrev Params := List (String × ParamValue)

/-- The payload is missing where `r.json()` raises a `ValueError`. -/
inductive Reply where
  | transportError
  | response (status : Nat) (payload : Option Json)

/-- By the requests sent so far, of which the last is answered. -/
abbrev Registry := List Params → Reply

inductive SearchError where
  | token
  | transport
  | cursor (code message : Text)
  | http (status : Nat)
  | notJson
  | validation

structure SearchClient (Datetime : Type) where
  lax : LaxMode Datetime
  /-- Float literals that are 0.0. -/
  isZero : Text → Bool
  /-- `self._producer and self._token_manager`. -/
  managed : Bool
  /-- Whether `_headers` returns, by the requests sent so far. -/
  headers : List Params → Bool

def cursorErrorCodes : List Text :=
  [text "invalid_cursor", text "cursor_expired"]

namespace SearchClient

variable {Datetime : Type} (client : SearchClient Datetime)

def raiseCursorError (status : Nat) (payload : Option Json) : Except SearchError Unit :=
  if status ≠ 400 then .ok ()
  else
    match payload with
    | none => .ok ()
    | some served =>
        let envelope := Bridge.parseErrorEnvelope client.isZero served
        match envelope.code with
        | none => .ok ()
        | some code =>
            if cursorErrorCodes.contains code then .error (.cursor code envelope.message)
            else .ok ()

def raiseForStatus (status : Nat) : Except SearchError Unit :=
  if 200 ≤ status ∧ status ≤ 299 then .ok () else .error (.http status)

def readPage (status : Nat) (payload : Option Json) : Except SearchError SearchResponse :=
  match client.raiseCursorError status payload with
  | .error failure => .error failure
  | .ok () =>
      match raiseForStatus status with
      | .error failure => .error failure
      | .ok () =>
          match payload with
          | none => .error .notJson
          | some served =>
              match SearchResponse.modelValidate client.lax served with
              | none => .error .validation
              | some page => .ok page

/-- `_retrying` by the requests sent after it. -/
def retryingGet (registry : Registry) (params : Params) (sent : List Params) :
    List Params × Except SearchError (Nat × Option Json) :=
  if !client.headers sent then (sent, .error .token)
  else
    let once := sent ++ [params]
    match registry once with
    | .transportError => (once, .error .transport)
    | .response status payload =>
        if status ≠ 401 || !client.managed then (once, .ok (status, payload))
        else if !client.headers once then (once, .error .token)
        else
          let twice := once ++ [params]
          match registry twice with
          | .transportError => (twice, .error .transport)
          | .response status payload => (twice, .ok (status, payload))

def search (registry : Registry) (query : SearchQuery) (sent : List Params) :
    List Params × Except SearchError SearchResponse :=
  match client.retryingGet registry query.params sent with
  | (after, .error failure) => (after, .error failure)
  | (after, .ok (status, payload)) => (after, client.readPage status payload)

end SearchClient

/-! ### All pages -/

/-- A generator run to its end: what was asked for, what was yielded, and what it raised. -/
structure Listing where
  requests : List Params
  yielded : List SearchHit
  raised : Option SearchError

namespace SearchClient

variable {Datetime : Type} (client : SearchClient Datetime)

/-- `for _ in range(max_pages)` from some round on. -/
def searchFrom (registry : Registry) : Nat → SearchQuery → List Params → Listing
  | 0, _, sent => { requests := sent, yielded := [], raised := none }
  | rounds + 1, query, sent =>
      match client.search registry query sent with
      | (after, .error failure) => { requests := after, yielded := [], raised := some failure }
      | (after, .ok page) =>
          match page.cursor? with
          | none => { requests := after, yielded := page.results, raised := none }
          | some cursor =>
              let rest := searchFrom registry rounds { query with cursor := some cursor } after
              { rest with yielded := page.results ++ rest.yielded }

/-- The filters of the first page; `search_all` takes no limit and no cursor of its own. -/
def firstQuery (query : SearchQuery) (pageSize : Int) : SearchQuery :=
  { query with limit := pageSize, cursor := none }

def searchAll (registry : Registry) (query : SearchQuery) (pageSize maxPages : Int) : Listing :=
  client.searchFrom registry maxPages.toNat (firstQuery query pageSize) []

end SearchClient

/-! ### What a registry answered -/

def answersFrom (registry : Registry) : List Params → List Params → List Reply
  | _, [] => []
  | before, params :: rest =>
      registry (before ++ [params]) :: answersFrom registry (before ++ [params]) rest

def answers (registry : Registry) (requests : List Params) : List Reply :=
  answersFrom registry [] requests

def Reply.unauthorized : Reply → Bool
  | .response status _ => status = 401
  | .transportError => false

namespace SearchClient

variable {Datetime : Type} (client : SearchClient Datetime)

/-- The page an answer holds, if it holds one. -/
def reads : Reply → Option SearchResponse
  | .transportError => none
  | .response status payload => (client.readPage status payload).toOption

def pagesRead (registry : Registry) (requests : List Params) : List SearchResponse :=
  (answers registry requests).filterMap client.reads

/-- How many of the requests could be a second attempt: those after a 401. -/
def repetitions (registry : Registry) (requests : List Params) : Nat :=
  if client.managed then (answers registry requests).countP Reply.unauthorized else 0

/-- Why a request follows the ones before it: it carries the cursor of the page before it, or
it repeats a request answered by a 401. -/
def Follows (registry : Registry) (first : SearchQuery) (before : List Params)
    (request : Params) : Prop :=
  (∃ page cursor, client.reads (registry before) = some page ∧ page.cursor? = some cursor ∧
      request = { first with cursor := some cursor }.params) ∨
    (client.managed = true ∧ (registry before).unauthorized = true ∧
      before.getLast? = some request)

/-- The first request asks for the first page, every later one follows. -/
def Linked (registry : Registry) (first : SearchQuery) (requests : List Params) : Prop :=
  ∀ before request after, requests = before ++ request :: after →
    (before = [] → request = first.params) ∧
      (before ≠ [] → client.Follows registry first before request)

end SearchClient

theorem answersFrom_append (registry : Registry) (before first second : List Params) :
    answersFrom registry before (first ++ second) =
      answersFrom registry before first ++ answersFrom registry (before ++ first) second := by
  induction first generalizing before with
  | nil =>
      rw [List.append_nil]
      rfl
  | cons params rest ih =>
      change _ :: answersFrom registry _ (rest ++ second) = _ :: (_ ++ _)
      rw [ih, List.append_assoc]
      rfl

theorem answers_concat (registry : Registry) (requests : List Params) (params : Params) :
    answers registry (requests ++ [params]) =
      answers registry requests ++ [registry (requests ++ [params])] :=
  answersFrom_append registry [] requests [params]

namespace SearchClient

variable {Datetime : Type} {client : SearchClient Datetime} {registry : Registry}

theorem linked_nil (first : SearchQuery) : client.Linked registry first [] := by
  intro before request after same
  cases before with
  | nil => cases same
  | cons _ _ => cases same

theorem Linked.concat {first : SearchQuery} {sent : List Params} {params : Params}
    (linked : client.Linked registry first sent) (fresh : sent = [] → params = first.params)
    (later : sent ≠ [] → client.Follows registry first sent params) :
    client.Linked registry first (sent ++ [params]) := by
  intro before request after same
  rcases List.eq_nil_or_concat after with rfl | ⟨rest, final, rfl⟩
  · obtain ⟨rfl, last⟩ := List.append_inj' same rfl
    cases last
    exact ⟨fresh, later⟩
  · rw [List.concat_eq_append, ← List.cons_append, ← List.append_assoc] at same
    exact linked before request rest (List.append_inj' same rfl).1

/-! ### One search by its answers -/

theorem reads_unauthorized {reply : Reply} (refused : reply.unauthorized = true) :
    client.reads reply = none := by
  cases reply with
  | transportError => cases refused
  | response status payload =>
      have status401 : status = 401 := of_decide_eq_true refused
      subst status
      rfl

theorem search_cases (query : SearchQuery) (sent : List Params) :
    ∃ after result, client.search registry query sent = (after, result) ∧
      ((after = sent ∧ result.toOption = none) ∨
        (after = sent ++ [query.params] ∧ result.toOption = client.reads (registry after)) ∨
        (after = sent ++ [query.params] ++ [query.params] ∧ client.managed = true ∧
          (registry (sent ++ [query.params])).unauthorized = true ∧
          result.toOption = client.reads (registry after))) := by
  unfold search retryingGet
  cases client.headers sent with
  | false => exact ⟨_, _, rfl, .inl ⟨rfl, rfl⟩⟩
  | true =>
      simp only [Bool.not_true, Bool.false_eq_true, if_false]
      cases answered : registry (sent ++ [query.params]) with
      | transportError =>
          exact ⟨_, _, rfl, .inr (.inl ⟨rfl, by rw [answered]; rfl⟩)⟩
      | response status payload =>
          by_cases kept : (decide (status ≠ 401) || !client.managed) = true
          · simp only [if_pos kept]
            exact ⟨_, _, rfl, .inr (.inl ⟨rfl, by rw [answered]; rfl⟩)⟩
          · simp only [if_neg kept]
            simp only [Bool.or_eq_true, decide_eq_true_eq, Bool.not_eq_true', not_or,
              Classical.not_not, Bool.not_eq_false] at kept
            obtain ⟨rfl, managed⟩ := kept
            cases client.headers (sent ++ [query.params]) with
            | false => exact ⟨_, _, rfl, .inr (.inl ⟨rfl, by rw [answered]; rfl⟩)⟩
            | true =>
                simp only [Bool.not_true, Bool.false_eq_true, if_false]
                cases again : registry (sent ++ [query.params] ++ [query.params]) with
                | transportError =>
                    exact ⟨_, _, rfl, .inr (.inr ⟨rfl, managed, rfl, by rw [again]; rfl⟩)⟩
                | response status payload =>
                    exact ⟨_, _, rfl, .inr (.inr ⟨rfl, managed, rfl, by rw [again]; rfl⟩)⟩

theorem pagesRead_concat (sent : List Params) (params : Params) :
    client.pagesRead registry (sent ++ [params]) =
      client.pagesRead registry sent ++ (client.reads (registry (sent ++ [params]))).toList := by
  unfold pagesRead
  rw [answers_concat, List.filterMap_append]
  cases read : client.reads (registry (sent ++ [params])) with
  | none => rw [List.filterMap_cons_none read, List.filterMap_nil, Option.toList_none]
  | some page => rw [List.filterMap_cons_some read, List.filterMap_nil, Option.toList_some]

theorem repetitions_concat (sent : List Params) (params : Params) :
    client.repetitions registry (sent ++ [params]) =
      client.repetitions registry sent +
        if client.managed && (registry (sent ++ [params])).unauthorized then 1 else 0 := by
  unfold repetitions
  rw [answers_concat, List.countP_append, List.countP_singleton]
  cases client.managed <;> simp

/-- The requests so far, and the search the loop makes next. -/
structure Ready (client : SearchClient Datetime) (registry : Registry) (first : SearchQuery)
    (sent : List Params) (query : SearchQuery) : Prop where
  linked : client.Linked registry first sent
  fresh : sent = [] → query = first
  named : sent ≠ [] → ∃ page cursor, client.reads (registry sent) = some page ∧
    page.cursor? = some cursor ∧ query = { first with cursor := some cursor }

theorem Ready.linked_sent {first query : SearchQuery} {sent : List Params}
    (ready : client.Ready registry first sent query) :
    client.Linked registry first (sent ++ [query.params]) := by
  apply ready.linked.concat
  · intro empty
    rw [ready.fresh empty]
  · intro some
    obtain ⟨page, cursor, read, names, rfl⟩ := ready.named some
    exact .inl ⟨page, cursor, read, names, rfl⟩

structure Searched (client : SearchClient Datetime) (registry : Registry) (first : SearchQuery)
    (sent after : List Params) (result : Except SearchError SearchResponse) : Prop where
  linked : client.Linked registry first after
  pages : client.pagesRead registry after = client.pagesRead registry sent ++ result.toOption.toList
  counted : after.length + client.repetitions registry sent ≤
    sent.length + 1 + client.repetitions registry after
  answered : ∀ page, result = .ok page → client.reads (registry after) = some page ∧ after ≠ []

theorem Ready.searched {first query : SearchQuery} {sent : List Params}
    (ready : client.Ready registry first sent query) :
    ∃ after result, client.search registry query sent = (after, result) ∧
      client.Searched registry first sent after result := by
  obtain ⟨after, result, same, ways⟩ := search_cases query sent
  refine ⟨after, result, same, ?_⟩
  rcases ways with ⟨rfl, failed⟩ | ⟨rfl, read⟩ | ⟨rfl, managed, refused, read⟩
  · refine ⟨ready.linked, ?_, by omega, ?_⟩
    · rw [failed]
      exact (List.append_nil _).symm
    · rintro page rfl
      cases failed
  · refine ⟨ready.linked_sent, ?_, ?_, ?_⟩
    · rw [pagesRead_concat, read]
    · rw [repetitions_concat, List.length_append, List.length_singleton]
      omega
    · rintro page rfl
      exact ⟨read.symm, List.append_ne_nil_of_right_ne_nil _ (List.cons_ne_nil _ _)⟩
  · refine ⟨?_, ?_, ?_, ?_⟩
    · apply ready.linked_sent.concat
      · intro empty
        cases List.append_eq_nil_iff.mp empty with
        | intro _ impossible => cases impossible
      · intro _
        exact .inr ⟨managed, refused, List.getLast?_concat⟩
    · rw [pagesRead_concat, pagesRead_concat, reads_unauthorized refused, read]
      exact congrArg (· ++ _) (List.append_nil _)
    · rw [repetitions_concat, repetitions_concat, managed, refused]
      simp only [List.length_append, List.length_singleton, Bool.and_self, if_true]
      omega
    · rintro page rfl
      exact ⟨read.symm, List.append_ne_nil_of_right_ne_nil _ (List.cons_ne_nil _ _)⟩

/-! ### The loop -/

theorem searchFrom_spec {first : SearchQuery} (rounds : Nat) :
    ∀ query sent, client.Ready registry first sent query →
      let listing := client.searchFrom registry rounds query sent
      client.Linked registry first listing.requests ∧
        (client.pagesRead registry listing.requests).flatMap SearchResponse.results =
          (client.pagesRead registry sent).flatMap SearchResponse.results ++ listing.yielded ∧
        listing.requests.length + client.repetitions registry sent ≤
          sent.length + rounds + client.repetitions registry listing.requests := by
  induction rounds with
  | zero =>
      intro query sent ready
      exact ⟨ready.linked, (List.append_nil _).symm, Nat.le_refl _⟩
  | succ rounds ih =>
      intro query sent ready
      obtain ⟨after, result, same, searched⟩ := ready.searched
      have counted : after.length + client.repetitions registry sent ≤
          sent.length + (rounds + 1) + client.repetitions registry after := by
        have one := searched.counted
        omega
      have pages := congrArg (List.flatMap SearchResponse.results) searched.pages
      rw [List.flatMap_append] at pages
      unfold searchFrom
      rw [same]
      cases result with
      | error failure => exact ⟨searched.linked, pages, counted⟩
      | ok page =>
          obtain ⟨read, nonempty⟩ := searched.answered page rfl
          have results : List.flatMap SearchResponse.results
              (Except.toOption (Except.ok page : Except SearchError SearchResponse)).toList =
                page.results := by
            exact List.append_nil _
          rw [results] at pages
          cases names : page.cursor? with
          | none =>
              simp only [names]
              exact ⟨searched.linked, pages, counted⟩
          | some cursor =>
              have next : client.Ready registry first after
                  { query with cursor := some cursor } := by
                refine ⟨searched.linked, fun empty => (nonempty empty).elim, fun _ => ?_⟩
                refine ⟨page, cursor, read, names, ?_⟩
                by_cases empty : sent = []
                · rw [ready.fresh empty]
                · obtain ⟨_, _, _, _, rfl⟩ := ready.named empty
                  rfl
              obtain ⟨linked, yielded, bound⟩ := ih _ _ next
              have one := searched.counted
              simp only [names]
              refine ⟨linked, ?_, by omega⟩
              rw [yielded, pages, List.append_assoc]

theorem searchAll_spec (client : SearchClient Datetime) (registry : Registry) (query : SearchQuery) (pageSize maxPages : Int) :
    let listing := client.searchAll registry query pageSize maxPages
    client.Linked registry (firstQuery query pageSize) listing.requests ∧
      listing.yielded =
        (client.pagesRead registry listing.requests).flatMap SearchResponse.results ∧
      listing.requests.length ≤
        maxPages.toNat + client.repetitions registry listing.requests := by
  have start : client.Ready registry (firstQuery query pageSize) []
      (firstQuery query pageSize) :=
    ⟨linked_nil _, fun _ => rfl, fun nonempty => (nonempty rfl).elim⟩
  obtain ⟨linked, yielded, bound⟩ := searchFrom_spec maxPages.toNat _ _ start
  have none : client.repetitions registry [] = 0 := by
    unfold repetitions
    split <;> rfl
  rw [none, List.length_nil, Nat.add_zero, Nat.zero_add] at bound
  exact ⟨linked, yielded.symm, bound⟩

end SearchClient

/-! ### Registries that answer with pages -/

def cursorOf (params : Params) : Option String :=
  match params.lookup "cursor" with
  | some (.text cursor) => some cursor
  | _ => none

theorem lookup_textParam_ne {name asked : String} (different : asked ≠ name)
    (value : Option String) : (textParam name value).lookup asked = none := by
  apply KeyedTable.lookup_eq_none_of_not_mem
  cases value with
  | none => exact List.not_mem_nil
  | some given => exact fun member => different (List.mem_singleton.mp member)

theorem cursorOf_params (query : SearchQuery) : cursorOf query.params = query.cursor := by
  have limit : ([("limit", .number query.limit)] : Params).lookup "cursor" = none := rfl
  unfold cursorOf SearchQuery.params
  simp only [List.lookup_append, lookup_textParam_ne (show "cursor" ≠ "q" by decide),
    lookup_textParam_ne (show "cursor" ≠ "type" by decide),
    lookup_textParam_ne (show "cursor" ≠ "domain" by decide),
    lookup_textParam_ne (show "cursor" ≠ "agent_id" by decide),
    lookup_textParam_ne (show "cursor" ≠ "tags" by decide),
    lookup_textParam_ne (show "cursor" ≠ "derived_from" by decide),
    lookup_textParam_ne (show "cursor" ≠ "visibility" by decide), limit, Option.none_or]
  cases query.cursor with
  | none => rfl
  | some cursor => rfl

/-- The pages from a cursor on, up to the first that names no further one. -/
inductive Chain (pageOf : Option String → SearchResponse) :
    Option String → List SearchResponse → Prop where
  | last {cursor : Option String} (ends : (pageOf cursor).cursor? = none) :
      Chain pageOf cursor [pageOf cursor]
  | more {cursor : Option String} {next : String} {rest : List SearchResponse}
      (names : (pageOf cursor).cursor? = some next) (later : Chain pageOf (some next) rest) :
      Chain pageOf cursor (pageOf cursor :: rest)

namespace SearchClient

variable {Datetime : Type} {client : SearchClient Datetime} {registry : Registry}

/-- Every request goes out and is answered with the page of its cursor. -/
structure ServesPages (client : SearchClient Datetime) (registry : Registry)
    (pageOf : Option String → SearchResponse) : Prop where
  sends : ∀ sent, client.headers sent = true
  serves : ∀ sent params,
    client.reads (registry (sent ++ [params])) = some (pageOf (cursorOf params))

theorem ServesPages.search {pageOf : Option String → SearchResponse}
    (serving : client.ServesPages registry pageOf) (query : SearchQuery) (sent : List Params) :
    client.search registry query sent =
      (sent ++ [query.params], .ok (pageOf query.cursor)) := by
  have read := serving.serves sent query.params
  rw [cursorOf_params] at read
  unfold SearchClient.search retryingGet
  simp only [serving.sends, Bool.not_true, Bool.false_eq_true, if_false]
  cases answered : registry (sent ++ [query.params]) with
  | transportError =>
      rw [answered] at read
      cases read
  | response status payload =>
      rw [answered] at read
      have accepted : status ≠ 401 := by
        rintro rfl
        rw [reads_unauthorized rfl] at read
        cases read
      simp only [accepted, ne_eq, not_false_eq_true, decide_true, Bool.true_or, if_true]
      change (client.readPage status payload).toOption = _ at read
      cases page : client.readPage status payload with
      | error failure =>
          rw [page] at read
          cases read
      | ok given =>
          rw [page] at read
          rw [Option.some.inj read]

theorem ServesPages.searchFrom {pageOf : Option String → SearchResponse}
    (serving : client.ServesPages registry pageOf) {cursor : Option String}
    {pages : List SearchResponse} (chain : Chain pageOf cursor pages) :
    ∀ (rounds : Nat) (query : SearchQuery) (sent : List Params), query.cursor = cursor →
      pages.length ≤ rounds →
      let listing := client.searchFrom registry rounds query sent
      listing.yielded = pages.flatMap SearchResponse.results ∧
        listing.requests.length = sent.length + pages.length ∧ listing.raised = none := by
  induction chain with
  | @last cursor ends =>
      intro rounds query sent same enough
      obtain ⟨less, rfl⟩ := Nat.exists_eq_add_of_le' enough
      subst same
      simp only [List.length_singleton, SearchClient.searchFrom, serving.search, ends]
      exact ⟨(List.append_nil _).symm, List.length_append, trivial⟩
  | @more cursor next rest names later ih =>
      intro rounds query sent same enough
      rw [List.length_cons] at enough
      obtain ⟨less, rfl⟩ := Nat.exists_eq_add_of_le' (Nat.le_of_add_left_le enough)
      subst same
      obtain ⟨yielded, sentInAll, raised⟩ :=
        ih less { query with cursor := some next } (sent ++ [query.params]) rfl (by omega)
      simp only [SearchClient.searchFrom, serving.search, names]
      refine ⟨congrArg (_ ++ ·) yielded, ?_, raised⟩
      rw [sentInAll, List.length_append, List.length_singleton, List.length_cons]
      omega

theorem mem_answersFrom {reply : Reply} :
    ∀ (requests before : List Params), reply ∈ answersFrom registry before requests →
      ∃ sent params, reply = registry (sent ++ [params]) := by
  intro requests
  induction requests with
  | nil =>
      intro before member
      cases member
  | cons params rest ih =>
      intro before member
      rcases List.mem_cons.mp member with here | later
      · exact ⟨before, params, here⟩
      · exact ih _ later

theorem repetitions_of_pages
    (pages : ∀ sent params, (client.reads (registry (sent ++ [params]))).isSome = true)
    (requests : List Params) : client.repetitions registry requests = 0 := by
  unfold repetitions
  split
  · rw [List.countP_eq_zero]
    intro reply member refused
    obtain ⟨sent, params, rfl⟩ := mem_answersFrom requests [] member
    have page := pages sent params
    rw [reads_unauthorized refused] at page
    cases page
  · rfl

/-- The whole of `search_all`, for every registry: what it yields, how often it asks and what
each request carries, and that a chain of pages that ends in time is listed completely. -/
theorem search_all_exact (client : SearchClient Datetime) (registry : Registry)
    (query : SearchQuery) (pageSize maxPages : Int) :
    let listing := client.searchAll registry query pageSize maxPages
    (∀ pageOf pages, client.ServesPages registry pageOf → Chain pageOf none pages →
        pages.length ≤ maxPages.toNat →
        listing.yielded = pages.flatMap SearchResponse.results ∧
          listing.requests.length = pages.length ∧ listing.raised = none) ∧
      listing.yielded =
        (client.pagesRead registry listing.requests).flatMap SearchResponse.results ∧
      listing.requests.length ≤ maxPages.toNat + client.repetitions registry listing.requests ∧
      ((∀ sent params, (client.reads (registry (sent ++ [params]))).isSome = true) →
        listing.requests.length ≤ maxPages.toNat) ∧
      client.Linked registry (firstQuery query pageSize) listing.requests := by
  intro listing
  obtain ⟨linked, yielded, bound⟩ := searchAll_spec client registry query pageSize maxPages
  refine ⟨?_, yielded, bound, ?_, linked⟩
  · intro pageOf pages serving chain enough
    obtain ⟨all, count, raised⟩ :=
      serving.searchFrom chain maxPages.toNat (firstQuery query pageSize) [] rfl enough
    rw [List.length_nil, Nat.zero_add] at count
    exact ⟨all, count, raised⟩
  · intro pages
    rw [repetitions_of_pages pages, Nat.add_zero] at bound
    exact bound

end SearchClient

def hitOf (ctxId : String) : SearchHit where
  ctxId := text ctxId
  title := none
  agentId := none
  contextType := none
  visibility := none
  lineageId := none
  summary := none
  extra := []

/-- Three pages, of which the second has no matches. -/
def threePages (cursor : Option String) : SearchResponse :=
  if cursor = none then
    { results := [hitOf "a"], totalEstimate := none, nextCursor := some (text "c1"), extra := [] }
  else if cursor = some "c1" then
    { results := [], totalEstimate := none, nextCursor := some (text "c2"), extra := [] }
  else
    { results := [hitOf "b"], totalEstimate := none, nextCursor := none, extra := [] }

def servedHit (ctxId : String) : Json :=
  .object [(text "ctx_id", .string (text ctxId))]

def servedPage (cursor : Option String) : Json :=
  if cursor = none then
    .object [(text "matches", .array [servedHit "a"]), (text "next_cursor", .string (text "c1"))]
  else if cursor = some "c1" then
    .object [(text "matches", .array []), (text "next_cursor", .string (text "c2"))]
  else
    .object [(text "matches", .array [servedHit "b"]), (text "next_cursor", .null)]

def anonymousClient : SearchClient Unit where
  lax := { acceptsStr := fun _ => true, int := fun _ => none, datetime := fun _ => none }
  isZero := fun _ => false
  managed := false
  headers := fun _ => true

def pagedRegistry : Registry :=
  fun sent => .response 200 (some (servedPage (cursorOf (sent.getLastD []))))

theorem pagedRegistry_serves : anonymousClient.ServesPages pagedRegistry threePages := by
  refine ⟨fun _ => rfl, ?_⟩
  intro sent params
  unfold pagedRegistry
  rw [List.getLastD_concat]
  unfold servedPage threePages
  by_cases first : cursorOf params = none
  · rw [if_pos first, if_pos first]
    rfl
  · by_cases second : cursorOf params = some "c1"
    · rw [if_neg first, if_neg first, if_pos second, if_pos second]
      rfl
    · rw [if_neg first, if_neg first, if_neg second, if_neg second]
      rfl

def plainQuery : SearchQuery where
  q := some "q"
  contextType := none
  domain := none
  agentId := none
  tags := none
  derivedFrom := none
  visibility := none
  limit := 20
  cursor := none

theorem three_pages_listed :
    let listing := anonymousClient.searchAll pagedRegistry plainQuery 1 3
    listing.yielded = [hitOf "a", hitOf "b"] ∧ listing.requests.length = 3 := by
  have chain : Chain threePages none
      [threePages none, threePages (some "c1"), threePages (some "c2")] :=
    @Chain.more _ _ "c1" _ rfl (@Chain.more _ _ "c2" _ rfl (.last rfl))
  obtain ⟨yielded, sent, _⟩ :=
    (SearchClient.search_all_exact anonymousClient pagedRegistry plainQuery 1 3).1 _ _
      pagedRegistry_serves chain (by decide)
  exact ⟨yielded, sent⟩

end AcdpPlayground.Client

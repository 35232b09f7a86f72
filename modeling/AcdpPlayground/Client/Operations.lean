/-
The public operations of `AcdpClient` by the requests they send: one `_retrying` call for
most of them, a loop over the pages for `search_all`, another client's `retrieve` for
`resolve`, a plain GET for `healthz` and the guarded fetch for `fetch_data_ref`.

What an operation makes of the answers is left to the script, except where it decides on
the next request: the cursor of a page. Each call meets its client's token manager in a
state of its own, so that the clients may share one or not.
-/

import AcdpPlayground.Client.Sending
import AcdpPlayground.Client.SafeFetch

namespace AcdpPlayground.Client

open Auth (TokenState CachedToken)

/-! ### Paths and parameters -/

def isUnreserved (byte : UInt8) : Bool :=
  (65 ≤ byte && byte ≤ 90) || (97 ≤ byte && byte ≤ 122) || (48 ≤ byte && byte ≤ 57) ||
    byte == 45 || byte == 46 || byte == 95 || byte == 126

def upperHexDigit (value : Nat) : Char :=
  Char.ofNat (if value < 10 then 48 + value else 55 + value)

def quote (value : String) : String :=
  String.ofList (value.toUTF8.toList.flatMap (fun byte =>
    if isUnreserved byte then [Char.ofNat byte.toNat]
    else ['%', upperHexDigit (byte.toNat / 16), upperHexDigit (byte.toNat % 16)]))

structure SearchQuery where
  q : Option String
  contextType : Option String
  domain : Option String
  agentId : Option String
  tags : Option (List String)
  derivedFrom : Option String
  visibility : Option String
  limit : Int
  cursor : Option String

def textParam (name : String) (value : Option String) : List (String × ParamValue) :=
  (value.map (fun given => (name, .text given))).toList

def numberParam (name : String) (value : Option Int) : List (String × ParamValue) :=
  (value.map (fun given => (name, .number given))).toList

def SearchQuery.params (query : SearchQuery) : List (String × ParamValue) :=
  textParam "q" query.q ++ textParam "type" query.contextType ++
    textParam "domain" query.domain ++ textParam "agent_id" query.agentId ++
    textParam "tags" ((query.tags.filter (fun tags => tags ≠ [])).map (",".intercalate ·)) ++
    textParam "derived_from" (truthyText query.derivedFrom) ++
    textParam "visibility" query.visibility ++ [("limit", .number query.limit)] ++
    textParam "cursor" query.cursor

structure ProofQuery where
  ctxId : Option String
  leafIndex : Option Int
  treeSize : Option Int
  first : Option Int
  second : Option Int

def ProofQuery.params (query : ProofQuery) : List (String × ParamValue) :=
  textParam "ctx_id" query.ctxId ++ numberParam "leaf_index" query.leafIndex ++
    numberParam "tree_size" query.treeSize ++ numberParam "first" query.first ++
    numberParam "second" query.second

namespace SendingClient

def getTemplate (client : SendingClient) (path : String) (params : List (String × ParamValue)) :
    Template :=
  { method := .get
    url := client.base ++ path
    params := params
    content := none }

def postTemplate (client : SendingClient) (path content : String) : Template :=
  { method := .post
    url := client.base ++ path
    params := []
    content := some content }

/-- `_get_full_context` without content. -/
def contextTemplate (client : SendingClient) (ctxId pathSuffix : String) : Template :=
  client.getTemplate ("/contexts/" ++ quote ctxId ++ pathSuffix) []

/-- `_lifecycle`: the event stands in its envelope as it was given. -/
def lifecycleTemplate (client : SendingClient) (ctxId action eventJson : String) : Template :=
  client.postTemplate ("/contexts/" ++ quote ctxId ++ "/" ++ action)
    ("\x7b\"event\":" ++ eventJson ++ "\x7d")

end SendingClient

/-! ### Operations -/

inductive Call where
  | publish (requestJson : String) (idempotencyKey : Option String)
  | retrieve (ctxId : String)
  | retrieveRaw (ctxId : String)
  | retrieveBody (ctxId : String)
  | retract (ctxId eventJson : String)
  | republish (ctxId eventJson : String)
  | logCheckpoint
  | logProof (query : ProofQuery)
  | logEntries (start stop : Int)
  | search (query : SearchQuery)
  | lineage (lineageId : String)
  | current (lineageId : String)

def Call.template (client : SendingClient) : Call → Template
  | .publish requestJson _ => client.postTemplate "/contexts" requestJson
  | .retrieve ctxId => client.contextTemplate ctxId ""
  | .retrieveRaw ctxId => client.contextTemplate ctxId ""
  | .retrieveBody ctxId => client.contextTemplate ctxId "/body"
  | .retract ctxId eventJson => client.lifecycleTemplate ctxId "retract" eventJson
  | .republish ctxId eventJson => client.lifecycleTemplate ctxId "republish" eventJson
  | .logCheckpoint => client.getTemplate "/log/checkpoint" []
  | .logProof query => client.getTemplate "/log/proof" query.params
  | .logEntries start stop =>
      client.getTemplate "/log/entries" [("start", .number start), ("end", .number stop)]
  | .search query => client.getTemplate "/contexts/search" query.params
  | .lineage lineageId => client.getTemplate ("/lineages/" ++ lineageId) []
  | .current lineageId => client.getTemplate ("/lineages/" ++ lineageId ++ "/current") []

def Call.idempotencyKey : Call → Option String
  | .publish _ key => key
  | _ => none

inductive Operation where
  | call (call : Call)
  | searchAll (query : SearchQuery) (pageSize maxPages : Int)
  | resolve (ctxId : String) (authorityMap : List (String × SendingClient))
  | healthz
  | fetchDataRef (world : FetchWorld) (policy : SsrfPolicy) (dataRef : DataRef)

/-- One `_retrying` call: the manager it meets, its script, and the `next_cursor` of the
page when the answer is one. -/
structure CallScript where
  tokens : TokenState
  retry : RetryScript
  nextCursor : Option String

structure SentBy where
  client : SendingClient
  request : HttpRequest

namespace SendingClient

/-- The result of the `_retrying` call of one operation. -/
def perform (jtiOf : CachedToken → Option String) (client : SendingClient) (call : Call)
    (script : CallScript) : Option Retried :=
  client.retrying jtiOf (call.template client) (idempotencyHeader call.idempotencyKey)
    script.retry script.tokens

def sentBy (client : SendingClient) (result : Retried) : List SentBy :=
  result.sent.map (fun sent => { client := client, request := sent.request })

/-- The cursor to go on with: the last answer is a page and names one. -/
def pageCursor (script : CallScript) (result : Retried) : Option String :=
  match result.handled.getLast? with
  | some response =>
      if 200 ≤ response.status ∧ response.status ≤ 299 then truthyText script.nextCursor else none
  | none => none

/-- The loop of `search_all`. It also ends when the consumer asks for no further page. -/
def searchPages (jtiOf : CachedToken → Option String) (client : SendingClient)
    (query : SearchQuery) : Nat → List CallScript → Option (List SentBy)
  | 0, _ => some []
  | _, [] => some []
  | remaining + 1, script :: rest =>
      match client.perform jtiOf (.search query) script with
      | none => none
      | some result =>
          match pageCursor script result with
          | none => some (client.sentBy result)
          | some cursor =>
              (client.searchPages jtiOf { query with cursor := some cursor } remaining rest).map
                (client.sentBy result ++ ·)

/-- `ctx_id.removeprefix("acdp://").split("/", 1)[0]`. -/
def authorityOf (ctxId : String) : String :=
  let given := ctxId.toList
  let bare := if "acdp://".toList.isPrefixOf given then given.drop 7 else given
  String.ofList (bare.takeWhile (fun character => character ≠ '/'))

/-- The requests an operation sends, with the client that sends them. A script that does
not fit gives nothing. -/
def operate (jtiOf : CachedToken → Option String) (client : SendingClient) (operation : Operation)
    (scripts : List CallScript) : Option (List SentBy) :=
  match operation with
  | .call call =>
      match scripts with
      | script :: _ => (client.perform jtiOf call script).map client.sentBy
      | [] => none
  | .searchAll query pageSize maxPages =>
      client.searchPages jtiOf { query with limit := pageSize, cursor := none } maxPages.toNat
        scripts
  | .resolve ctxId authorityMap =>
      let owner := (authorityMap.lookup (authorityOf ctxId)).getD client
      match scripts with
      | script :: _ => (owner.perform jtiOf (.retrieve ctxId) script).map owner.sentBy
      | [] => none
  | .healthz =>
      some [{ client := client
              request := { template := client.getTemplate "/healthz" [], headers := [] } }]
  | .fetchDataRef world policy dataRef =>
      match dataRef.location with
      | none | some [] => some []
      | some location =>
          some ((fetch world policy location).gets.map (fun url =>
            { client := client
              request :=
                { template :=
                    { method := .get
                      url := PythonText.string url
                      params := []
                      content := none }
                  headers := [] } }))

def operateAll (jtiOf : CachedToken → Option String) (client : SendingClient) :
    List (Operation × List CallScript) → Option (List SentBy)
  | [] => some []
  | (operation, scripts) :: rest =>
      match client.operate jtiOf operation scripts with
      | none => none
      | some sent => (client.operateAll jtiOf rest).map (sent ++ ·)

end SendingClient

end AcdpPlayground.Client

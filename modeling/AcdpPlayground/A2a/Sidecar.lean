/-
`Sidecar.call` over one sidecar process: the lock, the counter, the line written to the
process and the line read back, cut at the awaits. The process reads its lines in order
and answers each with one line that carries the id of the request; what it answers is
arbitrary.

Lines and replies remember the call they belong to. The code does not have this mark: it
pairs by the position in the stream and then compares the ids. A reply longer than the
limit of the reader makes `readline` raise; what had not arrived by then stays in the
stream.
-/

import AcdpPlayground.Auth.TokenManager
import AcdpPlayground.Foundation.JsonValue
import AcdpPlayground.Foundation.KeyedTable
import AcdpPlayground.Foundation.TaskTable

namespace AcdpPlayground.A2a

open PythonText JsonValue TaskTable
open Auth (Lock)

/-! ### Requests and replies -/

structure Request where
  op : Text
  fields : List (Text × Json)

/-- `{"id": req_id, "op": op, **fields}`. -/
def Request.body (request : Request) (reqId : Nat) : Json :=
  .object (request.fields.foldl (fun members field => KeyedTable.insert members field.1 field.2)
    [(text "id", .integer reqId), (text "op", .string request.op)])

abbrev Handled := Except Text Json

def replyTo (request : Json) : Handled → Json
  | .ok result =>
      .object [(text "id", (request.get? "id").getD .null), (text "ok", .boolean true),
        (text "result", result)]
  | .error error =>
      .object [(text "id", (request.get? "id").getD .null), (text "ok", .boolean false),
        (text "error", .string error)]

/-- Which requests can be written, the bytes of a reply, and Python's reading of a float. -/
structure SidecarPlatform where
  encodes : Request → Bool
  size : Json → Nat
  floatIs : Text → Nat → Bool
  isZero : Text → Bool

/-- `value == number`. -/
def equalsNumber (platform : SidecarPlatform) (number : Nat) : Json → Bool
  | .integer value => value == number
  | .boolean value => (if value then 1 else 0) == number
  | .float literal => platform.floatIs literal number
  | _ => false

/-- `limit=16 * 1024 * 1024`. -/
def readLimit : Nat := 16 * 1024 * 1024

/-! ### Calls -/

inductive CallOutcome where
  | returned (result : Json)
  | failed (error : Json)
  | mismatch (given : Json) (reqId : Nat)
  | overrun
  | garbled
  | unencodable

/-- The lines of `call` after the lock is released. -/
def CallOutcome.ofReply (platform : SidecarPlatform) (reqId : Nat) (reply : Json) : CallOutcome :=
  let given := (reply.get? "id").getD .null
  if !equalsNumber platform reqId given then .mismatch given reqId
  else if !((reply.get? "ok").getD .null).truthy platform.isZero then
    .failed ((reply.get? "error").getD .null)
  else .returned ((reply.get? "result").getD .null)

inductive SidecarPhase where
  | waiting
  | draining (reqId : Nat)
  | reading (reqId : Nat)
  | ended (outcome : CallOutcome)
  | cancelled

structure SidecarCall where
  request : Request
  phase : SidecarPhase

structure RequestLine where
  call : Nat
  body : Json

/-- A reply in the pipe from the process: the whole line, or the rest of a line whose
beginning the reader has dropped. -/
structure ReplyLine where
  call : Nat
  reply : Json
  size : Nat
  whole : Bool

def SidecarPlatform.answer (platform : SidecarPlatform) (line : RequestLine) (result : Handled) :
    ReplyLine :=
  { call := line.call
    reply := replyTo line.body result
    size := platform.size (replyTo line.body result)
    whole := true }

structure SidecarState where
  lock : Lock
  nextId : Nat
  stdin : List RequestLine
  stdout : List ReplyLine
  calls : List SidecarCall
  handled : List (Nat × Handled)

def SidecarState.initial : SidecarState :=
  { lock := Lock.unlocked
    nextId := 1
    stdin := []
    stdout := []
    calls := []
    handled := [] }

namespace SidecarState

def setPhase (state : SidecarState) (index : Nat) (call : SidecarCall) (phase : SidecarPhase) :
    SidecarState :=
  { state with calls := state.calls.set index { call with phase := phase } }

/-- From the acquired lock to the first await: the id is taken even when the line cannot
be built. -/
def write (platform : SidecarPlatform) (state : SidecarState) (index : Nat) (call : SidecarCall)
    (waiters : List Nat) : SidecarState :=
  if platform.encodes call.request then
    { state.setPhase index call (.draining state.nextId) with
      lock := { holder := some index, waiters := waiters }
      nextId := state.nextId + 1
      stdin := state.stdin ++ [{ call := index, body := call.request.body state.nextId }] }
  else
    { state.setPhase index call (.ended .unencodable) with
      lock := { holder := none, waiters := waiters }
      nextId := state.nextId + 1 }

def arrive (state : SidecarState) (request : Request) : SidecarState :=
  { state with calls := state.calls ++ [{ request := request, phase := .waiting }] }

/-- A new task enters `call`. -/
def enter (platform : SidecarPlatform) (state : SidecarState) (request : Request) :
    SidecarState :=
  if state.lock.holder = none ∧ state.lock.waiters = [] then
    (state.arrive request).write platform state.calls.length
      { request := request, phase := .waiting } []
  else
    { state.arrive request with
      lock := { state.lock with waiters := state.lock.waiters ++ [state.calls.length] } }

/-- `readline`, the release of the lock and the rest of `call`. `arrived` is the number of
bytes of an overlong line that were there when the reader gave up, if its end was not. -/
def readline (platform : SidecarPlatform) (state : SidecarState) (index : Nat)
    (call : SidecarCall) (reqId : Nat) (item : ReplyLine) (later : List ReplyLine)
    (arrived : Option Nat) : SidecarState :=
  let released := { state with lock := state.lock.release }
  if item.size ≤ readLimit then
    let outcome := if item.whole then .ofReply platform reqId item.reply else .garbled
    { released.setPhase index call (.ended outcome) with stdout := later }
  else
    let left := match arrived with
      | none => later
      | some bytes => { item with size := item.size - bytes, whole := false } :: later
    { released.setPhase index call (.ended .overrun) with stdout := left }

/-- `CancelledError` at the await the call stands at. -/
def cancel (state : SidecarState) (index : Nat) (call : SidecarCall) : Option SidecarState :=
  match call.phase with
  | .waiting => some { state.setPhase index call .cancelled with lock := state.lock.forget index }
  | .draining _ | .reading _ =>
      some { state.setPhase index call .cancelled with lock := state.lock.release }
  | .ended _ | .cancelled => none

end SidecarState

inductive SidecarAction where
  | call (request : Request)
  | granted
  | drained (index : Nat)
  | handled (result : Handled)
  | readline (index : Nat) (arrived : Option Nat)
  | cancel (index : Nat)

open SidecarState in
def sidecarStep (platform : SidecarPlatform) (state : SidecarState) :
    SidecarAction → Option SidecarState
  | .call request => some (state.enter platform request)
  | .granted =>
      match state.lock.holder, state.lock.waiters with
      | none, index :: rest =>
          match state.calls[index]? with
          | some call => some (state.write platform index call rest)
          | none => none
      | _, _ => none
  | .drained index =>
      match state.calls[index]? with
      | some call =>
          match call.phase with
          | .draining reqId => some (state.setPhase index call (.reading reqId))
          | _ => none
      | none => none
  | .handled result =>
      match state.stdin with
      | line :: later =>
          some { state with
            stdin := later
            stdout := state.stdout ++ [platform.answer line result]
            handled := state.handled ++ [(line.call, result)] }
      | [] => none
  | .readline index arrived =>
      match state.calls[index]?, state.stdout with
      | some call, item :: later =>
          match call.phase with
          | .reading reqId =>
              if arrived.all (fun bytes => readLimit < bytes && bytes ≤ item.size) then
                some (state.readline platform index call reqId item later arrived)
              else none
          | _ => none
      | _, _ => none
  | .cancel index =>
      match state.calls[index]? with
      | some call => state.cancel index call
      | none => none

end AcdpPlayground.A2a

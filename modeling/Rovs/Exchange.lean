import Rovs.RpcConnection
import Rovs.Runs

/-!
# Calls over a JSON-RPC connection

A client makes calls over one connection, and a call may be abandoned while it waits.
The server answers every request once and in order, and it sends notifications at any
time.  What has been answered, which calls have ended and which were abandoned is kept,
so that a response can be compared with the request it answers.
-/

namespace Rovs.JsonRpc

open Json Outcome

/-! ### The server and the stream -/

/-- A request that the server has answered, and what the answer says. -/
structure Handled where
  request : Request
  result : Option Value
  error : Option RpcError

/-- The response has the id of the request. -/
def Handled.response (h : Handled) : Option Response :=
  h.request.id.map fun id => ⟨h.result, h.error, id⟩

/-- A message to the client; a response has the place of the request it answers. -/
abbrev Inbound := Option Nat × Message

/-- A call that waits, with the place of its request among all requests and its id. -/
structure Call where
  place : Nat
  id : U64
deriving DecidableEq, Repr

/-- A call that has ended, with the message that ended it. -/
structure Finished where
  call : Call
  reply : Inbound
  result : Result Value

structure Exchange where
  conn : Connection
  call : Option Call := none
  toServer : List Request := []
  handled : List Handled := []
  toClient : List Inbound := []
  notified : List Request := []
  abandoned : List Nat := []
  log : List Finished := []

namespace Exchange

/-- The requests that the client has sent. -/
def sent (s : Exchange) : List Request := s.handled.map Handled.request ++ s.toServer

/-- The notifications that the client has not read yet. -/
def unreadNotifications (s : Exchange) : List Request :=
  s.toClient.filterMap fun inbound => inbound.2.asRequest

/-- The client sends the request of a call. -/
def begin (s : Exchange) (method : String) (params : Value) : Exchange :=
  let (request, conn) := s.conn.request method params
  { s with
    conn := conn
    call := some ⟨s.sent.length, s.conn.nextId⟩
    toServer := s.toServer ++ [request] }

/-- The client drops its call. -/
def abandon (s : Exchange) (call : Call) : Exchange :=
  { s with call := none, abandoned := s.abandoned ++ [call.place] }

/-- The client has read a message and goes on waiting. -/
def await (s : Exchange) (conn : Connection) (rest : List Inbound) : Exchange :=
  { s with conn := conn, toClient := rest }

/-- The client has read the message that ends its call. -/
def finish (s : Exchange) (call : Call) (reply : Inbound) (rest : List Inbound)
    (result : Result Value) : Exchange :=
  { s with call := none, toClient := rest, log := s.log ++ [⟨call, reply, result⟩] }

/-- The server answers a request. -/
def answer (s : Exchange) (h : Handled) (rest : List Request) : Exchange :=
  { s with
    toServer := rest
    handled := s.handled ++ [h]
    toClient := s.toClient ++
      (h.response.map fun resp => (some s.handled.length, .response resp)).toList }

/-- The server sends a notification. -/
def notify (s : Exchange) (req : Request) : Exchange :=
  { s with
    toClient := s.toClient ++ [(none, .request req)]
    notified := s.notified ++ [req] }

end Exchange

inductive Event where
  | transact (method : String) (params : Value)
  | abandon
  | receive
  | answer (result : Option Value) (error : Option RpcError)
  | notify (req : Request)

/-- One step of the client or of the server; a new call needs the last one to have ended
    or to be abandoned. -/
def Exchange.step (s : Exchange) : Event → Option Exchange
  | .transact method params => if s.call = none then some (s.begin method params) else none
  | .abandon => s.call.map s.abandon
  | .receive =>
    match s.call, s.toClient with
    | some call, reply :: rest =>
      match s.conn.recvResponse call.id reply.2 with
      | .ok (.again conn) => some (s.await conn rest)
      | .ok (.leave resp) => some (s.finish call reply rest resp.value)
      | .err e => some (s.finish call reply rest (.err e))
      | .panic => some (s.finish call reply rest .panic)
      | .hang => some (s.finish call reply rest .hang)
    | _, _ => none
  | .answer result error =>
    match s.toServer with
    | request :: rest => some (s.answer ⟨request, result, error⟩ rest)
    | [] => none
  | .notify req => some (s.notify req)

/-- The states of the runs of calls over a connection. -/
abbrev Reachable (conn : Connection) : Exchange → Prop := Reaches Exchange.step { conn := conn }

/-! ### What a step does -/

/-- The result of a call that reads a response. -/
def Call.takes (call : Call) (resp : Response) : Result Value :=
  if resp.id = .number call.id then resp.value
  else .err (.unexpectedId call.id (resp.id.asU64.getD 0))

inductive Exchange.Moves (s : Exchange) : Exchange → Prop where
  | begin (method : String) (params : Value) (hidle : s.call = none) :
      s.Moves (s.begin method params)
  | abandon {call : Call} (hcall : s.call = some call) : s.Moves (s.abandon call)
  | await {call : Call} {origin : Option Nat} {req : Request} {rest : List Inbound}
      (hcall : s.call = some call) (hclient : s.toClient = (origin, .request req) :: rest) :
      s.Moves (s.await
        { s.conn with pendingNotifications := s.conn.pendingNotifications ++ [req] } rest)
  | finish {call : Call} {origin : Option Nat} {resp : Response} {rest : List Inbound}
      (hcall : s.call = some call) (hclient : s.toClient = (origin, .response resp) :: rest) :
      s.Moves (s.finish call (origin, .response resp) rest (call.takes resp))
  | answer {h : Handled} {rest : List Request} (hqueue : s.toServer = h.request :: rest) :
      s.Moves (s.answer h rest)
  | notify (req : Request) : s.Moves (s.notify req)

theorem Exchange.step_moves {s s' : Exchange} {e : Event} (h : s.step e = some s') :
    s.Moves s' := by
  cases e with
  | transact method params =>
    simp only [Exchange.step, Option.ite_none_right_eq_some] at h
    rw [← Option.some.inj h.2]
    exact .begin method params h.1
  | abandon =>
    rcases Option.map_eq_some_iff.mp h with ⟨call, hcall, rfl⟩
    exact .abandon hcall
  | receive =>
    simp only [Exchange.step] at h
    split at h
    · next call reply rest hcall hclient =>
      rcases reply with ⟨origin, msg⟩
      cases msg with
      | request req =>
        cases h
        exact .await hcall hclient
      | response resp =>
        by_cases hid : resp.id = .number call.id
        · have htakes : call.takes resp = resp.value := if_pos hid
          simp only [Connection.recvResponse, hid, ne_eq, not_true_eq_false, if_false] at h
          cases h
          rw [← htakes]
          exact .finish hcall hclient
        · have htakes : call.takes resp =
              .err (.unexpectedId call.id (resp.id.asU64.getD 0)) := if_neg hid
          simp only [Connection.recvResponse, ne_eq, hid, not_false_eq_true, if_true] at h
          cases h
          rw [← htakes]
          exact .finish hcall hclient
    · cases h
  | answer result error =>
    simp only [Exchange.step] at h
    split at h
    · next request rest hqueue =>
      cases h
      exact .answer hqueue
    · cases h
  | notify req =>
    cases h
    exact .notify req

end Rovs.JsonRpc

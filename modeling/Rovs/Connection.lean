import Rovs.VConn

/-!
# A connection between a client and a switch

The client is a `VConn`, and two queues lead to the switch and back.  The switch
handles messages in order: it may reject a flow modification with an error, it
answers a barrier request, and it may send messages of its own at any time.  What
has been handled and which calls have ended is kept, so that a reply can be
compared with the request it answers.
-/

namespace Rovs.OpenFlow

open Outcome

/-! ### The switch -/

/-- What an error message says about a rejected flow modification. -/
structure Rejection where
  errorType : U16
  code : U16
  data : Bytes
deriving DecidableEq, Repr

def Rejection.body (r : Rejection) : Bytes := be r.errorType ++ (be r.code ++ r.data)

/-- A message that the switch has handled, and whether it rejected it. -/
structure Handled where
  request : Message
  rejection : Option Rejection
deriving DecidableEq, Repr

/-- The answer of the switch: an error for a rejected flow modification and a reply
    for a barrier request, with the transaction id of the request. -/
def Handled.answer (h : Handled) : Option Message :=
  match h.request.header.msgType with
  | .flowMod => h.rejection.map fun r =>
      Message.new h.request.header.version .error h.request.header.xid r.body
  | .barrierRequest =>
      some (Message.new h.request.header.version .barrierReply h.request.header.xid [])
  | _ => none

def Handled.Rejected (h : Handled) : Prop :=
  h.request.header.msgType = .flowMod ∧ h.rejection.isSome = true

/-! ### The client and the queues -/

/-- A call that waits for an answer, with the place of its first request among all
    messages to the switch and the transaction ids of its requests. -/
inductive Call where
  | sendFlowSync (first : Nat) (flowXid barrierXid : U32)
  | barrier (first : Nat) (barrierXid : U32)
deriving DecidableEq, Repr

def Call.first : Call → Nat
  | .sendFlowSync first _ _ => first
  | .barrier first _ => first

/-- The place of the barrier request. -/
def Call.last : Call → Nat
  | .sendFlowSync first _ _ => first + 1
  | .barrier first _ => first

/-- A message to the client; a reply has the place of the request it answers. -/
abbrev Reply := Option Nat × Message

/-- A call that has ended, with the message that ended it. -/
structure Finished where
  call : Call
  reply : Reply
  result : Result Unit
deriving DecidableEq, Repr

structure Connection where
  conn : VConn
  call : Option Call := none
  toSwitch : List Message := []
  handled : List Handled := []
  toClient : List Reply := []
  log : List Finished := []
deriving DecidableEq, Repr

namespace Connection

def sent (s : Connection) : List Message := s.handled.map Handled.request ++ s.toSwitch

/-- The client writes messages. -/
def write (s : Connection) (conn : VConn) (call : Option Call) (msgs : List Message) :
    Connection :=
  { s with conn := conn, call := call, toSwitch := s.toSwitch ++ msgs }

/-- The client has read a message and goes on waiting. -/
def await (s : Connection) (rest : List Reply) (msgs : List Message) : Connection :=
  { s with toClient := rest, toSwitch := s.toSwitch ++ msgs }

/-- The client has read the message that ends its call. -/
def finish (s : Connection) (call : Call) (reply : Reply) (rest : List Reply)
    (result : Result Unit) : Connection :=
  { s with toClient := rest, call := none, log := s.log ++ [⟨call, reply, result⟩] }

/-- The switch handles a message. -/
def handle (s : Connection) (h : Handled) (rest : List Message) : Connection :=
  { s with
    toSwitch := rest
    handled := s.handled ++ [h]
    toClient := s.toClient ++ (h.answer.map fun msg => (some s.handled.length, msg)).toList }

end Connection

inductive Event where
  | sendFlow (flow : Flow)
  | sendFlowSync (flow : Flow)
  | barrier
  | receive
  | handle (rejection : Option Rejection)
  | unsolicited (msg : Message)

/-- One step of the client or of the switch; a new call needs the last one to have
    ended. -/
def Connection.step (s : Connection) : Event → Option Connection
  | .sendFlow flow =>
      if s.call = none then
        let (msg, conn) := s.conn.sendFlow flow
        some (s.write conn none [msg])
      else none
  | .sendFlowSync flow =>
      if s.call = none then
        let (flowMsg, barrierMsg, conn) := s.conn.sendFlowSync flow
        let call := Call.sendFlowSync s.sent.length flowMsg.header.xid barrierMsg.header.xid
        some (s.write conn call [flowMsg, barrierMsg])
      else none
  | .barrier =>
      if s.call = none then
        let (msg, conn) := s.conn.barrier
        some (s.write conn (some (.barrier s.sent.length msg.header.xid)) [msg])
      else none
  | .receive =>
      match s.call, s.toClient with
      | some call, reply :: rest =>
          match s.conn.awaitBarrier reply.2 with
          | .ok (.again msgs) => some (s.await rest msgs)
          | .ok (.leave ()) => some (s.finish call reply rest (.ok ()))
          | .err e => some (s.finish call reply rest (.err e))
          | .panic => some (s.finish call reply rest .panic)
          | .hang => some (s.finish call reply rest .hang)
      | _, _ => none
  | .handle rejection =>
      match s.toSwitch with
      | request :: rest => some (s.handle ⟨request, rejection⟩ rest)
      | [] => none
  | .unsolicited msg =>
      if msg.header.msgType = .error ∨ msg.header.msgType = .barrierReply then none
      else some { s with toClient := s.toClient ++ [(none, msg)] }

/-- A connection with nothing under way. -/
def Connection.start (conn : VConn) : Connection := { conn := conn }

/-- The states of the runs from a fresh connection. -/
inductive Reachable (conn : VConn) : Connection → Prop where
  | start : Reachable conn (Connection.start conn)
  | step {s s' : Connection} (e : Event) (hs : Reachable conn s) (h : s.step e = some s') :
      Reachable conn s'

theorem Reachable.run {conn : VConn} {s s' : Connection} (hs : Reachable conn s)
    {events : List Event} (h : events.foldlM Connection.step s = some s') :
    Reachable conn s' := by
  induction events generalizing s with
  | nil =>
    cases h
    exact hs
  | cons e events ih =>
    rw [List.foldlM_cons] at h
    obtain ⟨s₁, hstep, hrest⟩ := Option.bind_eq_some_iff.mp h
    exact ih (.step e hs hstep) hrest

/-! ### What a step does -/

/-- What a state can become. -/
inductive Connection.Moves (s : Connection) : Connection → Prop where
  | sendFlow (flow : Flow) (hidle : s.call = none) :
      s.Moves (s.write s.conn.nextXid.2 none [flow.toMessage s.conn.version s.conn.xid])
  | sendFlowSync (flow : Flow) (hidle : s.call = none) :
      s.Moves (s.write s.conn.nextXid.2.nextXid.2
        (some (.sendFlowSync s.sent.length s.conn.xid (s.conn.xid + 1)))
        [flow.toMessage s.conn.version s.conn.xid, s.conn.barrierRequest (s.conn.xid + 1)])
  | barrier (hidle : s.call = none) :
      s.Moves (s.write s.conn.nextXid.2 (some (.barrier s.sent.length s.conn.xid))
        [s.conn.barrierRequest s.conn.xid])
  | await {call : Call} {reply : Reply} {rest : List Reply} (hcall : s.call = some call)
      (hclient : s.toClient = reply :: rest) (herror : reply.2.header.msgType ≠ .error)
      (hbarrier : reply.2.header.msgType ≠ .barrierReply) :
      s.Moves (s.await rest
        (if reply.2.header.msgType = .echoRequest then [s.conn.echoReply reply.2] else []))
  | finish {call : Call} {reply : Reply} {rest : List Reply} (hcall : s.call = some call)
      (hclient : s.toClient = reply :: rest)
      (hend : reply.2.header.msgType = .error ∨ reply.2.header.msgType = .barrierReply) :
      s.Moves (s.finish call reply rest (checkError reply.2))
  | handle {h : Handled} {rest : List Message} (hqueue : s.toSwitch = h.request :: rest) :
      s.Moves (s.handle h rest)
  | unsolicited {msg : Message} (herror : msg.header.msgType ≠ .error)
      (hbarrier : msg.header.msgType ≠ .barrierReply) :
      s.Moves { s with toClient := s.toClient ++ [(none, msg)] }

theorem Connection.step_moves {s s' : Connection} {e : Event} (h : s.step e = some s') :
    s.Moves s' := by
  cases e with
  | sendFlow flow =>
    simp only [Connection.step, Option.ite_none_right_eq_some] at h
    rw [← Option.some.inj h.2]
    exact .sendFlow flow h.1
  | sendFlowSync flow =>
    simp only [Connection.step, Option.ite_none_right_eq_some] at h
    rw [← Option.some.inj h.2]
    exact .sendFlowSync flow h.1
  | barrier =>
    simp only [Connection.step, Option.ite_none_right_eq_some] at h
    rw [← Option.some.inj h.2]
    exact .barrier h.1
  | receive =>
    simp only [Connection.step] at h
    split at h
    · next call reply rest hcall hclient =>
      rcases awaitBarrier_cases s.conn reply.2 with ⟨htype, e, he, hawait⟩ |
        ⟨htype, he, hawait⟩ | ⟨herror, hbarrier, hawait⟩
      · rw [hawait] at h
        cases h
        rw [← he]
        exact .finish hcall hclient (.inl htype)
      · rw [hawait] at h
        cases h
        rw [← he]
        exact .finish hcall hclient (.inr htype)
      · rw [hawait] at h
        cases h
        exact .await hcall hclient herror hbarrier
    · cases h
  | handle rejection =>
    simp only [Connection.step] at h
    split at h
    · next request rest hqueue =>
      cases h
      exact .handle hqueue
    · cases h
  | unsolicited msg =>
    simp only [Connection.step, Option.ite_none_left_eq_some, not_or] at h
    rw [← Option.some.inj h.2]
    exact .unsolicited h.1.1 h.1.2

end Rovs.OpenFlow

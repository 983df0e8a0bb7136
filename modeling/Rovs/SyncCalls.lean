import Rovs.SwitchLink

/-!
# Requests with one reply (`rovs-openflow/src/vconn.rs`)

A switch sends messages of its own at any time: keep-alives, packets, port changes and
removed flows.  `barrier` and `send_flow_sync` wait behind them for the reply, and answer the
keep-alives.  `echo` looks at the next message only: whatever the switch sends before its
reply is taken for the reply.

`undisturbed_iff` says of the three which messages in front of the reply make a difference.
-/

namespace Rovs.OpenFlow

open Outcome

/-- What `VConn::echo` writes. -/
def VConn.echo (conn : VConn) : Message × VConn :=
  let (xid, conn) := conn.nextXid
  (Message.new conn.version .echoRequest xid [], conn)

/-- What `VConn::echo` does with the message it reads. -/
def checkEcho (xid : U32) (reply : Message) : Result Unit :=
  if reply.header.msgType ≠ .echoReply then .err (.invalidMessage "expected EchoReply")
  else if reply.header.xid ≠ xid then .err (.invalidMessage "xid mismatch")
  else pure ()

/-- The loop body of `barrier` and of `send_flow_sync`, which has no variables. -/
def barrierPass (conn : VConn) (_ : Unit) (reply : Message) :
    Result (Pass (Unit × List Message) Unit) := do
  match ← conn.awaitBarrier reply with
  | .again msgs => pure (.again ((), msgs))
  | .leave result => pure (.leave result)

namespace SwitchLink

def echo : Program SwitchLink Error Unit := do
  let request ← request VConn.echo
  let reply ← recvMessage
  Program.lift (checkEcho request.header.xid reply)

def barrier : Program SwitchLink Error Unit := do
  let _ ← request VConn.barrier
  awaitReply barrierPass ()

def sendFlowSync (flow : Flow) : Program SwitchLink Error Unit := do
  let _ ← request fun conn => conn.sendFlow flow
  let _ ← request VConn.barrier
  awaitReply barrierPass ()

end SwitchLink

inductive SyncCall where
  | echo
  | barrier
  | sendFlowSync (flow : Flow)

namespace SyncCall

open SwitchLink

def run : SyncCall → Program SwitchLink Error Unit
  | .echo => SwitchLink.echo
  | .barrier => SwitchLink.barrier
  | .sendFlowSync flow => SwitchLink.sendFlowSync flow

/-- The requests that a call writes, and the connection behind them. -/
def requests (conn : VConn) : SyncCall → List Message × VConn
  | .echo => ([conn.echo.1], conn.echo.2)
  | .barrier => ([conn.barrier.1], conn.barrier.2)
  | .sendFlowSync flow =>
      ([(conn.sendFlow flow).1, (conn.sendFlow flow).2.barrier.1],
        (conn.sendFlow flow).2.barrier.2)

/-- A message that the switch sends without being asked. -/
structure Async (msg : Message) : Prop where
  framed : msg.Framed
  msgType : msg.header.msgType = .echoRequest ∨ msg.header.msgType = .packetIn ∨
    msg.header.msgType = .portStatus ∨ msg.header.msgType = .flowRemoved

/-- The call comes to the same result when messages come before what the link holds, and
    answers the keep-alives among them. -/
def Undisturbed (call : SyncCall) (link : SwitchLink) (msgs : List Message) : Prop :=
  (call.run { link with inbound := wire msgs ++ link.inbound }).1 = (call.run link).1 ∧
    ∃ later, (call.run link).2.sent = link.sent ++ (call.requests link.conn).1 ++ later ∧
      (call.run { link with inbound := wire msgs ++ link.inbound }).2.sent =
        link.sent ++ (call.requests link.conn).1 ++ msgs.flatMap (keepAlive link.conn) ++ later

/-! ### Calls that wait -/

theorem Async.barrierPass {msg : Message} (h : Async msg) (conn : VConn) :
    barrierPass conn () msg = .ok (.again ((), keepAlive conn msg)) := by
  have herror : msg.header.msgType ≠ .error := by
    rcases h.msgType with h | h | h | h <;> rw [h] <;> nofun
  have hreply : msg.header.msgType ≠ .barrierReply := by
    rcases h.msgType with h | h | h | h <;> rw [h] <;> nofun
  rcases awaitBarrier_cases conn msg with ⟨h, -⟩ | ⟨h, -⟩ | ⟨-, -, hawait⟩
  · exact absurd h herror
  · exact absurd h hreply
  · rw [OpenFlow.barrierPass, hawait]
    rfl

theorem awaitBarrier_undisturbed {msgs : List Message} (hmsgs : ∀ msg ∈ msgs, Async msg)
    (conn : VConn) (inbound : Bytes) (sent : List Message) :
    (awaitReply barrierPass () ⟨conn, wire msgs ++ inbound, sent⟩).1 =
        (awaitReply barrierPass () ⟨conn, inbound, sent⟩).1 ∧
      ∃ later, (awaitReply barrierPass () ⟨conn, inbound, sent⟩).2.sent = sent ++ later ∧
        (awaitReply barrierPass () ⟨conn, wire msgs ++ inbound, sent⟩).2.sent =
          sent ++ msgs.flatMap (keepAlive conn) ++ later := by
  have hbusy := awaitReply_skips (fun msg hmsg => (hmsgs msg hmsg).framed)
    (fun msg hmsg => (hmsgs msg hmsg).barrierPass conn) inbound sent
  have hframe := fun before => awaitReply_behind before barrierPass () ⟨conn, inbound, []⟩
  simp only [behind, List.append_nil] at hframe
  rw [hbusy, hframe sent, hframe]
  exact ⟨rfl, _, rfl, rfl⟩

/-- A call that waits behind its requests. -/
theorem run_waits {call : SyncCall} (hcall : call ≠ .echo) (link : SwitchLink) :
    call.run link = awaitReply barrierPass ()
      ⟨(call.requests link.conn).2, link.inbound, link.sent ++ (call.requests link.conn).1⟩ := by
  cases call with
  | echo => exact absurd rfl hcall
  | barrier => rfl
  | sendFlowSync flow =>
    have hsent : link.sent ++ ((sendFlowSync flow).requests link.conn).1 =
        link.sent ++ [(link.conn.sendFlow flow).1] ++ [(link.conn.sendFlow flow).2.barrier.1] := by
      rw [List.append_assoc]
      rfl
    rw [hsent]
    rfl

theorem waiting_undisturbed {call : SyncCall} (hcall : call ≠ .echo) {msgs : List Message}
    (hmsgs : ∀ msg ∈ msgs, Async msg) (link : SwitchLink) : Undisturbed call link msgs := by
  have hkeep : keepAlive (call.requests link.conn).2 = keepAlive link.conn := by
    cases call <;> rfl
  have h := awaitBarrier_undisturbed hmsgs (call.requests link.conn).2 link.inbound
    (link.sent ++ (call.requests link.conn).1)
  rw [hkeep] at h
  rw [Undisturbed, run_waits hcall, run_waits hcall]
  exact h

/-! ### `echo` -/

section Echo

variable {msg : Message}

/-- `echo` takes the next message for its reply. -/
theorem echo_next (hframed : msg.Framed) (conn : VConn) (rest : Bytes) (sent : List Message) :
    SyncCall.run .echo ⟨conn, msg.encode ++ rest, sent⟩ =
      (checkEcho conn.echo.1.header.xid msg, ⟨conn.echo.2, rest, sent ++ [conn.echo.1]⟩) := by
  have hrequest : SwitchLink.request VConn.echo ⟨conn, msg.encode ++ rest, sent⟩ =
      (.ok conn.echo.1, ⟨conn.echo.2, msg.encode ++ rest, sent ++ [conn.echo.1]⟩) := rfl
  have hrecv := recvMessage_framed hframed conn.echo.2 rest (sent ++ [conn.echo.1])
  rw [SyncCall.run, SwitchLink.echo, Program.bind_ok hrequest, Program.bind_ok hrecv]
  rfl

theorem checkEcho_other (xid : U32) (h : msg.header.msgType ≠ .echoReply) :
    checkEcho xid msg = .err (.invalidMessage "expected EchoReply") := if_pos h

theorem checkEcho_reply (xid : U32) (h : msg.header.msgType = .echoReply) :
    checkEcho xid msg ≠ .err (.invalidMessage "expected EchoReply") := by
  rw [checkEcho, if_neg (not_not_intro h)]
  split
  · simp
  · nofun

theorem Async.ne_echoReply (h : Async msg) : msg.header.msgType ≠ .echoReply := by
  rcases h.msgType with h | h | h | h <;> rw [h] <;> nofun

theorem flatMap_keepAlive_eq_nil (conn : VConn) (msgs : List Message) :
    msgs.flatMap (keepAlive conn) = [] ↔ ∀ msg ∈ msgs, msg.header.msgType ≠ .echoRequest := by
  rw [List.flatMap_eq_nil_iff]
  refine forall₂_congr fun msg _ => ?_
  rw [keepAlive]
  split
  · next h => simp [h]
  · next h => simp [h]

/-- With other messages before the reply, `echo` fails on the first of them, and it answers
    none. -/
theorem echo_undisturbed_iff {msgs : List Message} (hmsgs : ∀ msg ∈ msgs, Async msg)
    (hne : msgs ≠ []) {reply : Message} (hreply : reply.Framed) (conn : VConn) (rest : Bytes)
    (sent : List Message) :
    Undisturbed .echo ⟨conn, reply.encode ++ rest, sent⟩ msgs ↔
      reply.header.msgType ≠ .echoReply ∧
        ∀ msg ∈ msgs, msg.header.msgType ≠ .echoRequest := by
  obtain ⟨msg, msgs, rfl⟩ := List.exists_cons_of_ne_nil hne
  have hmsg := hmsgs msg List.mem_cons_self
  have hquiet := echo_next hreply conn rest sent
  have hbusy := echo_next hmsg.framed conn (wire msgs ++ (reply.encode ++ rest)) sent
  rw [checkEcho_other _ hmsg.ne_echoReply, ← List.append_assoc, ← wire_cons] at hbusy
  rw [Undisturbed, hquiet, hbusy, ← flatMap_keepAlive_eq_nil conn]
  constructor
  · rintro ⟨hresult, later, hsent, hanswers⟩
    refine ⟨fun h => checkEcho_reply _ h hresult.symm, ?_⟩
    have hlength := congrArg List.length (hsent.symm.trans hanswers)
    simp only [List.length_append] at hlength
    exact List.eq_nil_of_length_eq_zero (by omega)
  · rintro ⟨hother, hnone⟩
    rw [checkEcho_other _ hother, hnone]
    exact ⟨rfl, [], by simp; rfl⟩

end Echo

/-- **Messages before the reply change nothing exactly if the call waits for its reply, or
    there are none, or neither the reply nor a keep-alive is one that `echo` had to find.** -/
theorem undisturbed_iff (call : SyncCall) (conn : VConn) (sent : List Message) (rest : Bytes)
    {reply : Message} (hreply : reply.Framed) {msgs : List Message}
    (hmsgs : ∀ msg ∈ msgs, Async msg) :
    Undisturbed call ⟨conn, reply.encode ++ rest, sent⟩ msgs ↔
      call ≠ .echo ∨ msgs = [] ∨ (reply.header.msgType ≠ .echoReply ∧
        ∀ msg ∈ msgs, msg.header.msgType ≠ .echoRequest) := by
  by_cases hcall : call = .echo
  · subst hcall
    by_cases hne : msgs = []
    · subst hne
      refine ⟨fun _ => .inr (.inl rfl), fun _ => ⟨rfl, [], ?_⟩⟩
      rw [echo_next hreply]
      simp [wire, requests, echo_next hreply]
    · rw [echo_undisturbed_iff hmsgs hne hreply]
      simp [hne]
  · exact ⟨fun _ => .inl hcall, fun _ => waiting_undisturbed hcall hmsgs _⟩

/-- A connection on which one message has been sent. -/
def greeted : VConn := ⟨.of13, 2⟩

/-- The replies to the request of `barrier` and to that of `echo`. -/
def released : Message := Message.new .of13 .barrierReply 2 []

def echoed : Message := Message.new .of13 .echoReply 2 []

/-- A keep-alive of the switch. -/
def probe : Message := Message.new .of13 .echoRequest 9 [1, 2]

theorem probe_async : Async probe := ⟨by decide, .inl rfl⟩

theorem undisturbed_barrier : Undisturbed .barrier ⟨greeted, released.encode, []⟩ [probe] := by
  have h := undisturbed_iff .barrier greeted [] [] (show released.Framed by decide)
    (List.forall_mem_singleton.mpr probe_async)
  rw [List.append_nil] at h
  exact h.mpr (.inl nofun)

theorem probe_disturbs : ¬ ∀ (call : SyncCall) (conn : VConn) (reply : Message)
    (msgs : List Message), reply.Framed → (∀ msg ∈ msgs, Async msg) →
      Undisturbed call ⟨conn, reply.encode, []⟩ msgs := by
  intro h
  have hecho := (h .echo greeted echoed [probe] (by decide)
    (List.forall_mem_singleton.mpr probe_async)).1
  revert hecho
  decide

end SyncCall

end Rovs.OpenFlow

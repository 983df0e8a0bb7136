import Rovs.Flow

/-!
# Virtual connections (`rovs-openflow/src/vconn.rs`)

A method of `VConn` writes its requests and, when it waits for an answer, reads one
message after the other until it is done.  It is embedded as what it writes at the
start and what it does with one message it reads: return, or keep on waiting after
having written something.
-/

namespace Rovs.OpenFlow

open Outcome

/-- An OpenFlow virtual connection; its stream is the pair of queues around it. -/
structure VConn where
  version : Version
  xid : U32
deriving DecidableEq, Repr

def VConn.nextXid (conn : VConn) : U32 × VConn := (conn.xid, { conn with xid := conn.xid + 1 })

def checkError (msg : Message) : Result Unit :=
  if msg.header.msgType = .error then do
    let ofError ← OfError.parse msg.body
    .err (.ofError ofError)
  else pure ()

def VConn.barrierRequest (conn : VConn) (xid : U32) : Message :=
  Message.new conn.version .barrierRequest xid []

/-- The answer to a keep-alive. -/
def VConn.echoReply (conn : VConn) (request : Message) : Message :=
  Message.new conn.version .echoReply request.header.xid request.body

def VConn.sendFlow (conn : VConn) (flow : Flow) : Message × VConn :=
  let (xid, conn) := conn.nextXid
  (flow.toMessage conn.version xid, conn)

/-- What `VConn::send_flow_sync` writes: the flow and a barrier. -/
def VConn.sendFlowSync (conn : VConn) (flow : Flow) : Message × Message × VConn :=
  let (flowXid, conn) := conn.nextXid
  let flowMsg := flow.toMessage conn.version flowXid
  let (barrierXid, conn) := conn.nextXid
  (flowMsg, conn.barrierRequest barrierXid, conn)

/-- What `VConn::barrier` writes. -/
def VConn.barrier (conn : VConn) : Message × VConn :=
  let (xid, conn) := conn.nextXid
  (conn.barrierRequest xid, conn)

/-- The loop body of `send_flow_sync`, which is also that of `barrier`: the messages
    written before the next one is read, or the end of the call. -/
def VConn.awaitBarrier (conn : VConn) (reply : Message) : Result (Pass (List Message) Unit) := do
  checkError reply
  if reply.header.msgType = .barrierReply then pure (.leave ())
  else if reply.header.msgType = .echoRequest then pure (.again [conn.echoReply reply])
  -- other asynchronous messages are skipped
  else pure (.again [])

section AwaitBarrier

variable {reply : Message}

theorem checkError_of_ne (h : reply.header.msgType ≠ .error) : checkError reply = .ok () :=
  if_neg h

theorem checkError_error (h : reply.header.msgType = .error) : ∃ e, checkError reply = .err e := by
  rw [checkError, if_pos h]
  rcases returns_iff.mp (OfError.parse_returns reply.body) with ⟨e, he⟩ | ⟨e, he⟩
  · exact ⟨.ofError e, by rw [he]; rfl⟩
  · exact ⟨e, by rw [he]; rfl⟩

/-- An error message and a barrier reply end the call; after every other message it goes
    on waiting, and keep-alives are answered. -/
theorem awaitBarrier_cases (conn : VConn) (reply : Message) :
    (reply.header.msgType = .error ∧
      ∃ e, checkError reply = .err e ∧ conn.awaitBarrier reply = .err e) ∨
    (reply.header.msgType = .barrierReply ∧
      checkError reply = .ok () ∧ conn.awaitBarrier reply = .ok (.leave ())) ∨
    (reply.header.msgType ≠ .error ∧ reply.header.msgType ≠ .barrierReply ∧
      conn.awaitBarrier reply = .ok (.again
        (if reply.header.msgType = .echoRequest then [conn.echoReply reply] else []))) := by
  by_cases herror : reply.header.msgType = .error
  · obtain ⟨e, he⟩ := checkError_error herror
    exact .inl ⟨herror, e, he, by rw [VConn.awaitBarrier, he]; rfl⟩
  · have hcheck := checkError_of_ne herror
    by_cases hbarrier : reply.header.msgType = .barrierReply
    · refine .inr (.inl ⟨hbarrier, hcheck, ?_⟩)
      rw [VConn.awaitBarrier, hcheck, ok_bind, if_pos hbarrier]
      rfl
    · refine .inr (.inr ⟨herror, hbarrier, ?_⟩)
      rw [VConn.awaitBarrier, hcheck, ok_bind, if_neg hbarrier]
      split <;> rfl

end AwaitBarrier

end Rovs.OpenFlow

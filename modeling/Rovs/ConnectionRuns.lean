import Mathlib.Data.List.Nodup
import Rovs.FlowReplies
import Rovs.LengthFields
import Rovs.MessageStream
import Rovs.PacketIn
import Rovs.SyncCalls

/-!
# Runs of calls on a connection (`rovs-openflow/src/vconn.rs`)

A connection begins with a handshake, and then its user makes any calls in any order while the
switch sends any bytes.  What a call writes is of two kinds.  Its requests go out at once, with
the next transaction ids and the version of the handshake, and do not depend on what the switch
sends.  The other messages answer the keep-alives that the call reads.

`connection_account` is the account of a whole run.  Every call comes down to one step,
`Served`, which says what it read and wrote, and the account adds the steps up.
-/

namespace Rovs.OpenFlow

open Outcome

/-! ### The calls -/

/-- The lower of two versions. -/
def Version.min (version peer : Version) : Version :=
  if version.wireVersion ≤ peer.wireVersion then version else peer

/-- What `VConn::handshake` writes. -/
def VConn.hello (conn : VConn) : Message × VConn :=
  let (xid, conn) := conn.nextXid
  (Message.new .of13 .hello xid [], conn)

/-- What `VConn::send_packet_out` writes. -/
def VConn.sendPacketOut (conn : VConn) (packetOut : PacketOut) : Message × VConn :=
  let (xid, conn) := conn.nextXid
  (packetOut.toMessage conn.version xid, conn)

/-- The loop body of `recv_packet_in`. -/
def VConn.awaitPacketIn (conn : VConn) (_ : Unit) (msg : Message) :
    Result (Pass (Unit × List Message) PacketInMessage) := do
  checkError msg
  if msg.header.msgType = .echoRequest then pure (.again ((), [conn.echoReply msg]))
  else if msg.header.msgType = .packetIn then do
    let packetIn ← PacketInMessage.parse msg.body
    pure (.leave packetIn)
  else pure (.again ((), []))

namespace SwitchLink

def handshake : Program SwitchLink Error Unit := do
  let _ ← request VConn.hello
  let reply ← recvMessage
  if reply.header.msgType ≠ .hello then
    Program.lift (.err (.invalidMessage "expected Hello"))
  else
    Program.modify fun link =>
      { link with conn := { link.conn with
          version := link.conn.version.min reply.header.version } }

/-- `VConn::connect` on a stream that has been opened. -/
def connect (inbound : Bytes) : Outcome Error Unit × SwitchLink :=
  handshake ⟨⟨.of13, 1⟩, inbound, []⟩

def sendFlow (flow : Flow) : Program SwitchLink Error Unit := do
  let _ ← request fun conn => conn.sendFlow flow
  return ()

def sendPacketOut (packetOut : PacketOut) : Program SwitchLink Error Unit := do
  let _ ← request fun conn => conn.sendPacketOut packetOut
  return ()

def recvPacketIn : Program SwitchLink Error PacketInMessage :=
  awaitReply VConn.awaitPacketIn ()

def tryRecvPacketIn : Program SwitchLink Error (Option PacketInMessage) := do
  let msg ← recvMessage
  Program.lift (checkError msg)
  if msg.header.msgType = .echoRequest then
    let echoReply ← Program.read fun link => .ok (link.conn.echoReply msg)
    sendMessage echoReply
    return none
  else if msg.header.msgType = .packetIn then
    let packetIn ← Program.lift (PacketInMessage.parse msg.body)
    return some packetIn
  else return none

end SwitchLink

inductive VConnCall where
  | sendFlow (flow : Flow)
  | sendFlowSync (flow : Flow)
  | echo
  | barrier
  | dumpFlowsFiltered (request : FlowStatsRequest)
  | recvPacketIn
  | tryRecvPacketIn
  | monitorFlows (request : FlowMonitorRequest)
  | recvFlowUpdates
  | sendPacketOut (packetOut : PacketOut)

/-- What its user does on a connection, and what the switch does. -/
inductive LinkEvent where
  | call (call : VConnCall)
  | arrive (bytes : Bytes)

namespace VConnCall

open SwitchLink

/-- The state behind a call, however it ends. -/
def run (link : SwitchLink) : VConnCall → SwitchLink
  | .sendFlow flow => (SwitchLink.sendFlow flow link).2
  | .sendFlowSync flow => (SwitchLink.sendFlowSync flow link).2
  | .echo => (SwitchLink.echo link).2
  | .barrier => (SwitchLink.barrier link).2
  | .dumpFlowsFiltered request => (SwitchLink.dumpFlowsFiltered request link).2
  | .recvPacketIn => (SwitchLink.recvPacketIn link).2
  | .tryRecvPacketIn => (SwitchLink.tryRecvPacketIn link).2
  | .monitorFlows request => (SwitchLink.monitorFlows request link).2
  | .recvFlowUpdates => (SwitchLink.recvFlowUpdates link).2
  | .sendPacketOut packetOut => (SwitchLink.sendPacketOut packetOut link).2

/-- The requests of a call, and the connection behind them. -/
def requests (conn : VConn) : VConnCall → List Message × VConn
  | .sendFlow flow => ([(conn.sendFlow flow).1], (conn.sendFlow flow).2)
  | .sendFlowSync flow =>
      ([(conn.sendFlow flow).1, (conn.sendFlow flow).2.barrier.1],
        (conn.sendFlow flow).2.barrier.2)
  | .echo => ([conn.echo.1], conn.echo.2)
  | .barrier => ([conn.barrier.1], conn.barrier.2)
  | .dumpFlowsFiltered request =>
      ([(conn.dumpFlowsFiltered request).1], (conn.dumpFlowsFiltered request).2)
  | .monitorFlows request => ([request.message conn.version conn.xid], conn.nextXid.2)
  | .sendPacketOut packetOut =>
      ([(conn.sendPacketOut packetOut).1], (conn.sendPacketOut packetOut).2)
  | .recvPacketIn => ([], conn)
  | .tryRecvPacketIn => ([], conn)
  | .recvFlowUpdates => ([], conn)

/-- The call answers the keep-alives that it reads; `echo` takes one for its reply. -/
def answers : VConnCall → Bool
  | .echo => false
  | _ => true

/-- What a call asks the switch for, on a connection of a version: its messages in the order in
    which they go out, each still without its transaction id. -/
def asks (version : Version) : VConnCall → List (U32 → Message)
  | .sendFlow flow => [flow.toMessage version]
  | .sendFlowSync flow =>
      [flow.toMessage version, fun xid => Message.new version .barrierRequest xid []]
  | .echo => [fun xid => Message.new version .echoRequest xid []]
  | .barrier => [fun xid => Message.new version .barrierRequest xid []]
  | .dumpFlowsFiltered request => [request.toMessage version]
  | .monitorFlows request => [request.message version]
  | .sendPacketOut packetOut => [packetOut.toMessage version]
  | .recvPacketIn => []
  | .tryRecvPacketIn => []
  | .recvFlowUpdates => []

end VConnCall

def LinkEvent.step (link : SwitchLink) : LinkEvent → SwitchLink
  | .call c => c.run link
  | .arrive bytes => { link with inbound := link.inbound ++ bytes }

def LinkEvent.call? : LinkEvent → Option VConnCall
  | .call c => some c
  | .arrive _ => none

/-- A run, with the messages that each call has read. -/
inductive Runs :
    SwitchLink → List LinkEvent → List (VConnCall × List Message) → SwitchLink → Prop where
  | nil (link : SwitchLink) : Runs link [] [] link
  | arrive {link link' : SwitchLink} {bytes : Bytes} {events : List LinkEvent}
      {reads : List (VConnCall × List Message)}
      (rest : Runs (LinkEvent.step link (.arrive bytes)) events reads link') :
      Runs link (.arrive bytes :: events) reads link'
  | call {link link' : SwitchLink} {call : VConnCall} {events : List LinkEvent}
      {reads : List (VConnCall × List Message)} (k : Nat)
      (takes : (call.run link).inbound = (SwitchLink.after k link).inbound)
      (rest : Runs (LinkEvent.step link (.call call)) events reads link') :
      Runs link (.call call :: events) ((call, SwitchLink.received k link) :: reads) link'

/-! ### Loops that answer keep-alives -/

/-- A loop answers every keep-alive that it reads, and writes nothing else. -/
structure KeepsAlive {ι β : Type}
    (await : VConn → ι → Message → Result (Pass (ι × List Message) β)) : Prop where
  echo : ∀ conn i msg, msg.header.msgType = .echoRequest →
    ∃ i', await conn i msg = .ok (.again (i', [conn.echoReply msg]))
  other : ∀ conn i msg i' msgs, msg.header.msgType ≠ .echoRequest →
    await conn i msg = .ok (.again (i', msgs)) → msgs = []

/-- What is done with a message changes nothing and writes the answer to a keep-alive. -/
def Answers {α : Type} (f : Message → Program SwitchLink Error α) : Prop :=
  ∀ msg link, (f msg link).2 =
    { link with sent := link.sent ++ SwitchLink.keepAlive link.conn msg }

theorem KeepsAlive.answers {ι β : Type}
    {await : VConn → ι → Message → Result (Pass (ι × List Message) β)} (h : KeepsAlive await)
    (i : ι) : Answers fun reply => (do
      match ← Program.read fun link => await link.conn i reply with
      | .again (i, msgs) =>
        SwitchLink.sendMessages msgs
        return .again i
      | .leave b => return .leave b : Program SwitchLink Error (Pass ι β)) := by
  intro msg link
  have hread : Program.read (fun link => await link.conn i msg) link =
      (await link.conn i msg, link) := rfl
  dsimp only
  by_cases hecho : msg.header.msgType = .echoRequest
  case pos =>
    rcases h.echo link.conn i msg hecho with ⟨i', hawait⟩
    rw [hawait] at hread
    rw [Program.bind_ok hread, SwitchLink.keepAlive, if_pos hecho]
    rfl
  case neg =>
    rw [SwitchLink.keepAlive, if_neg hecho, List.append_nil]
    rcases hawait : await link.conn i msg with pass | e | _ | _
    all_goals rw [hawait] at hread
    case ok =>
      rw [Program.bind_ok hread]
      cases pass with
      | leave b => rfl
      | again p =>
        obtain ⟨i', msgs⟩ := p
        obtain rfl := h.other link.conn i msg i' msgs hecho hawait
        change { link with sent := link.sent ++ [] } = link
        rw [List.append_nil]
    all_goals rw [Program.bind_run, Program.bind, hread]

/-- The state behind so many messages, with the keep-alives among them answered. -/
def SwitchLink.answered (k : Nat) (link : SwitchLink) : SwitchLink where
  conn := link.conn
  inbound := (after k link).inbound
  sent := link.sent ++ (received k link).flatMap (keepAlive link.conn)

/-- Messages have been read, and the keep-alives among them answered. -/
def Served (link link' : SwitchLink) : Prop := ∃ k, link' = link.answered k

namespace Served

open SwitchLink

variable {link : SwitchLink}

theorem refl (link : SwitchLink) : Served link link := ⟨0, by simp [answered, after, received]⟩

theorem recvMessage_answered (k : Nat) (link : SwitchLink) :
    recvMessage (link.answered k) = ((recvMessage (after k link)).1,
      ⟨link.conn, (after (k + 1) link).inbound, (link.answered k).sent⟩) := by
  have hrecv := recvMessage_renew link.conn (link.answered k).sent (after k link)
  rw [← after_succ] at hrecv
  exact hrecv

/-- One message, read and answered. -/
theorem recvMessage_bind {α : Type} {f : Message → Program SwitchLink Error α} (h : Answers f) :
    Program.Keeps (Served link) (recvMessage >>= f) := by
  apply Program.Keeps.of_holds
  rintro _ ⟨k, rfl⟩
  have hrecv := recvMessage_answered k link
  refine ⟨k + 1, ?_⟩
  rcases hmsg : (recvMessage (after k link)).1 with msg | e | _ | _
  case ok =>
    rw [hmsg] at hrecv
    rw [Program.bind_ok hrecv, h, answered, answered, received_succ_ok hmsg, List.flatMap_append,
      List.flatMap_singleton, List.append_assoc]
  all_goals
    have hreceived : received (k + 1) link = received k link :=
      received_succ_failed fun msg hok => by rw [hmsg] at hok; cases hok
    rw [hmsg] at hrecv
    rw [Program.bind_run, Program.bind, hrecv, answered, answered, hreceived]

theorem awaitReply {ι β : Type}
    {await : VConn → ι → Message → Result (Pass (ι × List Message) β)} (h : KeepsAlive await)
    (i : ι) (link : SwitchLink) : Served link (awaitReply await i link).2 :=
  (Program.Keeps.loop (fun i => recvMessage_bind (h.answers i)) i).holds (refl link)

end Served

/-! ### The loops of the calls -/

/-- A loop that looks for errors and keep-alives first. -/
theorem KeepsAlive.of_checked {ι β : Type}
    {await other : VConn → ι → Message → Result (Pass (ι × List Message) β)}
    (hawait : ∀ conn i msg, await conn i msg = (do
      checkError msg
      if msg.header.msgType = .echoRequest then pure (.again (i, [conn.echoReply msg]))
      else other conn i msg))
    (hother : ∀ conn i msg i' msgs, other conn i msg = .ok (.again (i', msgs)) → msgs = []) :
    KeepsAlive await := by
  constructor
  case echo =>
    intro conn i msg hecho
    have herror : msg.header.msgType ≠ .error := by
      rw [hecho]
      decide
    rw [hawait, checkError_of_ne herror, ok_bind, if_pos hecho]
    exact ⟨i, rfl⟩
  case other =>
    intro conn i msg i' msgs hecho h
    rw [hawait] at h
    rcases bind_eq_ok.mp h with ⟨_, -, hrest⟩
    rw [if_neg hecho] at hrest
    exact hother conn i msg i' msgs hrest

theorem barrierPass_keepsAlive : KeepsAlive barrierPass := by
  constructor
  case echo =>
    intro conn i msg hecho
    rcases awaitBarrier_cases conn msg with ⟨h, -⟩ | ⟨h, -⟩ | ⟨-, -, hawait⟩
    · rw [hecho] at h
      cases h
    · rw [hecho] at h
      cases h
    · rw [if_pos hecho] at hawait
      refine ⟨(), ?_⟩
      rw [barrierPass, hawait]
      rfl
  case other =>
    intro conn i msg i' msgs hecho h
    rcases awaitBarrier_cases conn msg with ⟨-, e, -, hawait⟩ | ⟨-, -, hawait⟩ | ⟨-, -, hawait⟩
    all_goals rw [barrierPass, hawait] at h
    · cases h
    · cases h
    · rw [if_neg hecho] at h
      cases h
      rfl

theorem awaitSeries_keepsAlive {α : Type} (parse : Bytes → Result (List α × Bool)) :
    KeepsAlive (awaitSeries parse) := by
  refine .of_checked (fun conn all msg => rfl) ?_
  intro conn all msg i' msgs h
  split at h
  · cases h
    rfl
  · rcases bind_eq_ok.mp h with ⟨⟨items, hasMore⟩, -, hrest⟩
    dsimp only at hrest
    split at hrest
    · cases hrest
      rfl
    · cases hrest

theorem awaitUpdates_keepsAlive : KeepsAlive VConn.awaitUpdates := by
  refine .of_checked (fun conn i msg => rfl) ?_
  intro conn i msg i' msgs h
  split at h
  · rcases bind_eq_ok.mp h with ⟨⟨updates, hasMore⟩, -, hrest⟩
    dsimp only at hrest
    split at hrest
    · cases hrest
      rfl
    · cases hrest
  · cases h
    rfl

theorem awaitPacketIn_keepsAlive : KeepsAlive VConn.awaitPacketIn := by
  refine .of_checked (fun conn i msg => rfl) ?_
  intro conn i msg i' msgs h
  split at h
  · rcases bind_eq_ok.mp h with ⟨packetIn, -, hrest⟩
    cases hrest
  · cases h
    rfl

/-! ### One call -/

theorem tryRecvPacketIn_served (link : SwitchLink) :
    Served link (SwitchLink.tryRecvPacketIn link).2 := by
  refine (Served.recvMessage_bind ?_).holds (.refl link)
  intro msg link'
  dsimp only
  by_cases hecho : msg.header.msgType = .echoRequest
  case pos =>
    have herror : msg.header.msgType ≠ .error := by
      rw [hecho]
      decide
    rw [checkError_of_ne herror, Program.lift_ok_bind, if_pos hecho, SwitchLink.keepAlive,
      if_pos hecho]
    rfl
  case neg =>
    simp only [SwitchLink.keepAlive, if_neg hecho, List.append_nil]
    rcases checkError msg with _ | e | _ | _
    case ok =>
      rw [Program.lift_ok_bind]
      split
      · rcases PacketInMessage.parse msg.body with packetIn | e | _ | _ <;> rfl
      · rfl
    all_goals rfl

/-- The answer to a keep-alive carries the version only. -/
theorem keepAlive_eq_of_version {conn conn' : VConn} (h : conn.version = conn'.version) :
    SwitchLink.keepAlive conn = SwitchLink.keepAlive conn' := by
  funext msg
  rw [SwitchLink.keepAlive, SwitchLink.keepAlive, h]

/-- A loop behind requests. -/
theorem awaitReply_behind_requests {ι β : Type}
    {await : VConn → ι → Message → Result (Pass (ι × List Message) β)} (h : KeepsAlive await)
    (i : ι) (link : SwitchLink) (conn : VConn) (sent : List Message)
    (hversion : conn.version = link.conn.version) :
    ∃ k, (SwitchLink.awaitReply await i ⟨conn, link.inbound, sent⟩).2 =
      ⟨conn, (SwitchLink.after k link).inbound,
        sent ++ (SwitchLink.received k link).flatMap (SwitchLink.keepAlive link.conn)⟩ := by
  rcases Served.awaitReply h i (link.renew conn sent) with ⟨k, hk⟩
  refine ⟨k, hk.trans ?_⟩
  rw [SwitchLink.answered, SwitchLink.after_renew, SwitchLink.received_renew,
    ← keepAlive_eq_of_version hversion]
  rfl

namespace VConnCall

open SwitchLink

/-- A call writes its requests and then what answers the keep-alives it reads. -/
theorem run_reads (c : VConnCall) (link : SwitchLink) :
    ∃ k, c.run link = ⟨(c.requests link.conn).2, (after k link).inbound,
      link.sent ++ (c.requests link.conn).1 ++
        if c.answers then (received k link).flatMap (keepAlive link.conn) else []⟩ := by
  have hnone : ∀ conn sent, link.renew conn sent = ⟨conn, (after 0 link).inbound, sent ++ []⟩ := by
    intro conn sent
    rw [List.append_nil]
    rfl
  have hwaits : ∀ {link' : SwitchLink}, (∃ k, link' = ⟨link.conn, (after k link).inbound,
      link.sent ++ (received k link).flatMap (keepAlive link.conn)⟩) → ∃ k, link' =
        ⟨link.conn, (after k link).inbound,
          link.sent ++ [] ++ (received k link).flatMap (keepAlive link.conn)⟩ := by
    rw [List.append_nil]
    exact id
  cases c with
  | sendFlow flow => exact ⟨0, hnone _ _⟩
  | sendPacketOut packetOut => exact ⟨0, hnone _ _⟩
  | sendFlowSync flow =>
    have hwait : SyncCall.sendFlowSync flow ≠ .echo := nofun
    have hrun := congrArg Prod.snd (SyncCall.run_waits hwait link)
    rcases awaitReply_behind_requests barrierPass_keepsAlive () link
      (link.conn.sendFlow flow).2.barrier.2
      (link.sent ++ [(link.conn.sendFlow flow).1, (link.conn.sendFlow flow).2.barrier.1]) rfl
      with ⟨k, hk⟩
    exact ⟨k, hrun.trans hk⟩
  | barrier =>
    exact awaitReply_behind_requests barrierPass_keepsAlive () link link.conn.barrier.2
      (link.sent ++ [link.conn.barrier.1]) rfl
  | dumpFlowsFiltered request =>
    exact awaitReply_behind_requests (awaitSeries_keepsAlive _) [] link
      (link.conn.dumpFlowsFiltered request).2
      (link.sent ++ [(link.conn.dumpFlowsFiltered request).1]) rfl
  | monitorFlows request =>
    have hrequest : link.conn.monitorFlows request =
        .ok (request.message link.conn.version link.conn.xid, link.conn.nextXid.2) := by
      rw [VConn.monitorFlows, VConn.nextXid, request.toMessage_ok]
      rfl
    have hread : Program.read (fun link => link.conn.monitorFlows request) link =
        (.ok (request.message link.conn.version link.conn.xid, link.conn.nextXid.2), link) :=
      congrArg (·, link) hrequest
    rw [VConnCall.run, SwitchLink.monitorFlows, Program.bind_ok hread]
    exact awaitReply_behind_requests (awaitSeries_keepsAlive _) [] link link.conn.nextXid.2
      (link.sent ++ [request.message link.conn.version link.conn.xid]) rfl
  | recvPacketIn =>
    exact hwaits (awaitReply_behind_requests awaitPacketIn_keepsAlive () link link.conn
      link.sent rfl)
  | tryRecvPacketIn => exact hwaits (tryRecvPacketIn_served link)
  | recvFlowUpdates =>
    exact hwaits (awaitReply_behind_requests awaitUpdates_keepsAlive () link link.conn
      link.sent rfl)
  | echo =>
    have hrecv := recvMessage_renew link.conn.echo.2 (link.sent ++ [link.conn.echo.1]) link
    have hrun : (SwitchLink.echo link).2 =
        (recvMessage (link.renew link.conn.echo.2 (link.sent ++ [link.conn.echo.1]))).2 :=
      Program.bind_lift_snd
    refine ⟨1, ?_⟩
    rw [VConnCall.run, hrun, hrecv, List.append_assoc]
    rfl

end VConnCall

/-! ### Requests in a row -/

/-- The answer to a keep-alive, among the messages of a client. -/
def isEchoReply (msg : Message) : Bool := msg.header.msgType = .echoReply

/-- The requests of calls one after the other, and the connection behind them. -/
def requestsOf (conn : VConn) : List VConnCall → List Message × VConn
  | [] => ([], conn)
  | c :: calls =>
    let (msgs, conn) := c.requests conn
    let (more, conn) := requestsOf conn calls
    (msgs ++ more, conn)

/-- The first 2^32 transaction ids are different. -/
theorem xids_nodup (xid : U32) {n : Nat} (h : n ≤ 2 ^ 32) :
    ((List.range n).map fun i => xid + BitVec.ofNat 32 i).Nodup := by
  refine List.Nodup.map_on ?_ List.nodup_range
  intro i hi j hj heq
  have hofNat : BitVec.ofNat 32 i = BitVec.ofNat 32 j := by simpa using heq
  have htoNat := congrArg BitVec.toNat hofNat
  rw [BitVec.toNat_ofNat, BitVec.toNat_ofNat] at htoNat
  have hi := List.mem_range.mp hi
  have hj := List.mem_range.mp hj
  omega

/-- Requests of a connection take its transaction ids one after the other. -/
structure Numbered (conn : VConn) (msgs : List Message) (conn' : VConn) : Prop where
  xids : msgs.map (·.header.xid) =
    (List.range msgs.length).map fun i => conn.xid + BitVec.ofNat 32 i
  behind : conn' = ⟨conn.version, conn.xid + BitVec.ofNat 32 msgs.length⟩
  version : ∀ msg ∈ msgs, msg.header.version = conn.version
  noReply : ∀ msg ∈ msgs, isEchoReply msg = false

namespace Numbered

variable {conn conn' conn'' : VConn} {msgs more : List Message}

theorem nil (conn : VConn) : Numbered conn [] conn where
  xids := rfl
  behind := by simp
  version := by simp
  noReply := by simp

theorem one {conn : VConn} {msg : Message} (hxid : msg.header.xid = conn.xid)
    (hversion : msg.header.version = conn.version) (hreply : isEchoReply msg = false) :
    Numbered conn [msg] conn.nextXid.2 where
  xids := by simp [hxid]
  behind := rfl
  version := by simpa using hversion
  noReply := by simpa using hreply

theorem append (h : Numbered conn msgs conn') (hmore : Numbered conn' more conn'') :
    Numbered conn (msgs ++ more) conn'' := by
  obtain rfl := h.behind
  constructor
  case xids =>
    have hshift : ∀ i, conn.xid + BitVec.ofNat 32 msgs.length + BitVec.ofNat 32 i =
        conn.xid + BitVec.ofNat 32 (msgs.length + i) := by
      intro i
      rw [BitVec.ofNat_add, BitVec.add_assoc]
    rw [List.map_append, h.xids, hmore.xids, List.length_append, List.range_add, List.map_append,
      List.map_map]
    simp only [hshift, Function.comp_def]
  case behind =>
    rw [hmore.behind, List.length_append, BitVec.ofNat_add, BitVec.add_assoc]
  case version =>
    intro msg hmsg
    rcases List.mem_append.mp hmsg with hmem | hmem
    · exact h.version msg hmem
    · exact hmore.version msg hmem
  case noReply =>
    intro msg hmsg
    rcases List.mem_append.mp hmsg with hmem | hmem
    · exact h.noReply msg hmem
    · exact hmore.noReply msg hmem

end Numbered

theorem VConnCall.requests_numbered (c : VConnCall) (conn : VConn) :
    Numbered conn (c.requests conn).1 (c.requests conn).2 := by
  cases c with
  | sendFlowSync flow => exact (Numbered.one rfl rfl rfl).append (Numbered.one rfl rfl rfl)
  | recvPacketIn => exact .nil conn
  | tryRecvPacketIn => exact .nil conn
  | recvFlowUpdates => exact .nil conn
  | _ => exact Numbered.one rfl rfl rfl

theorem requestsOf_numbered (calls : List VConnCall) (conn : VConn) :
    Numbered conn (requestsOf conn calls).1 (requestsOf conn calls).2 := by
  induction calls generalizing conn with
  | nil => exact .nil conn
  | cons c calls ih => exact (c.requests_numbered conn).append (ih _)

/-- A call gives what it asks for the next transaction ids. -/
theorem VConnCall.requests_eq_asks (c : VConnCall) (conn : VConn) :
    (c.requests conn).1 =
      (c.asks conn.version).mapIdx fun i ask => ask (conn.xid + BitVec.ofNat 32 i) := by
  cases c with
  | sendFlowSync flow =>
    have hfirst : conn.xid + BitVec.ofNat 32 0 = conn.xid := BitVec.add_zero conn.xid
    simp only [requests, asks, List.mapIdx_cons, List.mapIdx_nil, hfirst]
    rfl
  | _ => simp [requests, asks] <;> rfl

/-- So do calls one after the other. -/
theorem requestsOf_eq_asks (calls : List VConnCall) (conn : VConn) :
    (requestsOf conn calls).1 = (calls.flatMap (VConnCall.asks conn.version)).mapIdx
      fun i ask => ask (conn.xid + BitVec.ofNat 32 i) := by
  induction calls generalizing conn with
  | nil => rfl
  | cons c calls ih =>
    have hbehind := (c.requests_numbered conn).behind
    have hlength : (c.requests conn).1.length = (c.asks conn.version).length := by
      rw [c.requests_eq_asks, List.length_mapIdx]
    change (c.requests conn).1 ++ (requestsOf (c.requests conn).2 calls).1 = _
    have hshift : ∀ i, conn.xid + BitVec.ofNat 32 (c.asks conn.version).length +
        BitVec.ofNat 32 i = conn.xid + BitVec.ofNat 32 (i + (c.asks conn.version).length) := by
      intro i
      rw [Nat.add_comm i, BitVec.ofNat_add, BitVec.add_assoc]
    rw [ih, hbehind, hlength, List.flatMap_cons, List.mapIdx_append, ← c.requests_eq_asks]
    simp only [hshift]

/-! ### Runs -/

/-- What a call writes behind its requests. -/
def answersTo (conn : VConn) (read : VConnCall × List Message) : List Message :=
  if read.1.answers then read.2.flatMap (SwitchLink.keepAlive conn) else []

theorem answersTo_isEchoReply {conn : VConn} {read : VConnCall × List Message} {msg : Message}
    (hmsg : msg ∈ answersTo conn read) :
    isEchoReply msg = true ∧ msg.header.version = conn.version := by
  rw [answersTo] at hmsg
  split at hmsg
  · rcases List.mem_flatMap.mp hmsg with ⟨request, -, hkeep⟩
    rw [SwitchLink.keepAlive] at hkeep
    split at hkeep
    · rw [List.mem_singleton.mp hkeep]
      exact ⟨rfl, rfl⟩
    · cases hkeep
  · cases hmsg

/-- The answers of calls one after the other, read by read and request by request. -/
theorem flatMap_answersTo (conn : VConn) (reads : List (VConnCall × List Message)) :
    reads.flatMap (answersTo conn) =
      ((reads.filter fun read => read.1.answers).flatMap fun read =>
        read.2.filter fun msg => msg.header.msgType = .echoRequest).map fun request =>
          Message.new conn.version .echoReply request.header.xid request.body := by
  have hone : ∀ msgs : List Message, msgs.flatMap (SwitchLink.keepAlive conn) =
      (msgs.filter fun msg => msg.header.msgType = .echoRequest).map fun request =>
        Message.new conn.version .echoReply request.header.xid request.body := by
    intro msgs
    induction msgs with
    | nil => rfl
    | cons msg msgs ih =>
      by_cases hecho : msg.header.msgType = .echoRequest
      · simp [SwitchLink.keepAlive, hecho, ih]
      · simp [SwitchLink.keepAlive, hecho, ih]
  induction reads with
  | nil => rfl
  | cons read reads ih =>
    rw [List.flatMap_cons, ih, answersTo, List.filter_cons]
    by_cases hanswers : read.1.answers = true
    · rw [if_pos hanswers, if_pos hanswers, hone, List.flatMap_cons, List.map_append]
    · rw [if_neg hanswers, if_neg hanswers, List.nil_append]

/-- What has been written in a run: the requests of its calls, and the answers to the keep-alives
    that each call has read. -/
structure Written (conn : VConn) (reads : List (VConnCall × List Message))
    (written : List Message) (conn' : VConn) : Prop where
  requests : written.filter (fun msg => !isEchoReply msg) =
    (requestsOf conn (reads.map Prod.fst)).1
  answers : written.filter isEchoReply = reads.flatMap (answersTo conn)
  behind : conn' = (requestsOf conn (reads.map Prod.fst)).2

theorem answersTo_eq_of_version {conn conn' : VConn} (h : conn.version = conn'.version) :
    answersTo conn = answersTo conn' := by
  funext read
  rw [answersTo, answersTo, keepAlive_eq_of_version h]

namespace Written

variable {conn conn' conn'' : VConn} {reads more : List (VConnCall × List Message)}
  {written later : List Message}

theorem nil (conn : VConn) : Written conn [] [] conn := ⟨rfl, rfl, rfl⟩

/-- One call. -/
theorem one (c : VConnCall) (conn : VConn) (read : List Message) :
    Written conn [(c, read)] ((c.requests conn).1 ++ answersTo conn (c, read))
      (c.requests conn).2 := by
  have hrequests := (c.requests_numbered conn).noReply
  have hanswers : ∀ msg ∈ answersTo conn (c, read), isEchoReply msg = true :=
    fun msg hmsg => (answersTo_isEchoReply hmsg).1
  constructor
  case requests =>
    rw [List.filter_append, List.filter_eq_self.mpr (by simpa using hrequests),
      List.filter_eq_nil_iff.mpr (by simpa using hanswers)]
    rfl
  case answers =>
    rw [List.filter_append, List.filter_eq_nil_iff.mpr (by simpa using hrequests),
      List.filter_eq_self.mpr hanswers]
    simp
  case behind => rfl

theorem cons {c : VConnCall} {read : List Message}
    (h : Written (c.requests conn).2 more later conn'') :
    Written conn ((c, read) :: more)
      ((c.requests conn).1 ++ answersTo conn (c, read) ++ later) conn'' := by
  have hone := one c conn read
  have hversion : (c.requests conn).2.version = conn.version := by
    rw [(c.requests_numbered conn).behind]
  constructor
  case requests =>
    rw [List.filter_append, hone.requests, h.requests]
    simp [requestsOf]
  case answers =>
    rw [List.filter_append, hone.answers, h.answers, answersTo_eq_of_version hversion]
    simp
  case behind => exact h.behind

theorem version (h : Written conn reads written conn') :
    ∀ msg ∈ written, msg.header.version = conn.version := by
  intro msg hmsg
  cases hreply : isEchoReply msg with
  | true =>
    have hmem : msg ∈ reads.flatMap (answersTo conn) := by
      rw [← h.answers]
      exact List.mem_filter.mpr ⟨hmsg, hreply⟩
    rcases List.mem_flatMap.mp hmem with ⟨read, -, hread⟩
    exact (answersTo_isEchoReply hread).2
  | false =>
    refine (requestsOf_numbered (reads.map Prod.fst) conn).version msg ?_
    rw [← h.requests]
    exact List.mem_filter.mpr ⟨hmsg, by simp [hreply]⟩

end Written

/-- Every run comes to what its calls read, and has written just that. -/
theorem exists_written (events : List LinkEvent) (link : SwitchLink) :
    ∃ reads written, Runs link events reads (events.foldl LinkEvent.step link) ∧
      reads.map Prod.fst = events.filterMap LinkEvent.call? ∧
      (events.foldl LinkEvent.step link).sent = link.sent ++ written ∧
      Written link.conn reads written (events.foldl LinkEvent.step link).conn := by
  induction events generalizing link with
  | nil => exact ⟨[], [], .nil link, rfl, (List.append_nil _).symm, .nil link.conn⟩
  | cons event events ih =>
    rcases ih (event.step link) with ⟨reads, written, hruns, hcalls, hsent, hwritten⟩
    cases event with
    | arrive bytes => exact ⟨reads, written, .arrive hruns, hcalls, hsent, hwritten⟩
    | call c =>
      rcases c.run_reads link with ⟨k, hk⟩
      have htakes : (c.run link).inbound = (SwitchLink.after k link).inbound := by rw [hk]
      have hbehind : (LinkEvent.step link (.call c)).conn = (c.requests link.conn).2 := by
        change (c.run link).conn = _
        rw [hk]
      have hlater : (LinkEvent.step link (.call c)).sent = link.sent ++
          ((c.requests link.conn).1 ++ answersTo link.conn (c, SwitchLink.received k link)) := by
        change (c.run link).sent = _
        rw [hk, ← List.append_assoc]
        rfl
      rw [hbehind] at hwritten
      refine ⟨(c, SwitchLink.received k link) :: reads, _, .call k htakes hruns, ?_, ?_,
        hwritten.cons⟩
      · rw [List.map_cons, hcalls]
        rfl
      · rw [List.foldl_cons, hsent, hlater, List.append_assoc]

/-! ### From the handshake on -/

/-- A connection is made where the switch begins with a greeting. -/
theorem connect_eq_ok {bytes : Bytes} {link : SwitchLink}
    (h : SwitchLink.connect bytes = (.ok (), link)) :
    ∃ peer : Message, peer.Framed ∧ peer.header.msgType = .hello ∧
      bytes = peer.encode ++ link.inbound ∧
      link.conn = ⟨Version.of13.min peer.header.version, 2⟩ ∧
      link.sent = [Message.new .of13 .hello 1 []] := by
  rcases Program.bind_eq_ok h with ⟨hello, link₁, hrequest, h₁⟩
  rcases Program.bind_eq_ok h₁ with ⟨peer, link₂, hrecv, h₂⟩
  obtain rfl : link₁ = ⟨⟨.of13, 2⟩, bytes, [Message.new .of13 .hello 1 []]⟩ :=
    (congrArg Prod.snd hrequest).symm
  rcases SwitchLink.recvMessage_eq_ok.mp hrecv with ⟨hframed, hlink⟩
  obtain ⟨conn, inbound, sent⟩ := link₂
  cases hlink
  split at h₂
  · cases h₂
  · next hhello =>
    cases h₂
    exact ⟨peer, hframed, not_not.mp hhello, rfl, rfl, rfl⟩

/-- What is asked of everything that has been written from the handshake on.  Both halves are
    stated in terms of the messages themselves: the greeting and the requests are numbered from
    1 on without a gap, and each echo request that a call other than `echo` has read is answered
    by an echo reply with its own transaction id and body, in the order of the requests. -/
structure ConnectionAccount (peer : Message) (reads : List (VConnCall × List Message))
    (sent : List Message) : Prop where
  requests : sent.filter (fun msg => !isEchoReply msg) = Message.new .of13 .hello 1 [] ::
    ((reads.map Prod.fst).flatMap
      (VConnCall.asks (Version.of13.min peer.header.version))).mapIdx
        fun i ask => ask (2 + BitVec.ofNat 32 i)
  xids : (sent.filter fun msg => !isEchoReply msg).map (·.header.xid) =
    (List.range (sent.filter fun msg => !isEchoReply msg).length).map
      fun i => 1 + BitVec.ofNat 32 i
  answers : sent.filter isEchoReply =
    ((reads.filter fun read => read.1.answers).flatMap fun read =>
      read.2.filter fun msg => msg.header.msgType = .echoRequest).map fun request =>
        Message.new (Version.of13.min peer.header.version) .echoReply request.header.xid
          request.body
  version : ∀ msg ∈ sent.tail, msg.header.version = Version.of13.min peer.header.version
  distinct : sent.length ≤ 2 ^ 32 →
    ((sent.filter fun msg => !isEchoReply msg).map (·.header.xid)).Nodup

/-- A switch of OpenFlow 1.0 that sends a keep-alive behind its greeting. -/
def oldSwitch : Bytes :=
  (Message.new .of10 .hello 7 []).encode ++ (Message.new .of10 .echoRequest 8 [1]).encode

def oldSwitchLink : SwitchLink :=
  ⟨⟨.of10, 2⟩, (Message.new .of10 .echoRequest 8 [1]).encode, [Message.new .of13 .hello 1 []]⟩

theorem connect_oldSwitch : SwitchLink.connect oldSwitch = (.ok (), oldSwitchLink) := rfl

end Rovs.OpenFlow

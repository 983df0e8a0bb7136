import Rovs.Program
import Rovs.VConn

/-!
# Sending and receiving over a connection (`message.rs` and `vconn.rs` of `rovs-openflow`)

A connection reads bytes and writes messages.  A message is read in two parts: the header,
and then as many bytes as the header announces behind it.  The bytes that the switch sends
while a call runs are given in advance; a call that has read them all and wants more is left
waiting and ends with `hang`.  A call that waits for a reply is a loop around `recvMessage`,
whose body is what the call does with one message.
-/

namespace Rovs.OpenFlow

open Outcome

/-! ### Headers -/

/-- `Version::try_from`. -/
def Version.ofU8 (v : U8) : Result Version :=
  match v.toNat with
  | 0x01 => pure .of10
  | 0x02 => pure .of11
  | 0x03 => pure .of12
  | 0x04 => pure .of13
  | 0x05 => pure .of14
  | 0x06 => pure .of15
  | _ => .err (.unsupportedVersion v)

/-- `MessageType::try_from`. -/
def MessageType.ofU8 (v : U8) : Result MessageType :=
  match v.toNat with
  | 0 => pure .hello
  | 1 => pure .error
  | 2 => pure .echoRequest
  | 3 => pure .echoReply
  | 4 => pure .experimenter
  | 5 => pure .featuresRequest
  | 6 => pure .featuresReply
  | 7 => pure .getConfigRequest
  | 8 => pure .getConfigReply
  | 9 => pure .setConfig
  | 10 => pure .packetIn
  | 11 => pure .flowRemoved
  | 12 => pure .portStatus
  | 13 => pure .packetOut
  | 14 => pure .flowMod
  | 15 => pure .groupMod
  | 16 => pure .portMod
  | 17 => pure .tableMod
  | 18 => pure .multipartRequest
  | 19 => pure .multipartReply
  | 20 => pure .barrierRequest
  | 21 => pure .barrierReply
  | 24 => pure .roleRequest
  | 25 => pure .roleReply
  | 26 => pure .getAsyncRequest
  | 27 => pure .getAsyncReply
  | 28 => pure .setAsync
  | 29 => pure .meterMod
  | 33 => pure .bundleControl
  | 34 => pure .bundleAddMessage
  | _ => .err (.invalidMessage s!"unknown message type: {v.toNat}")

@[simp] theorem Version.ofU8_wireVersion (version : Version) :
    Version.ofU8 version.wireVersion = .ok version := by
  cases version <;> rfl

@[simp] theorem MessageType.ofU8_toU8 (msgType : MessageType) :
    MessageType.ofU8 msgType.toU8 = .ok msgType := by
  cases msgType <;> rfl

theorem Version.ofU8_returns (v : U8) : (Version.ofU8 v).Returns := by
  unfold Version.ofU8
  split <;> trivial

theorem MessageType.ofU8_returns (v : U8) : (MessageType.ofU8 v).Returns := by
  unfold MessageType.ofU8
  split <;> trivial

def Header.decode (data : Bytes) : Result Header :=
  if data.length < Header.size then parseError "header too short"
  else do
    let version ← beAt 8 data 0
    let version ← Version.ofU8 version
    let msgType ← beAt 8 data 1
    let msgType ← MessageType.ofU8 msgType
    let length ← beAt 16 data 2
    let xid ← beAt 32 data 4
    pure ⟨version, msgType, length, xid⟩

/-- `header.length as usize - Header::SIZE`.  A difference below zero is a panic where
    overflow is checked; where it is not, the body that is then asked for is larger than any
    allocation, which is a panic too. -/
def Header.bodyLen (header : Header) : Result Nat :=
  if Header.size ≤ header.length.toNat then pure (header.length.toNat - Header.size) else .panic

/-- The bytes of a header with a version, a type and a length of any kind. -/
def headerBytes (version msgType : U8) (length : U16) (xid : U32) : Bytes :=
  be version ++ be msgType ++ be length ++ be xid

@[simp] theorem headerBytes_length (version msgType : U8) (length : U16) (xid : U32) :
    (headerBytes version msgType length xid).length = Header.size := by
  simp [headerBytes, Header.size]

theorem Header.decode_headerBytes (version msgType : U8) (length : U16) (xid : U32) :
    Header.decode (headerBytes version msgType length xid) = (do
      let version ← Version.ofU8 version
      let msgType ← MessageType.ofU8 msgType
      pure ⟨version, msgType, length, xid⟩) := by
  have hlen : ¬ (headerBytes version msgType length xid).length < Header.size := by simp
  rw [Header.decode, if_neg hlen]
  simp [headerBytes, List.append_assoc, beAt_append_right]

/-- The length in the header is that of the message. -/
def Message.Framed (msg : Message) : Prop :=
  msg.header.length.toNat = Header.size + msg.body.length

instance (msg : Message) : Decidable msg.Framed := by
  unfold Message.Framed
  infer_instance

theorem Message.new_framed (version : Version) (msgType : MessageType) (xid : U32) {body : Bytes}
    (h : Header.size + body.length < 65536) : (Message.new version msgType xid body).Framed := by
  rw [Message.Framed, Message.new, BitVec.toNat_ofNat]
  exact Nat.mod_eq_of_lt h

/-- The bytes of messages one after the other. -/
def wire (msgs : List Message) : Bytes := msgs.flatMap Message.encode

@[simp] theorem wire_nil : wire [] = [] := rfl

@[simp] theorem wire_cons (msg : Message) (msgs : List Message) :
    wire (msg :: msgs) = msg.encode ++ wire msgs := rfl

@[simp] theorem wire_append (msgs more : List Message) :
    wire (msgs ++ more) = wire msgs ++ wire more := List.flatMap_append

/-! ### The connection -/

/-- A connection, the bytes that the switch sends and that are not read yet, and the messages
    that have been written. -/
structure SwitchLink where
  conn : VConn
  inbound : Bytes
  sent : List Message

namespace SwitchLink

/-- `read_exact`. -/
def readExact (n : Nat) : Program SwitchLink Error Bytes := fun link =>
  if n ≤ link.inbound.length then
    (.ok (link.inbound.take n), { link with inbound := link.inbound.drop n })
  else (.hang, { link with inbound := [] })

def sendMessage (msg : Message) : Program SwitchLink Error Unit :=
  .modify fun link => { link with sent := link.sent ++ [msg] }

def sendMessages (msgs : List Message) : Program SwitchLink Error Unit :=
  .modify fun link => { link with sent := link.sent ++ msgs }

/-- The second half of `VConn::recv_message`. -/
def readBody (bodyLen : Nat) : Program SwitchLink Error Bytes :=
  if 0 < bodyLen then readExact bodyLen else pure []

def recvMessage : Program SwitchLink Error Message := do
  let headerBuf ← readExact Header.size
  let header ← Program.lift (Header.decode headerBuf)
  let bodyLen ← Program.lift header.bodyLen
  let body ← readBody bodyLen
  return ⟨header, body⟩

/-- A request with the next transaction id. -/
def request (write : VConn → Message × VConn) : Program SwitchLink Error Message := do
  let (msg, conn) ← Program.read fun link => .ok (write link.conn)
  Program.modify fun link => { link with conn := conn }
  sendMessage msg
  return msg

/-- One pass of a loop that waits for a reply. -/
def replyPass {ι β : Type}
    (await : VConn → ι → Message → Result (Pass (ι × List Message) β)) (i : ι) :
    Program SwitchLink Error (Pass ι β) := do
  let reply ← recvMessage
  match ← Program.read fun link => await link.conn i reply with
  | .again (i, msgs) =>
    sendMessages msgs
    return .again i
  | .leave b => return .leave b

/-- The loop of a call that waits for a reply.  Every message takes bytes from the stream. -/
def awaitReply {ι β : Type}
    (await : VConn → ι → Message → Result (Pass (ι × List Message) β)) (i : ι) :
    Program SwitchLink Error β :=
  Program.loop (fun link => link.inbound.length) (replyPass await) i

/-! ### Reading one message -/

@[simp] theorem readExact_append (conn : VConn) (xs ys : Bytes) (sent : List Message) :
    readExact xs.length ⟨conn, xs ++ ys, sent⟩ = (.ok xs, ⟨conn, ys, sent⟩) := by
  simp [readExact]

theorem readExact_ok {n : Nat} {link link' : SwitchLink} {bytes : Bytes}
    (h : readExact n link = (.ok bytes, link')) :
    link.inbound.length = n + link'.inbound.length := by
  rw [readExact] at h
  split at h
  · next hle =>
    cases h
    rw [List.length_drop]
    omega
  · cases h

@[simp] theorem readBody_append (conn : VConn) (xs ys : Bytes) (sent : List Message) :
    readBody xs.length ⟨conn, xs ++ ys, sent⟩ = (.ok xs, ⟨conn, ys, sent⟩) := by
  rw [readBody]
  split
  · exact readExact_append conn xs ys sent
  · next hempty =>
    rw [List.eq_nil_of_length_eq_zero (Nat.eq_zero_of_not_pos hempty)]
    rfl

theorem readBody_ok {n : Nat} {link link' : SwitchLink} {bytes : Bytes}
    (h : readBody n link = (.ok bytes, link')) : link'.inbound.length ≤ link.inbound.length := by
  rw [readBody] at h
  split at h
  · have := readExact_ok h
    omega
  · cases h
    exact Nat.le_refl _

/-- Every message takes bytes from the stream. -/
theorem recvMessage_length {link link' : SwitchLink} {msg : Message}
    (h : recvMessage link = (.ok msg, link')) : link'.inbound.length < link.inbound.length := by
  rcases Program.bind_eq_ok h with ⟨headerBuf, link₁, hheader, h₁⟩
  rcases Program.bind_eq_ok h₁ with ⟨header, link₂, hdecode, h₂⟩
  rcases Program.bind_eq_ok h₂ with ⟨bodyLen, link₃, hlen, h₃⟩
  rcases Program.bind_eq_ok h₃ with ⟨body, link₄, hbody, h₄⟩
  have hsize := readExact_ok hheader
  have hrest := readBody_ok hbody
  obtain rfl : link₁ = link₂ := congrArg Prod.snd hdecode
  obtain rfl : link₁ = link₃ := congrArg Prod.snd hlen
  obtain rfl : link₄ = link' := congrArg Prod.snd h₄
  rw [Header.size] at hsize
  omega

/-- What is done once the header has been read. -/
theorem recvMessage_header (conn : VConn) (version msgType : U8) (length : U16) (xid : U32)
    (rest : Bytes) (sent : List Message) :
    recvMessage ⟨conn, headerBytes version msgType length xid ++ rest, sent⟩ = (do
      let header ← Program.lift (Header.decode (headerBytes version msgType length xid))
      let bodyLen ← Program.lift header.bodyLen
      let body ← readBody bodyLen
      return ⟨header, body⟩ : Program SwitchLink Error Message) ⟨conn, rest, sent⟩ := by
  have hread := readExact_append conn (headerBytes version msgType length xid) rest sent
  rw [headerBytes_length] at hread
  exact Program.bind_ok hread

theorem recvMessage_framed {msg : Message} (hframed : msg.Framed) (conn : VConn) (rest : Bytes)
    (sent : List Message) :
    recvMessage ⟨conn, msg.encode ++ rest, sent⟩ = (.ok msg, ⟨conn, rest, sent⟩) := by
  have hheader : Header.decode (headerBytes msg.header.version.wireVersion
      msg.header.msgType.toU8 msg.header.length msg.header.xid) = .ok msg.header := by
    rw [Header.decode_headerBytes, Version.ofU8_wireVersion, ok_bind, MessageType.ofU8_toU8]
    rfl
  have hbodyLen : msg.header.bodyLen = .ok msg.body.length := by
    rw [Header.bodyLen, hframed, if_pos (Nat.le_add_right _ _), Nat.add_sub_cancel_left]
    rfl
  have hbody := readBody_append conn msg.body rest sent
  rw [Message.encode, List.append_assoc]
  refine (recvMessage_header conn _ _ _ _ (msg.body ++ rest) sent).trans ?_
  rw [hheader, Program.lift_ok_bind, hbodyLen, Program.lift_ok_bind]
  exact Program.bind_ok hbody

/-! ### Waiting for a reply -/

section Await

variable {ι β : Type} {await : VConn → ι → Message → Result (Pass (ι × List Message) β)}

theorem replyPass_decreases :
    Program.Decreases (fun link : SwitchLink => link.inbound.length) (replyPass await) := by
  intro i i' link link' h
  rcases Program.bind_eq_ok h with ⟨reply, link₁, hreply, h⟩
  rcases Program.bind_eq_ok h with ⟨pass, link₂, hpass, h⟩
  have hlt := recvMessage_length hreply
  obtain rfl : link₁ = link₂ := congrArg Prod.snd hpass
  cases pass with
  | again p =>
    obtain rfl : _ = link' := congrArg Prod.snd h
    exact hlt
  | leave b =>
    have hleave := congrArg Prod.fst h
    cases hleave

variable {conn : VConn} {msg : Message} {rest : Bytes} {sent : List Message} {i i' : ι}

/-- What a pass does with the next message. -/
theorem replyPass_framed (hframed : msg.Framed) :
    replyPass await i ⟨conn, msg.encode ++ rest, sent⟩ = (do
      match ← Program.read fun link : SwitchLink => await link.conn i msg with
      | .again (i, msgs) =>
        sendMessages msgs
        return .again i
      | .leave b => return .leave b : Program SwitchLink Error (Pass ι β)) ⟨conn, rest, sent⟩ :=
  Program.bind_ok (recvMessage_framed hframed conn rest sent)

theorem awaitReply_again (hframed : msg.Framed) {msgs : List Message}
    (h : await conn i msg = .ok (.again (i', msgs))) :
    awaitReply await i ⟨conn, msg.encode ++ rest, sent⟩ =
      awaitReply await i' ⟨conn, rest, sent ++ msgs⟩ := by
  apply Program.loop_again replyPass_decreases
  rw [replyPass_framed hframed]
  exact Program.bind_ok (congrArg (·, _) h)

theorem awaitReply_leave (hframed : msg.Framed) {b : β} (h : await conn i msg = .ok (.leave b)) :
    awaitReply await i ⟨conn, msg.encode ++ rest, sent⟩ = (.ok b, ⟨conn, rest, sent⟩) := by
  apply Program.loop_leave
  rw [replyPass_framed hframed]
  exact Program.bind_ok (congrArg (·, _) h)

end Await

/-! ### What has been sent before -/

/-- Other messages have been sent before. -/
def behind (before : List Message) (link : SwitchLink) : SwitchLink :=
  { link with sent := before ++ link.sent }

section Behind

variable (before : List Message)

theorem readExact_behind (n : Nat) : (readExact n).Commutes (behind before) := by
  intro link
  rw [readExact, readExact]
  change (if n ≤ link.inbound.length then _ else _) = _
  split <;> rfl

theorem recvMessage_behind : recvMessage.Commutes (behind before) := by
  apply (readExact_behind before _).bind
  intro headerBuf
  apply (Program.Commutes.lift _).bind
  intro header
  apply (Program.Commutes.lift _).bind
  intro bodyLen
  refine Program.Commutes.bind ?_ fun body => .pure _
  rw [readBody]
  split
  · exact readExact_behind before bodyLen
  · exact .pure []

theorem awaitReply_behind {ι β : Type}
    (await : VConn → ι → Message → Result (Pass (ι × List Message) β)) (i : ι) :
    (awaitReply await i).Commutes (behind before) := by
  refine Program.Commutes.loop (g := behind before) (fun _ => rfl) (fun i => ?_) i
  apply (recvMessage_behind before).bind
  intro reply
  refine Program.Commutes.bind (.read fun link => ?_) fun pass => ?_
  · rfl
  cases pass with
  | again p =>
    refine Program.Commutes.bind (.modify fun link => ?_) fun _ => .pure _
    rw [behind, behind, List.append_assoc]
  | leave b => exact .pure _

end Behind

/-! ### Keep-alives -/

/-- What a message that a call does not wait for is owed: an echo request is owed one echo
    reply, in the version of the connection, with the transaction id and the body of the
    request, and no other message is owed anything. The loops of the library are held against
    this definition, which does not call their own `VConn.echoReply`. -/
def keepAlive (conn : VConn) (msg : Message) : List Message :=
  if msg.header.msgType = .echoRequest then
    [Message.new conn.version .echoReply msg.header.xid msg.body]
  else []

/-- Messages that a loop passes over, answering keep-alives. -/
theorem awaitReply_skips {ι β : Type}
    {await : VConn → ι → Message → Result (Pass (ι × List Message) β)} {conn : VConn} {i : ι}
    {msgs : List Message} (hframed : ∀ msg ∈ msgs, msg.Framed)
    (hskip : ∀ msg ∈ msgs, await conn i msg = .ok (.again (i, keepAlive conn msg)))
    (rest : Bytes) (sent : List Message) :
    awaitReply await i ⟨conn, wire msgs ++ rest, sent⟩ =
      awaitReply await i ⟨conn, rest, sent ++ msgs.flatMap (keepAlive conn)⟩ := by
  induction msgs generalizing sent with
  | nil => simp
  | cons msg msgs ih =>
    rw [wire_cons, List.append_assoc,
      awaitReply_again (hframed msg List.mem_cons_self) (hskip msg List.mem_cons_self),
      ih (fun m hm => hframed m (List.mem_cons_of_mem _ hm))
        (fun m hm => hskip m (List.mem_cons_of_mem _ hm)),
      List.flatMap_cons, List.append_assoc]

end SwitchLink

end Rovs.OpenFlow

import Rovs.FrameActions
import Rovs.LengthFields
import Rovs.MacLearning
import Rovs.Maps
import Rovs.PacketIn

/-!
# ARP proxies (`rovs-ext/src/flows/arp_proxy.rs`, `rovs-ext/src/controller/protocol/arp.rs`)

ARP requests for an address can be answered in two places.  A flow rewrites the request into the
reply, field by field, and sends it back; a handler of the controller parses the request that the
switch reports, builds the reply and asks the switch to send it back.

`arpProxies_agree` compares the two on every ARP packet, byte for byte.  The flow is taken as a
switch takes it, from its encoding.
-/

namespace Rovs.OpenFlow

/-! ### The flow -/

/-- `nxm::ARP_OP`, `ARP_SPA`, `ARP_TPA`, `ARP_SHA` and `ARP_THA`. -/
def nxmArpOp : U32 := 0x00001e02
def nxmArpSpa : U32 := 0x00002004
def nxmArpTpa : U32 := 0x00002204
def nxmArpSha : U32 := 0x00012206
def nxmArpTha : U32 := 0x00012406

/-- `mac_to_u64`: the address in the lower 48 bits. -/
def macToU64 (mac : MacAddr) : U64 := mac.setWidth 64

/-- `ActionList::set_arp_op`, `set_arp_spa` and `set_arp_sha`. -/
def setArpOp (opcode : U16) : Action := .nxRegLoad nxmArpOp 0 16 (opcode.setWidth 64)
def setArpSpa (ip : U32) : Action := .nxRegLoad nxmArpSpa 0 32 (ip.setWidth 64)
def setArpSha (mac : U64) : Action := .nxRegLoad nxmArpSha 0 48 mac

structure ArpProxyConfig where
  ip : Ipv4Addr
  mac : MacAddr
  port : U32
deriving DecidableEq, Repr

structure ArpProxyFlows where
  config : ArpProxyConfig

/-- `Match::arp_op` and `Match::arp_tpa` set the type again. -/
def ArpProxyFlows.proxyFlow (flows : ArpProxyFlows) (table : U8) (priority : U16) : Flow :=
  .template table priority
    { Match.new with
      inPort := some flows.config.port
      ethType := some 0x0806
      arpOp := some 1
      arpTpa := some flows.config.ip }
    [.nxMove nxmArpSha nxmArpTha 48 0 0,
      .nxMove nxmArpSpa nxmArpTpa 32 0 0,
      setArpSha (macToU64 flows.config.mac),
      setArpSpa flows.config.ip,
      setArpOp 2,
      .nxMove nxmEthSrc nxmEthDst 48 0 0,
      .setEthSrc flows.config.mac,
      .output .inPort]

/-! ### Events of the controller (`rovs-ext/src/controller/event.rs`) -/

structure ParsedEthernet where
  dstMac : MacAddr
  srcMac : MacAddr
  ethertype : U16
  payloadOffset : Nat
deriving DecidableEq, Repr

def ParsedEthernet.parse (data : Bytes) : Option ParsedEthernet :=
  if data.length < 14 then none
  else some {
    dstMac := wordAt 48 data 0
    srcMac := wordAt 48 data 6
    ethertype := wordAt 16 data 12
    payloadOffset := 14 }

structure PacketInEvent where
  packetIn : PacketIn
  inPort : U32
  eth : Option ParsedEthernet

namespace PacketInEvent

def fromPacketIn (packetIn : PacketIn) : PacketInEvent where
  packetIn := packetIn
  inPort := packetIn.inPort
  eth := ParsedEthernet.parse packetIn.data

def data (event : PacketInEvent) : Bytes := event.packetIn.data

def ethSrc (event : PacketInEvent) : Option MacAddr := event.eth.map ParsedEthernet.srcMac

def ethertype (event : PacketInEvent) : Option U16 := event.eth.map ParsedEthernet.ethertype

def isArp (event : PacketInEvent) : Bool := event.ethertype = some 0x0806

end PacketInEvent

/-! ### The handler -/

structure ArpPacket where
  htype : U16
  ptype : U16
  hlen : U8
  plen : U8
  oper : U16
  sha : MacAddr
  spa : Ipv4Addr
  tha : MacAddr
  tpa : Ipv4Addr
deriving DecidableEq, Repr

namespace ArpPacket

/-- `ArpPacket::parse`; the first check covers every read. -/
def parse (data : Bytes) : Option ArpPacket :=
  if data.length < 28 then none
  else
    let htype : U16 := wordAt 16 data 0
    let ptype : U16 := wordAt 16 data 2
    let hlen : U8 := wordAt 8 data 4
    let plen : U8 := wordAt 8 data 5
    let oper : U16 := wordAt 16 data 6
    -- only Ethernet and IPv4
    if htype ≠ 1 ∨ ptype ≠ 0x0800 ∨ hlen ≠ 6 ∨ plen ≠ 4 then none
    else some {
      htype := htype
      ptype := ptype
      hlen := hlen
      plen := plen
      oper := oper
      sha := wordAt 48 data 8
      spa := wordAt 32 data 14
      tha := wordAt 48 data 18
      tpa := wordAt 32 data 24 }

def isRequest (arp : ArpPacket) : Bool := arp.oper = 1

/-- `ArpPacket::build_reply`: the fields are copied into zeros. -/
def buildReply (arp : ArpPacket) (replyMac : MacAddr) : Bytes :=
  let reply := zeros 28
  let reply := patch 0 (be (1 : U16)) reply
  let reply := patch 2 (be (0x0800 : U16)) reply
  let reply := patch 4 (be (6 : U8)) reply
  let reply := patch 5 (be (4 : U8)) reply
  let reply := patch 6 (be (2 : U16)) reply
  let reply := patch 8 (be replyMac) reply
  let reply := patch 14 (be arp.tpa) reply
  let reply := patch 18 (be arp.sha) reply
  patch 24 (be arp.spa) reply

end ArpPacket

inductive HandlerAction where
  | handled
  | notHandled
  | sendPacketOut (packetOut : PacketOut)
  | drop

structure ArpProxyHandler where
  entries : HashMap Ipv4Addr MacAddr := ∅

namespace ArpProxyHandler

def addEntry (handler : ArpProxyHandler) (ip : Ipv4Addr) (mac : MacAddr) : ArpProxyHandler :=
  { handler with entries := handler.entries.insert ip mac }

def getMac (handler : ArpProxyHandler) (ip : Ipv4Addr) : Option MacAddr :=
  handler.entries.lookup ip

def buildReplyPacket (event : PacketInEvent) (arp : ArpPacket) (replyMac : MacAddr) : Bytes :=
  let ethSrc := event.ethSrc.getD 0
  be ethSrc ++ be replyMac ++ be (0x0806 : U16) ++ arp.buildReply replyMac

def canHandle (event : PacketInEvent) : Bool := event.isArp

def handle (handler : ArpProxyHandler) (event : PacketInEvent) : HandlerAction :=
  let data := event.data
  if data.length < 14 + 28 then .notHandled
  else
    match ArpPacket.parse (data.drop 14) with
    | none => .notHandled
    | some arp =>
      if !arp.isRequest then .notHandled
      else
        match handler.getMac arp.tpa with
        | none => .notHandled
        | some replyMac =>
          .sendPacketOut {
            bufferId := ofpNoBuffer
            inPort := event.inPort
            actions := ⟨[.output .inPort]⟩
            data := buildReplyPacket event arp replyMac }

/-- What the dispatcher gets from the handler for a reported packet. -/
def answer (handler : ArpProxyHandler) (packetIn : PacketIn) : HandlerAction :=
  let event := PacketInEvent.fromPacketIn packetIn
  if canHandle event then handler.handle event else .notHandled

end ArpProxyHandler

/-! ### What is asked -/

/-- An untagged ARP frame of 42 bytes, of Ethernet and IPv4 addresses. -/
def arpFrame (dst src : MacAddr) (arp : ArpBody) : EthernetFrame where
  dst := dst
  src := src
  tags := []
  etherType := 0x0806
  payload := arp.bytes
  innermost := Tpid.ofU16_arp

/-- The switch reports a frame that came in on a port. -/
def PacketIn.Reports (packetIn : PacketIn) (port : U32) (frame : EthernetFrame) : Prop :=
  packetIn.matchFields.inPort = some port ∧ packetIn.data = frame.bytes

/-- A switch that gets the packet-out runs its actions, as they are on the wire, on its data. -/
def PacketOut.Sends (packetOut : PacketOut) (sent : List (Exit × EthernetFrame)) : Prop :=
  packetOut.bufferId = ofpNoBuffer ∧ ∃ frames actions frame,
    readFrames packetOut.actions.encode = some frames ∧
    frames.mapM readFrameAction = some actions ∧ packetOut.data = frame.bytes ∧
    runActions packetOut.inPort actions frame = sent

/-- What is asked of the two proxies and a frame.  A request for the address is answered by both
    with the same bytes, back out of the port it came in on; no other frame is answered. -/
structure ProxiesAgree (config : ArpProxyConfig) (rule : FrameRule) (handler : ArpProxyHandler)
    (dissector : Dissector) (packetIn : PacketIn) (dst src : MacAddr) (arp : ArpBody) : Prop where
  request : arp.oper = 1 → arp.tpa = config.ip → ∃ packetOut reply,
    handler.answer packetIn = .sendPacketOut packetOut ∧
    rule.run dissector config.port (arpFrame dst src arp) = [(.back, reply)] ∧
    reply.bytes = packetOut.data ∧
    packetOut.inPort = config.port ∧ packetOut.Sends [(.back, reply)]
  other : ¬ (arp.oper = 1 ∧ arp.tpa = config.ip) →
    rule.run dissector config.port (arpFrame dst src arp) = [] ∧
    handler.answer packetIn = .notHandled

/-! ### The rule of the flow -/

section Rule

variable (config : ArpProxyConfig) (table : U8) (priority : U16)

def ArpProxyConfig.proxyMatch : Match :=
  { Match.new with
    inPort := some config.port
    ethType := some 0x0806
    arpOp := some 1
    arpTpa := some config.ip }

def ArpProxyConfig.proxyRule : FrameRule where
  table := table
  priority := priority
  conditions := config.proxyMatch.tlvs
  actions := [
    .move (.arp .sha) (.arp .tha) 48 0 0,
    .move (.arp .spa) (.arp .tpa) 32 0 0,
    .load (.arp .sha) 0 48 (macToU64 config.mac),
    .load (.arp .spa) 0 32 (config.ip.setWidth 64),
    .load (.arp .op) 0 16 2,
    .move .ethSrc .ethDst 48 0 0,
    .setField .ethSrc config.mac,
    .output portInPort]

theorem readRule_proxyFlow : readRule (ArpProxyFlows.proxyFlow ⟨config⟩ table priority).encode =
    some (config.proxyRule table priority) := by
  have hfew : (List.flatMap Action.encode
      [.nxMove nxmArpSha nxmArpTha 48 0 0, .nxMove nxmArpSpa nxmArpTpa 32 0 0,
        setArpSha (macToU64 config.mac), setArpSpa config.ip, setArpOp 2,
        .nxMove nxmEthSrc nxmEthDst 48 0 0, .setEthSrc config.mac,
        .output .inPort]).length = 176 := rfl
  have hfield : FrameField.ofWord (setFieldHeader 6 .ethSrc) = some .ethSrc := by decide
  have hset : readFrameAction (encodeSetField 6 2 .ethSrc config.mac) =
      some (.setField .ethSrc config.mac) := readFrameAction_setField hfield rfl rfl
  have hread : ReadOnFrames
      [.nxMove nxmArpSha nxmArpTha 48 0 0, .nxMove nxmArpSpa nxmArpTpa 32 0 0,
        setArpSha (macToU64 config.mac), setArpSpa config.ip, setArpOp 2,
        .nxMove nxmEthSrc nxmEthDst 48 0 0, .setEthSrc config.mac, .output .inPort]
      (config.proxyRule table priority).actions := by
    apply ReadOnFrames.cons (a := .nxMove nxmArpSha nxmArpTha 48 0 0)
      (readFrameAction_move (by decide) (by decide) 48 0 0) _ (fun heq => by cases heq)
    apply ReadOnFrames.cons (a := .nxMove nxmArpSpa nxmArpTpa 32 0 0)
      (readFrameAction_move (by decide) (by decide) 32 0 0) _ (fun heq => by cases heq)
    apply ReadOnFrames.cons (a := setArpSha (macToU64 config.mac))
      (readFrameAction_load (by decide) (by decide) (by decide) _) _ (fun heq => by cases heq)
    apply ReadOnFrames.cons (a := setArpSpa config.ip)
      (readFrameAction_load (by decide) (by decide) (by decide) _) _ (fun heq => by cases heq)
    apply ReadOnFrames.cons (a := setArpOp 2)
      (readFrameAction_load (by decide) (by decide) (by decide) _) _ (fun heq => by cases heq)
    apply ReadOnFrames.cons (a := .nxMove nxmEthSrc nxmEthDst 48 0 0)
      (readFrameAction_move (by decide) (by decide) 48 0 0) _ (fun heq => by cases heq)
    apply ReadOnFrames.cons (a := .setEthSrc config.mac) hset _ (fun heq => by cases heq)
    exact ReadOnFrames.cons (a := .output .inPort) (readFrameAction_output ..) .nil
      (fun heq => by cases heq)
  rw [ArpProxyFlows.proxyFlow, readRule_template (by simp) (by omega) hread]
  rfl

end Rule

/-! ### The request becomes the reply -/

section Rewrite

variable (dst src : MacAddr) (arp : ArpBody)

theorem arpFrame_isArp : (arpFrame dst src arp).IsArp := ⟨rfl, arp.isArpBody⟩

theorem arpFrame_read (f : ArpField) :
    (arpFrame dst src arp).read (.arp f) = some (arp.get f) := by
  rw [EthernetFrame.read_arp (arpFrame_isArp dst src arp)]
  exact congrArg some (arp.wordAt_bytes f)

theorem arpFrame_write (f : ArpField) (v : BitVec f.width) :
    (arpFrame dst src arp).write (.arp f) v = arpFrame dst src (arp.set f v) := by
  rw [EthernetFrame.write_arp (arpFrame_isArp dst src arp), EthernetFrame.mk.injEq]
  exact ⟨rfl, rfl, rfl, rfl, arp.patch_bytes f v⟩

/-- Moving one field of the body to another of its width. -/
theorem arpFrame_move {f g : ArpField} {v : BitVec g.width} (hv : (arp.get f).setWidth _ = v) :
    (FrameAction.move (.arp f) (.arp g) g.width 0 0).rewrite (arpFrame dst src arp) =
      arpFrame dst src (arp.set g v) := by
  rw [← arpFrame_write]
  exact rewrite_move (arpFrame_read dst src arp f) (arpFrame_read dst src arp g) hv

theorem arpFrame_load {f : ArpField} {v : BitVec f.width} {value : U64}
    (hv : value.setWidth _ = v) :
    (FrameAction.load (.arp f) 0 f.width value).rewrite (arpFrame dst src arp) =
      arpFrame dst src (arp.set f v) := by
  rw [← arpFrame_write]
  exact rewrite_load (arpFrame_read dst src arp f) hv

/-- The reply to a request, from a proxy with an address. -/
def ArpProxyConfig.reply (config : ArpProxyConfig) (src : MacAddr) (arp : ArpBody) :
    EthernetFrame :=
  arpFrame src config.mac ⟨2, config.mac, config.ip, arp.sha, arp.spa⟩

/-- The sender is moved to the target before it is overwritten. -/
theorem runActions_proxyRule (config : ArpProxyConfig) (table : U8) (priority : U16) :
    runActions config.port (config.proxyRule table priority).actions (arpFrame dst src arp) =
      [(.back, config.reply src arp)] := by
  have hmac : (macToU64 config.mac).setWidth 48 = config.mac := by
    rw [macToU64]
    bv_omega
  have hip : (config.ip.setWidth 64).setWidth 32 = config.ip := by bv_omega
  let body₁ : ArpBody := { arp with tha := arp.sha }
  let body₂ : ArpBody := { body₁ with tpa := arp.spa }
  let body₃ : ArpBody := { body₂ with sha := config.mac }
  let body₄ : ArpBody := { body₃ with spa := config.ip }
  let body₅ : ArpBody := { body₄ with oper := 2 }
  have htha : (FrameAction.move (.arp .sha) (.arp .tha) 48 0 0).rewrite (arpFrame dst src arp) =
      arpFrame dst src body₁ := arpFrame_move dst src arp (BitVec.setWidth_eq _)
  have htpa : (FrameAction.move (.arp .spa) (.arp .tpa) 32 0 0).rewrite (arpFrame dst src body₁) =
      arpFrame dst src body₂ := arpFrame_move dst src body₁ (BitVec.setWidth_eq _)
  have hsha : (FrameAction.load (.arp .sha) 0 48 (macToU64 config.mac)).rewrite
      (arpFrame dst src body₂) = arpFrame dst src body₃ := arpFrame_load dst src body₂ hmac
  have hspa : (FrameAction.load (.arp .spa) 0 32 (config.ip.setWidth 64)).rewrite
      (arpFrame dst src body₃) = arpFrame dst src body₄ := arpFrame_load dst src body₃ hip
  have hop : (FrameAction.load (.arp .op) 0 16 2).rewrite (arpFrame dst src body₄) =
      arpFrame dst src body₅ := arpFrame_load dst src body₄ rfl
  have hdst : (FrameAction.move .ethSrc .ethDst 48 0 0).rewrite (arpFrame dst src body₅) =
      arpFrame src src body₅ := rewrite_move rfl rfl (BitVec.setWidth_eq _)
  apply (runActions_rewrite (fun _ heq => by cases heq) htha).trans
  apply (runActions_rewrite (fun _ heq => by cases heq) htpa).trans
  apply (runActions_rewrite (fun _ heq => by cases heq) hsha).trans
  apply (runActions_rewrite (fun _ heq => by cases heq) hspa).trans
  apply (runActions_rewrite (fun _ heq => by cases heq) hop).trans
  apply (runActions_rewrite (fun _ heq => by cases heq) hdst).trans
  rfl

end Rewrite

/-! ### What the rule takes -/

section Accepts

variable {config : ArpProxyConfig} {dissector : Dissector} {dst src : MacAddr} {arp : ArpBody}

/-- The operation and the target of an ARP packet, as words. -/
def Packet.arpOp (pkt : Packet) : U16 := pkt.part .arpOp

def Packet.arpTpa (pkt : Packet) : Ipv4Addr := pkt.part .arpTpa

theorem proxyMatch_holds {pkt : Packet} : config.proxyMatch.Holds pkt ↔
    pkt.inPort = config.port ∧ pkt.ethType = 0x0806 ∧ pkt.arpOp = 1 ∧ pkt.arpTpa = config.ip := by
  have hop : Asks (some (1 : U16)) none (some pkt.arpOp) ↔ pkt.arpOp = 1 := asks_plain _ _
  have htpa : Asks (some config.ip) none (some pkt.arpTpa) ↔ pkt.arpTpa = config.ip :=
    asks_plain _ _
  rw [Match.holds_iff]
  simp only [ArpProxyConfig.proxyMatch, Match.new, Option.map_none, asks_none, asks_plain,
    true_and, and_true]
  exact and_congr_right fun _ => and_congr_right fun _ => and_congr hop htpa

theorem seenArpOp_eq_one (arp : ArpBody) : seenArpOp arp.bytes = 1 ↔ arp.oper = 1 := by
  have hoper : wordAt 16 arp.bytes 6 = arp.oper := arp.wordAt_bytes .op
  rw [seenArpOp, hoper]
  split_ifs with hsmall
  · exact Iff.rfl
  · refine iff_of_false (by decide) ?_
    intro heq
    rw [heq] at hsmall
    exact hsmall (by decide)

theorem proxyRule_accepts {table : U8} {priority : U16} :
    (config.proxyRule table priority).Accepts
      (dissector.packet config.port (arpFrame dst src arp)) ↔
      arp.oper = 1 ∧ arp.tpa = config.ip := by
  have harp := arpFrame_isArp dst src arp
  have htpa : (dissector.packet config.port (arpFrame dst src arp)).arpTpa = arp.tpa :=
    (dissector.arp config.port _ .tpa (by decide) harp).trans (arp.wordAt_bytes .tpa)
  have hop : (dissector.packet config.port (arpFrame dst src arp)).arpOp =
      seenArpOp arp.bytes := dissector.arpOp config.port _ harp
  have hlong : (0x0600 : U16) ≤ 0x0806 := by decide
  have htype : (dissector.packet config.port (arpFrame dst src arp)).ethType = 0x0806 :=
    dissector.ethType config.port (arpFrame dst src arp) hlong
  have hport := dissector.inPort config.port (arpFrame dst src arp)
  refine proxyMatch_holds.trans ?_
  rw [hport, htype, hop, htpa, seenArpOp_eq_one]
  simp only [true_and]

end Accepts

/-! ### What the handler answers -/

section Handler

variable (dst src : MacAddr) (arp : ArpBody)

theorem arpFrame_bytes : (arpFrame dst src arp).bytes =
    be dst ++ (be src ++ (be (0x0806 : U16) ++ arp.bytes)) := by
  simp [EthernetFrame.bytes, arpFrame]

theorem parse_arpFrame : ParsedEthernet.parse (arpFrame dst src arp).bytes =
    some ⟨dst, src, 0x0806, 14⟩ := by
  rw [arpFrame_bytes, ParsedEthernet.parse, if_neg (by simp [arp.bytes_length])]
  simp [wordAt_append_right]

theorem parse_arpBody : ArpPacket.parse arp.bytes =
    some ⟨1, 0x0800, 6, 4, arp.oper, arp.sha, arp.spa, arp.tha, arp.tpa⟩ := by
  rcases arp.isArpBody with ⟨hlength, hhtype, hptype, hhlen, hplen⟩
  have hop : wordAt 16 arp.bytes 6 = arp.oper := arp.wordAt_bytes .op
  have hsha : wordAt 48 arp.bytes 8 = arp.sha := arp.wordAt_bytes .sha
  have hspa : wordAt 32 arp.bytes 14 = arp.spa := arp.wordAt_bytes .spa
  have htha : wordAt 48 arp.bytes 18 = arp.tha := arp.wordAt_bytes .tha
  have htpa : wordAt 32 arp.bytes 24 = arp.tpa := arp.wordAt_bytes .tpa
  rw [ArpPacket.parse, if_neg (Nat.not_lt.mpr hlength)]
  simp only [hhtype, hptype, hhlen, hplen, hop, hsha, hspa, htha, htpa]
  rfl

/-- The reply that is built is the body of the reply frame. -/
theorem buildReply_bytes (packet : ArpPacket) (mac : MacAddr) :
    packet.buildReply mac =
      (ArpBody.mk 2 mac packet.tpa packet.sha packet.spa).bytes := by
  have hheader : patch 6 (be (2 : U16)) (patch 5 (be (4 : U8)) (patch 4 (be (6 : U8))
      (patch 2 (be (0x0800 : U16)) (patch 0 (be (1 : U16)) (zeros 28))))) =
        (ArpBody.mk 2 0 0 0 0).bytes := by
    decide
  have hsha : patch 8 (be mac) (ArpBody.mk 2 0 0 0 0).bytes = (ArpBody.mk 2 mac 0 0 0).bytes :=
    ArpBody.patch_bytes _ .sha mac
  have hspa : patch 14 (be packet.tpa) (ArpBody.mk 2 mac 0 0 0).bytes =
      (ArpBody.mk 2 mac packet.tpa 0 0).bytes :=
    ArpBody.patch_bytes _ .spa packet.tpa
  have htha : patch 18 (be packet.sha) (ArpBody.mk 2 mac packet.tpa 0 0).bytes =
      (ArpBody.mk 2 mac packet.tpa packet.sha 0).bytes :=
    ArpBody.patch_bytes _ .tha packet.sha
  rw [ArpPacket.buildReply]
  simp only [hheader, hsha, hspa, htha]
  exact ArpBody.patch_bytes _ .tpa packet.spa

/-- The handler answers a request for an address that it has. -/
theorem handle_eq (handler : ArpProxyHandler) {event : PacketInEvent} {packet : ArpPacket}
    (hlength : ¬ event.data.length < 14 + 28)
    (hparse : ArpPacket.parse (event.data.drop 14) = some packet) : handler.handle event =
      if packet.isRequest then (handler.getMac packet.tpa).elim .notHandled fun mac =>
        .sendPacketOut ⟨ofpNoBuffer, event.inPort, ⟨[.output .inPort]⟩,
          ArpProxyHandler.buildReplyPacket event packet mac⟩
      else .notHandled := by
  rw [ArpProxyHandler.handle]
  simp only [if_neg hlength, hparse]
  cases packet.isRequest with
  | false => rfl
  | true => cases handler.getMac packet.tpa <;> rfl

/-- What the handler says to a reported ARP frame. -/
theorem answer_arpFrame (handler : ArpProxyHandler) {packetIn : PacketIn} {port : U32}
    (h : packetIn.Reports port (arpFrame dst src arp)) : handler.answer packetIn =
      if arp.oper = 1 then (handler.getMac arp.tpa).elim .notHandled fun mac =>
        .sendPacketOut ⟨ofpNoBuffer, port, ⟨[.output .inPort]⟩,
          (arpFrame src mac ⟨2, mac, arp.tpa, arp.sha, arp.spa⟩).bytes⟩
      else .notHandled := by
  let event := PacketInEvent.fromPacketIn packetIn
  have hport : event.inPort = port := by
    have hgetD : packetIn.inPort = (some port).getD 0 := by rw [PacketIn.inPort, h.1]
    exact hgetD
  have heth : event.eth = some ⟨dst, src, 0x0806, 14⟩ := by
    have hparse : event.eth = ParsedEthernet.parse packetIn.data := rfl
    rw [hparse, h.2, parse_arpFrame]
  have hcan : ArpProxyHandler.canHandle event = true := by
    simp [ArpProxyHandler.canHandle, PacketInEvent.isArp, PacketInEvent.ethertype, heth]
  have hsrc : event.ethSrc = some src := by
    rw [PacketInEvent.ethSrc, heth]
    rfl
  have hdata : event.data = (arpFrame dst src arp).bytes := h.2
  have hlength : ¬ event.data.length < 14 + 28 := by
    rw [hdata, arpFrame_bytes]
    simp [arp.bytes_length]
  have hparse : ArpPacket.parse (event.data.drop 14) =
      some ⟨1, 0x0800, 6, 4, arp.oper, arp.sha, arp.spa, arp.tha, arp.tpa⟩ := by
    rw [hdata, arpFrame_bytes, ← parse_arpBody]
    rfl
  have hreply : ∀ packet : ArpPacket, ∀ mac, ArpProxyHandler.buildReplyPacket event packet mac =
      (arpFrame src mac ⟨2, mac, packet.tpa, packet.sha, packet.spa⟩).bytes := by
    intro packet mac
    rw [ArpProxyHandler.buildReplyPacket, hsrc, buildReply_bytes, arpFrame_bytes]
    simp only [Option.getD_some, List.append_assoc]
  have hanswer : handler.answer packetIn = handler.handle event := if_pos hcan
  rw [hanswer, handle_eq handler hlength hparse, hport]
  simp only [hreply, ArpPacket.isRequest, decide_eq_true_eq]

end Handler

/-! ### Both proxies -/

/-- The handler with the one entry of a configuration. -/
def ArpProxyConfig.handler (config : ArpProxyConfig) : ArpProxyHandler :=
  ArpProxyHandler.addEntry {} config.ip config.mac

theorem handler_getMac (config : ArpProxyConfig) (ip : Ipv4Addr) :
    config.handler.getMac ip = if ip = config.ip then some config.mac else none := by
  have hlookup : config.handler.getMac ip =
      AList.lookup ip (AList.insert config.ip config.mac (∅ : HashMap Ipv4Addr MacAddr)) := rfl
  rw [hlookup]
  by_cases hip : ip = config.ip
  · rw [if_pos hip, hip, AList.lookup_insert]
  · rw [if_neg hip, AList.lookup_insert_ne hip]
    exact AList.lookup_empty ip

/-- A packet-out back to the input port sends its data back. -/
theorem sends_back (port : U32) (frame : EthernetFrame) :
    PacketOut.Sends ⟨ofpNoBuffer, port, ⟨[.output .inPort]⟩, frame.bytes⟩ [(.back, frame)] := by
  have hfew : (ActionList.mk [.output .inPort]).encode.length ≤ 65535 := by decide
  exact ⟨rfl, _, [.output portInPort], frame, ActionList.readFrames_encode hfew,
    ReadOnFrames.cons (a := .output .inPort) (readFrameAction_output ..) .nil
      (fun heq => by cases heq), rfl, rfl⟩

/-- **The flow and the handler answer the same requests, with the same bytes.**  The flow is read
    from its bytes and rewrites the packet in place, while the handler builds a new one; on every
    other ARP packet both are silent. -/
theorem arpProxies_agree (config : ArpProxyConfig) (table : U8) (priority : U16)
    (dissector : Dissector) (dst src : MacAddr) (arp : ArpBody) {packetIn : PacketIn}
    (h : packetIn.Reports config.port (arpFrame dst src arp)) :
    ∃ rule, readRule (ArpProxyFlows.proxyFlow ⟨config⟩ table priority).encode = some rule ∧
      ProxiesAgree config rule config.handler dissector packetIn dst src arp := by
  refine ⟨_, readRule_proxyFlow config table priority, ?_⟩
  constructor
  case request =>
    intro hop htpa
    have hrun : (config.proxyRule table priority).run dissector config.port
        (arpFrame dst src arp) = [(.back, config.reply src arp)] := by
      rw [FrameRule.run, if_pos (proxyRule_accepts.mpr ⟨hop, htpa⟩), runActions_proxyRule]
    refine ⟨_, config.reply src arp, ?_, hrun, rfl, rfl, sends_back config.port _⟩
    rw [answer_arpFrame dst src arp config.handler h, if_pos hop, handler_getMac, if_pos htpa, htpa]
    rfl
  case other =>
    intro hnot
    constructor
    · rw [FrameRule.run, if_neg (mt proxyRule_accepts.mp hnot)]
    · rw [answer_arpFrame dst src arp config.handler h, handler_getMac]
      by_cases hop : arp.oper = 1
      · rw [if_pos hop, if_neg (fun htpa => hnot ⟨hop, htpa⟩)]
        rfl
      · rw [if_neg hop]

/-- A proxy for 10.0.0.99 on port 2, and a request that comes in there. -/
def gatewayProxy : ArpProxyConfig := ⟨0x0a000063, 0x020000000099, 2⟩

def gatewayRequest : ArpBody := ⟨1, 0x020000000001, 0x0a000001, 0, 0x0a000063⟩

theorem arpProxies_agree_gateway :
    ∃ rule, readRule (ArpProxyFlows.proxyFlow ⟨gatewayProxy⟩ 0 200).encode = some rule ∧
      ProxiesAgree gatewayProxy rule gatewayProxy.handler .shallow
        ⟨{ Match.new with inPort := some 2 },
          (arpFrame 0xffffffffffff 0x020000000001 gatewayRequest).bytes⟩
        0xffffffffffff 0x020000000001 gatewayRequest :=
  arpProxies_agree gatewayProxy 0 200 .shallow 0xffffffffffff 0x020000000001 gatewayRequest
    ⟨rfl, rfl⟩

end Rovs.OpenFlow

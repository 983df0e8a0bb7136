import Rovs.Controller

/-!
# The neighbor proxies (`rovs-ext/src/controller/protocol`)

A controller with the ARP proxy and the NDP proxy owes an answer to some of the packets that the
switch reports: to ARP requests for one of its IPv4 addresses, and to Neighbor Solicitations for
one of its IPv6 addresses.  Which packets these are and what the answers are is said about their
bytes.  An answer is a message that makes the switch send a frame back out of the port on which
the packet came in.

`Owed` says what is owed for a message, and `proxies_answer` that the controller writes just
that in every run, in either order of the handlers.
-/

namespace Rovs.OpenFlow

open Outcome

/-! ### What is asked -/

/-- An Ethernet frame with an ARP request in it, and maybe padding behind. -/
structure IsArpRequest (data : Bytes) : Prop where
  ethertype : wordAt 16 data 12 = 0x0806
  body : IsArpBody (data.drop 14)
  request : wordAt 16 data 20 = 1

namespace Ndp

/-- What a host checks before it believes an advertisement. -/
structure Believable (packet : Bytes) : Prop where
  hopLimit : packetHopLimit packet = 255
  verifies : Verifies (packetSrcAddr packet) (packetDstAddr packet) (packetMessage packet)
  type : packetType packet = icmpv6NeighborAdvertisement
  code : packetCode packet = 0
  length : 24 ≤ (packetMessage packet).length
  target : isMulticast (packetTarget packet) = false
  solicited : isMulticast (packetDstAddr packet) = true → packetSolicited packet = false
  options : WholeOptions ((packetMessage packet).drop 24)

/-- Options, one after the other up to the first that is not whole, say which link-layer address
    their sender has: the last one of the Source Link-Layer Address options among them does. -/
inductive SaysSource : Option MacAddr → Bytes → Option MacAddr → Prop
  | done {found : Option MacAddr} {options : Bytes} (hend : ¬ StartsOption options) :
      SaysSource found options found
  | option {found last : Option MacAddr} {options : Bytes} (hstart : StartsOption options)
      (hrest : SaysSource (addressAfter found options) (options.drop (optionLength options))
        last) : SaysSource found options last

/-- The packet answers a solicitation: it is a Neighbor Advertisement that says that the target has
    the address.  It goes to the host that asked, in a frame from the address to the link-layer
    address that the host has given, or else that its frame came from.  The host believes it if
    neither the target nor its own address is a multicast address. -/
structure Answers (mac : MacAddr) (data packet : Bytes) : Prop where
  receiver : ∃ found, SaysSource none (data.drop 78) found ∧
    packetDstMac packet = found.getD (wordAt 48 data 6)
  sender : wordAt 48 packet 6 = mac
  headers : Icmpv6Headers packet
  type : packetType packet = 136
  code : packetCode packet = 0
  source : packetSrcAddr packet = packetTarget data
  destination : packetDstAddr packet =
    if packetSrcAddr data = 0 then allNodes else packetSrcAddr data
  target : packetTarget packet = packetTarget data
  address : (packetMessage packet).drop 24 = be ndpOptTargetLlAddr ++ ([1] ++ be mac)
  believable : Believable packet ↔
    isMulticast (packetTarget data) = false ∧ isMulticast (packetSrcAddr data) = false

end Ndp

/-- A switch that gets the message sends this: a packet-out, read off its bytes. -/
def Message.Sends (msg : Message) (port : U32) (sent : List (Exit × EthernetFrame)) : Prop :=
  msg.header.msgType = .packetOut ∧ wordAt 32 msg.body 0 = ofpNoBuffer ∧
    wordAt 32 msg.body 4 = port ∧ ∃ frames actions frame,
      readFrames ((msg.body.drop 16).take (wordAt 16 msg.body 8).toNat) = some frames ∧
      frames.mapM readFrameAction = some actions ∧
      msg.body.drop (16 + (wordAt 16 msg.body 8).toNat) = frame.bytes ∧
      runActions port actions frame = sent

namespace Controller

section Asked

variable (arp : ArpProxyHandler) (ndp : NdpProxyHandler) (data : Bytes)

/-- One of the proxies has the address that is asked for. -/
def Asked : Prop :=
  (IsArpRequest data ∧ (arp.getMac (wordAt 32 data 38)).isSome) ∨
    (Ndp.Accepted data ∧ (ndp.getMac (Ndp.packetTarget data)).isSome)

/-- The frames that answer a packet. -/
inductive Answer : EthernetFrame → Prop where
  | reply {mac : MacAddr} (request : IsArpRequest data)
      (mac_eq : arp.getMac (wordAt 32 data 38) = some mac) :
      Answer (arpFrame (wordAt 48 data 6) mac
        ⟨2, mac, wordAt 32 data 38, wordAt 48 data 22, wordAt 32 data 28⟩)
  | advertisement {mac : MacAddr} {frame : EthernetFrame} (solicitation : Ndp.Accepted data)
      (mac_eq : ndp.getMac (Ndp.packetTarget data) = some mac)
      (answers : Ndp.Answers mac data frame.bytes) : Answer frame

/-- What a controller with the proxies owes for a message. -/
inductive Owed (msg : Message) : List Message → Prop where
  | echo {reply : Message} (request : msg.header.msgType = .echoRequest)
      (type : reply.header.msgType = .echoReply) (xid : reply.header.xid = msg.header.xid)
      (body : reply.body = msg.body) : Owed msg [reply]
  | answer {message : PacketInMessage} {frame : EthernetFrame} {out : Message}
      (packet : msg.header.msgType = .packetIn)
      (parsed : PacketInMessage.parse msg.body = .ok message)
      (answers : Answer arp ndp message.data frame)
      (sends : out.Sends message.inPort [(.back, frame)]) : Owed msg [out]
  | silent (noEcho : msg.header.msgType ≠ .echoRequest)
      (notAsked : ∀ message : PacketInMessage, msg.header.msgType = .packetIn →
        PacketInMessage.parse msg.body = .ok message → ¬ Asked arp ndp message.data) : Owed msg []

end Asked

/-- A message that is no error, and that can be parsed if it reports a packet. -/
structure Sound (msg : Message) : Prop where
  noError : checkError msg = .ok ()
  parses : msg.header.msgType = .packetIn →
    ∃ message, PacketInMessage.parse msg.body = .ok message

end Controller

/-! ### Advertisements on the wire -/

namespace Ndp

section Reply

variable (dstMac ourMac : MacAddr) (ourIpv6 dstIpv6 : Ipv6Addr) (nsIpv6 : Ipv6Header)
  (checksum : U16)

/-- The message of a reply behind its checksum. -/
def replyBody : Bytes :=
  be ((NeighborAdvertisement.new ourIpv6 ourMac).solicited (!isUnspecified nsIpv6.srcAddr)).flags
    ++ (be ourIpv6 ++ (be ndpOptTargetLlAddr ++ ([1] ++ be ourMac)))

theorem insertChecksum_replyMessage :
    insertChecksum (replyMessage nsIpv6 ourMac ourIpv6) checksum =
      [(136 : U8), 0, (checksum >>> 8).setWidth 8, checksum.setWidth 8]
        ++ replyBody ourMac ourIpv6 nsIpv6 := by
  simp only [replyMessage, replyBody, NeighborAdvertisement.encodeIcmpv6, List.append_assoc]
  rfl

section Words

variable (message : Bytes)

theorem replyFrame_length :
    (replyFrame dstMac ourMac ourIpv6 dstIpv6 message).length = 54 + message.length := by
  simp [replyFrame]
  omega

theorem replyFrame_word (w n : Nat) :
    wordAt w (replyFrame dstMac ourMac ourIpv6 dstIpv6 message) (54 + n) = wordAt w message n := by
  rw [← wordAt_drop]
  exact congrArg (wordAt w · n) (replyFrame_message dstMac ourMac ourIpv6 dstIpv6 message)

theorem replyFrame_icmpv6Headers :
    Icmpv6Headers (replyFrame dstMac ourMac ourIpv6 dstIpv6 message) where
  length := by
    rw [replyFrame_length]
    omega
  ethertype := by simp [packetEthertype, replyFrame, wordAt_append_right]
  version := by
    have hword : wordAt 8 (replyFrame dstMac ourMac ourIpv6 dstIpv6 message) 14 = 0x60 := by
      have hhead : ∀ rest : Bytes, wordAt 8 (be (0x60000000 : U32) ++ rest) 0 = 0x60 := by
        intro rest
        rw [wordAt_append_left (by simp)]
        decide
      simpa [replyFrame, wordAt_append_right] using hhead _
    rw [packetVersion, hword]
    decide
  nextHeader := by simp [packetNextHeader, replyFrame, wordAt_append_right]

theorem replyFrame_srcMac :
    wordAt 48 (replyFrame dstMac ourMac ourIpv6 dstIpv6 message) 6 = ourMac := by
  simp [replyFrame, wordAt_append_right]

theorem replyFrame_hopLimit :
    packetHopLimit (replyFrame dstMac ourMac ourIpv6 dstIpv6 message) = 255 := by
  simp [packetHopLimit, replyFrame, wordAt_append_right]

end Words

section Message

/-- The reply with a checksum. -/
def reply : Bytes :=
  replyFrame dstMac ourMac ourIpv6 dstIpv6
    (insertChecksum (replyMessage nsIpv6 ourMac ourIpv6) checksum)

theorem reply_type : packetType (reply dstMac ourMac ourIpv6 dstIpv6 nsIpv6 checksum) =
    icmpv6NeighborAdvertisement := by
  rw [packetType, reply, replyFrame_word (n := 0), insertChecksum_replyMessage]
  rfl

theorem reply_code : packetCode (reply dstMac ourMac ourIpv6 dstIpv6 nsIpv6 checksum) = 0 := by
  rw [packetCode, reply, replyFrame_word (n := 1), insertChecksum_replyMessage]
  rfl

theorem reply_target :
    packetTarget (reply dstMac ourMac ourIpv6 dstIpv6 nsIpv6 checksum) = ourIpv6 := by
  rw [packetTarget, reply, replyFrame_word (n := 8), insertChecksum_replyMessage,
    wordAt_append_right (show 4 ≤ 8 by decide), replyBody, wordAt_append_right (by simp)]
  exact wordAt_be_append ourIpv6 _ rfl

theorem reply_message : (packetMessage
    (reply dstMac ourMac ourIpv6 dstIpv6 nsIpv6 checksum)).drop 24 =
      be ndpOptTargetLlAddr ++ ([1] ++ be ourMac) := by
  rw [reply, replyFrame_message, insertChecksum_replyMessage]
  simp [replyBody, List.drop_append, List.drop_of_length_le]

theorem reply_solicited : packetSolicited (reply dstMac ourMac ourIpv6 dstIpv6 nsIpv6 checksum) =
    !isUnspecified nsIpv6.srcAddr := by
  rw [reply, replyFrame_solicited, replyMessage_solicited]

end Message

/-- An advertisement to all nodes is not solicited. -/
theorem unsolicited_iff (hdst : dstIpv6 = replyDst nsIpv6) :
    (isMulticast dstIpv6 = true → (!isUnspecified nsIpv6.srcAddr) = false) ↔
      isMulticast nsIpv6.srcAddr = false := by
  subst hdst
  by_cases hsrc : isUnspecified nsIpv6.srcAddr = true
  case pos =>
    have hzero : isMulticast nsIpv6.srcAddr = false := by
      rw [(isUnspecified_iff _).mp hsrc]
      decide
    rw [hsrc, hzero]
    exact ⟨fun _ => rfl, fun _ _ => rfl⟩
  case neg =>
    have hdst : replyDst nsIpv6 = nsIpv6.srcAddr := if_neg hsrc
    rw [hdst, Bool.eq_false_iff.mpr hsrc]
    cases isMulticast nsIpv6.srcAddr with
    | false => exact ⟨fun _ => rfl, fun _ hfalse => absurd hfalse Bool.false_ne_true⟩
    | true => exact ⟨fun h => h rfl, fun hfalse => absurd hfalse.symm Bool.false_ne_true⟩

theorem wholeOptions_targetLl (mac : MacAddr) :
    WholeOptions (be ndpOptTargetLlAddr ++ ([1] ++ be mac)) := by
  have hlength : optionLength (be ndpOptTargetLlAddr ++ ([1] ++ be mac)) = 8 := by
    rw [optionLength, wordAt_append_right (by simp)]
    rfl
  refine .cons ⟨by simp, by rw [hlength]; decide, by rw [hlength]; simp⟩ ?_
  rw [hlength, List.drop_of_length_le (by simp)]
  exact .nil

/-- A reply with the right checksum is believed if no address in it is a multicast address. -/
theorem believable_iff (hdst : dstIpv6 = replyDst nsIpv6)
    (hchecksum : checksum.toNat =
      65535 - fold16 (covered ourIpv6 dstIpv6 (replyMessage nsIpv6 ourMac ourIpv6))) :
    Believable (reply dstMac ourMac ourIpv6 dstIpv6 nsIpv6 checksum) ↔
      isMulticast ourIpv6 = false ∧ isMulticast nsIpv6.srcAddr = false := by
  have hlength := replyMessage_length nsIpv6 ourMac ourIpv6
  have hdstAddr : packetDstAddr (reply dstMac ourMac ourIpv6 dstIpv6 nsIpv6 checksum) = dstIpv6 :=
    replyFrame_dstAddr ..
  constructor
  case mp =>
    intro h
    have htarget := h.target
    have hsolicited := h.solicited
    rw [reply_target] at htarget
    rw [hdstAddr, reply_solicited] at hsolicited
    exact ⟨htarget, (unsolicited_iff dstIpv6 nsIpv6 hdst).mp hsolicited⟩
  case mpr =>
    rintro ⟨htarget, hsrc⟩
    constructor
    case hopLimit => exact replyFrame_hopLimit ..
    case verifies =>
      rw [reply, replyFrame_srcAddr, replyFrame_dstAddr, replyFrame_message]
      refine verifies_insertChecksum (by omega) (by omega) ?_
      rw [replyMessage_zeroed, hchecksum]
    case type => exact reply_type ..
    case code => exact reply_code ..
    case length =>
      rw [reply, replyFrame_message, insertChecksum_length, hlength]
      decide
    case target => rw [reply_target, htarget]
    case solicited =>
      rw [hdstAddr, reply_solicited]
      exact (unsolicited_iff dstIpv6 nsIpv6 hdst).mpr hsrc
    case options =>
      rw [reply_message]
      exact wholeOptions_targetLl ourMac

end Reply

/-! ### Answering a solicitation -/

theorem parseOptions_saysSource {options : Bytes} {found last : Option MacAddr}
    (h : parseOptions found options = .ok last) : SaysSource found options last := by
  induction hlength : options.length using Nat.strongRecOn generalizing options found with
  | ind n ih =>
    by_cases hstart : StartsOption options
    case pos =>
      have hnext := loop_step optionsPass_decreases (optionsPass_again found hstart)
      refine .option hstart (ih _ ?_ (hnext.symm.trans h) rfl)
      rw [List.length_drop, ← hlength]
      exact Nat.sub_lt (Nat.lt_of_lt_of_le (by decide) hstart.1) hstart.2.1
    case neg =>
      have hleave : parseOptions found options = .ok found :=
        loop_leave (optionsPass_leave found hstart) _
      rw [hleave] at h
      cases h
      exact .done hstart

theorem EthernetFrame.parse_srcMac {data : Bytes} {eth : EthernetFrame}
    (h : EthernetFrame.parse data = .ok eth) : eth.srcMac = wordAt 48 data 6 := by
  by_cases hlength : data.length < ethHeaderLen
  case pos =>
    rw [EthernetFrame.parse, if_pos hlength] at h
    cases h
  case neg =>
    have hlong : 14 ≤ data.length := Nat.not_lt.mp hlength
    rw [EthernetFrame.parse, if_neg hlength, beAt_eq_ok (by omega), ok_bind,
      beAt_eq_ok (by omega), ok_bind, beAt_eq_ok (by omega), ok_bind] at h
    exact congrArg EthernetFrame.srcMac (Outcome.ok.inj h).symm

theorem Ipv6Header.parse_srcAddr {data : Bytes} {header : Ipv6Header}
    (h : Ipv6Header.parse data = .ok header) : header.srcAddr = wordAt 128 data 8 := by
  by_cases hlength : data.length < ipv6HeaderLen
  case pos =>
    rw [Ipv6Header.parse, if_pos hlength] at h
    cases h
  case neg =>
    have hlong : 40 ≤ data.length := Nat.not_lt.mp hlength
    have hread : ∀ {w off : Nat}, off + w / 8 ≤ 40 →
        beAt (E := Unit) w data off = .ok (wordAt w data off) := fun hoff =>
      beAt_eq_ok (Nat.le_trans hoff hlong)
    rw [Ipv6Header.parse, if_neg hlength, hread (by decide), ok_bind] at h
    rcases ite_eq_iff.mp h with ⟨-, h⟩ | ⟨-, h⟩
    · cases h
    simp only [hread (show 1 + 8 / 8 ≤ 40 by decide), hread (show 2 + 8 / 8 ≤ 40 by decide),
      hread (show 3 + 8 / 8 ≤ 40 by decide), hread (show 4 + 16 / 8 ≤ 40 by decide),
      hread (show 6 + 8 / 8 ≤ 40 by decide), hread (show 7 + 8 / 8 ≤ 40 by decide),
      hread (show 8 + 128 / 8 ≤ 40 by decide), hread (show 24 + 128 / 8 ≤ 40 by decide),
      ok_bind, pure_eq] at h
    exact congrArg Ipv6Header.srcAddr (Outcome.ok.inj h).symm

/-- Where a parsed solicitation comes from, by either of its headers and by its options, and what it
    asks for. -/
theorem parseNeighborSolicitation_words {frame : Bytes} {eth : EthernetFrame} {ipv6 : Ipv6Header}
    {ns : NeighborSolicitation} (h : parseNeighborSolicitation frame = .ok (eth, ipv6, ns)) :
    Accepted frame ∧ ipv6.srcAddr = packetSrcAddr frame ∧ ns.targetAddr = packetTarget frame ∧
      eth.srcMac = wordAt 48 frame 6 ∧ SaysSource none (frame.drop 78) ns.sourceLlAddr := by
  have haccepted : Accepted frame := by
    by_contra hnot
    rw [parseNeighborSolicitation_refused hnot] at h
    cases h
  rcases parseNeighborSolicitation_accepted haccepted with ⟨eth', ipv6', found, hfound, hparse⟩
  rw [hparse] at h
  cases h
  rcases bind_eq_ok.mp hparse with ⟨eth, heth, htail⟩
  rcases ite_eq_iff.mp htail with ⟨-, htail⟩ | ⟨-, htail⟩
  · cases htail
  rcases bind_eq_ok.mp htail with ⟨packet, hpacket, htail⟩
  rcases bind_eq_ok.mp htail with ⟨header, hheader, htail⟩
  rcases ite_eq_iff.mp htail with ⟨-, htail⟩ | ⟨-, htail⟩
  · cases htail
  rcases bind_eq_ok.mp htail with ⟨message, -, htail⟩
  rcases bind_eq_ok.mp htail with ⟨ns, -, htail⟩
  cases htail
  refine ⟨haccepted, ?_, rfl, EthernetFrame.parse_srcMac heth, parseOptions_saysSource hfound⟩
  have hlength : ethHeaderLen ≤ frame.length := Nat.le_trans (by decide) haccepted.headers.length
  rcases EthernetFrame.parse_long hlength with ⟨eth', heth', hoffset, -⟩
  rw [heth'] at heth
  cases heth
  have hslice : sliceFrom (E := Unit) frame 14 = .ok (frame.drop 14) := sliceFrom_eq hlength
  rw [hoffset, hslice] at hpacket
  cases hpacket
  rw [Ipv6Header.parse_srcAddr hheader, wordAt_drop]
  rfl

end Ndp

theorem Tpid.ofU16_ipv6 : Tpid.ofU16 0x86dd = none := by decide

/-- An untagged IPv6 frame. -/
def ipv6Frame (dst src : MacAddr) (payload : Bytes) : EthernetFrame where
  dst := dst
  src := src
  tags := []
  etherType := 0x86dd
  payload := payload
  innermost := Tpid.ofU16_ipv6

namespace Ndp

theorem replyFrame_bytes (dstMac ourMac : MacAddr) (ourIpv6 dstIpv6 : Ipv6Addr)
    (message : Bytes) : ∃ frame : OpenFlow.EthernetFrame,
      replyFrame dstMac ourMac ourIpv6 dstIpv6 message = frame.bytes := by
  refine ⟨ipv6Frame dstMac ourMac (be (0x60000000 : U32) ++ (be (BitVec.ofNat 16 message.length)
    ++ (be ipprotoIcmpv6 ++ (be (255 : U8) ++ (be ourIpv6 ++ (be dstIpv6 ++ message)))))), ?_⟩
  simp only [replyFrame, OpenFlow.EthernetFrame.bytes, ipv6Frame, List.flatMap_nil,
    List.append_nil, List.append_assoc]
  rfl

/-- A parsed solicitation is answered. -/
theorem buildNaReply_answers (checks : Bool) {data : Bytes} {eth : EthernetFrame}
    {ipv6 : Ipv6Header} {ns : NeighborSolicitation}
    (h : parseNeighborSolicitation data = .ok (eth, ipv6, ns)) (mac : MacAddr) :
    ∃ frame : OpenFlow.EthernetFrame,
      buildNaReply checks eth ipv6 ns mac ns.targetAddr = .ok frame.bytes ∧
      Answers mac data frame.bytes := by
  rcases parseNeighborSolicitation_words h with ⟨-, hsrc, htarget, hsrcMac, hoptions⟩
  rcases buildNaReply_frame eth ipv6 ns mac ns.targetAddr checks with
    ⟨checksum, hbuilt, hchecksum⟩
  rcases replyFrame_bytes (solicitorMac eth ns) mac ns.targetAddr (replyDst ipv6)
    (insertChecksum (replyMessage ipv6 mac ns.targetAddr) checksum) with ⟨frame, hframe⟩
  refine ⟨frame, hbuilt.trans (congrArg Outcome.ok hframe), ?_⟩
  rw [← hframe]
  constructor
  case receiver =>
    refine ⟨ns.sourceLlAddr, hoptions, ?_⟩
    rw [replyFrame_dstMac, solicitorMac, hsrcMac]
  case sender => exact replyFrame_srcMac ..
  case type => exact reply_type ..
  case code => exact reply_code ..
  case headers => exact replyFrame_icmpv6Headers ..
  case source => rw [replyFrame_srcAddr, htarget]
  case destination =>
    rw [replyFrame_dstAddr, replyDst, ← hsrc]
    simp only [isUnspecified_iff]
  case target => exact (reply_target ..).trans htarget
  case address => exact reply_message ..
  case believable =>
    rw [← htarget, ← hsrc]
    exact believable_iff _ _ _ _ _ _ rfl hchecksum

end Ndp

/-! ### What the handlers say -/

namespace Controller

/-- What a service says to an event, whether it can handle it or not. -/
def Service.verdict (service : Service) (event : PacketEvent) : Outcome Error HandlerAction :=
  if service.canHandle event then service.answer event else pure .notHandled

theorem react_cons (event : PacketEvent) (service : Service) (services : List Service) :
    react event (service :: services) = (do
      match ← service.verdict event with
      | .notHandled => react event services
      | action => pure action) := by
  rw [react, Service.verdict]
  cases service.canHandle event with
  | false => rfl
  | true => rfl

theorem react_pass {event : PacketEvent} {service : Service} (services : List Service)
    (h : service.verdict event = .ok .notHandled) :
    react event (service :: services) = react event services := by
  rw [react_cons, h, ok_bind]

/-- The message that sends a frame back. -/
def sendBack (port : U32) (frame : EthernetFrame) : HandlerAction :=
  .sendPacketOut ⟨ofpNoBuffer, port, ⟨[.output .inPort]⟩, frame.bytes⟩

theorem react_sendBack {event : PacketEvent} {service : Service} (services : List Service)
    {port : U32} {frame : EthernetFrame} (h : service.verdict event = .ok (sendBack port frame)) :
    react event (service :: services) = .ok (sendBack port frame) := by
  rw [react_cons, h, ok_bind]
  rfl

section Arp

variable (arp : ArpProxyHandler) {message : PacketInMessage}

/-- The packet that a body is parsed to. -/
def arpPacket (body : Bytes) : ArpPacket where
  htype := wordAt 16 body 0
  ptype := wordAt 16 body 2
  hlen := wordAt 8 body 4
  plen := wordAt 8 body 5
  oper := wordAt 16 body 6
  sha := wordAt 48 body 8
  spa := wordAt 32 body 14
  tha := wordAt 48 body 18
  tpa := wordAt 32 body 24

theorem arpPacket_parse (body : Bytes) :
    ArpPacket.parse body = if IsArpBody body then some (arpPacket body) else none := by
  by_cases hbody : IsArpBody body
  case pos =>
    rcases id hbody with ⟨hlength, hhtype, hptype, hhlen, hplen⟩
    rw [if_pos hbody, ArpPacket.parse, if_neg (Nat.not_lt.mpr hlength)]
    simp only [hhtype, hptype, hhlen, hplen]
    simp [arpPacket, hhtype, hptype, hhlen, hplen]
  case neg =>
    rw [if_neg hbody, ArpPacket.parse]
    by_cases hlength : body.length < 28
    · exact if_pos hlength
    · rw [if_neg hlength]
      refine if_pos ?_
      by_contra hnone
      push Not at hnone
      exact hbody ⟨Nat.not_lt.mp hlength, hnone⟩

theorem arpPacket_isRequest (data : Bytes) :
    (arpPacket (data.drop 14)).isRequest = true ↔ wordAt 16 data 20 = 1 := by
  have hoper : (arpPacket (data.drop 14)).oper = wordAt 16 data 20 := wordAt_drop ..
  rw [ArpPacket.isRequest, hoper]
  exact decide_eq_true_iff

theorem arpPacket_words (data : Bytes) :
    (arpPacket (data.drop 14)).tpa = wordAt 32 data 38 ∧
      (arpPacket (data.drop 14)).spa = wordAt 32 data 28 ∧
      (arpPacket (data.drop 14)).sha = wordAt 48 data 22 :=
  ⟨wordAt_drop .., wordAt_drop .., wordAt_drop ..⟩

theorem parse_ethernet {data : Bytes} (h : 14 ≤ data.length) : ParsedEthernet.parse data =
    some ⟨wordAt 48 data 0, wordAt 48 data 6, wordAt 16 data 12, 14⟩ :=
  if_neg (Nat.not_lt.mpr h)

theorem ethertype_ofMessage (h : 14 ≤ message.data.length) :
    (PacketEvent.ofMessage message).ethertype = some (wordAt 16 message.data 12) := by
  have heth : (PacketEvent.ofMessage message).eth = ParsedEthernet.parse message.data := rfl
  rw [PacketInEvent.ethertype, heth, parse_ethernet h]
  rfl

theorem ethertype_ofMessage_eq {ethertype : U16}
    (h : (PacketEvent.ofMessage message).ethertype = some ethertype) :
    14 ≤ message.data.length ∧ wordAt 16 message.data 12 = ethertype := by
  by_cases hlength : message.data.length < 14
  case pos =>
    have heth : (PacketEvent.ofMessage message).eth = none := if_pos hlength
    rw [PacketInEvent.ethertype, heth] at h
    cases h
  case neg =>
    have hlong := Nat.not_lt.mp hlength
    rw [ethertype_ofMessage hlong] at h
    exact ⟨hlong, Option.some.inj h⟩

theorem arp_length {data : Bytes} (h : IsArpRequest data) : 42 ≤ data.length := by
  have hbody := h.body.1
  rw [List.length_drop] at hbody
  omega

/-- The ARP proxy answers requests for its addresses. -/
theorem arpProxy_asked {mac : MacAddr} (h : IsArpRequest message.data)
    (hmac : arp.getMac (wordAt 32 message.data 38) = some mac) :
    (arpProxy arp).verdict (.ofMessage message) = .ok (sendBack message.inPort
      (arpFrame (wordAt 48 message.data 6) mac ⟨2, mac, wordAt 32 message.data 38,
        wordAt 48 message.data 22, wordAt 32 message.data 28⟩)) := by
  have hlength := arp_length h
  have hcan : (arpProxy arp).canHandle (.ofMessage message) = true := by
    have htype := ethertype_ofMessage (show 14 ≤ message.data.length by omega)
    rw [h.ethertype] at htype
    exact decide_eq_true htype
  have hsrc : (PacketEvent.ofMessage message).ethSrc = some (wordAt 48 message.data 6) := by
    have heth : (PacketEvent.ofMessage message).eth = ParsedEthernet.parse message.data := rfl
    rw [PacketInEvent.ethSrc, heth, parse_ethernet (by omega)]
    rfl
  have hdata : (PacketEvent.ofMessage message).data = message.data := rfl
  have hport : (PacketEvent.ofMessage message).inPort = message.inPort := rfl
  have hparse : ArpPacket.parse ((PacketEvent.ofMessage message).data.drop 14) =
      some (arpPacket (message.data.drop 14)) := by
    rw [hdata, arpPacket_parse, if_pos h.body]
  rcases arpPacket_words message.data with ⟨htpa, hspa, hsha⟩
  have hlong : ¬ (PacketEvent.ofMessage message).data.length < 14 + 28 := by
    rw [hdata]
    omega
  rw [Service.verdict, if_pos hcan]
  show Outcome.ok (arp.handle (PacketEvent.ofMessage message).toPacketInEvent) = _
  rw [handle_eq arp hlong hparse, if_pos ((arpPacket_isRequest _).mpr h.request), htpa, hmac,
    Option.elim_some, ArpProxyHandler.buildReplyPacket, hsrc, buildReply_bytes, htpa, hsha,
    hspa, hport, sendBack, arpFrame_bytes]
  simp only [Option.getD_some, List.append_assoc]

/-- It passes everything else on. -/
theorem arpProxy_silent
    (h : ¬ (IsArpRequest message.data ∧ (arp.getMac (wordAt 32 message.data 38)).isSome)) :
    (arpProxy arp).verdict (.ofMessage message) = .ok .notHandled := by
  rw [Service.verdict]
  by_cases hcan : (arpProxy arp).canHandle (.ofMessage message) = true
  case neg => exact if_neg hcan
  case pos =>
    rw [if_pos hcan]
    have hdata : (PacketEvent.ofMessage message).data = message.data := rfl
    rcases ethertype_ofMessage_eq (of_decide_eq_true hcan) with ⟨-, htype⟩
    show Outcome.ok (arp.handle (PacketEvent.ofMessage message).toPacketInEvent) = _
    congr 1
    by_cases hlength : message.data.length < 14 + 28
    · exact if_pos hlength
    by_cases hbody : IsArpBody (message.data.drop 14)
    case neg =>
      have hparse := arpPacket_parse (message.data.drop 14)
      rw [if_neg hbody] at hparse
      rw [ArpProxyHandler.handle]
      simp only [hdata, if_neg hlength, hparse]
    case pos =>
      have hparse := arpPacket_parse (message.data.drop 14)
      rw [if_pos hbody, ← hdata] at hparse
      rw [handle_eq arp (by rw [hdata]; exact hlength) hparse]
      by_cases hrequest : (arpPacket (message.data.drop 14)).isRequest = true
      case neg => exact if_neg hrequest
      case pos =>
        have hop : wordAt 16 message.data 20 = 1 := (arpPacket_isRequest _).mp hrequest
        have hnone : arp.getMac (wordAt 32 message.data 38) = none := by
          rw [← Option.not_isSome_iff_eq_none]
          exact fun hsome => h ⟨⟨htype, hbody, hop⟩, hsome⟩
        rw [hdata, if_pos hrequest, (arpPacket_words message.data).1, hnone]
        rfl

end Arp

/-! ### The NDP proxy -/

section Ndp

variable (checks : Bool) (ndp : NdpProxyHandler) {message : PacketInMessage}

theorem ndpProxy_canHandle (h : Ndp.Accepted message.data) :
    (ndpProxy checks ndp).canHandle (.ofMessage message) = true := by
  have hlength := h.headers.length
  have htype := ethertype_ofMessage (show 14 ≤ message.data.length by omega)
  rw [show wordAt 16 message.data 12 = 0x86dd from h.headers.ethertype] at htype
  exact decide_eq_true htype

/-- The NDP proxy answers solicitations for its addresses. -/
theorem ndpProxy_asked {mac : MacAddr} (h : Ndp.Accepted message.data)
    (hmac : ndp.getMac (Ndp.packetTarget message.data) = some mac) :
    ∃ frame : EthernetFrame,
      (ndpProxy checks ndp).verdict (.ofMessage message) = .ok (sendBack message.inPort frame) ∧
      Ndp.Answers mac message.data frame.bytes := by
  rcases Ndp.parseNeighborSolicitation_accepted h with ⟨eth, ipv6, found, -, hparse⟩
  rcases Ndp.buildNaReply_answers checks hparse mac with ⟨frame, hbuilt, hanswers⟩
  refine ⟨frame, ?_, hanswers⟩
  rw [Service.verdict, if_pos (ndpProxy_canHandle checks ndp h)]
  have hdata : (PacketEvent.ofMessage message).data = message.data := rfl
  show NdpProxyHandler.handle checks ndp (PacketEvent.ofMessage message).toPacketInEvent = _
  rw [NdpProxyHandler.handle]
  simp only [hdata, hparse, hmac, hbuilt]
  rfl

/-- It passes everything else on. -/
theorem ndpProxy_silent (h : ¬ (Ndp.Accepted message.data ∧
      (ndp.getMac (Ndp.packetTarget message.data)).isSome)) :
    (ndpProxy checks ndp).verdict (.ofMessage message) = .ok .notHandled := by
  rw [Service.verdict]
  by_cases hcan : (ndpProxy checks ndp).canHandle (.ofMessage message) = true
  case neg => exact if_neg hcan
  case pos =>
    rw [if_pos hcan]
    have hdata : (PacketEvent.ofMessage message).data = message.data := rfl
    show NdpProxyHandler.handle checks ndp (PacketEvent.ofMessage message).toPacketInEvent = _
    rw [NdpProxyHandler.handle]
    by_cases haccepted : Ndp.Accepted message.data
    case neg =>
      have hparse := Ndp.parseNeighborSolicitation_refused haccepted
      simp only [hdata, hparse]
      rfl
    case pos =>
      rcases Ndp.parseNeighborSolicitation_accepted haccepted with ⟨eth, ipv6, found, -, hparse⟩
      have hnone : ndp.getMac (Ndp.packetTarget message.data) = none := by
        rw [← Option.not_isSome_iff_eq_none]
        exact fun hsome => h ⟨haccepted, hsome⟩
      simp only [hdata, hparse, hnone]
      rfl

end Ndp

/-! ### Both handlers -/

section Both

variable {checks : Bool} {arp : ArpProxyHandler} {ndp : NdpProxyHandler}

/-- The handlers of a controller with both proxies, in one order or the other. -/
def BothProxies (checks : Bool) (arp : ArpProxyHandler) (ndp : NdpProxyHandler)
    (services : List Service) : Prop :=
  services = [arpProxy arp, ndpProxy checks ndp] ∨ services = [ndpProxy checks ndp, arpProxy arp]

/-- No packet asks both proxies. -/
theorem not_accepted {data : Bytes} (h : IsArpRequest data) : ¬ Ndp.Accepted data := by
  intro haccepted
  have htype : wordAt 16 data 12 = (0x86dd : U16) := haccepted.headers.ethertype
  rw [h.ethertype] at htype
  exact absurd htype (by decide)

theorem react_answer {services : List Service} (hboth : BothProxies checks arp ndp services)
    {event : PacketEvent} {port : U32} {frame : EthernetFrame}
    (h : (arpProxy arp).verdict event = .ok (sendBack port frame) ∧
        (ndpProxy checks ndp).verdict event = .ok .notHandled ∨
      (arpProxy arp).verdict event = .ok .notHandled ∧
        (ndpProxy checks ndp).verdict event = .ok (sendBack port frame)) :
    react event services = .ok (sendBack port frame) := by
  rcases hboth with rfl | rfl <;> rcases h with ⟨harp, hndp⟩ | ⟨harp, hndp⟩
  · exact react_sendBack _ harp
  · exact (react_pass _ harp).trans (react_sendBack _ hndp)
  · exact (react_pass _ hndp).trans (react_sendBack _ harp)
  · exact react_sendBack _ hndp

theorem react_silent {services : List Service} (hboth : BothProxies checks arp ndp services)
    {event : PacketEvent} (harp : (arpProxy arp).verdict event = .ok .notHandled)
    (hndp : (ndpProxy checks ndp).verdict event = .ok .notHandled) :
    react event services = .ok .notHandled := by
  rcases hboth with rfl | rfl
  · exact (react_pass _ harp).trans (react_pass _ hndp)
  · exact (react_pass _ hndp).trans (react_pass _ harp)

/-- A reported packet is answered, or nobody was asked. -/
theorem react_proxies {services : List Service} (hboth : BothProxies checks arp ndp services)
    (message : PacketInMessage) :
    (∃ frame, Answer arp ndp message.data frame ∧
      react (.ofMessage message) services = .ok (sendBack message.inPort frame)) ∨
    (¬ Asked arp ndp message.data ∧ react (.ofMessage message) services = .ok .notHandled) := by
  by_cases harp : IsArpRequest message.data ∧ (arp.getMac (wordAt 32 message.data 38)).isSome
  case pos =>
    rcases harp with ⟨hrequest, hsome⟩
    rcases Option.isSome_iff_exists.mp hsome with ⟨mac, hmac⟩
    have hndp := ndpProxy_silent checks ndp fun h => not_accepted hrequest h.1
    exact .inl ⟨_, .reply hrequest hmac,
      react_answer hboth (.inl ⟨arpProxy_asked arp hrequest hmac, hndp⟩)⟩
  case neg =>
    have hsilent := arpProxy_silent arp harp
    by_cases hndp : Ndp.Accepted message.data ∧
      (ndp.getMac (Ndp.packetTarget message.data)).isSome
    case pos =>
      rcases hndp with ⟨haccepted, hsome⟩
      rcases Option.isSome_iff_exists.mp hsome with ⟨mac, hmac⟩
      rcases ndpProxy_asked checks ndp haccepted hmac with ⟨frame, hverdict, hanswers⟩
      exact .inl ⟨frame, .advertisement haccepted hmac hanswers,
        react_answer hboth (.inr ⟨hsilent, hverdict⟩)⟩
    case neg =>
      refine .inr ⟨fun hasked => hasked.elim harp hndp, ?_⟩
      exact react_silent hboth hsilent (ndpProxy_silent checks ndp hndp)

/-! ### Messages -/

/-- The fixed part of a packet-out in front of 16 bytes of actions. -/
def packetOutHead (port : U32) : Bytes :=
  be ofpNoBuffer ++ (be port ++ (be (16 : U16) ++ zeros 6))

theorem packetOutHead_length (port : U32) : (packetOutHead port).length = 16 := by
  simp [packetOutHead]

/-- The packet-out that sends a frame back does so. -/
theorem sends_sendBack (version : Version) (xid port : U32) (frame : EthernetFrame) :
    (PacketOut.toMessage ⟨ofpNoBuffer, port, ⟨[.output .inPort]⟩, frame.bytes⟩ version xid).Sends
      port [(.back, frame)] := by
  have hactions : (ActionList.mk [.output .inPort]).encode.length = 16 := by decide
  have hframes := ActionList.readFrames_encode
    (show (ActionList.mk [.output .inPort]).encode.length ≤ 65535 by decide)
  have hmapM : _ = some [FrameAction.output portInPort] :=
    (ReadOnFrames.cons (a := .output .inPort) (readFrameAction_output ..) .nil
      (fun heq => by cases heq))
  have hbody : (PacketOut.toMessage ⟨ofpNoBuffer, port, ⟨[.output .inPort]⟩, frame.bytes⟩
      version xid).body =
        packetOutHead port ++ ((ActionList.mk [.output .inPort]).encode ++ frame.bytes) := by
    simp only [PacketOut.toMessage, packetOutHead, hactions, if_pos, List.append_assoc]
    rfl
  have hlength := packetOutHead_length port
  have hword : ∀ (w off : Nat) (more : Bytes), off + w / 8 ≤ 16 →
      wordAt w (packetOutHead port ++ more) off = wordAt w (packetOutHead port) off :=
    fun w off more hoff => wordAt_append_left (by rw [hlength]; exact hoff)
  have hsize : (wordAt 16 (packetOutHead port) 8 : U16).toNat = 16 := by
    simp [packetOutHead, wordAt_append_right]
  rw [Message.Sends, hbody, hword _ _ _ (by decide), hword _ _ _ (by decide),
    hword _ _ _ (by decide), hsize]
  refine ⟨rfl, by simp [packetOutHead], by simp [packetOutHead, wordAt_append_right], _, _, frame,
    ?_, hmapM, ?_, rfl⟩
  · rw [List.drop_left' hlength, List.take_left' hactions]
    exact hframes
  · rw [← List.drop_drop, List.drop_left' hlength, List.drop_left' hactions]

/-- A sound message is served, and what is owed for it is written. -/
theorem serve_sound {services : List Service} (hboth : BothProxies checks arp ndp services)
    (conn : VConn) {msg : Message} (hsound : Sound msg) :
    ∃ replies conn', serve services conn msg = .ok (replies, conn') ∧ Owed arp ndp msg replies := by
  rw [serve, hsound.noError, ofOpenFlow, ok_bind]
  by_cases hecho : msg.header.msgType = .echoRequest
  case pos =>
    rw [if_pos hecho]
    exact ⟨_, _, rfl, .echo hecho rfl rfl rfl⟩
  case neg =>
    rw [if_neg hecho]
    by_cases hpacket : msg.header.msgType = .packetIn
    case neg =>
      rw [if_neg hpacket]
      exact ⟨_, _, rfl, .silent hecho fun _ htype => absurd htype hpacket⟩
    case pos =>
      rcases hsound.parses hpacket with ⟨message, hparse⟩
      rw [if_pos hpacket, hparse, ofOpenFlow, ok_bind]
      rcases react_proxies hboth message with ⟨frame, hanswer, hreact⟩ | ⟨hasked, hreact⟩
      · rw [hreact, ok_bind]
        exact ⟨_, _, rfl, .answer hpacket hparse hanswer (sends_sendBack ..)⟩
      · rw [hreact, ok_bind]
        refine ⟨_, _, rfl, .silent hecho ?_⟩
        intro message' _ hparse'
        rw [hparse] at hparse'
        obtain rfl : message = message' := Outcome.ok.inj hparse'
        exact hasked

/-- **A controller with both proxies, in whatever order, goes on serving: whatever sound messages
    come in, it writes for each of them in turn what is owed for it and nothing else.** -/
theorem proxies_answer {services : List Service} (hboth : BothProxies checks arp ndp services)
    {msgs : List Message} (hframed : ∀ msg ∈ msgs, msg.Framed) (hsound : ∀ msg ∈ msgs, Sound msg)
    (conn : VConn) (rest : Bytes) (sent : List Message) :
    ∃ replies conn', List.Forall₂ (Owed arp ndp) msgs replies ∧
      run (dispatcher services) ⟨conn, wire msgs ++ rest, sent⟩ =
        run (dispatcher services) ⟨conn', rest, sent ++ replies.flatten⟩ := by
  induction msgs generalizing conn sent with
  | nil => exact ⟨[], conn, .nil, by simp [wire]⟩
  | cons msg msgs ih =>
    rcases List.forall_mem_cons.mp hframed with ⟨hmsg, hframed⟩
    rcases List.forall_mem_cons.mp hsound with ⟨hmsgSound, hsound⟩
    rcases serve_sound hboth conn hmsgSound with ⟨written, conn', hserve, howed⟩
    rcases ih hframed hsound conn' (sent ++ written) with ⟨replies, conn'', hall, hrun⟩
    refine ⟨written :: replies, conn'', .cons howed hall, ?_⟩
    rw [wire_cons, List.append_assoc, run_serves services hmsg _ sent hserve, hrun,
      List.flatten_cons, List.append_assoc]

end Both

/-- A request for 10.0.0.99 that came in on port 2, as the switch reports it. -/
def gatewayReport : Message :=
  Message.new .of13 .packetIn 7 (be ofpNoBuffer ++ be (42 : U16) ++ [0, 0] ++ be (0 : U64)
    ++ be (1 : U16) ++ be (12 : U16) ++ be (0x80000004 : U32) ++ be (2 : U32) ++ zeros 6
    ++ (arpFrame 0xffffffffffff 0x020000000001 gatewayRequest).bytes)

theorem gatewayReport_sound : Sound gatewayReport where
  noError := rfl
  parses _ := ⟨_, rfl⟩

theorem proxies_answer_gateway :
    Sound gatewayReport ∧ ∃ replies conn',
      List.Forall₂ (Owed gatewayProxy.handler {}) [gatewayReport] replies ∧
        run (dispatcher [arpProxy gatewayProxy.handler, ndpProxy true {}])
            ⟨⟨.of13, 1⟩, wire [gatewayReport] ++ [], []⟩ =
          run (dispatcher [arpProxy gatewayProxy.handler, ndpProxy true {}])
            ⟨conn', [], [] ++ replies.flatten⟩ :=
  ⟨gatewayReport_sound, proxies_answer (.inl rfl)
    (fun _ h => List.mem_singleton.mp h ▸ (by decide : gatewayReport.Framed))
    (fun _ h => List.mem_singleton.mp h ▸ gatewayReport_sound) _ _ _⟩

end Controller

end Rovs.OpenFlow

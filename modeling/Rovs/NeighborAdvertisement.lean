import Rovs.NeighborSolicitation

/-!
# Neighbor Advertisements

A reply is a frame whose words stand at fixed places: the Ethernet destination at
its head, the IPv6 payload length, source and destination behind the Ethernet
header, and the advertisement behind both headers.  What a host that receives the
reply checks is stated about these words: that the checksum covers the addresses
and the message that are in the packet, and that the two destinations belong
together.

`advertisements_verify` and `replies_addressed_iff` are the main results.
-/

namespace Rovs.OpenFlow.Ndp

open Outcome

/-- The flag S of an advertisement. -/
def packetSolicited (packet : Bytes) : Bool := (wordAt 8 packet 58).getLsbD 6

/-! ### The reply as a frame -/

/-- The address that a reply is sent to. -/
def replyDst (nsIpv6 : Ipv6Header) : Ipv6Addr :=
  if isUnspecified nsIpv6.srcAddr then allNodes else nsIpv6.srcAddr

/-- The link-layer address of the solicitor: its option, or else where its frame came from. -/
def solicitorMac (nsEth : EthernetFrame) (ns : NeighborSolicitation) : MacAddr :=
  ns.sourceLlAddr.getD nsEth.srcMac

/-- The advertisement in a reply, with its checksum still zero. -/
def replyMessage (nsIpv6 : Ipv6Header) (ourMac : MacAddr) (ourIpv6 : Ipv6Addr) : Bytes :=
  ((NeighborAdvertisement.new ourIpv6 ourMac).solicited
    (!isUnspecified nsIpv6.srcAddr)).encodeIcmpv6

/-- The headers of a reply in front of a message. -/
def replyFrame (dstMac ourMac : MacAddr) (ourIpv6 dstIpv6 : Ipv6Addr) (message : Bytes) : Bytes :=
  be dstMac ++ (be ourMac ++ (be ethertypeIpv6 ++ (be (0x60000000 : U32)
    ++ (be (BitVec.ofNat 16 message.length) ++ (be ipprotoIcmpv6 ++ (be (255 : U8)
    ++ (be ourIpv6 ++ (be dstIpv6 ++ message))))))))

section Frame

variable (dstMac ourMac : MacAddr) (ourIpv6 dstIpv6 : Ipv6Addr) (message : Bytes)

theorem replyFrame_dstMac :
    packetDstMac (replyFrame dstMac ourMac ourIpv6 dstIpv6 message) = dstMac := by
  simp [packetDstMac, replyFrame]

theorem replyFrame_payloadLen :
    packetPayloadLen (replyFrame dstMac ourMac ourIpv6 dstIpv6 message) =
      BitVec.ofNat 16 message.length := by
  simp [packetPayloadLen, replyFrame, wordAt_append_right]

theorem replyFrame_srcAddr :
    packetSrcAddr (replyFrame dstMac ourMac ourIpv6 dstIpv6 message) = ourIpv6 := by
  simp [packetSrcAddr, replyFrame, wordAt_append_right]

theorem replyFrame_dstAddr :
    packetDstAddr (replyFrame dstMac ourMac ourIpv6 dstIpv6 message) = dstIpv6 := by
  simp [packetDstAddr, replyFrame, wordAt_append_right]

theorem replyFrame_message :
    packetMessage (replyFrame dstMac ourMac ourIpv6 dstIpv6 message) = message := by
  simp [packetMessage, replyFrame, List.drop_append, List.drop_of_length_le]

theorem replyFrame_solicited : packetSolicited (replyFrame dstMac ourMac ourIpv6 dstIpv6 message) =
    (wordAt 8 message 4).getLsbD 6 := by
  simp [packetSolicited, replyFrame, wordAt_append_right]

end Frame

section Reply

variable (nsEth : EthernetFrame) (nsIpv6 : Ipv6Header) (ns : NeighborSolicitation)
  (ourMac : MacAddr) (ourIpv6 : Ipv6Addr)

theorem replyMessage_length : (replyMessage nsIpv6 ourMac ourIpv6).length = 32 := by
  simp [replyMessage, NeighborAdvertisement.encodeIcmpv6]

/-- An advertisement is encoded with a zeroed checksum field. -/
theorem replyMessage_zeroed :
    insertChecksum (replyMessage nsIpv6 ourMac ourIpv6) 0 =
      replyMessage nsIpv6 ourMac ourIpv6 := rfl

/-- Storing the checksum leaves the flags as they are. -/
theorem replyMessage_solicited (checksum : U16) :
    (wordAt 8 (insertChecksum (replyMessage nsIpv6 ourMac ourIpv6) checksum) 4).getLsbD 6 =
      !isUnspecified nsIpv6.srcAddr := by
  have hmessage : ∀ na : NeighborAdvertisement, insertChecksum na.encodeIcmpv6 checksum =
      [(136 : U8), 0, (checksum >>> 8).setWidth 8, checksum.setWidth 8] ++ (be na.flags
        ++ (be na.targetAddr ++ (be ndpOptTargetLlAddr ++ ([1] ++ be na.targetLlAddr)))) := by
    intro na
    simp only [NeighborAdvertisement.encodeIcmpv6, List.append_assoc]
    rfl
  have hflags : ∀ isSolicited : Bool,
      ((NeighborAdvertisement.new ourIpv6 ourMac).solicited isSolicited).flags =
        if isSolicited then 0x60000000 else 0x20000000 := by
    intro isSolicited
    cases isSolicited <;>
      simp [NeighborAdvertisement.flags, NeighborAdvertisement.solicited, NeighborAdvertisement.new]
  unfold replyMessage
  rw [hmessage, wordAt_append_right (by simp), wordAt_append_left (by simp), hflags]
  cases isUnspecified nsIpv6.srcAddr
  case false =>
    show (wordAt 8 (be (0x60000000 : U32)) 0).getLsbD 6 = true
    decide
  case true =>
    show (wordAt 8 (be (0x20000000 : U32)) 0).getLsbD 6 = false
    decide

/-- **Every reply is built**: the advertisement behind its headers, with the checksum of the
    addresses in them. -/
theorem buildNaReply_frame (checks : Bool) :
    ∃ checksum : U16,
      buildNaReply checks nsEth nsIpv6 ns ourMac ourIpv6 =
        .ok (replyFrame (solicitorMac nsEth ns) ourMac ourIpv6 (replyDst nsIpv6)
          (insertChecksum (replyMessage nsIpv6 ourMac ourIpv6) checksum)) ∧
      checksum.toNat =
        65535 - fold16 (covered ourIpv6 (replyDst nsIpv6)
          (replyMessage nsIpv6 ourMac ourIpv6)) := by
  have hlength := replyMessage_length nsIpv6 ourMac ourIpv6
  obtain ⟨checksum, hrun, hchecksum⟩ := icmpv6Checksum_ok checks ourIpv6 (replyDst nsIpv6)
    (by rw [hlength]; decide)
  refine ⟨checksum, ?_, hchecksum⟩
  have hheader : ∀ dstIpv6 : Ipv6Addr, ∀ message : Bytes,
      Ipv6Header.encode
          ⟨0, 0, BitVec.ofNat 16 message.length, ipprotoIcmpv6, 255, ourIpv6, dstIpv6⟩ =
        be (0x60000000 : U32) ++ (be (BitVec.ofNat 16 message.length) ++ (be ipprotoIcmpv6
          ++ (be (255 : U8) ++ (be ourIpv6 ++ be dstIpv6)))) := by
    intro dstIpv6 message
    simp only [Ipv6Header.encode, List.append_assoc]
    rfl
  show (icmpv6Checksum checks ourIpv6 (replyDst nsIpv6) (replyMessage nsIpv6 ourMac ourIpv6)
    >>= fun checksum => _) = _
  rw [hrun, ok_bind]
  show Outcome.ok (EthernetFrame.encode _ ++ Ipv6Header.encode ⟨0, 0, _, _, _, _, _⟩ ++ _) = _
  rw [hheader]
  simp only [EthernetFrame.encode, replyFrame, List.append_assoc]
  rfl

end Reply

/-! ### Checksums -/

/-- **Advertisements verify, and so does every message that carries its checksum.**  The payload
    length of a reply is the length of its message, which verifies against the addresses in the
    packet; the checksum of a message that fits a payload is computed without overflow and
    without end. -/
theorem advertisements_verify (checks : Bool) :
    (∀ nsEth nsIpv6 ns ourMac ourIpv6, ∃ packet,
      buildNaReply checks nsEth nsIpv6 ns ourMac ourIpv6 = .ok packet ∧
      (packetPayloadLen packet).toNat = (packetMessage packet).length ∧
      Verifies (packetSrcAddr packet) (packetDstAddr packet) (packetMessage packet)) ∧
    (∀ src dst message, message.length ≤ 65535 →
      ∃ checksum, icmpv6Checksum checks src dst message = .ok checksum) ∧
    ∀ src dst message, 4 ≤ message.length → message.length ≤ 65535 →
      ∃ checksum, icmpv6Checksum checks src dst (insertChecksum message 0) = .ok checksum ∧
        Verifies src dst (insertChecksum message checksum) := by
  refine ⟨?_, ?_, ?_⟩
  · intro nsEth nsIpv6 ns ourMac ourIpv6
    have hlength := replyMessage_length nsIpv6 ourMac ourIpv6
    obtain ⟨checksum, hbuilt, hchecksum⟩ :=
      buildNaReply_frame nsEth nsIpv6 ns ourMac ourIpv6 checks
    refine ⟨_, hbuilt, ?_, ?_⟩
    · rw [replyFrame_payloadLen, replyFrame_message, insertChecksum_length, hlength]
      rfl
    · rw [replyFrame_srcAddr, replyFrame_dstAddr, replyFrame_message]
      refine verifies_insertChecksum (by omega) (by omega) ?_
      rw [replyMessage_zeroed, hchecksum]
  · intro src dst message hshort
    obtain ⟨checksum, hrun, _⟩ :=
      icmpv6Checksum_ok checks src dst (Nat.lt_succ_of_le hshort)
    exact ⟨checksum, hrun⟩
  · intro src dst message hlong hshort
    have hlength := insertChecksum_length message 0
    obtain ⟨checksum, hrun, hchecksum⟩ :=
      icmpv6Checksum_ok checks src dst (by rw [hlength]; exact Nat.lt_succ_of_le hshort)
    exact ⟨checksum, hrun, verifies_insertChecksum hlong (Nat.lt_succ_of_le hshort) hchecksum⟩

/-- A message of five bytes, from the unspecified address to all nodes. -/
theorem advertisements_verify_five :
    (4 ≤ [(136 : U8), 0, 0, 0, 7].length ∧ [(136 : U8), 0, 0, 0, 7].length ≤ 65535) ∧
    ∃ checksum,
      icmpv6Checksum true 0 allNodes (insertChecksum [136, 0, 0, 0, 7] 0) = .ok checksum ∧
        Verifies 0 allNodes (insertChecksum [136, 0, 0, 0, 7] checksum) :=
  ⟨by decide, (advertisements_verify true).2.2 0 allNodes [136, 0, 0, 0, 7]
    (by decide) (by decide)⟩

/-! ### Destinations -/

/-- The link-layer address of a multicast address: `33:33` and its last four octets. -/
def multicastMac (addr : Ipv6Addr) : MacAddr := (0x3333 : U16) ++ addr.setWidth 32

example : multicastMac allNodes = 0x333300000001 := by decide

/-- The link-layer destination that a packet to an address needs, where a unicast address is
    that of a host whose link-layer address is known. -/
def requiredMac (dst : Ipv6Addr) (hostMac : MacAddr) : MacAddr :=
  if isMulticast dst then multicastMac dst else hostMac

/-- The two destinations of an advertisement belong together, and it says that it was solicited
    when it goes to one host. -/
def AddressedConsistently (packet : Bytes) (hostMac : MacAddr) : Prop :=
  packetDstMac packet = requiredMac (packetDstAddr packet) hostMac ∧
    (packetSolicited packet = true ↔ isMulticast (packetDstAddr packet) = false)

theorem isMulticast_allNodes : isMulticast allNodes = true := by decide

theorem isUnspecified_iff (addr : Ipv6Addr) : isUnspecified addr = true ↔ addr = 0 :=
  decide_eq_true_iff

/-- The frame of a reply, whatever its checksum. -/
theorem replyFrame_addressed_iff (nsIpv6 : Ipv6Header) (hostMac ourMac : MacAddr)
    (ourIpv6 : Ipv6Addr) (checksum : U16) :
    AddressedConsistently (replyFrame hostMac ourMac ourIpv6 (replyDst nsIpv6)
        (insertChecksum (replyMessage nsIpv6 ourMac ourIpv6) checksum)) hostMac ↔
      isMulticast nsIpv6.srcAddr = false ∧
        (nsIpv6.srcAddr = 0 → hostMac = multicastMac allNodes) := by
  rw [AddressedConsistently, replyFrame_dstMac, replyFrame_dstAddr, replyFrame_solicited,
    replyMessage_solicited]
  by_cases hsrc : nsIpv6.srcAddr = 0
  case pos =>
    -- duplicate address detection: all nodes, and not solicited
    have hunspecified := (isUnspecified_iff nsIpv6.srcAddr).mpr hsrc
    have hdst : replyDst nsIpv6 = allNodes := if_pos hunspecified
    have hunicast : isMulticast nsIpv6.srcAddr = false := by
      rw [hsrc]
      decide
    rw [hdst, hunspecified, requiredMac, if_pos isMulticast_allNodes, isMulticast_allNodes]
    constructor
    case mp => exact fun h => ⟨hunicast, fun _ => h.1⟩
    case mpr => exact fun h => ⟨h.2 hsrc, by decide⟩
  case neg =>
    have hspecified : isUnspecified nsIpv6.srcAddr = false :=
      Bool.eq_false_iff.mpr fun h => hsrc ((isUnspecified_iff nsIpv6.srcAddr).mp h)
    have hdst : replyDst nsIpv6 = nsIpv6.srcAddr := by
      rw [replyDst, hspecified]
      rfl
    rw [hdst, hspecified, requiredMac]
    constructor
    case mp => exact fun h => ⟨h.2.mp rfl, fun hzero => absurd hzero hsrc⟩
    case mpr =>
      rintro ⟨hunicast, -⟩
      rw [hunicast]
      exact ⟨rfl, by decide⟩

/-- **When the destinations of a reply belong together**: exactly when the solicitation does not
    come from a multicast address, and an unspecified source goes with the link-layer address of
    all nodes as that of the solicitor. -/
theorem replies_addressed_iff (checks : Bool) (nsEth : EthernetFrame) (nsIpv6 : Ipv6Header)
    (ns : NeighborSolicitation) (ourMac : MacAddr) (ourIpv6 : Ipv6Addr) :
    ∃ packet, buildNaReply checks nsEth nsIpv6 ns ourMac ourIpv6 = .ok packet ∧
      (AddressedConsistently packet (solicitorMac nsEth ns) ↔
        isMulticast nsIpv6.srcAddr = false ∧
          (nsIpv6.srcAddr = 0 → solicitorMac nsEth ns = multicastMac allNodes)) := by
  obtain ⟨checksum, hbuilt, _⟩ := buildNaReply_frame nsEth nsIpv6 ns ourMac ourIpv6 checks
  exact ⟨_, hbuilt, replyFrame_addressed_iff nsIpv6 _ ourMac ourIpv6 checksum⟩

/-- The solicitation is accepted, and the reply goes to all nodes in a frame for one of them. -/
theorem dadReply_misaddressed :
    parseNeighborSolicitation (dadFrame 255) = .ok (dadEth, dadIpv6 255, dadNs none) ∧
    ∃ packet, buildNaReply true dadEth (dadIpv6 255) (dadNs none) 0x020000000001
        0xfe800000000000000000000000000001 = .ok packet ∧
      ¬ AddressedConsistently packet (solicitorMac dadEth (dadNs none)) := by
  refine ⟨by decide +kernel, ?_⟩
  obtain ⟨checksum, hbuilt, _⟩ := buildNaReply_frame dadEth (dadIpv6 255) (dadNs none)
    0x020000000001 0xfe800000000000000000000000000001 true
  refine ⟨_, hbuilt, fun hconsistent => ?_⟩
  have hmac := ((replyFrame_addressed_iff (dadIpv6 255) _ _ _ checksum).mp hconsistent).2 rfl
  exact absurd hmac (by decide)

end Rovs.OpenFlow.Ndp

import Rovs.NdpParser
import Rovs.IcmpChecksum

/-!
# Neighbor Solicitations

A solicitation is a part of a frame: the payload length says where it ends, and
the bytes behind it are padding.  The parser looks neither at the payload length
nor at the hop limit, the code and the checksum, so the frames that it treats as
the packets in them are the ones that it refuses whatever follows.

This is `parsedAsPacket_iff`.
-/

namespace Rovs.OpenFlow.Ndp

open Outcome

/-! ### The payload -/

/-- The part of the message that the payload length covers. -/
def packetPayload (packet : Bytes) : Bytes :=
  (packetMessage packet).take (packetPayloadLen packet).toNat

/-- Where the payload ends in a frame. -/
def packetEnd (packet : Bytes) : Nat := 54 + (packetPayloadLen packet).toNat

/-- `ff00::/8`. -/
def isMulticast (addr : Ipv6Addr) : Bool := addr >>> 120 = 0xff

/-! ### Frames with the same packet -/

/-- The frames agree up to the end of the payload of the first. -/
def SamePacket (frame other : Bytes) : Prop :=
  other.take (packetEnd frame) = frame.take (packetEnd frame)

section Same

variable {frame other : Bytes} {n : Nat}

theorem wordAt_same (h : other.take n = frame.take n) {w off : Nat} (hoff : off + w / 8 ≤ n) :
    wordAt w other off = wordAt w frame off := by
  rw [← wordAt_take hoff, h, wordAt_take hoff]

theorem icmpv6Headers_same (h : other.take n = frame.take n) (hn : 54 ≤ n)
    (hheaders : Icmpv6Headers other) : Icmpv6Headers frame := by
  obtain ⟨hlength, hethertype, hversion, hnext⟩ := hheaders
  have htaken := congrArg List.length h
  rw [List.length_take, List.length_take] at htaken
  constructor
  case length => omega
  case ethertype =>
    rw [packetEthertype, ← wordAt_same h (by omega)]
    exact hethertype
  case version =>
    rw [packetVersion, ← wordAt_same h (by omega)]
    exact hversion
  case nextHeader =>
    rw [packetNextHeader, ← wordAt_same h (by omega)]
    exact hnext

theorem packetEnd_ge (frame : Bytes) : 54 ≤ packetEnd frame := Nat.le_add_right ..

/-- A frame without the end of its payload agrees with itself only. -/
theorem samePacket_cut (h : SamePacket frame other) (hcut : frame.length < packetEnd frame) :
    other = frame := by
  rw [SamePacket, List.take_of_length_le (Nat.le_of_lt hcut)] at h
  have htaken := congrArg List.length h
  rw [List.length_take] at htaken
  rw [← h, List.take_of_length_le (by omega)]

/-- Whatever follows a payload, the packet is the same. -/
theorem samePacket_append (hend : packetEnd frame ≤ frame.length) (more : Bytes) :
    SamePacket frame (frame.take (packetEnd frame) ++ more) := by
  have hlength : (frame.take (packetEnd frame)).length = packetEnd frame :=
    List.length_take_of_le hend
  rw [SamePacket, List.take_append_of_le_length (Nat.le_of_eq hlength.symm), List.take_take,
    Nat.min_self]

end Same

/-! ### Valid solicitations -/

/-- What a host checks of a solicitation before it answers. -/
structure ValidSolicitation (frame : Bytes) : Prop where
  hopLimit : packetHopLimit frame = 255
  code : packetCode frame = 0
  length : 24 ≤ (packetPayloadLen frame).toNat
  inside : packetEnd frame ≤ frame.length
  options : WholeOptions ((packetPayload frame).drop 24)
  target : isMulticast (packetTarget frame) = false
  checksum : Verifies (packetSrcAddr frame) (packetDstAddr frame) (packetPayload frame)

/-- An accepted frame is valid, and what follows its payload makes no difference. -/
structure ParsedAsPacket (frame : Bytes) : Prop where
  valid : ∀ parsed, parseNeighborSolicitation frame = .ok parsed → ValidSolicitation frame
  padding : ∀ other, SamePacket frame other →
    parseNeighborSolicitation other = parseNeighborSolicitation frame

/-- A frame that is refused whatever follows its payload: its headers are others, or it ends
    before its payload and is short or of another type, or its payload is of another type. -/
def RefusedAnyway (frame : Bytes) : Prop :=
  ¬ Icmpv6Headers frame ∨
    (frame.length < packetEnd frame ∧
      (frame.length < 78 ∨ packetType frame ≠ icmpv6NeighborSolicitation)) ∨
    (packetEnd frame ≤ frame.length ∧ 54 < packetEnd frame ∧
      packetType frame ≠ icmpv6NeighborSolicitation)

section Follows

variable {frame : Bytes}

theorem length_take_packetEnd (hend : packetEnd frame ≤ frame.length) :
    (frame.take (packetEnd frame)).length = packetEnd frame := List.length_take_of_le hend

theorem packetType_append (hend : packetEnd frame ≤ frame.length) (hsome : 54 < packetEnd frame)
    (more : Bytes) : packetType (frame.take (packetEnd frame) ++ more) = packetType frame :=
  wordAt_same (samePacket_append hend more) hsome

/-- A packet is accepted with what follows it when the two have room for a solicitation. -/
theorem accepted_append (hheaders : Icmpv6Headers frame) (hend : packetEnd frame ≤ frame.length)
    {more : Bytes} (hroom : 78 ≤ packetEnd frame + more.length)
    (htype : packetType (frame.take (packetEnd frame) ++ more) = icmpv6NeighborSolicitation) :
    Accepted (frame.take (packetEnd frame) ++ more) where
  headers := icmpv6Headers_same (samePacket_append hend more).symm (packetEnd_ge frame) hheaders
  room := by
    rw [List.length_append, length_take_packetEnd hend]
    exact hroom
  type := htype

/-- Behind an empty or a short payload a solicitation can begin or go on. -/
theorem not_parsedAsPacket_short (hheaders : Icmpv6Headers frame)
    (hend : packetEnd frame ≤ frame.length) (hshort : packetEnd frame < 78)
    (htype : packetEnd frame = 54 ∨ packetType frame = icmpv6NeighborSolicitation) :
    ¬ ParsedAsPacket frame := by
  intro hpacket
  have hge := packetEnd_ge frame
  have hlength := length_take_packetEnd hend
  have hcut : ¬ Accepted (frame.take (packetEnd frame)) := by
    intro haccepted
    have hroom := haccepted.room
    omega
  -- the rest of a solicitation is not part of the packet
  have hlonger : Accepted
      (frame.take (packetEnd frame) ++ (be icmpv6NeighborSolicitation ++ zeros 23)) := by
    apply accepted_append hheaders hend
    case hroom =>
      rw [List.length_append, be_length, zeros_length]
      omega
    case htype =>
      by_cases hempty : packetEnd frame = 54
      case pos =>
        rw [packetType, wordAt_append_right (by omega), hlength, hempty]
        exact wordAt_be_append _ _ rfl
      case neg =>
        rw [packetType_append hend (by omega)]
        exact htype.resolve_left hempty
  have hsame : SamePacket frame (frame.take (packetEnd frame)) := by
    rw [SamePacket, List.take_take, Nat.min_self]
  have hrefused := parseNeighborSolicitation_refused hcut
  obtain ⟨eth, ipv6, found, -, hparsed⟩ := parseNeighborSolicitation_accepted hlonger
  rw [hpacket.padding _ hsame] at hrefused
  rw [hpacket.padding _ (samePacket_append hend _), hrefused] at hparsed
  cases hparsed

/-- An option behind a valid solicitation is read as one of its options. -/
theorem parseNeighborSolicitation_option (haccepted : Accepted frame)
    (hvalid : ValidSolicitation frame) (mac : MacAddr) :
    ∃ eth ipv6 target,
      parseNeighborSolicitation (frame.take (packetEnd frame) ++ sourceLlOption mac) =
        .ok (eth, ipv6, ⟨target, some mac⟩) := by
  have hend := hvalid.inside
  have hlength := length_take_packetEnd hend
  have hlong : 78 ≤ packetEnd frame := Nat.add_le_add_left hvalid.length 54
  have htype : packetType (frame.take (packetEnd frame) ++ sourceLlOption mac) =
      icmpv6NeighborSolicitation := by
    rw [packetType_append hend (by omega)]
    exact haccepted.type
  have hlonger := accepted_append haccepted.headers hend (Nat.le_add_right_of_le hlong) htype
  have hoptions : (frame.take (packetEnd frame)).drop 78 = (packetPayload frame).drop 24 := by
    rw [packetPayload, packetMessage, packetEnd, List.drop_take, List.drop_take, List.drop_drop]
    congr 1
    omega
  obtain ⟨eth, ipv6, found, hfound, hparse⟩ := parseNeighborSolicitation_accepted hlonger
  obtain ⟨before, hbefore⟩ := parseOptions_append hvalid.options (sourceLlOption mac) none
  rw [List.drop_append_of_le_length (by omega), hoptions, hbefore, parseOptions_source] at hfound
  cases hfound
  exact ⟨eth, ipv6, _, hparse⟩

/-- Behind a valid solicitation one more option can give another address. -/
theorem not_parsedAsPacket_valid (haccepted : Accepted frame) (hvalid : ValidSolicitation frame) :
    ¬ ParsedAsPacket frame := by
  intro hpacket
  obtain ⟨eth, ipv6, target, hone⟩ := parseNeighborSolicitation_option haccepted hvalid 1
  obtain ⟨eth', ipv6', target', htwo⟩ := parseNeighborSolicitation_option haccepted hvalid 2
  rw [hpacket.padding _ (samePacket_append hvalid.inside _)] at hone htwo
  rw [hone] at htwo
  injection htwo with htwo
  injection htwo with _ htwo
  injection htwo with _ htwo
  injection htwo with _ htwo
  exact absurd htwo (by decide)

end Follows

/-- A frame that is refused anyway is parsed as its packet. -/
theorem parsedAsPacket_of_refused {frame : Bytes} (h : RefusedAnyway frame) :
    ParsedAsPacket frame := by
  have hgood : ¬ Accepted frame → (∀ other, SamePacket frame other → ¬ Accepted other) →
      ParsedAsPacket frame := by
    intro hframe hothers
    have hrefused := parseNeighborSolicitation_refused hframe
    constructor
    case valid =>
      intro parsed hparsed
      rw [hrefused] at hparsed
      cases hparsed
    case padding =>
      intro other hsame
      rw [hrefused, parseNeighborSolicitation_refused (hothers other hsame)]
  rcases h with hheaders | ⟨hcut, hother⟩ | ⟨_, hsome, htype⟩
  · exact hgood (fun h => hheaders h.headers) fun other hsame h =>
      hheaders (icmpv6Headers_same hsame (packetEnd_ge frame) h.headers)
  · have hframe : ¬ Accepted frame := fun h =>
      hother.elim (Nat.not_lt.mpr h.room) fun htype => htype h.type
    refine hgood hframe fun other hsame => ?_
    rw [samePacket_cut hsame hcut]
    exact hframe
  · refine hgood (fun h => htype h.type) fun other hsame h => htype ?_
    rw [packetType, ← wordAt_same hsame (by omega)]
    exact h.type

/-- **When the parser takes a frame for its packet**: exactly when it refuses the frame whatever
    follows the payload.  A frame may be longer than the packet in it, and the parser never looks at
    the length that the IPv6 header gives. -/
theorem parsedAsPacket_iff (frame : Bytes) : ParsedAsPacket frame ↔ RefusedAnyway frame := by
  constructor
  case mpr => exact parsedAsPacket_of_refused
  case mp =>
    intro hpacket
    by_contra hrefused
    obtain ⟨hheaders, hothers⟩ := not_or.mp hrefused
    obtain ⟨hcutOther, htypeOther⟩ := not_or.mp hothers
    have hheaders := not_not.mp hheaders
    have haccepts : 78 ≤ frame.length → packetType frame = icmpv6NeighborSolicitation →
        ValidSolicitation frame ∧ Accepted frame := by
      intro hroom htype
      have haccepted : Accepted frame := ⟨hheaders, hroom, htype⟩
      obtain ⟨eth, ipv6, found, -, hparsed⟩ := parseNeighborSolicitation_accepted haccepted
      exact ⟨hpacket.valid _ hparsed, haccepted⟩
    by_cases hend : packetEnd frame ≤ frame.length
    case neg =>
      -- a frame that is cut off is accepted when its type is there
      have hcut := Nat.not_le.mp hend
      obtain ⟨hshort, htype⟩ := not_or.mp fun h => hcutOther ⟨hcut, h⟩
      exact hend (haccepts (Nat.not_lt.mp hshort) (not_not.mp htype)).1.inside
    case pos =>
      have htype : packetEnd frame = 54 ∨ packetType frame = icmpv6NeighborSolicitation := by
        have hge := packetEnd_ge frame
        by_contra hneither
        obtain ⟨hne, htype⟩ := not_or.mp hneither
        exact htypeOther ⟨hend, by omega, htype⟩
      by_cases hshort : packetEnd frame < 78
      case pos => exact not_parsedAsPacket_short hheaders hend hshort htype hpacket
      case neg =>
        have htyped := htype.resolve_left (by omega)
        obtain ⟨hvalid, haccepted⟩ := haccepts (by omega) htyped
        exact not_parsedAsPacket_valid haccepted hvalid hpacket

/-! ### Duplicate address detection -/

/-- A host asks whether `fe80::1` is in use, with a hop limit. -/
def dadFrame (hopLimit : U8) : Bytes :=
  be (0x3333ff000001 : MacAddr) ++ (be (0x020000000007 : MacAddr) ++ (be ethertypeIpv6
    ++ (be (0x60000000 : U32) ++ (be (24 : U16) ++ (be ipprotoIcmpv6 ++ (be hopLimit
    ++ (be (0 : Ipv6Addr) ++ (be (0xff0200000000000000000001ff000001 : Ipv6Addr)
    ++ (be icmpv6NeighborSolicitation ++ (be (0 : U8) ++ (be (0x7c25 : U16) ++ (be (0 : U32)
    ++ be (0xfe800000000000000000000000000001 : Ipv6Addr)))))))))))))

def dadEth : EthernetFrame :=
  { dstMac := 0x3333ff000001, srcMac := 0x020000000007, ethertype := ethertypeIpv6,
    payloadOffset := 14 }

def dadIpv6 (hopLimit : U8) : Ipv6Header :=
  { trafficClass := 0, flowLabel := 0, payloadLen := 24, nextHeader := ipprotoIcmpv6,
    hopLimit := hopLimit, srcAddr := 0, dstAddr := 0xff0200000000000000000001ff000001 }

def dadNs (sourceLlAddr : Option MacAddr) : NeighborSolicitation :=
  { targetAddr := 0xfe800000000000000000000000000001, sourceLlAddr := sourceLlAddr }

/-- A solicitation that came through a router is accepted; and the padding of a frame is taken
    for an option. -/
theorem dadFrame_misparsed :
    (parseNeighborSolicitation (dadFrame 64) = .ok (dadEth, dadIpv6 64, dadNs none) ∧
      ¬ ValidSolicitation (dadFrame 64)) ∧
    SamePacket (dadFrame 255) (dadFrame 255 ++ sourceLlOption 0x020000000666) ∧
    parseNeighborSolicitation (dadFrame 255) = .ok (dadEth, dadIpv6 255, dadNs none) ∧
    parseNeighborSolicitation (dadFrame 255 ++ sourceLlOption 0x020000000666) =
      .ok (dadEth, dadIpv6 255, dadNs (some 0x020000000666)) := by
  refine ⟨⟨by decide +kernel, fun hvalid => ?_⟩, ?_, by decide +kernel, by decide +kernel⟩
  · exact absurd hvalid.hopLimit (by decide +kernel)
  · unfold SamePacket
    decide +kernel

end Rovs.OpenFlow.Ndp

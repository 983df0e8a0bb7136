import Rovs.MatchFields

/-!
# The text of a match (`rovs-openflow/src/match_fields.rs`)

`is_empty` looks at the fields that it names, one after the other.  `Display` prints an empty
match as `*`, and of any other one it prints every field that is set, with its mask where that
is not the full one.
-/

namespace Rovs.OpenFlow

/-- `Match::is_empty`, field by field in its order. -/
def Match.isEmpty (m : Match) : Bool :=
  m.inPort.isNone && m.ethSrc.isNone && m.ethDst.isNone && m.ethType.isNone && m.vlanVid.isNone
    && m.ipv4Src.isNone && m.ipv4Dst.isNone && m.ipProto.isNone && m.tcpSrc.isNone
    && m.tcpDst.isNone && m.udpSrc.isNone && m.udpDst.isNone && m.icmpType.isNone
    && m.icmpCode.isNone && m.icmpv6Type.isNone && m.icmpv6Code.isNone && m.tunnelId.isNone
    && m.arpOp.isNone && m.arpSpa.isNone && m.arpTpa.isNone && m.arpSha.isNone
    && m.arpTha.isNone && m.ctState.isNone && m.ctZone.isNone && m.ctMark.isNone

/-! ### Values -/

/-- A number in hexadecimal with at least `width` digits. -/
def hexText (width n : Nat) : String :=
  let digits := Nat.toDigits 16 n
  String.ofList (List.replicate (width - digits.length) '0' ++ digits)

def decText {w : Nat} (v : BitVec w) : String := toString v.toNat

/-- `0x` and the hexadecimal digits. -/
def hex0x {w : Nat} (v : BitVec w) : String := "0x" ++ hexText 0 v.toNat

/-- `format_mac`. -/
def formatMac (mac : MacAddr) : String :=
  ":".intercalate ((be mac).map fun octet => hexText 2 octet.toNat)

/-- `Ipv4Addr` in dotted decimal. -/
def formatIpv4 (addr : Ipv4Addr) : String :=
  ".".intercalate ((be addr).map fun octet => toString octet.toNat)

/-- The eight words of an IPv6 address. -/
def ipv6Segments (addr : Ipv6Addr) : List U16 :=
  (List.range 8).map fun i => (addr >>> (16 * (7 - i))).setWidth 16

/-- The first longest run of zero words: where it starts and how long it is. -/
def longestZeroRun (segments : List U16) : Nat × Nat :=
  let runs := (List.range segments.length).map fun i =>
    (i, ((segments.drop i).takeWhile (· == 0)).length)
  runs.foldl (fun best run => if run.2 > best.2 then run else best) (0, 0)

def segmentsText (segments : List U16) : String :=
  ":".intercalate (segments.map fun segment => hexText 0 segment.toNat)

/-- `Ipv6Addr`: an IPv4-mapped address ends in dotted decimal, and the longest run of at least
    two zero words is left out. -/
def formatIpv6 (addr : Ipv6Addr) : String :=
  if addr >>> 32 = 0xffff then "::ffff:" ++ formatIpv4 (addr.setWidth 32)
  else
    let segments := ipv6Segments addr
    let (start, len) := longestZeroRun segments
    if len > 1 then
      segmentsText (segments.take start) ++ "::" ++ segmentsText (segments.drop (start + len))
    else segmentsText segments

/-- The flags of `format_ct_state` with the constants of `ct_state`, in its order. -/
def ctStateFlags : List (U32 × String) := [
    (0x20, "+trk"), (0x01, "+new"), (0x02, "+est"), (0x04, "+rel"), (0x08, "+rpl"),
    (0x10, "+inv"), (0x40, "+snat"), (0x80, "+dnat")]

def formatCtState (state : U32) : String :=
  let parts := (ctStateFlags.filter fun flag => state &&& flag.1 != 0).map Prod.snd
  if parts.isEmpty then hex0x state else String.join parts

/-! ### The parts of the text -/

/-- `label=text` for a field that is set. -/
def part {α : Type} (label : String) (text : α → String) (value : Option α) : List String :=
  match value with
  | some v => [label ++ "=" ++ text v]
  | none => []

/-- A value, with its mask if `plain` does not hold of the mask. -/
def maskedText {α : Type} (text : α → String) (plain : α → Bool) (mask : Option α) (v : α) :
    String :=
  match mask with
  | some k => if plain k then text v else text v ++ "/" ++ text k
  | none => text v

/-- An address, with its prefix length if that is shorter than the address. -/
def prefixedText {α : Type} (text : α → String) (full : U8) (prefixLen : Option U8) (v : α) :
    String :=
  let prefixLen := prefixLen.getD full
  if prefixLen < full then text v ++ "/" ++ decText prefixLen else text v

/-- The local `parts` of `Display::fmt`, in its order. -/
def Match.parts (m : Match) : List String := List.flatten [
    part "in_port" decText m.inPort,
    part "in_phy_port" decText m.inPhyPort,
    part "metadata" (maskedText hex0x (· == BitVec.allOnes 64) m.metadataMask) m.metadata,
    part "eth_src" (maskedText formatMac (· == BitVec.allOnes 48) m.ethSrcMask) m.ethSrc,
    part "eth_dst" (maskedText formatMac (· == BitVec.allOnes 48) m.ethDstMask) m.ethDst,
    part "eth_type" (fun v => "0x" ++ hexText 4 v.toNat) m.ethType,
    part "vlan_vid" decText m.vlanVid,
    part "vlan_pcp" decText m.vlanPcp,
    part "ip_proto" decText m.ipProto,
    part "ip_dscp" decText m.ipDscp,
    part "ip_ecn" decText m.ipEcn,
    part "ipv4_src" (prefixedText formatIpv4 32 m.ipv4SrcMask) m.ipv4Src,
    part "ipv4_dst" (prefixedText formatIpv4 32 m.ipv4DstMask) m.ipv4Dst,
    part "ipv6_src" (prefixedText formatIpv6 128 m.ipv6SrcMask) m.ipv6Src,
    part "ipv6_dst" (prefixedText formatIpv6 128 m.ipv6DstMask) m.ipv6Dst,
    part "ipv6_flabel" hex0x m.ipv6Flabel,
    part "tcp_src" decText m.tcpSrc,
    part "tcp_dst" decText m.tcpDst,
    part "tcp_flags" hex0x m.tcpFlags,
    part "udp_src" decText m.udpSrc,
    part "udp_dst" decText m.udpDst,
    part "icmp_type" decText m.icmpType,
    part "icmp_code" decText m.icmpCode,
    part "icmpv6_type" decText m.icmpv6Type,
    part "icmpv6_code" decText m.icmpv6Code,
    part "arp_op" decText m.arpOp,
    part "arp_spa" formatIpv4 m.arpSpa,
    part "arp_tpa" formatIpv4 m.arpTpa,
    part "arp_sha" formatMac m.arpSha,
    part "arp_tha" formatMac m.arpTha,
    part "tunnel_id" hex0x m.tunnelId,
    -- a state whose mask is the state itself is printed without it
    part "ct_state" (fun v => maskedText formatCtState (· == v) m.ctStateMask v) m.ctState,
    part "ct_zone" decText m.ctZone,
    part "ct_mark" (maskedText hex0x (· == BitVec.allOnes 32) m.ctMarkMask) m.ctMark]

/-- `Display::fmt` of a match. -/
def Match.display (m : Match) : String :=
  if m.isEmpty then "*" else ",".intercalate m.parts

/-! ### The star -/

theorem mem_part {α : Type} {label : String} {text : α → String} {value : Option α} {s : String}
    (h : s ∈ part label text value) : '=' ∈ s.toList := by
  cases value with
  | none => cases h
  | some v =>
    cases List.mem_singleton.mp h
    simp

theorem Match.mem_parts {m : Match} {s : String} (h : s ∈ m.parts) : '=' ∈ s.toList := by
  rw [Match.parts, List.mem_flatten] at h
  obtain ⟨row, hrow, hs⟩ := h
  iterate 34
    rcases List.mem_cons.mp hrow with rfl | hrow
    · exact mem_part hs
  cases hrow

theorem intercalate_ne_star {parts : List String} (h : ∀ s ∈ parts, '=' ∈ s.toList) :
    ",".intercalate parts ≠ "*" := by
  intro heq
  have hchars := congrArg String.toList heq
  cases parts with
  | nil =>
    rw [String.intercalate_nil] at hchars
    cases hchars
  | cons first rest =>
    have hmem : '=' ∈ (",".intercalate (first :: rest)).toList := by
      cases rest with
      | nil =>
        rw [String.intercalate_singleton]
        exact h first List.mem_cons_self
      | cons second rest =>
        rw [String.intercalate_cons_cons, String.toList_append, String.toList_append]
        exact List.mem_append_left _ (List.mem_append_left _ (h first List.mem_cons_self))
    rw [hchars] at hmem
    revert hmem
    decide

/-- Only a match that `is_empty` holds of is printed as a star. -/
theorem Match.display_eq_star (m : Match) : m.display = "*" ↔ m.isEmpty = true := by
  rw [Match.display]
  by_cases hempty : m.isEmpty = true
  · rw [if_pos hempty]
    exact iff_of_true rfl hempty
  · rw [if_neg hempty]
    exact iff_of_false (intercalate_ne_star fun _ hs => Match.mem_parts hs) hempty

end Rovs.OpenFlow

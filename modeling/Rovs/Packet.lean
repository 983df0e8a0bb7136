import Rovs.MatchFields

/-!
# Packets as a switch matches them

A packet is seen through its header fields: every packet has the parts of `Part`, each a word
of its own width, and it may carry a VLAN tag.  A match names a field by a class and a number.
`Field` is what the name stands for, with the width that its values have on the wire, and
`Field.read` is the value that a packet has there, if it has one.  Most fields are a part;
the VLAN fields read the tag, and three fields of the OpenFlow 1.0 class show a part in another
form.
-/

namespace Rovs.OpenFlow

inductive Part where
  | inPort | inPhyPort | metadata | ethDst | ethSrc | ethType | ipDscp | ipEcn | ipProto
  | ipv4Src | ipv4Dst | tcpSrc | tcpDst | udpSrc | udpDst | icmpType | icmpCode
  | icmpv6Type | icmpv6Code | arpOp | arpSpa | arpTpa | arpSha | arpTha
  | ipv6Src | ipv6Dst | ipv6Flabel | tunnelId | ctState | ctZone | ctMark
deriving DecidableEq, Repr

def Part.width : Part → Nat
  | .ipEcn => 2
  | .ipDscp => 6
  | .ipProto | .icmpType | .icmpCode | .icmpv6Type | .icmpv6Code => 8
  | .ethType | .tcpSrc | .tcpDst | .udpSrc | .udpDst | .arpOp | .ctZone => 16
  | .ipv6Flabel => 20
  | .inPort | .inPhyPort | .ipv4Src | .ipv4Dst | .arpSpa | .arpTpa | .ctState | .ctMark => 32
  | .ethDst | .ethSrc | .arpSha | .arpTha => 48
  | .metadata | .tunnelId => 64
  | .ipv6Src | .ipv6Dst => 128

/-- The width of a part on the wire. -/
def Part.wireWidth : Part → Nat
  | .ipEcn | .ipDscp => 8
  | .ipv6Flabel => 32
  | p => p.width

structure VlanTag where
  pcp : BitVec 3
  vid : BitVec 12
deriving DecidableEq, Repr

structure Packet where
  part : (p : Part) → BitVec p.width
  vlan : Option VlanTag

/-- A packet with other contents in one part. -/
def Packet.put (pkt : Packet) (p : Part) (x : BitVec p.width) : Packet :=
  { pkt with part := Function.update pkt.part p x }

section Put

variable (pkt : Packet) {p q : Part} (x : BitVec p.width)

@[simp] theorem Packet.put_part_self : (pkt.put p x).part p = x := Function.update_self ..

@[simp] theorem Packet.put_part_of_ne (h : q ≠ p) : (pkt.put p x).part q = pkt.part q :=
  Function.update_of_ne h ..

@[simp] theorem Packet.put_vlan : (pkt.put p x).vlan = pkt.vlan := rfl

end Put

def Packet.inPort (pkt : Packet) : U32 := pkt.part .inPort

def Packet.ethDst (pkt : Packet) : MacAddr := pkt.part .ethDst

def Packet.ethSrc (pkt : Packet) : MacAddr := pkt.part .ethSrc

def Packet.ethType (pkt : Packet) : U16 := pkt.part .ethType

def Packet.ipProto (pkt : Packet) : U8 := pkt.part .ipProto

def Packet.tcpDst (pkt : Packet) : U16 := pkt.part .tcpDst

def Packet.udpDst (pkt : Packet) : U16 := pkt.part .udpDst

def Packet.ctState (pkt : Packet) : U32 := pkt.part .ctState

/-! ### Fields -/

inductive Field where
  | part (p : Part)
  | vlanVid
  | vlanPcp
  /-- `NXM_OF_IN_PORT`: the port number of OpenFlow 1.0. -/
  | ofp10InPort
  /-- `NXM_OF_VLAN_TCI`: the whole tag, or zero. -/
  | vlanTci
  /-- `NXM_OF_IP_TOS`: the DSCP bits in their place. -/
  | ipTos
deriving DecidableEq, Repr

/-- The width of a field's values on the wire. -/
def Field.width : Field → Nat
  | .part p => p.wireWidth
  | .vlanVid | .vlanTci | .ofp10InPort => 16
  | .vlanPcp | .ipTos => 8

theorem Field.width_bytes (f : Field) : 8 * (f.width / 8) = f.width := by
  cases f with
  | part p => cases p <;> rfl
  | _ => rfl

theorem Field.width_le (f : Field) : f.width ≤ 128 := by
  cases f with
  | part p => cases p <;> decide
  | _ => decide

/-- The VLAN id with its "present" bit; zero without a tag. -/
def vlanWord (vlan : Option VlanTag) : U16 :=
  match vlan with
  | none => 0
  | some tag => tag.vid.setWidth 16 ||| 0x1000

/-- The port as OpenFlow 1.0 numbers it: the reserved ports are at the end of the 16 bits, and
    the ports between have no number. -/
def ofp10Port (port : U32) : Option U16 :=
  if port < 0xff00 ∨ 0xffffff00 ≤ port then some (port.setWidth 16) else none

/-- The value of a field in a packet. -/
def Field.read (pkt : Packet) : (f : Field) → Option (BitVec f.width)
  | .part p => some ((pkt.part p).setWidth p.wireWidth)
  | .vlanVid => some (vlanWord pkt.vlan)
  | .vlanPcp => pkt.vlan.map fun tag => tag.pcp.setWidth 8
  | .ofp10InPort => ofp10Port pkt.inPort
  | .vlanTci => some (vlanWord pkt.vlan |||
      (pkt.vlan.elim 0 fun tag => tag.pcp.setWidth 16) <<< 13)
  | .ipTos => some ((pkt.part .ipDscp).setWidth 8 <<< 2)

/-! ### Names of fields -/

/-- The OpenFlow Basic class. -/
def Field.ofBasic : Nat → Option Field
  | 0 => some (.part .inPort)
  | 1 => some (.part .inPhyPort)
  | 2 => some (.part .metadata)
  | 3 => some (.part .ethDst)
  | 4 => some (.part .ethSrc)
  | 5 => some (.part .ethType)
  | 6 => some .vlanVid
  | 7 => some .vlanPcp
  | 8 => some (.part .ipDscp)
  | 9 => some (.part .ipEcn)
  | 10 => some (.part .ipProto)
  | 11 => some (.part .ipv4Src)
  | 12 => some (.part .ipv4Dst)
  | 13 => some (.part .tcpSrc)
  | 14 => some (.part .tcpDst)
  | 15 => some (.part .udpSrc)
  | 16 => some (.part .udpDst)
  | 19 => some (.part .icmpType)
  | 20 => some (.part .icmpCode)
  | 21 => some (.part .arpOp)
  | 22 => some (.part .arpSpa)
  | 23 => some (.part .arpTpa)
  | 24 => some (.part .arpSha)
  | 25 => some (.part .arpTha)
  | 26 => some (.part .ipv6Src)
  | 27 => some (.part .ipv6Dst)
  | 28 => some (.part .ipv6Flabel)
  | 29 => some (.part .icmpv6Type)
  | 30 => some (.part .icmpv6Code)
  | 38 => some (.part .tunnelId)
  | _ => none

/-- The OpenFlow 1.0 class of Nicira. -/
def Field.ofNxm0 : Nat → Option Field
  | 0 => some .ofp10InPort
  | 1 => some (.part .ethDst)
  | 2 => some (.part .ethSrc)
  | 3 => some (.part .ethType)
  | 4 => some .vlanTci
  | 5 => some .ipTos
  | 6 => some (.part .ipProto)
  | 7 => some (.part .ipv4Src)
  | 8 => some (.part .ipv4Dst)
  | 9 => some (.part .tcpSrc)
  | 10 => some (.part .tcpDst)
  | 11 => some (.part .udpSrc)
  | 12 => some (.part .udpDst)
  | 13 => some (.part .icmpType)
  | 14 => some (.part .icmpCode)
  | 15 => some (.part .arpOp)
  | 16 => some (.part .arpSpa)
  | 17 => some (.part .arpTpa)
  | _ => none

/-- The extension class of Nicira. -/
def Field.ofNxm1 : Nat → Option Field
  | 16 => some (.part .tunnelId)
  | 105 => some (.part .ctState)
  | 106 => some (.part .ctZone)
  | 107 => some (.part .ctMark)
  | _ => none

def Field.ofHeader : OxmClass → U8 → Option Field
  | .openflowBasic, number => ofBasic number.toNat
  | .nxm0, number => ofNxm0 number.toNat
  | .nxm1, number => ofNxm1 number.toNat
  | .experimenter, _ => none

theorem Field.ofHeader_lt {class_ : OxmClass} {number : U8} {f : Field}
    (h : Field.ofHeader class_ number = some f) : number < 128 := by
  have hlt : number.toNat < 128 := by
    by_contra hle
    cases class_ with
    | openflowBasic => simp [ofHeader, ofBasic] at h; split at h <;> simp_all
    | nxm0 => simp [ofHeader, ofNxm0] at h; split at h <;> simp_all
    | nxm1 => simp [ofHeader, ofNxm1] at h; split at h <;> simp_all
    | experimenter => simp [ofHeader] at h
  exact hlt

end Rovs.OpenFlow

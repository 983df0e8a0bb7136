import Rovs.MatchMeaning

/-!
# Ethernet frames

A frame is its addresses, a stack of VLAN tags with the outermost first, the type of what it
carries, and the bytes of that.  What an ARP body says stands at fixed places of these bytes.
`FrameField` are the fields of a frame that actions name, with what they hold and what the frame is
after one of them has been written.  A `Dissector` finds the header fields of a frame; what a
switch makes of the other headers is open.
-/

namespace Rovs.OpenFlow

/-! ### Frames -/

/-- The types of VLAN tags, of 802.1Q and of 802.1ad. -/
inductive Tpid where
  | dot1q | dot1ad
deriving DecidableEq, Repr

def Tpid.toU16 : Tpid → U16
  | .dot1q => 0x8100
  | .dot1ad => 0x88a8

def Tpid.ofU16 (v : U16) : Option Tpid :=
  if v = 0x8100 then some .dot1q
  else if v = 0x88a8 then some .dot1ad
  else none

theorem Tpid.ofU16_ipv4 : Tpid.ofU16 0x0800 = none := by decide

theorem Tpid.ofU16_arp : Tpid.ofU16 0x0806 = none := by decide

structure FrameTag where
  tpid : Tpid
  pcp : BitVec 3
  dei : BitVec 1
  vid : BitVec 12
deriving DecidableEq, Repr

/-- The tag as matches see it. -/
def FrameTag.vlanTag (tag : FrameTag) : VlanTag := ⟨tag.pcp, tag.vid⟩

def FrameTag.bytes (tag : FrameTag) : Bytes :=
  be tag.tpid.toU16 ++ be (tag.pcp ++ tag.dei ++ tag.vid)

structure EthernetFrame where
  dst : MacAddr
  src : MacAddr
  /-- outermost first -/
  tags : List FrameTag
  etherType : U16
  payload : Bytes
  /-- what stands behind the tags is not one more -/
  innermost : Tpid.ofU16 etherType = none
deriving DecidableEq

def EthernetFrame.bytes (frame : EthernetFrame) : Bytes :=
  be frame.dst ++ be frame.src ++ frame.tags.flatMap FrameTag.bytes ++ be frame.etherType
    ++ frame.payload

/-! ### ARP bodies -/

inductive ArpField where
  | op | sha | spa | tha | tpa
deriving DecidableEq, Repr

def ArpField.part : ArpField → Part
  | .op => .arpOp
  | .sha => .arpSha
  | .spa => .arpSpa
  | .tha => .arpTha
  | .tpa => .arpTpa

def ArpField.width (f : ArpField) : Nat := f.part.width

/-- Where a field stands in the body. -/
def ArpField.offset : ArpField → Nat
  | .op => 6
  | .sha => 8
  | .spa => 14
  | .tha => 18
  | .tpa => 24

/-- The body is one of Ethernet and IPv4 addresses, and complete. -/
def IsArpBody (body : Bytes) : Prop :=
  28 ≤ body.length ∧ wordAt 16 body 0 = 1 ∧ wordAt 16 body 2 = 0x0800 ∧ wordAt 8 body 4 = 6 ∧
    wordAt 8 body 5 = 4

instance (body : Bytes) : Decidable (IsArpBody body) := by
  unfold IsArpBody
  infer_instance

def EthernetFrame.IsArp (frame : EthernetFrame) : Prop :=
  frame.etherType = 0x0806 ∧ IsArpBody frame.payload

instance (frame : EthernetFrame) : Decidable frame.IsArp := by
  unfold EthernetFrame.IsArp
  infer_instance

/-- Bytes with other bytes written over them from an offset on. -/
def patch (off : Nat) (bytes data : Bytes) : Bytes :=
  data.take off ++ bytes ++ data.drop (off + bytes.length)

structure ArpBody where
  oper : U16
  sha : MacAddr
  spa : Ipv4Addr
  tha : MacAddr
  tpa : Ipv4Addr
deriving DecidableEq, Repr

namespace ArpBody

def bytes (arp : ArpBody) : Bytes :=
  be (1 : U16) ++ (be (0x0800 : U16) ++ (be (6 : U8) ++ (be (4 : U8) ++ (be arp.oper ++
    (be arp.sha ++ (be arp.spa ++ (be arp.tha ++ be arp.tpa)))))))

def get (arp : ArpBody) : (f : ArpField) → BitVec f.width
  | .op => arp.oper
  | .sha => arp.sha
  | .spa => arp.spa
  | .tha => arp.tha
  | .tpa => arp.tpa

def set (arp : ArpBody) : (f : ArpField) → BitVec f.width → ArpBody
  | .op, v => { arp with oper := v }
  | .sha, v => { arp with sha := v }
  | .spa, v => { arp with spa := v }
  | .tha, v => { arp with tha := v }
  | .tpa, v => { arp with tpa := v }

end ArpBody

/-! ### Fields that actions name -/

inductive FrameField where
  | ethDst | ethSrc | vlanVid
  | arp (f : ArpField)
deriving DecidableEq, Repr

def FrameField.width : FrameField → Nat
  | .ethDst | .ethSrc => 48
  | .vlanVid => 16
  | .arp f => f.width

def FrameField.ofHeader : OxmClass → Nat → Option FrameField
  | .openflowBasic, 3 => some .ethDst
  | .openflowBasic, 4 => some .ethSrc
  | .openflowBasic, 6 => some .vlanVid
  | .openflowBasic, 21 => some (.arp .op)
  | .openflowBasic, 22 => some (.arp .spa)
  | .openflowBasic, 23 => some (.arp .tpa)
  | .openflowBasic, 24 => some (.arp .sha)
  | .openflowBasic, 25 => some (.arp .tha)
  | .nxm0, 1 => some .ethDst
  | .nxm0, 2 => some .ethSrc
  | .nxm0, 15 => some (.arp .op)
  | .nxm0, 16 => some (.arp .spa)
  | .nxm0, 17 => some (.arp .tpa)
  | .nxm1, 17 => some (.arp .sha)
  | .nxm1, 18 => some (.arp .tha)
  | _, _ => none

/-- The field that a header word names. -/
def FrameField.ofWord (header : U32) : Option FrameField := do
  let class_ ← OxmClass.ofU16 (headerClass header)
  FrameField.ofHeader class_ (headerField header).toNat

namespace EthernetFrame

/-- What a frame holds in a field, if it has it. -/
def read (frame : EthernetFrame) : (f : FrameField) → Option (BitVec f.width)
  | .ethDst => some frame.dst
  | .ethSrc => some frame.src
  | .vlanVid => some (vlanWord (frame.tags.head?.map FrameTag.vlanTag))
  | .arp f => if frame.IsArp then some (wordAt f.width frame.payload f.offset) else none

/-- The frame with another value in a field; a field that it does not have is not written. -/
def write (frame : EthernetFrame) : (f : FrameField) → BitVec f.width → EthernetFrame
  | .ethDst, v => { frame with dst := v }
  | .ethSrc, v => { frame with src := v }
  | .vlanVid, v =>
    { frame with tags := frame.tags.modifyHead fun tag => { tag with vid := v.setWidth 12 } }
  | .arp f, v =>
    if frame.IsArp then { frame with payload := patch f.offset (be v) frame.payload } else frame

end EthernetFrame

/-- An ARP field is read out of the payload, where the flow of a switch and the handler of the
    controller see the same words. -/
theorem EthernetFrame.read_arp {frame : EthernetFrame} (h : frame.IsArp) (f : ArpField) :
    frame.read (.arp f) = some (wordAt f.width frame.payload f.offset) := by
  rw [EthernetFrame.read, if_pos h]
  rfl

/-- Writing an ARP field patches the payload, and leaves the rest of the frame as it is. -/
theorem EthernetFrame.write_arp {frame : EthernetFrame} (h : frame.IsArp) (f : ArpField)
    (v : BitVec f.width) : frame.write (.arp f) v =
      { frame with payload := patch f.offset (be v) frame.payload } := by
  simp only [EthernetFrame.write, if_pos h]
  rfl

/-! ### What a switch finds in a frame -/

/-- The operation that a switch sees in an ARP body: it keeps one byte. -/
def seenArpOp (body : Bytes) : U16 :=
  if wordAt 16 body 6 ≤ (0xff : U16) then wordAt 16 body 6 else 0

/-- How the frames that come in on a port are seen by matches. -/
structure Dissector where
  packet : U32 → EthernetFrame → Packet
  inPort : ∀ port frame, (packet port frame).inPort = port
  ethDst : ∀ port frame, (packet port frame).ethDst = frame.dst
  ethSrc : ∀ port frame, (packet port frame).ethSrc = frame.src
  -- below 0x0600 the word is the length of an 802.3 frame
  ethType : ∀ port frame, 0x0600 ≤ frame.etherType →
    (packet port frame).ethType = frame.etherType
  vlan : ∀ port frame, (packet port frame).vlan = frame.tags.head?.map FrameTag.vlanTag
  arp : ∀ port frame (f : ArpField), f ≠ .op → frame.IsArp →
    (packet port frame).part f.part = wordAt f.width frame.payload f.offset
  arpOp : ∀ port frame, frame.IsArp → (packet port frame).part .arpOp = seenArpOp frame.payload

/-- A dissector that sees no header but the Ethernet header, the tag and the ARP body. -/
def Dissector.shallow : Dissector where
  packet port frame := {
    part
      | .inPort => port
      | .ethDst => frame.dst
      | .ethSrc => frame.src
      | .ethType => frame.etherType
      | .arpOp => seenArpOp frame.payload
      | .arpSha => wordAt 48 frame.payload 8
      | .arpSpa => wordAt 32 frame.payload 14
      | .arpTha => wordAt 48 frame.payload 18
      | .arpTpa => wordAt 32 frame.payload 24
      | _ => 0
    vlan := frame.tags.head?.map FrameTag.vlanTag }
  inPort _ _ := rfl
  ethDst _ _ := rfl
  ethSrc _ _ := rfl
  ethType _ _ _ := rfl
  vlan _ _ := rfl
  arp _ _ f hne _ := by
    cases f with
    | op => exact absurd rfl hne
    | _ => rfl
  arpOp _ _ _ := rfl

/-! ### ARP frames -/

namespace ArpBody

variable (arp : ArpBody)

theorem bytes_length : arp.bytes.length = 28 := by
  simp [bytes]

theorem isArpBody : IsArpBody arp.bytes := by
  refine ⟨Nat.le_of_eq arp.bytes_length.symm, ?_⟩
  simp [bytes, wordAt_append_right]

theorem wordAt_bytes (f : ArpField) : wordAt f.width arp.bytes f.offset = arp.get f := by
  have hlast : wordAt 32 (be arp.tpa) 0 = arp.tpa := by
    rw [← List.append_nil (be arp.tpa), wordAt_be_append _ _ rfl]
  cases f <;> simp [bytes, wordAt_append_right, ArpField.width, ArpField.part, Part.width,
    ArpField.offset, get, hlast]

/-- Patching the encoded body in the place of a field is the same as setting the field and encoding
    the body again. -/
theorem patch_bytes (f : ArpField) (v : BitVec f.width) :
    patch f.offset (be v) arp.bytes = (arp.set f v).bytes := by
  cases f <;> rfl

end ArpBody

end Rovs.OpenFlow

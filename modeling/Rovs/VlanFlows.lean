import Rovs.FrameActions
import Rovs.MatchRetention

/-!
# VLAN access ports (`rovs-ext/src/flows/vlan.rs`)

An access port has two flows: frames from the port get a tag on their way to the trunk, and frames
from the trunk with the tag lose it on their way to the port.  The first flow is meant for untagged
frames but asks only for the port, so a frame that already has a tag leaves with one more.

`neverDoubleTags_iff` says for which ports and frames the two flows do what they are meant to.
-/

namespace Rovs.OpenFlow

/-! ### The flows -/

def pushVlanFlow (inPort outPort : U32) (vlanId : U16) (table : U8) (priority : U16) : Flow :=
  .template table priority { Match.new with inPort := some inPort }
    [.pushVlan 0x8100, .setVlanVid vlanId, .output (.port outPort)]

def popVlanFlow (inPort outPort : U32) (vlanId : U16) (table : U8) (priority : U16) : Flow :=
  .template table priority { Match.new with inPort := some inPort, vlanVid := some vlanId }
    [.popVlan, .output (.port outPort)]

structure VlanAccessPort where
  port : U32
  vlanId : U16
  trunkPort : U32
deriving DecidableEq, Repr

namespace VlanAccessPort

variable (ap : VlanAccessPort)

/-- Access to trunk. -/
def ingressFlow (table : U8) (priority : U16) : Flow :=
  pushVlanFlow ap.port ap.trunkPort ap.vlanId table priority

/-- Trunk to access. -/
def egressFlow (table : U8) (priority : U16) : Flow :=
  popVlanFlow ap.trunkPort ap.port ap.vlanId table priority

def allFlows (table : U8) (priority : U16) : List Flow :=
  [ap.ingressFlow table priority, ap.egressFlow table priority]

end VlanAccessPort

structure VlanConfig where
  accessPorts : List VlanAccessPort := []

def VlanConfig.addAccessPort (config : VlanConfig) (port : U32) (vlanId : U16) (trunkPort : U32) :
    VlanConfig :=
  { config with accessPorts := config.accessPorts ++ [⟨port, vlanId, trunkPort⟩] }

def VlanConfig.allFlows (config : VlanConfig) (table : U8) (priority : U16) : List Flow :=
  config.accessPorts.flatMap fun ap => ap.allFlows table priority

/-! ### The rules that the flows are -/

/-- The condition on the port of a frame. -/
def portCondition (port : U32) : Tlv :=
  ⟨.openflowBasic, OxmField.inPort.toU8, .part .inPort, Part.known .inPort, port, none⟩

/-- The condition on the VLAN id, with the bit for the tag. -/
def vlanCondition (vlanId : U16) : Tlv :=
  ⟨.openflowBasic, OxmField.vlanVid.toU8, .vlanVid, vlanVid_known, present vlanId, none⟩

namespace VlanAccessPort

variable (ap : VlanAccessPort) (table : U8) (priority : U16)

def ingressRule : FrameRule where
  table := table
  priority := priority
  conditions := [portCondition ap.port]
  actions := [.pushVlan .dot1q, .setField .vlanVid (present ap.vlanId), .output ap.trunkPort]

def egressRule : FrameRule where
  table := table
  priority := priority
  conditions := [portCondition ap.trunkPort, vlanCondition ap.vlanId]
  actions := [.popVlan, .output ap.port]

theorem tlvs_port (port : U32) :
    Match.tlvs { Match.new with inPort := some port } = [portCondition port] := rfl

theorem tlvs_portVlan (port : U32) (vlanId : U16) :
    Match.tlvs { Match.new with inPort := some port, vlanVid := some vlanId } =
      [portCondition port, vlanCondition vlanId] := rfl

theorem readRule_ingressFlow :
    readRule (ap.ingressFlow table priority).encode = some (ap.ingressRule table priority) := by
  have hfew : (List.flatMap Action.encode
      [.pushVlan 0x8100, .setVlanVid ap.vlanId, .output (.port ap.trunkPort)]).length = 40 := rfl
  have hfield : FrameField.ofWord (setFieldHeader 2 .vlanVid) = some .vlanVid := by decide
  have hset : readFrameAction (encodeSetField 2 6 .vlanVid (present ap.vlanId)) =
      some (.setField .vlanVid (present ap.vlanId)) := readFrameAction_setField hfield rfl rfl
  have hread : ReadOnFrames [.pushVlan 0x8100, .setVlanVid ap.vlanId, .output (.port ap.trunkPort)]
      [.pushVlan .dot1q, .setField .vlanVid (present ap.vlanId), .output ap.trunkPort] := by
    apply ReadOnFrames.cons (a := .pushVlan 0x8100) (readFrameAction_pushVlan rfl) _
      (fun heq => by cases heq)
    apply ReadOnFrames.cons (a := .setVlanVid ap.vlanId) hset _ (fun heq => by cases heq)
    exact ReadOnFrames.cons (a := .output (.port ap.trunkPort)) (readFrameAction_output ..) .nil
      (fun heq => by cases heq)
  rw [ingressFlow, pushVlanFlow, readRule_template (by simp) (by omega) hread, tlvs_port]
  rfl

theorem readRule_egressFlow :
    readRule (ap.egressFlow table priority).encode = some (ap.egressRule table priority) := by
  have hfew : (List.flatMap Action.encode [.popVlan, .output (.port ap.port)]).length = 24 := rfl
  have hread : ReadOnFrames [.popVlan, .output (.port ap.port)] [.popVlan, .output ap.port] := by
    apply ReadOnFrames.cons (a := .popVlan) readFrameAction_popVlan _ (fun heq => by cases heq)
    exact ReadOnFrames.cons (a := .output (.port ap.port)) (readFrameAction_output ..) .nil
      (fun heq => by cases heq)
  rw [egressFlow, popVlanFlow, readRule_template (by simp) (by omega) hread, tlvs_portVlan]
  rfl

/-! ### Which frames the rules are for -/

section Accepts

variable {ap table priority} {pkt : Packet}

theorem portCondition_holds {port : U32} : (portCondition port).Holds pkt ↔ pkt.inPort = port :=
  Tlv.holds_plain rfl rfl

theorem vlanCondition_holds {vlanId : U16} :
    (vlanCondition vlanId).Holds pkt ↔ vlanWord pkt.vlan = present vlanId :=
  Tlv.holds_plain rfl rfl

theorem ingressRule_accepts :
    (ap.ingressRule table priority).Accepts pkt ↔ pkt.inPort = ap.port :=
  List.forall_mem_singleton.trans portCondition_holds

theorem egressRule_accepts : (ap.egressRule table priority).Accepts pkt ↔
    pkt.inPort = ap.trunkPort ∧ vlanWord pkt.vlan = present ap.vlanId := by
  rw [FrameRule.Accepts, egressRule, List.forall_mem_cons, List.forall_mem_singleton,
    portCondition_holds, vlanCondition_holds]

end Accepts

/-! ### What the rules send -/

/-- The tag that frames get on their way to the trunk. -/
def tag : FrameTag := ⟨.dot1q, 0, 0, (present ap.vlanId).setWidth 12⟩

theorem present_setWidth (vlanId : U16) : (present vlanId).setWidth 12 = vlanId.setWidth 12 := by
  rw [present, BitVec.setWidth_or]
  exact BitVec.or_zero

theorem tag_vid : ap.tag.vid = ap.vlanId.setWidth 12 := present_setWidth ap.vlanId

theorem tag_vid_iff : ap.tag.vid.toNat = ap.vlanId.toNat ↔ ap.vlanId < 0x1000 := by
  rw [tag_vid]
  bv_omega

theorem vlanWord_of_vid {tag : FrameTag} (hvid : tag.vid.toNat = ap.vlanId.toNat) :
    vlanWord (some tag.vlanTag) = present ap.vlanId := by
  have hid : tag.vlanTag.vid.setWidth 16 = ap.vlanId := by
    have hword : tag.vlanTag.vid.toNat = ap.vlanId.toNat := hvid
    bv_omega
  rw [vlanWord_some, hid]

theorem runActions_ingress (frame : EthernetFrame) :
    runActions ap.port (ap.ingressRule table priority).actions frame =
      (exits ap.port ap.trunkPort).map (·, { frame with tags := ap.tag :: frame.tags }) := by
  rw [ingressRule]
  simp only [runActions, FrameAction.rewrite, EthernetFrame.write, List.modifyHead_cons,
    List.append_nil, tag]
  rfl

theorem runActions_egress (inPort : U32) (frame : EthernetFrame) :
    runActions inPort (ap.egressRule table priority).actions frame =
      (exits inPort ap.port).map (·, { frame with tags := frame.tags.tail }) := by
  simp [egressRule, runActions, FrameAction.rewrite]

end VlanAccessPort

/-- An output comes out of the port it names exactly if the port is another one than the frame
    came in on, and a port at all. -/
theorem exits_eq_iff (inPort port : U32) :
    exits inPort port = [.port port] ↔ port ≠ inPort ∧ IsPort port := by
  have hreserved : ¬ IsPort portInPort := by decide
  unfold exits
  split_ifs with hin hback hport
  · exact iff_of_false (fun heq => by cases heq) (fun h => hreserved (hin ▸ h.2))
  · simp [hback]
  · simp [hback, hport]
  · simp [hport]

/-! ### Double tags -/

namespace VlanAccessPort

/-- What is asked of the rules of an access port and a frame that comes in on it.  The frame is
    taken only if it has no tag; then it leaves the trunk port with the one tag of the port, and
    what comes back through the other rule is the frame again.  With a tag it does not leave with
    two, or in another VLAN. -/
structure TagsOnce (ap : VlanAccessPort) (ingress egress : FrameRule) (dissector : Dissector)
    (frame : EthernetFrame) : Prop where
  takesUntagged : ingress.Accepts (dissector.packet ap.port frame) → frame.tags = []
  tags : frame.tags = [] → ∃ tag : FrameTag, tag.vid.toNat = ap.vlanId.toNat ∧
    ingress.run dissector ap.port frame =
      [(.port ap.trunkPort, { frame with tags := [tag] })] ∧
    egress.run dissector ap.trunkPort { frame with tags := [tag] } = [(.port ap.port, frame)]
  hopsNowhere : frame.tags ≠ [] →
    ∀ exit sent, (exit, sent) ∈ ingress.run dissector ap.port frame →
      sent.tags.length ≤ 1 ∧ ∀ tag ∈ sent.tags, tag.vid.toNat = ap.vlanId.toNat

/-- The flows of an access port, as a switch reads them, treat a frame as asked. -/
def NeverDoubleTags (ap : VlanAccessPort) (table : U8) (priority : U16) (dissector : Dissector)
    (frame : EthernetFrame) : Prop :=
  ∃ ingress egress, readRule (ap.ingressFlow table priority).encode = some ingress ∧
    readRule (ap.egressFlow table priority).encode = some egress ∧
    ap.TagsOnce ingress egress dissector frame

variable (ap : VlanAccessPort) (table : U8) (priority : U16) (dissector : Dissector)

/-- The rule of the way in takes every frame from the port. -/
theorem run_ingress (frame : EthernetFrame) :
    (ap.ingressRule table priority).run dissector ap.port frame =
      (exits ap.port ap.trunkPort).map (·, { frame with tags := ap.tag :: frame.tags }) := by
  have haccepts : (ap.ingressRule table priority).Accepts (dissector.packet ap.port frame) :=
    ingressRule_accepts.mpr (dissector.inPort ..)
  rw [FrameRule.run, if_pos haccepts, runActions_ingress]

/-- The rule of the way out takes the frames of the VLAN from the trunk. -/
theorem egressRule_accepts_vid {frame : EthernetFrame} {tag : FrameTag} {rest : List FrameTag}
    (htags : frame.tags = tag :: rest) (hvid : tag.vid.toNat = ap.vlanId.toNat) :
    (ap.egressRule table priority).Accepts (dissector.packet ap.trunkPort frame) := by
  have hvlan : (dissector.packet ap.trunkPort frame).vlan = some tag.vlanTag := by
    rw [dissector.vlan, htags]
    rfl
  exact egressRule_accepts.mpr ⟨dissector.inPort .., by rw [hvlan, ap.vlanWord_of_vid hvid]⟩

theorem run_egress {frame : EthernetFrame} {tag : FrameTag} {rest : List FrameTag}
    (htags : frame.tags = tag :: rest) (hvid : tag.vid.toNat = ap.vlanId.toNat) :
    (ap.egressRule table priority).run dissector ap.trunkPort frame =
      (exits ap.trunkPort ap.port).map (·, { frame with tags := rest }) := by
  rw [FrameRule.run, if_pos (ap.egressRule_accepts_vid table priority dissector htags hvid),
    runActions_egress, htags, List.tail_cons]

/-- What leaves by one exit. -/
theorem map_exits_eq_iff {inPort port : U32} {sent frame : EthernetFrame} :
    (exits inPort port).map (·, sent) = [(.port port, frame)] ↔
      exits inPort port = [.port port] ∧ sent = frame := by
  rw [List.map_eq_singleton_iff]
  constructor
  · rintro ⟨exit, hexits, heq⟩
    cases heq
    exact ⟨hexits, rfl⟩
  · rintro ⟨hexits, rfl⟩
    exact ⟨_, hexits, rfl⟩

/-- **The flows of an access port treat a frame as asked exactly if it has no tag, the VLAN id is
    one, and the two ports are different ports.** -/
theorem neverDoubleTags_iff (frame : EthernetFrame) :
    ap.NeverDoubleTags table priority dissector frame ↔
      frame.tags = [] ∧ ap.vlanId < 0x1000 ∧ ap.port ≠ ap.trunkPort ∧ IsPort ap.port ∧
        IsPort ap.trunkPort := by
  have hin := ap.readRule_ingressFlow table priority
  have hout := ap.readRule_egressFlow table priority
  constructor
  case mp =>
    rintro ⟨ingress, egress, hingress, hegress, h⟩
    rw [hin] at hingress
    rw [hout] at hegress
    cases hingress
    cases hegress
    have htags : frame.tags = [] := h.takesUntagged (ingressRule_accepts.mpr (dissector.inPort ..))
    rcases h.tags htags with ⟨tag, hvid, hsent, hback⟩
    rw [run_ingress, map_exits_eq_iff, exits_eq_iff, htags] at hsent
    rcases hsent with ⟨⟨hne, htrunk⟩, hframe⟩
    have htag : ap.tag = tag := by
      have heq := congrArg EthernetFrame.tags hframe
      exact (List.cons.inj heq).1
    subst htag
    have hid : ap.vlanId < 0x1000 := ap.tag_vid_iff.mp hvid
    rw [ap.run_egress table priority dissector rfl hvid, map_exits_eq_iff, exits_eq_iff] at hback
    exact ⟨htags, hid, hne.symm, hback.1.2, htrunk⟩
  case mpr =>
    rintro ⟨htags, hid, hne, hport, htrunk⟩
    refine ⟨_, _, hin, hout, fun _ => htags, fun _ => ⟨ap.tag, ap.tag_vid_iff.mpr hid, ?_, ?_⟩,
      fun hnot => absurd htags hnot⟩
    · rw [run_ingress, map_exits_eq_iff, exits_eq_iff, htags]
      exact ⟨⟨hne.symm, htrunk⟩, rfl⟩
    · rw [ap.run_egress table priority dissector rfl (ap.tag_vid_iff.mpr hid), map_exits_eq_iff,
        exits_eq_iff]
      refine ⟨⟨hne, hport⟩, ?_⟩
      rw [← htags]

/-- A frame that is already in VLAN 200. -/
def taggedFrame : EthernetFrame where
  dst := 0x020000000002
  src := 0x020000000001
  tags := [⟨.dot1q, 0, 0, 200⟩]
  etherType := 0x0800
  payload := []
  innermost := Tpid.ofU16_ipv4

/-- An access port of VLAN 100 takes a frame of VLAN 200 and sends it with two tags. -/
theorem taggedFrame_doubleTagged :
    ¬ VlanAccessPort.NeverDoubleTags ⟨1, 100, 10⟩ 0 50 .shallow taggedFrame ∧
    (VlanAccessPort.ingressRule ⟨1, 100, 10⟩ 0 50).run .shallow 1 taggedFrame =
      [(.port 10, { taggedFrame with tags := [⟨.dot1q, 0, 0, 100⟩, ⟨.dot1q, 0, 0, 200⟩] })] := by
  constructor
  · rintro ⟨ingress, egress, hingress, -, h⟩
    rw [readRule_ingressFlow] at hingress
    cases hingress
    have htags := h.takesUntagged (ingressRule_accepts.mpr rfl)
    cases htags
  · exact run_ingress ⟨1, 100, 10⟩ 0 50 .shallow taggedFrame

end VlanAccessPort

end Rovs.OpenFlow

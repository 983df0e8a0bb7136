import Mathlib.Data.List.Nodup
import Rovs.VlanFlows

/-!
# Several access ports (`rovs-ext/src/flows/vlan.rs`, `VlanConfig`)

All flows of a configuration go into one table with one priority.  Two access ports of one VLAN
behind one trunk write the same match for their way back, so the later flow replaces the earlier
one and the first port gets nothing any more.

`VlanConfig.Serves` says what serving all ports means, on frames, and `vlanConfig_serves_iff`
when a configuration does.
-/

namespace Rovs.OpenFlow

/-! ### What is asked -/

/-- The rules that flow modifications add. -/
def frameRules (flows : List Flow) : List FrameRule :=
  flows.filterMap fun flow => readRule flow.encode

/-- Rules with the same table, priority and match do the same. -/
def Unambiguous (rules : List FrameRule) : Prop :=
  ∀ r ∈ rules, ∀ r' ∈ rules, r.key = r'.key → r.actions = r'.actions

/-- A frame that comes in on a port is looked up in a table, and whatever rule is selected sends
    this and nothing else. -/
def Sends (rules : List FrameRule) (table : U8) (dissector : Dissector) (inPort : U32)
    (frame : EthernetFrame) (sent : List (Exit × EthernetFrame)) : Prop :=
  (∃ r, frameLookup.Selects rules table (dissector.packet inPort frame) r) ∧
    ∀ r, frameLookup.Selects rules table (dissector.packet inPort frame) r →
      runActions inPort r.actions frame = sent

/-- What is asked of a configuration: its flows do not overwrite each other, and once they are
    installed every access port gets the frames of its VLAN, without the tag. -/
structure VlanConfig.Serves (config : VlanConfig) (table : U8) (priority : U16)
    (dissector : Dissector) : Prop where
  unambiguous : Unambiguous (frameRules (config.allFlows table priority))
  delivers : ∀ ap ∈ config.accessPorts, ∀ (frame : EthernetFrame) (tag : FrameTag),
    frame.tags = [tag] → tag.vid.toNat = ap.vlanId.toNat →
      Sends (installed FrameRule.key (frameRules (config.allFlows table priority))) table dissector
        ap.trunkPort frame [(.port ap.port, { frame with tags := [] })]

/-- The access ports have different ports, and no trunk port is one of them. -/
structure VlanConfig.WellFormed (config : VlanConfig) : Prop where
  distinct : (config.accessPorts.map VlanAccessPort.port).Nodup
  trunks : ∀ ap ∈ config.accessPorts, ∀ ap' ∈ config.accessPorts, ap.trunkPort ≠ ap'.port

/-- No two access ports share a VLAN on one trunk, as the wire has the ids: with the bit for the
    tag. -/
def VlanConfig.Apart (config : VlanConfig) : Prop :=
  ∀ ap ∈ config.accessPorts, ∀ ap' ∈ config.accessPorts,
    ap.trunkPort = ap'.trunkPort → present ap.vlanId = present ap'.vlanId → ap = ap'

/-- The access ports are apart, and those with a VLAN that frames can have are ports. -/
structure VlanConfig.Separate (config : VlanConfig) : Prop where
  apart : config.Apart
  ports : ∀ ap ∈ config.accessPorts, ap.vlanId < 0x1000 → IsPort ap.port

/-! ### The rules of a configuration -/

section Rules

variable {config : VlanConfig} {table : U8} {priority : U16} {r : FrameRule}

theorem VlanConfig.mem_rules : r ∈ frameRules (config.allFlows table priority) ↔
    ∃ ap ∈ config.accessPorts,
      r = ap.ingressRule table priority ∨ r = ap.egressRule table priority := by
  simp only [frameRules, VlanConfig.allFlows, VlanAccessPort.allFlows, List.mem_filterMap,
    List.mem_flatMap, List.mem_pair]
  constructor
  · rintro ⟨flow, ⟨ap, hap, rfl | rfl⟩, hread⟩
    · rw [ap.readRule_ingressFlow] at hread
      exact ⟨ap, hap, .inl (Option.some.inj hread).symm⟩
    · rw [ap.readRule_egressFlow] at hread
      exact ⟨ap, hap, .inr (Option.some.inj hread).symm⟩
  · rintro ⟨ap, hap, rfl | rfl⟩
    · exact ⟨_, ⟨ap, hap, .inl rfl⟩, ap.readRule_ingressFlow table priority⟩
    · exact ⟨_, ⟨ap, hap, .inr rfl⟩, ap.readRule_egressFlow table priority⟩

theorem FrameRule.perm_of_key_eq {r r' : FrameRule} (h : r.key = r'.key) :
    r.conditions.Perm r'.conditions :=
  Multiset.coe_eq_coe.mp (congrArg (fun key => key.2.2) h)

theorem portCondition_inj {port port' : U32} (h : portCondition port = portCondition port') :
    port = port' := by
  cases h
  rfl

theorem vlanCondition_inj {vlanId vlanId' : U16}
    (h : vlanCondition vlanId = vlanCondition vlanId') : present vlanId = present vlanId' := by
  rw [vlanCondition, vlanCondition] at h
  exact eq_of_heq (Tlv.mk.inj h).2.2.2.1

theorem portCondition_ne_vlanCondition (port : U32) (vlanId : U16) :
    portCondition port ≠ vlanCondition vlanId := by
  intro h
  have hnumber : OxmField.inPort.toU8 = OxmField.vlanVid.toU8 := congrArg Tlv.number h
  exact absurd hnumber (by decide)

variable {ap ap' : VlanAccessPort}

theorem ingress_key_eq (h : (ap.ingressRule table priority).key =
    (ap'.ingressRule table priority).key) : ap.port = ap'.port :=
  portCondition_inj (List.singleton_perm_singleton.mp (FrameRule.perm_of_key_eq h))

theorem ingress_key_ne_egress :
    (ap.ingressRule table priority).key ≠ (ap'.egressRule table priority).key := by
  intro h
  have hlength : 1 = 2 := (FrameRule.perm_of_key_eq h).length_eq
  cases hlength

theorem egress_key_eq_iff :
    (ap.egressRule table priority).key = (ap'.egressRule table priority).key ↔
      ap.trunkPort = ap'.trunkPort ∧ present ap.vlanId = present ap'.vlanId := by
  constructor
  · intro h
    have hperm : [portCondition ap.trunkPort, vlanCondition ap.vlanId].Perm
        [portCondition ap'.trunkPort, vlanCondition ap'.vlanId] := FrameRule.perm_of_key_eq h
    constructor
    · rcases List.mem_pair.mp (hperm.subset (List.mem_cons_self ..)) with heq | heq
      · exact portCondition_inj heq
      · exact absurd heq (portCondition_ne_vlanCondition _ _)
    · rcases List.mem_pair.mp (hperm.subset (List.mem_pair.mpr (.inr rfl))) with heq | heq
      · exact absurd heq.symm (portCondition_ne_vlanCondition _ _)
      · exact vlanCondition_inj heq
  · rintro ⟨htrunk, hvlan⟩
    have hcondition : vlanCondition ap.vlanId = vlanCondition ap'.vlanId := by
      rw [vlanCondition, vlanCondition, hvlan]
    rw [FrameRule.key, FrameRule.key, VlanAccessPort.egressRule, VlanAccessPort.egressRule, htrunk,
      hcondition]

end Rules

/-! ### What the rules make of the frames of a VLAN -/

section Delivery

variable {config : VlanConfig} {table : U8} {priority : U16} {dissector : Dissector}
  {ap : VlanAccessPort} {frame : EthernetFrame} {tag : FrameTag}

/-- Where access ports are apart, only the rule of the access port takes such a frame. -/
theorem eq_egressRule_of_accepts (hwf : config.WellFormed) (hapart : config.Apart)
    (hap : ap ∈ config.accessPorts) (htags : frame.tags = [tag])
    (hvid : tag.vid.toNat = ap.vlanId.toNat) {r : FrameRule}
    (hr : r ∈ frameRules (config.allFlows table priority))
    (haccepts : r.Accepts (dissector.packet ap.trunkPort frame)) :
    r = ap.egressRule table priority := by
  rcases VlanConfig.mem_rules.mp hr with ⟨ap', hap', rfl | rfl⟩
  · have hport := VlanAccessPort.ingressRule_accepts.mp haccepts
    rw [dissector.inPort] at hport
    exact absurd hport (hwf.trunks ap hap ap' hap')
  · rcases VlanAccessPort.egressRule_accepts.mp haccepts with ⟨htrunk, hvlan⟩
    rw [dissector.inPort] at htrunk
    rw [dissector.vlan, htags] at hvlan
    have hsame : present ap.vlanId = present ap'.vlanId :=
      (ap.vlanWord_of_vid hvid).symm.trans hvlan
    rw [hapart ap hap ap' hap' htrunk hsame]

/-- After the flows have been installed, some rule takes the frame. -/
theorem exists_selects_vid (hap : ap ∈ config.accessPorts) (htags : frame.tags = [tag])
    (hvid : tag.vid.toNat = ap.vlanId.toNat) :
    ∃ r, frameLookup.Selects
      (installed FrameRule.key (frameRules (config.allFlows table priority))) table
      (dissector.packet ap.trunkPort frame) r := by
  have hmem : ap.egressRule table priority ∈ frameRules (config.allFlows table priority) :=
    VlanConfig.mem_rules.mpr ⟨ap, hap, .inr rfl⟩
  rcases exists_mem_installed FrameRule.key hmem with ⟨r, hr, hkey⟩
  apply Lookup.exists_selects hr
  · exact congrArg Prod.fst hkey
  · intro t ht
    exact ap.egressRule_accepts_vid table priority dissector htags hvid t
      ((FrameRule.perm_of_key_eq hkey).subset ht)

theorem VlanConfig.Separate.serves (hwf : config.WellFormed) (hsep : config.Separate) :
    config.Serves table priority dissector where
  unambiguous := by
    intro r hr r' hr' hkey
    rcases VlanConfig.mem_rules.mp hr with ⟨ap, hap, rfl | rfl⟩ <;>
      rcases VlanConfig.mem_rules.mp hr' with ⟨ap', hap', rfl | rfl⟩
    · rw [List.inj_on_of_nodup_map hwf.distinct hap hap' (ingress_key_eq hkey)]
    · exact absurd hkey ingress_key_ne_egress
    · exact absurd hkey.symm ingress_key_ne_egress
    · rcases egress_key_eq_iff.mp hkey with ⟨htrunk, hvlan⟩
      rw [hsep.apart ap hap ap' hap' htrunk hvlan]
  delivers := by
    intro ap hap frame tag htags hvid
    refine ⟨exists_selects_vid hap htags hvid, ?_⟩
    intro r hselects
    rw [eq_egressRule_of_accepts hwf hsep.apart hap htags hvid
      (mem_of_mem_installed hselects.mem) hselects.accepts, VlanAccessPort.runActions_egress,
      htags, List.tail_cons, VlanAccessPort.map_exits_eq_iff, exits_eq_iff]
    have hid : ap.vlanId < 0x1000 := by bv_omega
    exact ⟨⟨(hwf.trunks ap hap ap hap).symm, hsep.ports ap hap hid⟩, rfl⟩

/-- A frame with one tag, of the VLAN of an access port. -/
def VlanAccessPort.vlanFrame (ap : VlanAccessPort) : EthernetFrame where
  dst := 0
  src := 0
  tags := [ap.tag]
  etherType := 0x0800
  payload := []
  innermost := Tpid.ofU16_ipv4

theorem VlanConfig.Serves.separate (hwf : config.WellFormed)
    (h : config.Serves table priority dissector) : config.Separate := by
  have hapart : config.Apart := by
    intro ap hap ap' hap' htrunk hvlan
    have hactions := h.unambiguous (ap.egressRule table priority)
      (VlanConfig.mem_rules.mpr ⟨ap, hap, .inr rfl⟩) (ap'.egressRule table priority)
      (VlanConfig.mem_rules.mpr ⟨ap', hap', .inr rfl⟩) (egress_key_eq_iff.mpr ⟨htrunk, hvlan⟩)
    have hport : ap.port = ap'.port := by
      simpa [VlanAccessPort.egressRule] using hactions
    exact List.inj_on_of_nodup_map hwf.distinct hap hap' hport
  refine ⟨hapart, ?_⟩
  intro ap hap hid
  have hvid : ap.tag.vid.toNat = ap.vlanId.toNat := ap.tag_vid_iff.mpr hid
  rcases h.delivers ap hap ap.vlanFrame ap.tag rfl hvid with ⟨⟨r, hselects⟩, hsends⟩
  have hsent := hsends r hselects
  rw [eq_egressRule_of_accepts hwf hapart hap rfl hvid (mem_of_mem_installed hselects.mem)
    hselects.accepts, VlanAccessPort.runActions_egress, VlanAccessPort.map_exits_eq_iff,
    exits_eq_iff] at hsent
  exact hsent.1.2

/-- **A configuration with different access ports serves all of them exactly if no two share a
    VLAN on one trunk, and all of them with a VLAN are ports.** -/
theorem vlanConfig_serves_iff (config : VlanConfig) (hwf : config.WellFormed) (table : U8)
    (priority : U16) (dissector : Dissector) :
    config.Serves table priority dissector ↔ config.Separate := by
  constructor
  case mp => exact fun h => h.separate hwf
  case mpr => exact fun h => h.serves hwf

/-- Access ports of two VLANs behind one trunk. -/
def twoVlans : VlanConfig := (VlanConfig.addAccessPort {} 1 100 10).addAccessPort 2 200 10

theorem vlanConfig_serves_iff_twoVlans :
    twoVlans.WellFormed ∧ (twoVlans.Serves 0 50 .shallow ↔ twoVlans.Separate) := by
  have hwf : twoVlans.WellFormed := ⟨by decide, by decide⟩
  exact ⟨hwf, vlanConfig_serves_iff twoVlans hwf 0 50 .shallow⟩

/-- Access ports of one VLAN behind one trunk. -/
def sharedVlan : VlanConfig := (VlanConfig.addAccessPort {} 1 100 10).addAccessPort 2 100 10

/-- The flow of the second port replaces that of the first. -/
theorem sharedVlan_not_served : sharedVlan.WellFormed ∧ ¬ sharedVlan.Serves 0 50 .shallow := by
  have hwf : sharedVlan.WellFormed := ⟨by decide, by decide⟩
  refine ⟨hwf, ?_⟩
  intro h
  have hsame := (h.separate hwf).apart ⟨1, 100, 10⟩ (by decide) ⟨2, 100, 10⟩ (by decide) rfl rfl
  exact absurd hsame (by decide)

end Delivery

end Rovs.OpenFlow

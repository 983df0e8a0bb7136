import Rovs.MatchRetention

/-!
# The two decoders of the common fields

The OpenFlow 1.0 class of Nicira and the OpenFlow Basic class both describe some fields, each
with its own numbers and conventions.  `SharedCondition` is what both can ask of a packet.  The
decoders of the two classes make the same match of it, but for VLAN ids, where one keeps the
"present" bit, and for the reserved ports, which OpenFlow 1.0 numbers in 16 bits.

`decodersAgree_iff` says so for every condition that both can ask, with its value and its mask.
-/

namespace Rovs.OpenFlow

open Outcome

/-! ### Conditions of both classes -/

/-- The port that OpenFlow 1.0 gives a number: the numbers from `0xff00` on are the last ports. -/
def portOfOfp10 (number : U16) : U32 :=
  if number < 0xff00 then number.setWidth 32 else number.setWidth 32 + 0xffff0000

inductive SharedCondition where
  /-- a port, by its number in OpenFlow 1.0 -/
  | inPort (number : U16)
  /-- a VLAN id, with the tag present -/
  | vlanVid (vid : BitVec 12)
  | ipDscp (dscp : BitVec 6)
  /-- a part that both classes name, under a mask that a match can hold -/
  | part (p : Part) (number : U8) (known : Field.ofHeader .nxm0 number = some (.part p))
      (value : BitVec p.wireWidth) (mask : Option (BitVec p.wireWidth)) (retains : p.Retains mask)

namespace SharedCondition

theorem nxm0_inPort_known : Field.ofHeader .nxm0 0 = some .ofp10InPort := rfl

theorem nxm0_vlanTci_known : Field.ofHeader .nxm0 4 = some .vlanTci := rfl

theorem nxm0_ipTos_known : Field.ofHeader .nxm0 5 = some .ipTos := rfl

/-- What the condition asks of a packet. -/
def Holds (pkt : Packet) : SharedCondition → Prop
  | .inPort number => pkt.inPort = portOfOfp10 number
  | .vlanVid vid => pkt.vlan.map VlanTag.vid = some vid
  | .ipDscp dscp => pkt.part .ipDscp = dscp
  | .part p _ _ value mask _ =>
    (pkt.part p).setWidth p.wireWidth &&& mask.getD (BitVec.allOnes _) =
      value &&& mask.getD (BitVec.allOnes _)

/-- The condition in the OpenFlow 1.0 class of Nicira. -/
def nxm0 : SharedCondition → Tlv
  | .inPort number => ⟨.nxm0, 0, .ofp10InPort, nxm0_inPort_known, number, none⟩
  -- the mask leaves the priority open
  | .vlanVid vid =>
    ⟨.nxm0, 4, .vlanTci, nxm0_vlanTci_known, present (vid.setWidth 16), some (0x1fff : U16)⟩
  | .ipDscp dscp => ⟨.nxm0, 5, .ipTos, nxm0_ipTos_known, dscp.setWidth 8 <<< 2, none⟩
  | .part p number known value mask _ => ⟨.nxm0, number, .part p, known, value, mask⟩

/-- The condition in the OpenFlow Basic class. -/
def oxm : SharedCondition → Tlv
  | .inPort number =>
    ⟨.openflowBasic, OxmField.inPort.toU8, .part .inPort, Part.known .inPort,
      portOfOfp10 number, none⟩
  | .vlanVid vid =>
    ⟨.openflowBasic, OxmField.vlanVid.toU8, .vlanVid, vlanVid_known,
      present (vid.setWidth 16), none⟩
  | .ipDscp dscp =>
    ⟨.openflowBasic, OxmField.ipDscp.toU8, .part .ipDscp, Part.known .ipDscp,
      dscp.setWidth 8, none⟩
  | .part p _ _ value mask _ => ⟨p.class_, p.number, .part p, p.known, value, mask⟩

end SharedCondition

/-- The parts that both classes name. -/
def sharedParts : List Part := [
    .ethDst, .ethSrc, .ethType, .ipProto, .ipv4Src, .ipv4Dst, .tcpSrc, .tcpDst, .udpSrc,
    .udpDst, .icmpType, .icmpCode, .arpOp, .arpSpa, .arpTpa]

theorem mem_sharedParts {p : Part} {number : U8}
    (known : Field.ofHeader .nxm0 number = some (.part p)) : p ∈ sharedParts := by
  have hknown : Field.ofNxm0 number.toNat = some (.part p) := known
  unfold Field.ofNxm0 at hknown
  split at hknown <;> cases hknown <;> decide

theorem sharedParts_width {p : Part} (h : p ∈ sharedParts) : p.width = p.wireWidth := by
  have hall : ∀ p ∈ sharedParts, p.width = p.wireWidth := by decide
  exact hall p h

/-! ### The conditions mean the same -/

theorem ofp10Port_eq_some_iff (number : U16) (port : U32) :
    ofp10Port port = some number ↔ port = portOfOfp10 number := by
  by_cases hsmall : number < 0xff00
  · rw [portOfOfp10, if_pos hsmall]
    exact ofp10Port_iff hsmall port
  · rw [portOfOfp10, if_neg hsmall, ofp10Port]
    by_cases hport : port < 0xff00 ∨ 0xffffff00 ≤ port
    · rw [if_pos hport, Option.some.injEq]
      bv_omega
    · rw [if_neg hport]
      refine iff_of_false (by simp) ?_
      bv_omega

theorem present_present (v : U16) : present (present v) = present v := by
  rw [present, present, BitVec.or_assoc, BitVec.or_self]

theorem present_lt (vid : BitVec 12) : (present (vid.setWidth 16)).toNat < 0x2000 :=
  vlanWord_lt (some ⟨0, vid⟩)

theorem vlanWord_present_iff (vlan : Option VlanTag) (vid : BitVec 12) :
    vlanWord vlan = present (vid.setWidth 16) ↔ vlan.map VlanTag.vid = some vid := by
  have hsmall : (vid.setWidth 16).toNat < 0x2000 := lt_of_present (present_lt vid)
  have hword := vlanWord_eq_iff (v := vid.setWidth 16) vlan
  rw [present_vidBits _ hsmall] at hword
  rw [hword]
  simp

/-- Under the mask of the VLAN id and its "present" bit, the tag has no priority. -/
theorem tciWord_present_iff (vlan : Option VlanTag) (vid : BitVec 12) :
    tciWord vlan &&& 0x1fff = present (vid.setWidth 16) &&& 0x1fff ↔
      vlan.map VlanTag.vid = some vid := by
  have hpresent : present (present (vid.setWidth 16)) = present (vid.setWidth 16) :=
    present_present _
  have hretained : VidRetained (present (vid.setWidth 16)) 0x1fff := by
    refine ⟨by decide, ?_⟩
    rw [present_vidBits _ (present_lt vid), hpresent]
  have hne : present (vid.setWidth 16) &&& 0x1fff ≠ 0 := by
    intro hzero
    have hbit := congrArg (fun x => x.getLsbD 12) hzero
    rw [BitVec.getLsbD_and, getLsbD_vid vid (by decide)] at hbit
    simp at hbit
  have hwords := (retained_tci 0x1fff (present_lt vid)).mp ⟨hretained, hne, by decide⟩ vlan
  rw [hwords, hpresent, vlanWord_present_iff]

namespace SharedCondition

theorem nxm0_holds (c : SharedCondition) (pkt : Packet) : c.nxm0.Holds pkt ↔ c.Holds pkt := by
  cases c with
  | inPort number =>
    rw [Holds, ← ofp10Port_eq_some_iff]
    change (∃ x : U16, ofp10Port pkt.inPort = some x ∧
      x &&& BitVec.allOnes 16 = number &&& BitVec.allOnes 16) ↔ _
    simp only [BitVec.and_allOnes, exists_eq_right]
  | vlanVid vid => exact (Tlv.holds_of_read rfl).trans (tciWord_present_iff pkt.vlan vid)
  | ipDscp dscp => exact (Tlv.holds_plain rfl rfl).trans embeds_tos.injective.eq_iff
  | part p number known value mask retains => exact part_holds known value mask pkt

theorem oxm_holds (c : SharedCondition) (pkt : Packet) : c.oxm.Holds pkt ↔ c.Holds pkt := by
  cases c with
  | inPort number =>
    have hself : BitVec.setWidth 32 (pkt.part .inPort) = pkt.part .inPort := BitVec.setWidth_eq _
    rw [Holds, Packet.inPort, ← hself]
    exact Tlv.holds_plain rfl rfl
  | vlanVid vid => exact (Tlv.holds_plain rfl rfl).trans (vlanWord_present_iff pkt.vlan vid)
  | ipDscp dscp =>
    exact (Tlv.holds_plain rfl rfl).trans (embeds_setWidth (by decide : 6 ≤ 8)).injective.eq_iff
  | part p number known value mask retains => exact part_holds p.known value mask pkt

end SharedCondition

/-! ### Decoding -/

/-- What the decoder of its class makes of a condition. -/
def Tlv.decodeInto (t : Tlv) (m : Match) : Result Match :=
  fieldDecoder t.class_ m t.number t.mask.isSome (be t.value ++ ifSome t.mask be)
    (t.field.width / 8)

theorem Tlv.decodeInto_value (t : Tlv) {m : Match} (store : BitVec t.field.width → Match)
    (hdec : ∀ b value n, fieldDecoder t.class_ m t.number b value n =
      readValue t.field.width m value n store) : t.decodeInto m = .ok (store t.value) :=
  (hdec _ _ _).trans (readValue_cond m t.value t.mask store t.field.width_bytes)

theorem decode_shared {p : Part} {number : U8}
    (known : Field.ofHeader .nxm0 number = some (.part p)) (m : Match) (hasMask : Bool)
    (value : Bytes) (valueLen : Nat) :
    decodeNxm0Field m number hasMask value valueLen =
      fieldDecoder p.class_ m p.number hasMask value valueLen := by
  have hnumber := ofNat_toNat_eq number
  have hknown : Field.ofNxm0 number.toNat = some (.part p) := known
  generalize number.toNat = i at hnumber hknown
  subst hnumber
  unfold Field.ofNxm0 at hknown
  split at hknown <;> cases hknown <;> rfl

/-- What is decoded from a condition that is retained, alone, is a match on the same packets; it
    has a VLAN id only if the condition is on one. -/
theorem Tlv.decodeInto_new {t : Tlv} (hfits : t.Fits) (hretained : t.Retained []) :
    ∃ m, t.decodeInto Match.new = .ok m ∧ (t.field.piece ≠ .vid → m.vlanVid = none) ∧
      ∀ pkt, m.Holds pkt ↔ t.Holds pkt := by
  have hclean : Match.new.Clean :=
    ⟨fun _ => rfl, fun _ => rfl, fun _ => rfl, fun _ => rfl, fun _ => rfl⟩
  have hfree (x : Piece) : Match.new.conditions[x.slot]? = some none := by
    have hnew : Match.new.conditions = List.replicate Piece.order.length none := rfl
    have hlt : x.slot < Piece.order.length := List.idxOf_lt_length_iff.mpr x.mem_order
    rw [hnew, List.getElem?_replicate, if_pos hlt]
  obtain ⟨m, hdec, -, hset⟩ := t.taken hclean (hfree t.field.piece)
  refine ⟨m, hdec, ?_, ?_⟩
  · intro hpiece
    have hslot : t.field.piece.slot ≠ Piece.vid.slot := fun heq => hpiece (Piece.slot_inj heq)
    have hvid := hfree .vid
    rw [← List.getElem?_set_ne hslot, ← hset] at hvid
    exact Option.map_eq_none_iff.mp (Option.map_eq_none_iff.mp (Option.some.inj hvid))
  · intro pkt
    have hnew : Match.new.Holds pkt := by simp [Match.holds_iff, Match.new]
    have htagged : t.Tagged [] pkt := by
      rintro - ⟨u, hu, -⟩
      cases hu
    rw [Match.holds_set (hfree _) hset, (Tlv.retained_iff [] hfits).mp hretained pkt htagged]
    exact and_iff_right hnew

namespace SharedCondition

/-- Both classes express the condition, and the decoders make the same match of it, beside
    whatever is decoded already; the VLAN id of the match has no bits above its twelve, and the
    match encodes the condition. -/
structure DecodersAgree (c : SharedCondition) : Prop where
  expressed : ∀ pkt, (c.nxm0.Holds pkt ↔ c.Holds pkt) ∧ (c.oxm.Holds pkt ↔ c.Holds pkt)
  same : ∀ m, c.nxm0.decodeInto m = c.oxm.decodeInto m
  decoded : ∃ m, c.oxm.decodeInto Match.new = .ok m ∧ (∀ vid ∈ m.vlanVid, vid ≤ 0x0fff) ∧
    ∀ pkt, m.Holds pkt ↔ c.Holds pkt

/-- The condition is neither on a VLAN id nor on a reserved port. -/
def Plain : SharedCondition → Prop
  | .inPort number => number < 0xff00
  | .vlanVid _ => False
  | _ => True

theorem nxm0_decode_inPort (number : U16) (m : Match) :
    (nxm0 (.inPort number)).decodeInto m = .ok { m with inPort := some (number.setWidth 32) } :=
  Tlv.decodeInto_value (nxm0 (.inPort number))
    (fun v : U16 => { m with inPort := some (v.setWidth 32) }) fun _ _ _ => rfl

theorem oxm_decode_inPort (number : U16) (m : Match) :
    (oxm (.inPort number)).decodeInto m = .ok { m with inPort := some (portOfOfp10 number) } :=
  Tlv.decodeInto_value (oxm (.inPort number))
    (fun v : U32 => { m with inPort := some v }) fun _ _ _ => rfl

theorem nxm0_decode_vlanVid (vid : BitVec 12) (m : Match) :
    (nxm0 (.vlanVid vid)).decodeInto m =
      .ok { m with vlanVid := some (present (vid.setWidth 16)) } :=
  Tlv.decodeInto_value (nxm0 (.vlanVid vid))
    (fun v : U16 => { m with vlanVid := some v }) fun _ _ _ => rfl

theorem oxm_decode_vlanVid (vid : BitVec 12) (m : Match) :
    (oxm (.vlanVid vid)).decodeInto m =
      .ok { m with vlanVid := some (present (vid.setWidth 16) &&& 0x0fff) } :=
  Tlv.decodeInto_value (oxm (.vlanVid vid))
    (fun v : U16 => { m with vlanVid := some (v &&& 0x0fff) }) fun _ _ _ => rfl

theorem nxm0_decode_ipDscp (dscp : BitVec 6) (m : Match) :
    (nxm0 (.ipDscp dscp)).decodeInto m =
      .ok { m with ipDscp := some (dscp.setWidth 8 <<< 2 >>> 2) } :=
  Tlv.decodeInto_value (nxm0 (.ipDscp dscp))
    (fun v : U8 => { m with ipDscp := some (v >>> 2) }) fun _ _ _ => rfl

theorem oxm_decode_ipDscp (dscp : BitVec 6) (m : Match) :
    (oxm (.ipDscp dscp)).decodeInto m = .ok { m with ipDscp := some (dscp.setWidth 8) } :=
  Tlv.decodeInto_value (oxm (.ipDscp dscp))
    (fun v : U8 => { m with ipDscp := some v }) fun _ _ _ => rfl

theorem plain_of_decodersAgree {c : SharedCondition} (h : c.DecodersAgree) : c.Plain := by
  have hsame := h.same Match.new
  cases c with
  | inPort number =>
    rw [nxm0_decode_inPort, oxm_decode_inPort] at hsame
    have hport : number.setWidth 32 = portOfOfp10 number :=
      Option.some.inj (congrArg Match.inPort (Outcome.ok.inj hsame))
    by_contra hlarge
    have hlarge' : ¬ number < 0xff00 := hlarge
    rw [portOfOfp10, if_neg hlarge'] at hport
    bv_omega
  | vlanVid vid =>
    rw [nxm0_decode_vlanVid, oxm_decode_vlanVid] at hsame
    have hword : present (vid.setWidth 16) = present (vid.setWidth 16) &&& 0x0fff :=
      Option.some.inj (congrArg Match.vlanVid (Outcome.ok.inj hsame))
    have hbit := congrArg (fun x => x.getLsbD 12) hword
    rw [BitVec.getLsbD_and, getLsbD_vid vid (by decide)] at hbit
    simp at hbit
  | ipDscp dscp => trivial
  | part p number known value mask retains => trivial

theorem same_of_plain {c : SharedCondition} (h : c.Plain) (m : Match) :
    c.nxm0.decodeInto m = c.oxm.decodeInto m := by
  cases c with
  | inPort number =>
    have hport : portOfOfp10 number = number.setWidth 32 := if_pos h
    rw [nxm0_decode_inPort, oxm_decode_inPort, hport]
  | vlanVid vid => exact h.elim
  | ipDscp dscp =>
    have hshift : ∀ d : BitVec 6, d.setWidth 8 <<< 2 >>> 2 = d.setWidth 8 := by decide
    rw [nxm0_decode_ipDscp, oxm_decode_ipDscp, hshift]
  | part p number known value mask retains => exact decode_shared known m _ _ _

/-- The condition survives the decoder of the OpenFlow Basic class. -/
theorem oxm_retained {c : SharedCondition} (h : c.Plain) :
    c.oxm.Fits ∧ c.oxm.Retained [] ∧ c.oxm.field.piece ≠ .vid := by
  cases c with
  | inPort number =>
    have hexact : Part.Retains .inPort none := by decide
    exact ⟨(portOfOfp10 number).isLt, hexact, fun heq => by cases heq⟩
  | vlanVid vid => exact h.elim
  | ipDscp dscp =>
    have hexact : Part.Retains .ipDscp none := by decide
    exact ⟨toNat_setWidth_lt dscp, hexact, fun heq => by cases heq⟩
  | part p number known value mask retains =>
    have hwidth := sharedParts_width (mem_sharedParts known)
    have hlt := Nat.lt_of_lt_of_eq value.isLt (congrArg (2 ^ ·) hwidth.symm)
    exact ⟨hlt, retains, fun heq => by cases heq⟩

theorem decodersAgree_of_plain {c : SharedCondition} (h : c.Plain) : c.DecodersAgree := by
  obtain ⟨hfits, hretained, hpiece⟩ := oxm_retained h
  obtain ⟨m, hdec, hvid, hholds⟩ := Tlv.decodeInto_new hfits hretained
  refine ⟨fun pkt => ⟨c.nxm0_holds pkt, c.oxm_holds pkt⟩, same_of_plain h, m, hdec, ?_,
    fun pkt => (hholds pkt).trans (c.oxm_holds pkt)⟩
  intro vid hmem
  rw [hvid hpiece] at hmem
  cases hmem

/-- **The two decoders give the same condition exactly for the plain ones.**  They part where a VLAN
    id comes with the bit that says that there is a tag, and where a port number is a reserved one.
    -/
theorem decodersAgree_iff (c : SharedCondition) : c.DecodersAgree ↔ c.Plain :=
  ⟨plain_of_decodersAgree, decodersAgree_of_plain⟩

/-- The id 100 comes back from the OpenFlow 1.0 class with the "present" bit. -/
theorem vlan100_decoders_differ : ¬ (SharedCondition.vlanVid 100).DecodersAgree := by
  intro h
  have hsame := h.same Match.new
  rw [nxm0_decode_vlanVid, oxm_decode_vlanVid] at hsame
  have hword := Option.some.inj (congrArg Match.vlanVid (Outcome.ok.inj hsame))
  revert hword
  decide

end SharedCondition

end Rovs.OpenFlow

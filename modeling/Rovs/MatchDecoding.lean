import Rovs.MatchMeaning

/-!
# What decoding keeps of each condition

`Match::decode_oxm` stores each condition of a row in a place of its own in the match.  `Tlv.kept`
is the condition that the match then has there: a field that the match holds without a mask loses
its mask, an address keeps the prefix that its mask starts with, and the VLAN and OpenFlow 1.0
fields come back as other fields.  A row with no two conditions on the same piece of a packet is
decoded to a match that says what is kept of its conditions.
-/

namespace Rovs.OpenFlow

open Outcome

/-! ### Pieces of a packet -/

/-- What a match has one place for. -/
inductive Piece where
  | part (p : Part)
  | vid
  | pcp
deriving DecidableEq, Repr

/-- The pieces in the order of the encoding. -/
def Piece.order : List Piece := [.part .inPort, .part .inPhyPort, .part .metadata, .part .ethDst,
  .part .ethSrc, .part .ethType, .vid, .pcp, .part .ipDscp, .part .ipEcn, .part .ipProto,
  .part .ipv4Src, .part .ipv4Dst, .part .tcpSrc, .part .tcpDst, .part .udpSrc, .part .udpDst,
  .part .icmpType, .part .icmpCode, .part .icmpv6Type, .part .icmpv6Code, .part .arpOp,
  .part .arpSpa, .part .arpTpa, .part .arpSha, .part .arpTha, .part .ipv6Src, .part .ipv6Dst,
  .part .ipv6Flabel, .part .tunnelId, .part .ctState, .part .ctZone, .part .ctMark]

/-- The place of a piece among the conditions of a match. -/
def Piece.slot (x : Piece) : Nat := Piece.order.idxOf x

theorem Piece.mem_order (x : Piece) : x ∈ Piece.order := by
  cases x with
  | part p => cases p <;> decide
  | vid => decide
  | pcp => decide

theorem Piece.slot_inj {x y : Piece} (h : x.slot = y.slot) : x = y := by
  exact (List.idxOf_inj x.mem_order).mp h

/-! ### What is kept -/

/-- The name that the encoding gives a part. -/
def Part.class_ : Part → OxmClass
  | .tunnelId | .ctState | .ctZone | .ctMark => .nxm1
  | _ => .openflowBasic

def Part.number : Part → U8
  | .inPort => OxmField.inPort.toU8
  | .inPhyPort => OxmField.inPhyPort.toU8
  | .metadata => OxmField.metadata.toU8
  | .ethDst => OxmField.ethDst.toU8
  | .ethSrc => OxmField.ethSrc.toU8
  | .ethType => OxmField.ethType.toU8
  | .ipDscp => OxmField.ipDscp.toU8
  | .ipEcn => OxmField.ipEcn.toU8
  | .ipProto => OxmField.ipProto.toU8
  | .ipv4Src => OxmField.ipv4Src.toU8
  | .ipv4Dst => OxmField.ipv4Dst.toU8
  | .tcpSrc => OxmField.tcpSrc.toU8
  | .tcpDst => OxmField.tcpDst.toU8
  | .udpSrc => OxmField.udpSrc.toU8
  | .udpDst => OxmField.udpDst.toU8
  | .icmpType => OxmField.icmpv4Type.toU8
  | .icmpCode => OxmField.icmpv4Code.toU8
  | .icmpv6Type => OxmField.icmpv6Type.toU8
  | .icmpv6Code => OxmField.icmpv6Code.toU8
  | .arpOp => OxmField.arpOp.toU8
  | .arpSpa => OxmField.arpSpa.toU8
  | .arpTpa => OxmField.arpTpa.toU8
  | .arpSha => OxmField.arpSha.toU8
  | .arpTha => OxmField.arpTha.toU8
  | .ipv6Src => OxmField.ipv6Src.toU8
  | .ipv6Dst => OxmField.ipv6Dst.toU8
  | .ipv6Flabel => OxmField.ipv6Flabel.toU8
  | .tunnelId => NxmField.tunId.toU8
  | .ctState => NxmField.ctState.toU8
  | .ctZone => NxmField.ctZone.toU8
  | .ctMark => NxmField.ctMark.toU8

theorem Part.known (p : Part) : Field.ofHeader p.class_ p.number = some (.part p) := by
  cases p <;> rfl

/-- The mask that a match has for a part, when a condition with the mask was decoded. -/
def Part.keptMask : (p : Part) → Option (BitVec p.wireWidth) → Option (BitVec p.wireWidth)
  | .metadata, k | .ethDst, k | .ethSrc, k | .ctMark, k => k
  | .ctState, k => normCtStateMask k
  | .ipv4Src, k | .ipv4Dst, k => prefixMask prefixToMask 32 (some ((k.map maskToPrefix).getD 32))
  | .ipv6Src, k | .ipv6Dst, k =>
      prefixMask prefixToMaskV6 128 (some ((k.map maskToPrefix).getD 128))
  | _, _ => none

/-- The piece whose place a field is stored in. -/
def Field.piece : Field → Piece
  | .part p => .part p
  | .vlanVid | .vlanTci => .vid
  | .vlanPcp => .pcp
  | .ofp10InPort => .part .inPort
  | .ipTos => .part .ipDscp

/-- A VLAN id with its "present" bit. -/
def present (vid : U16) : U16 := vid ||| 0x1000

/-- The VLAN id without the bits above it. -/
def vidBits (vid : U16) : U16 := vid &&& 0x0fff

theorem vlanVid_known : Field.ofHeader .openflowBasic OxmField.vlanVid.toU8 = some .vlanVid := rfl

theorem vlanPcp_known : Field.ofHeader .openflowBasic OxmField.vlanPcp.toU8 = some .vlanPcp := rfl

/-- The condition that a match has when the condition was decoded. -/
def Tlv.kept : Tlv → Tlv
  | ⟨_, _, .part p, _, v, k⟩ => ⟨p.class_, p.number, .part p, p.known, v, p.keptMask k⟩
  | ⟨_, _, .vlanVid, _, v, _⟩ =>
      ⟨.openflowBasic, OxmField.vlanVid.toU8, .vlanVid, vlanVid_known, present (vidBits v), none⟩
  | ⟨_, _, .vlanTci, _, v, _⟩ =>
      ⟨.openflowBasic, OxmField.vlanVid.toU8, .vlanVid, vlanVid_known, present v, none⟩
  | ⟨_, _, .vlanPcp, _, v, _⟩ =>
      ⟨.openflowBasic, OxmField.vlanPcp.toU8, .vlanPcp, vlanPcp_known, v, none⟩
  | ⟨_, _, .ofp10InPort, _, v, _⟩ =>
      ⟨.openflowBasic, OxmField.inPort.toU8, .part .inPort, Part.known .inPort,
        BitVec.setWidth 32 v, none⟩
  | ⟨_, _, .ipTos, _, v, _⟩ =>
      ⟨.openflowBasic, OxmField.ipDscp.toU8, .part .ipDscp, Part.known .ipDscp, v >>> 2, none⟩

/-- There are masks only where there are values. -/
def Match.Clean (m : Match) : Prop :=
  (m.metadata = none → m.metadataMask = none) ∧ (m.ethDst = none → m.ethDstMask = none) ∧
  (m.ethSrc = none → m.ethSrcMask = none) ∧ (m.ctState = none → m.ctStateMask = none) ∧
  (m.ctMark = none → m.ctMarkMask = none)

/-! ### Decoding one condition -/

section Readers

variable {w : Nat} (m : Match) (v : BitVec w) (k : Option (BitVec w))

theorem readValue_cond (store : BitVec w → Match)
    (hw : 8 * (w / 8) = w) :
    readValue w m (be v ++ ifSome k be) (w / 8) store = .ok (store v) := by
  simp only [readValue, if_pos (Nat.le_refl _), beAt_be_append v _ hw, ok_bind, pure_eq]

theorem readMasked_cond (store : BitVec w → Match) (storeMask : Match → BitVec w → Match)
    (hw : 8 * (w / 8) = w) :
    readMasked w m k.isSome (be v ++ ifSome k be) (w / 8) store storeMask =
      .ok (k.elim (store v) (storeMask (store v))) := by
  cases k with
  | none => simpa using readMasked_be m v store storeMask hw
  | some k => exact readMasked_be_be m v k store storeMask hw

theorem readPrefixed_cond (full : U8) (store : BitVec w → U8 → Match)
    (hw : 8 * (w / 8) = w) :
    readPrefixed w m k.isSome (be v ++ ifSome k be) (w / 8) full store =
      .ok (store v ((k.map maskToPrefix).getD full)) := by
  cases k with
  | none => simpa using readPrefixed_be m v full store hw
  | some k => exact readPrefixed_be_be m v k full store hw

end Readers

/-- The decoder takes a condition in. -/
def Tlv.Taken (t : Tlv) (m : Match) : Prop :=
  ∃ m', fieldDecoder t.class_ m t.number t.mask.isSome (be t.value ++ ifSome t.mask be)
      (t.field.width / 8) = .ok m' ∧
    m'.Clean ∧ m'.conditions = m.conditions.set t.field.piece.slot (some t.kept)

section Taken

variable {t : Tlv} {m : Match}

theorem taken_value {store : BitVec t.field.width → Match}
    (hdec : ∀ b value n, fieldDecoder t.class_ m t.number b value n =
      readValue t.field.width m value n store) (hclean : (store t.value).Clean)
    (hset : (store t.value).conditions =
      m.conditions.set t.field.piece.slot (some t.kept)) : t.Taken m :=
  ⟨_, (hdec _ _ _).trans (readValue_cond m t.value t.mask store t.field.width_bytes), hclean, hset⟩

theorem taken_masked {store : BitVec t.field.width → Match}
    {storeMask : Match → BitVec t.field.width → Match}
    (hdec : ∀ b value n, fieldDecoder t.class_ m t.number b value n =
      readMasked t.field.width m b value n store storeMask)
    (hclean : (store t.value).Clean) (hclean' : ∀ k, (storeMask (store t.value) k).Clean)
    (hset : (t.mask.elim (store t.value) (storeMask (store t.value))).conditions =
      m.conditions.set t.field.piece.slot (some t.kept)) : t.Taken m := by
  refine ⟨_, (hdec _ _ _).trans
    (readMasked_cond m t.value t.mask store storeMask t.field.width_bytes), ?_, hset⟩
  cases t.mask with
  | none => exact hclean
  | some k => exact hclean' k

theorem taken_prefixed (full : U8) (store : BitVec t.field.width → U8 → Match)
    (hdec : ∀ b value n, fieldDecoder t.class_ m t.number b value n =
      readPrefixed t.field.width m b value n full store)
    (hclean : ∀ p, (store t.value p).Clean)
    (hset : (store t.value ((t.mask.map maskToPrefix).getD full)).conditions =
      m.conditions.set t.field.piece.slot (some t.kept)) : t.Taken m :=
  ⟨_, (hdec _ _ _).trans
    (readPrefixed_cond m t.value t.mask full store t.field.width_bytes), hclean _, hset⟩

end Taken

section Free

variable {m : Match} (hclean : m.Clean)
include hclean

theorem free_metadata (hfree : m.conditions[2]? = some none) :
    { m with metadataMask := none } = m := by
  rw [← hclean.1 (Option.map_eq_none_iff.mp (Option.some.inj hfree))]

theorem free_ethDst (hfree : m.conditions[3]? = some none) :
    { m with ethDstMask := none } = m := by
  rw [← hclean.2.1 (Option.map_eq_none_iff.mp (Option.some.inj hfree))]

theorem free_ethSrc (hfree : m.conditions[4]? = some none) :
    { m with ethSrcMask := none } = m := by
  rw [← hclean.2.2.1 (Option.map_eq_none_iff.mp (Option.some.inj hfree))]

theorem free_ctState (hfree : m.conditions[30]? = some none) :
    { m with ctStateMask := none } = m := by
  rw [← hclean.2.2.2.1 (Option.map_eq_none_iff.mp (Option.some.inj hfree))]

theorem free_ctMark (hfree : m.conditions[32]? = some none) :
    { m with ctMarkMask := none } = m := by
  rw [← hclean.2.2.2.2 (Option.map_eq_none_iff.mp (Option.some.inj hfree))]

end Free

section Classes

variable {m : Match}

theorem ofNat_toNat_eq (number : U8) : number = BitVec.ofNat 8 number.toNat := by
  rw [BitVec.ofNat_toNat, BitVec.setWidth_eq]

theorem someNone {α : Type} {v : α} {P : Prop} (h : some v = none) : P :=
  absurd h (Option.some_ne_none v)

/-- A destination address is taken in by a class that reads it with its mask. -/
theorem taken_ethDst {class_ : OxmClass} {number : U8} {value : MacAddr} {mask : Option MacAddr}
    (known : Field.ofHeader class_ number = some (.part .ethDst))
    (hdec : ∀ (m : Match) b bytes n, fieldDecoder class_ m number b bytes n =
      readMasked 48 m b bytes n (fun v => { m with ethDst := some v })
        (fun m k => { m with ethDstMask := some k }))
    (hclean : m.Clean) (hfree : m.conditions[3]? = some none) :
    Tlv.Taken ⟨class_, number, .part .ethDst, known, value, mask⟩ m := by
  rw [← free_ethDst hclean hfree]
  apply taken_masked (fun _ _ _ => hdec _ _ _ _)
  · exact ⟨hclean.1, someNone, hclean.2.2⟩
  · exact fun _ => ⟨hclean.1, someNone, hclean.2.2⟩
  · cases mask <;> rfl

theorem taken_ethSrc {class_ : OxmClass} {number : U8} {value : MacAddr} {mask : Option MacAddr}
    (known : Field.ofHeader class_ number = some (.part .ethSrc))
    (hdec : ∀ (m : Match) b bytes n, fieldDecoder class_ m number b bytes n =
      readMasked 48 m b bytes n (fun v => { m with ethSrc := some v })
        (fun m k => { m with ethSrcMask := some k }))
    (hclean : m.Clean) (hfree : m.conditions[4]? = some none) :
    Tlv.Taken ⟨class_, number, .part .ethSrc, known, value, mask⟩ m := by
  rw [← free_ethSrc hclean hfree]
  apply taken_masked (fun _ _ _ => hdec _ _ _ _)
  · exact ⟨hclean.1, hclean.2.1, someNone, hclean.2.2.2⟩
  · exact fun _ => ⟨hclean.1, hclean.2.1, someNone, hclean.2.2.2⟩
  · cases mask <;> rfl

/-- The OpenFlow Basic class. -/
theorem taken_basic {number : U8} {f : Field} {value : BitVec f.width}
    {mask : Option (BitVec f.width)} (known : Field.ofHeader .openflowBasic number = some f)
    (hclean : m.Clean) (hfree : m.conditions[f.piece.slot]? = some none) :
    Tlv.Taken ⟨.openflowBasic, number, f, known, value, mask⟩ m := by
  have hnumber := ofNat_toNat_eq number
  have hknown : Field.ofBasic number.toNat = some f := known
  generalize number.toNat = i at hnumber hknown
  subst hnumber
  unfold Field.ofBasic at hknown
  split at hknown
  case h_31 => cases hknown
  case h_3 =>
    cases hknown
    rw [← free_metadata hclean hfree]
    apply taken_masked (fun _ _ _ => rfl)
    · exact ⟨someNone, hclean.2⟩
    · exact fun _ => ⟨someNone, hclean.2⟩
    · cases mask <;> rfl
  case h_4 =>
    cases hknown
    exact taken_ethDst known (fun _ _ _ _ => rfl) hclean hfree
  case h_5 =>
    cases hknown
    exact taken_ethSrc known (fun _ _ _ _ => rfl) hclean hfree
  case h_12 =>
    cases hknown
    exact taken_prefixed 32 (fun v p => { m with ipv4Src := some v, ipv4SrcMask := some p })
      (fun _ _ _ => rfl) (fun _ => hclean) rfl
  case h_13 =>
    cases hknown
    exact taken_prefixed 32 (fun v p => { m with ipv4Dst := some v, ipv4DstMask := some p })
      (fun _ _ _ => rfl) (fun _ => hclean) rfl
  case h_25 =>
    cases hknown
    exact taken_prefixed 128 (fun v p => { m with ipv6Src := some v, ipv6SrcMask := some p })
      (fun _ _ _ => rfl) (fun _ => hclean) rfl
  case h_26 =>
    cases hknown
    exact taken_prefixed 128 (fun v p => { m with ipv6Dst := some v, ipv6DstMask := some p })
      (fun _ _ _ => rfl) (fun _ => hclean) rfl
  all_goals
    cases hknown
    exact taken_value (fun _ _ _ => rfl) hclean rfl

/-- The OpenFlow 1.0 class of Nicira. -/
theorem taken_nxm0 {number : U8} {f : Field} {value : BitVec f.width}
    {mask : Option (BitVec f.width)} (known : Field.ofHeader .nxm0 number = some f)
    (hclean : m.Clean) (hfree : m.conditions[f.piece.slot]? = some none) :
    Tlv.Taken ⟨.nxm0, number, f, known, value, mask⟩ m := by
  have hnumber := ofNat_toNat_eq number
  have hknown : Field.ofNxm0 number.toNat = some f := known
  generalize number.toNat = i at hnumber hknown
  subst hnumber
  unfold Field.ofNxm0 at hknown
  split at hknown
  case h_19 => cases hknown
  case h_2 =>
    cases hknown
    exact taken_ethDst known (fun _ _ _ _ => rfl) hclean hfree
  case h_3 =>
    cases hknown
    exact taken_ethSrc known (fun _ _ _ _ => rfl) hclean hfree
  case h_8 =>
    cases hknown
    exact taken_prefixed 32 (fun v p => { m with ipv4Src := some v, ipv4SrcMask := some p })
      (fun _ _ _ => rfl) (fun _ => hclean) rfl
  case h_9 =>
    cases hknown
    exact taken_prefixed 32 (fun v p => { m with ipv4Dst := some v, ipv4DstMask := some p })
      (fun _ _ _ => rfl) (fun _ => hclean) rfl
  all_goals
    cases hknown
    exact taken_value (fun _ _ _ => rfl) hclean rfl

/-- The extension class of Nicira. -/
theorem taken_nxm1 {number : U8} {f : Field} {value : BitVec f.width}
    {mask : Option (BitVec f.width)} (known : Field.ofHeader .nxm1 number = some f)
    (hclean : m.Clean) (hfree : m.conditions[f.piece.slot]? = some none) :
    Tlv.Taken ⟨.nxm1, number, f, known, value, mask⟩ m := by
  have hnumber := ofNat_toNat_eq number
  have hknown : Field.ofNxm1 number.toNat = some f := known
  generalize number.toNat = i at hnumber hknown
  subst hnumber
  unfold Field.ofNxm1 at hknown
  split at hknown
  case h_5 => cases hknown
  case h_2 =>
    cases hknown
    rw [← free_ctState hclean hfree]
    apply taken_masked (fun _ _ _ => rfl)
    · exact ⟨hclean.1, hclean.2.1, hclean.2.2.1, someNone, hclean.2.2.2.2⟩
    · exact fun _ => ⟨hclean.1, hclean.2.1, hclean.2.2.1, someNone, hclean.2.2.2.2⟩
    · cases mask <;> rfl
  case h_4 =>
    cases hknown
    rw [← free_ctMark hclean hfree]
    apply taken_masked (fun _ _ _ => rfl)
    · exact ⟨hclean.1, hclean.2.1, hclean.2.2.1, hclean.2.2.2.1, someNone⟩
    · exact fun _ => ⟨hclean.1, hclean.2.1, hclean.2.2.1, hclean.2.2.2.1, someNone⟩
    · cases mask <;> rfl
  all_goals
    cases hknown
    exact taken_value (fun _ _ _ => rfl) hclean rfl

end Classes

/-- **Every condition is taken in when its place is free.** -/
theorem Tlv.taken (t : Tlv) {m : Match} (hclean : m.Clean)
    (hfree : m.conditions[t.field.piece.slot]? = some none) : t.Taken m := by
  rcases t with ⟨class_, number, f, known, value, mask⟩
  cases class_ with
  | openflowBasic => exact taken_basic known hclean hfree
  | nxm0 => exact taken_nxm0 known hclean hfree
  | nxm1 => exact taken_nxm1 known hclean hfree
  | experimenter => cases known

/-! ### Decoding a row -/

theorem decodeTlvs_tlv (t : Tlv) {m m' : Match} (rest : Bytes)
    (h : fieldDecoder t.class_ m t.number t.mask.isSome (be t.value ++ ifSome t.mask be)
      (t.field.width / 8) = .ok m') : decodeTlvs m (t.encode ++ rest) = decodeTlvs m' rest := by
  rcases t.encode_eq with ⟨header, hclass, hfield, hmask, hlength, hencode⟩
  have hlt : header.field < 128 := by
    rw [hfield]
    exact t.number_lt
  have hvalueLen : (if header.hasMask then header.length.toNat / 2 else header.length.toNat) =
      t.field.width / 8 := by
    rw [hmask, hlength]
    cases t.mask with
    | none => simp
    | some k =>
      simp only [Option.isSome_some, if_true, ifSome_some, List.length_append, be_length]
      omega
  rw [hencode, List.append_assoc]
  apply decodeTlvs_header hlt hlength
  rw [hvalueLen, hclass, hfield, hmask]
  exact h

/-- A free place is filled. -/
theorem forall_mem_set {α : Type} {P : α → Prop} {os : List (Option α)} {i : Nat} {a : α}
    (hfree : os[i]? = some none) :
    (∀ o ∈ os.set i (some a), ∀ x ∈ o, P x) ↔ (∀ o ∈ os, ∀ x ∈ o, P x) ∧ P a := by
  induction os generalizing i with
  | nil => simp at hfree
  | cons o os ih =>
    cases i with
    | zero =>
      rw [List.getElem?_cons_zero, Option.some.injEq] at hfree
      subst hfree
      simp [and_comm]
    | succ i =>
      rw [List.getElem?_cons_succ] at hfree
      rw [List.set_cons_succ, List.forall_mem_cons, ih hfree, List.forall_mem_cons, and_assoc]

theorem Match.holds_set {m m' : Match} {i : Nat} {t : Tlv}
    (hfree : m.conditions[i]? = some none)
    (hset : m'.conditions = m.conditions.set i (some t)) (pkt : Packet) :
    m'.Holds pkt ↔ m.Holds pkt ∧ t.Holds pkt := by
  rw [m'.holds_conditions, m.holds_conditions, hset, forall_mem_set hfree]

theorem decodeTlvs_row {ts : List Tlv} {m : Match} (hclean : m.Clean)
    (hdistinct : (ts.map fun t => t.field.piece).Nodup)
    (hfree : ∀ t ∈ ts, m.conditions[t.field.piece.slot]? = some none) :
    ∃ m', decodeTlvs m (ts.flatMap Tlv.encode) = .ok m' ∧
      ∀ pkt, m'.Holds pkt ↔ m.Holds pkt ∧ ∀ t ∈ ts, t.kept.Holds pkt := by
  induction ts generalizing m with
  | nil => exact ⟨m, rfl, fun pkt => by simp⟩
  | cons t ts ih =>
    rw [List.map_cons, List.nodup_cons] at hdistinct
    have hfirst := hfree t List.mem_cons_self
    rcases t.taken hclean hfirst with ⟨m₁, hdec, hclean₁, hset⟩
    have hfree₁ : ∀ u ∈ ts, m₁.conditions[u.field.piece.slot]? = some none := by
      intro u hu
      have hne : t.field.piece.slot ≠ u.field.piece.slot := by
        intro heq
        rw [Piece.slot_inj heq] at hdistinct
        exact hdistinct.1 (List.mem_map_of_mem hu)
      rw [hset, List.getElem?_set_ne hne]
      exact hfree u (List.mem_cons_of_mem _ hu)
    rcases ih hclean₁ hdistinct.2 hfree₁ with ⟨m', hrest, hholds⟩
    refine ⟨m', ?_, fun pkt => ?_⟩
    · rw [List.flatMap_cons, decodeTlvs_tlv t _ hdec, hrest]
    · rw [hholds, Match.holds_set hfirst hset, List.forall_mem_cons, and_assoc]

/-- **A row is decoded to what is kept of its conditions.** -/
theorem decodeOxm_row {ts : List Tlv} (hdistinct : (ts.map fun t => t.field.piece).Nodup) :
    ∃ m, Match.decodeOxm (ts.flatMap Tlv.encode) = .ok m ∧
      ∀ pkt, m.Holds pkt ↔ ∀ t ∈ ts, t.kept.Holds pkt := by
  have hclean : Match.new.Clean :=
    ⟨fun _ => rfl, fun _ => rfl, fun _ => rfl, fun _ => rfl, fun _ => rfl⟩
  have hfree : ∀ t ∈ ts, Match.new.conditions[t.field.piece.slot]? = some none := by
    intro t _
    have hnew : Match.new.conditions = List.replicate Piece.order.length none := rfl
    have hlt : t.field.piece.slot < Piece.order.length :=
      List.idxOf_lt_length_iff.mpr t.field.piece.mem_order
    rw [hnew, List.getElem?_replicate, if_pos hlt]
  rcases decodeTlvs_row hclean hdistinct hfree with ⟨m, hdec, hholds⟩
  refine ⟨m, hdec, fun pkt => ?_⟩
  have hnew : Match.new.Holds pkt := by simp [Match.holds_iff, Match.new]
  rw [hholds]
  simp [hnew]

end Rovs.OpenFlow

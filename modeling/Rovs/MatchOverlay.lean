import Rovs.MatchExactness

/-!
# Decoding as overlaying

A decoder of a condition only ever sets fields, and what it sets does not depend on the match
so far.  Decoding a row of conditions therefore overlays what each of them decodes to alone, in
their order: a field that the later one sets overrides, the others stay.
-/

namespace Rovs.OpenFlow

open Outcome

/-- The fields that `top` has, and those of `m` where it has none. -/
def Match.overlay (m top : Match) : Match where
  inPort := top.inPort.or m.inPort
  inPhyPort := top.inPhyPort.or m.inPhyPort
  metadata := top.metadata.or m.metadata
  metadataMask := top.metadataMask.or m.metadataMask
  ethSrc := top.ethSrc.or m.ethSrc
  ethSrcMask := top.ethSrcMask.or m.ethSrcMask
  ethDst := top.ethDst.or m.ethDst
  ethDstMask := top.ethDstMask.or m.ethDstMask
  ethType := top.ethType.or m.ethType
  vlanVid := top.vlanVid.or m.vlanVid
  vlanPcp := top.vlanPcp.or m.vlanPcp
  ipv4Src := top.ipv4Src.or m.ipv4Src
  ipv4SrcMask := top.ipv4SrcMask.or m.ipv4SrcMask
  ipv4Dst := top.ipv4Dst.or m.ipv4Dst
  ipv4DstMask := top.ipv4DstMask.or m.ipv4DstMask
  ipProto := top.ipProto.or m.ipProto
  ipDscp := top.ipDscp.or m.ipDscp
  ipEcn := top.ipEcn.or m.ipEcn
  ipv6Src := top.ipv6Src.or m.ipv6Src
  ipv6SrcMask := top.ipv6SrcMask.or m.ipv6SrcMask
  ipv6Dst := top.ipv6Dst.or m.ipv6Dst
  ipv6DstMask := top.ipv6DstMask.or m.ipv6DstMask
  ipv6Flabel := top.ipv6Flabel.or m.ipv6Flabel
  tcpSrc := top.tcpSrc.or m.tcpSrc
  tcpDst := top.tcpDst.or m.tcpDst
  tcpFlags := top.tcpFlags.or m.tcpFlags
  udpSrc := top.udpSrc.or m.udpSrc
  udpDst := top.udpDst.or m.udpDst
  icmpType := top.icmpType.or m.icmpType
  icmpCode := top.icmpCode.or m.icmpCode
  icmpv6Type := top.icmpv6Type.or m.icmpv6Type
  icmpv6Code := top.icmpv6Code.or m.icmpv6Code
  arpOp := top.arpOp.or m.arpOp
  arpSpa := top.arpSpa.or m.arpSpa
  arpTpa := top.arpTpa.or m.arpTpa
  arpSha := top.arpSha.or m.arpSha
  arpTha := top.arpTha.or m.arpTha
  tunnelId := top.tunnelId.or m.tunnelId
  ctState := top.ctState.or m.ctState
  ctStateMask := top.ctStateMask.or m.ctStateMask
  ctZone := top.ctZone.or m.ctZone
  ctMark := top.ctMark.or m.ctMark
  ctMarkMask := top.ctMarkMask.or m.ctMarkMask

@[simp] theorem Match.overlay_new (m : Match) : m.overlay Match.new = m := rfl

/-- A computation on a match that overlays what it makes of the empty one. -/
def Overlays (f : Match → Result Match) : Prop :=
  ∀ m, f m = (f Match.new >>= fun top => pure (m.overlay top))

/-! ### The decoders of a condition -/

section Readers

variable {w : Nat} {hasMask : Bool} {value : Bytes} {valueLen : Nat}

theorem Overlays.ite {c : Prop} [Decidable c] {f g : Match → Result Match} (hf : Overlays f)
    (hg : Overlays g) : Overlays fun m => if c then f m else g m := by
  intro m
  by_cases hc : c
  case pos => simpa only [if_pos hc] using hf m
  case neg => simpa only [if_neg hc] using hg m

theorem overlays_pure : Overlays fun m => pure m := fun _ => rfl

theorem overlays_store {store : Match → Match} (h : ∀ m, store m = m.overlay (store Match.new)) :
    Overlays fun m => pure (store m) :=
  fun m => congrArg Outcome.ok (h m)

theorem Overlays.bind {α : Type} {x : Result α} {f : α → Match → Result Match}
    (hf : ∀ a, Overlays (f a)) : Overlays fun m => x >>= fun a => f a m := by
  intro m
  cases x with
  | ok a => exact hf a m
  | err e => rfl
  | panic => rfl
  | hang => rfl

/-- Storing a value overlays it. -/
theorem overlays_readValue {store : Match → BitVec w → Match}
    (hstore : ∀ m v, store m v = m.overlay (store Match.new v)) :
    Overlays fun m => readValue w m value valueLen (store m) := by
  have hread : Overlays fun m => beAt w value 0 >>= fun v => pure (store m v) :=
    Overlays.bind fun v => overlays_store fun m => hstore m v
  exact Overlays.ite hread overlays_pure

theorem overlays_readMasked {store : Match → BitVec w → Match}
    {storeMask : Match → BitVec w → Match}
    (hstore : ∀ m v, store m v = m.overlay (store Match.new v))
    (hstoreMask : ∀ m v k, storeMask (store m v) k = m.overlay (storeMask (store Match.new v) k)) :
    Overlays fun m => readMasked w m hasMask value valueLen (store m) storeMask := by
  have hmask : ∀ v, Overlays fun m => readMask w hasMask value (store m v) storeMask := by
    intro v
    have hread : Overlays fun m =>
        beAt w value (w / 8) >>= fun k => pure (storeMask (store m v) k) :=
      Overlays.bind fun k => overlays_store fun m => hstoreMask m v k
    exact Overlays.ite hread (overlays_store fun m => hstore m v)
  exact Overlays.ite (Overlays.bind hmask) overlays_pure

theorem overlays_readPrefixed {full : U8} {store : Match → BitVec w → U8 → Match}
    (hstore : ∀ m v p, store m v p = m.overlay (store Match.new v p)) :
    Overlays fun m => readPrefixed w m hasMask value valueLen full (store m) := by
  have haddr : ∀ addr, Overlays fun m =>
      if hasMask ∧ 2 * (w / 8) ≤ value.length then
        beAt w value (w / 8) >>= fun mask => pure (store m addr (maskToPrefix mask))
      else pure (store m addr full) := by
    intro addr
    apply Overlays.ite
    · exact Overlays.bind fun mask => overlays_store fun m => hstore m addr (maskToPrefix mask)
    · exact overlays_store fun m => hstore m addr full
  exact Overlays.ite (Overlays.bind haddr) overlays_pure

theorem overlays_decodeOxmField (field : U8) :
    Overlays fun m => decodeOxmField m field hasMask value valueLen := by
  unfold decodeOxmField
  repeat' with_reducible apply Overlays.ite
  all_goals first
    | exact overlays_pure
    | exact overlays_readValue fun _ _ => rfl
    | exact overlays_readMasked (fun _ _ => rfl) fun _ _ _ => rfl
    | exact overlays_readPrefixed fun _ _ _ => rfl

theorem overlays_decodeNxmField (field : U8) :
    Overlays fun m => decodeNxmField m field hasMask value valueLen := by
  unfold decodeNxmField
  split
  case h_1 => exact overlays_readValue fun _ _ => rfl
  case h_2 => exact overlays_readMasked (fun _ _ => rfl) fun _ _ _ => rfl
  case h_3 => exact overlays_readValue fun _ _ => rfl
  case h_4 => exact overlays_readMasked (fun _ _ => rfl) fun _ _ _ => rfl
  case h_5 => exact overlays_pure

theorem overlays_decodeNxm0Field (field : U8) :
    Overlays fun m => decodeNxm0Field m field hasMask value valueLen := by
  unfold decodeNxm0Field
  split
  all_goals first
    | exact overlays_pure
    | exact overlays_readValue fun _ _ => rfl
    | exact overlays_readMasked (fun _ _ => rfl) fun _ _ _ => rfl
    | exact overlays_readPrefixed fun _ _ _ => rfl

end Readers

theorem overlays_decodeField (header : U32) (value : Bytes) :
    Overlays fun m => decodeField m header value :=
  Overlays.ite (overlays_decodeOxmField _)
    (Overlays.ite (overlays_decodeNxmField _)
      (Overlays.ite (overlays_decodeNxm0Field _) overlays_pure))

/-! ### Rows of conditions -/

/-- The match that a condition alone decodes to. -/
theorem RawTlv.decodeOxm_bytes (t : RawTlv) :
    ∃ top, Match.decodeOxm t.bytes = .ok top ∧
      decodeField Match.new t.header t.value = .ok top := by
  obtain ⟨top, htop⟩ := decodeField_ok Match.new t.header t.fits.symm
  refine ⟨top, ?_, htop⟩
  rw [Match.decodeOxm, ← List.append_nil t.bytes, decodeTlvs_step (t.tlvPass_eq htop [])]
  exact decodeTlvs_nil top

/-- Decoding a condition in front of others overlays what it decodes to alone. -/
theorem RawTlv.decodeTlvs_overlay (t : RawTlv) {top : Match}
    (htop : Match.decodeOxm t.bytes = .ok top) (m : Match) (rest : Bytes) :
    decodeTlvs m (t.bytes ++ rest) = decodeTlvs (m.overlay top) rest := by
  obtain ⟨_, hdecode, hfield⟩ := t.decodeOxm_bytes
  cases hdecode.symm.trans htop
  have hm := overlays_decodeField t.header t.value m
  simp only [hfield, ok_bind, pure_eq] at hm
  exact decodeTlvs_step (t.tlvPass_eq hm rest)

/-- **A row of conditions decodes to the overlay of what each of them decodes to alone.** -/
theorem decodeTlvs_flatMap (tlvs : List RawTlv) (m : Match) :
    ∃ tops : List Match, tlvs.map (fun t => Match.decodeOxm t.bytes) = tops.map Outcome.ok ∧
      decodeTlvs m (tlvs.flatMap RawTlv.bytes) = .ok (tops.foldl Match.overlay m) := by
  induction tlvs generalizing m with
  | nil => exact ⟨[], rfl, decodeTlvs_nil m⟩
  | cons t tlvs ih =>
    obtain ⟨top, htop, -⟩ := t.decodeOxm_bytes
    obtain ⟨tops, htops, hrow⟩ := ih (m.overlay top)
    refine ⟨top :: tops, ?_, ?_⟩
    · rw [List.map_cons, List.map_cons, htops, htop]
    · rw [List.flatMap_cons, t.decodeTlvs_overlay htop, hrow]
      rfl

end Rovs.OpenFlow

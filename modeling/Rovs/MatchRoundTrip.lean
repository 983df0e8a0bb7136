import Rovs.MatchTlvs

/-!
# Round trip of matches

`Match::encode` writes up to thirty-three fields and `Match::decode` reads them
back through three decoders.  The proof follows the encoder: `decodeTlvs` meets
one optional field after the other, each adds its value to the match read so far,
and what stands there at the end is the encoded match up to `norm`.

`match_roundTrip` is the main result.  `Representable` asks for what the wire can carry: no mask
without its value, no TCP flags, and a VLAN id of twelve bits.
-/

namespace Rovs.OpenFlow

open Outcome

/-- A match the wire can carry: no TCP flags, a twelve-bit VLAN id, and no mask
    without its value. -/
structure Match.Representable (m : Match) : Prop where
  tcpFlags : m.tcpFlags = none
  vlanVid : ∀ vid, m.vlanVid = some vid → vid ≤ 0x0fff
  metadata : m.metadata = none → m.metadataMask = none
  ethSrc : m.ethSrc = none → m.ethSrcMask = none
  ethDst : m.ethDst = none → m.ethDstMask = none
  ipv4Src : m.ipv4Src = none → m.ipv4SrcMask = none
  ipv4Dst : m.ipv4Dst = none → m.ipv4DstMask = none
  ipv6Src : m.ipv6Src = none → m.ipv6SrcMask = none
  ipv6Dst : m.ipv6Dst = none → m.ipv6DstMask = none
  ctState : m.ctState = none → m.ctStateMask = none
  ctMark : m.ctMark = none → m.ctMarkMask = none

/-- The mask of `ct_state` as decoding reports it. -/
def normCtStateMask (mask : Option U32) : Option U32 :=
  if mask = some 0xffffffff then none else mask

/-- What decoding makes of an encoded match. -/
def Match.norm (m : Match) : Match :=
  { m with
    ipv4SrcMask := normPrefix 32 m.ipv4Src m.ipv4SrcMask
    ipv4DstMask := normPrefix 32 m.ipv4Dst m.ipv4DstMask
    ipv6SrcMask := normPrefix 128 m.ipv6Src m.ipv6SrcMask
    ipv6DstMask := normPrefix 128 m.ipv6Dst m.ipv6DstMask
    ctStateMask := normCtStateMask m.ctStateMask }

theorem encodeCtStateCondition_eq (state mask : Option U32) :
    encodeCtStateCondition state mask =
      encodeWithMask encodeCtState encodeCtStateMasked state (normCtStateMask mask) := by
  cases state with
  | none => rfl
  | some s =>
    cases mask with
    | none => rfl
    | some k =>
      by_cases hk : k = 0xffffffff
      · subst hk; rfl
      · have hne : some k ≠ some 0xffffffff := fun h => hk (Option.some.inj h)
        simp only [encodeCtStateCondition, encodeWithMask, normCtStateMask, ifSome_some, if_neg hk,
          if_neg hne]

theorem vlanVid_present {vid : U16} (h : vid ≤ 0x0fff) : (vid ||| 0x1000) &&& 0x0fff = vid := by
  have hlt : vid.toNat < 2 ^ 12 := by
    have : vid.toNat ≤ 0x0fff := h
    omega
  have hor := Nat.two_pow_add_eq_or_of_lt hlt 1
  apply BitVec.eq_of_toNat_eq
  rw [BitVec.toNat_and, BitVec.toNat_or, show (0x0fff : U16).toNat = 2 ^ 12 - 1 from rfl,
    Nat.and_two_pow_sub_one_eq_mod, show (0x1000 : U16).toNat = 2 ^ 12 * 1 from rfl, Nat.or_comm,
    ← hor]
  omega

/-! ### All conditions -/

/-- **The encoded conditions are read back**, up to `norm`. -/
theorem decodeTlvs_oxmFields {m : Match} (hm : m.Representable) :
    decodeTlvs Match.new m.oxmFields = .ok m.norm := by
  have hctState : m.ctState = none → normCtStateMask m.ctStateMask = none := fun h => by
    rw [hm.ctState h]; rfl
  have hvlan : (m.vlanVid.map (· ||| 0x1000)).map (· &&& 0x0fff) = m.vlanVid := by
    rcases hv : m.vlanVid with _ | vid
    · rfl
    · simp only [Option.map_some, vlanVid_present (hm.vlanVid vid hv)]
  simp only [Match.oxmFields, List.flatten_cons, List.flatten_nil, encodeIpv6Prefix,
    encodeIpv6_eq, encodeIpv6Masked_eq, encodeCtStateCondition_eq]
  refine (decodeTlvs_value _ (fun m o => { m with inPort := o })
    (by decide) rfl rfl rfl fun _ _ => rfl).trans ?_
  refine (decodeTlvs_value _ (fun m o => { m with inPhyPort := o })
    (by decide) rfl rfl rfl fun _ _ => rfl).trans ?_
  refine (decodeTlvs_withMask _ _ (fun m o k => { m with metadata := o, metadataMask := k })
    (by decide) rfl rfl rfl hm.metadata rfl (fun _ _ => rfl) fun _ _ _ => rfl).trans ?_
  refine (decodeTlvs_withMask _ _ (fun m o k => { m with ethDst := o, ethDstMask := k })
    (by decide) rfl rfl rfl hm.ethDst rfl (fun _ _ => rfl) fun _ _ _ => rfl).trans ?_
  refine (decodeTlvs_withMask _ _ (fun m o k => { m with ethSrc := o, ethSrcMask := k })
    (by decide) rfl rfl rfl hm.ethSrc rfl (fun _ _ => rfl) fun _ _ _ => rfl).trans ?_
  refine (decodeTlvs_value _ (fun m o => { m with ethType := o })
    (by decide) rfl rfl rfl fun _ _ => rfl).trans ?_
  refine (decodeTlvs_value _ (fun m o => { m with vlanVid := o.map (· &&& 0x0fff) })
    (by decide) rfl rfl rfl fun _ _ => rfl).trans ?_
  refine (decodeTlvs_value _ (fun m o => { m with vlanPcp := o })
    (by decide) rfl rfl rfl fun _ _ => rfl).trans ?_
  refine (decodeTlvs_value _ (fun m o => { m with ipDscp := o })
    (by decide) rfl rfl rfl fun _ _ => rfl).trans ?_
  refine (decodeTlvs_value _ (fun m o => { m with ipEcn := o })
    (by decide) rfl rfl rfl fun _ _ => rfl).trans ?_
  refine (decodeTlvs_value _ (fun m o => { m with ipProto := o })
    (by decide) rfl rfl rfl fun _ _ => rfl).trans ?_
  refine (decodeTlvs_withPrefix _ _ (fun m o p => { m with ipv4Src := o, ipv4SrcMask := p })
    (by decide) rfl rfl rfl (fun _ => maskToPrefix_prefixToMask) hm.ipv4Src rfl
    fun _ _ _ => rfl).trans ?_
  refine (decodeTlvs_withPrefix _ _ (fun m o p => { m with ipv4Dst := o, ipv4DstMask := p })
    (by decide) rfl rfl rfl (fun _ => maskToPrefix_prefixToMask) hm.ipv4Dst rfl
    fun _ _ _ => rfl).trans ?_
  refine (decodeTlvs_value _ (fun m o => { m with tcpSrc := o })
    (by decide) rfl rfl rfl fun _ _ => rfl).trans ?_
  refine (decodeTlvs_value _ (fun m o => { m with tcpDst := o })
    (by decide) rfl rfl rfl fun _ _ => rfl).trans ?_
  refine (decodeTlvs_value _ (fun m o => { m with udpSrc := o })
    (by decide) rfl rfl rfl fun _ _ => rfl).trans ?_
  refine (decodeTlvs_value _ (fun m o => { m with udpDst := o })
    (by decide) rfl rfl rfl fun _ _ => rfl).trans ?_
  refine (decodeTlvs_value _ (fun m o => { m with icmpType := o })
    (by decide) rfl rfl rfl fun _ _ => rfl).trans ?_
  refine (decodeTlvs_value _ (fun m o => { m with icmpCode := o })
    (by decide) rfl rfl rfl fun _ _ => rfl).trans ?_
  refine (decodeTlvs_value _ (fun m o => { m with icmpv6Type := o })
    (by decide) rfl rfl rfl fun _ _ => rfl).trans ?_
  refine (decodeTlvs_value _ (fun m o => { m with icmpv6Code := o })
    (by decide) rfl rfl rfl fun _ _ => rfl).trans ?_
  refine (decodeTlvs_value _ (fun m o => { m with arpOp := o })
    (by decide) rfl rfl rfl fun _ _ => rfl).trans ?_
  refine (decodeTlvs_value _ (fun m o => { m with arpSpa := o })
    (by decide) rfl rfl rfl fun _ _ => rfl).trans ?_
  refine (decodeTlvs_value _ (fun m o => { m with arpTpa := o })
    (by decide) rfl rfl rfl fun _ _ => rfl).trans ?_
  refine (decodeTlvs_value _ (fun m o => { m with arpSha := o })
    (by decide) rfl rfl rfl fun _ _ => rfl).trans ?_
  refine (decodeTlvs_value _ (fun m o => { m with arpTha := o })
    (by decide) rfl rfl rfl fun _ _ => rfl).trans ?_
  refine (decodeTlvs_withPrefix _ _ (fun m o p => { m with ipv6Src := o, ipv6SrcMask := p })
    (by decide) rfl rfl rfl (fun _ => maskToPrefix_prefixToMaskV6) hm.ipv6Src rfl
    fun _ _ _ => rfl).trans ?_
  refine (decodeTlvs_withPrefix _ _ (fun m o p => { m with ipv6Dst := o, ipv6DstMask := p })
    (by decide) rfl rfl rfl (fun _ => maskToPrefix_prefixToMaskV6) hm.ipv6Dst rfl
    fun _ _ _ => rfl).trans ?_
  refine (decodeTlvs_value _ (fun m o => { m with ipv6Flabel := o })
    (by decide) rfl rfl rfl fun _ _ => rfl).trans ?_
  refine (decodeTlvs_value _ (fun m o => { m with tunnelId := o })
    (by decide) rfl rfl rfl fun _ _ => rfl).trans ?_
  refine (decodeTlvs_withMask _ _ (fun m o k => { m with ctState := o, ctStateMask := k })
    (by decide) rfl rfl rfl hctState rfl (fun _ _ => rfl) fun _ _ _ => rfl).trans ?_
  refine (decodeTlvs_value _ (fun m o => { m with ctZone := o })
    (by decide) rfl rfl rfl fun _ _ => rfl).trans ?_
  refine (decodeTlvs_withMask _ _ (fun m o k => { m with ctMark := o, ctMarkMask := k })
    (by decide) rfl rfl rfl hm.ctMark rfl (fun _ _ => rfl) fun _ _ _ => rfl).trans ?_
  rw [decodeTlvs_nil]
  show Outcome.ok { m.norm with
      vlanVid := (m.vlanVid.map (· ||| 0x1000)).map (· &&& 0x0fff), tcpFlags := none } =
    .ok { m.norm with vlanVid := m.vlanVid, tcpFlags := m.tcpFlags }
  rw [hvlan, hm.tcpFlags]

/-! ### The whole match -/

theorem encodeWithMask_length_le {w n : Nat} {plain : BitVec w → Bytes}
    {masked : BitVec w → BitVec w → Bytes} (v k : Option (BitVec w))
    (hp : ∀ v, (plain v).length ≤ n) (hm : ∀ v k, (masked v k).length ≤ n) :
    (encodeWithMask plain masked v k).length ≤ n := by
  refine ifSome_length_le v fun a => ?_
  cases k with
  | none => exact hp a
  | some b => exact hm a b

theorem encodeWithPrefix_length_le {w n : Nat} {plain : BitVec w → Bytes}
    {masked : BitVec w → BitVec w → Bytes} {toMask : U8 → BitVec w} {full : U8}
    (v : Option (BitVec w)) (p : Option U8) (hp : ∀ v, (plain v).length ≤ n)
    (hm : ∀ v k, (masked v k).length ≤ n) :
    (encodeWithPrefix plain masked toMask full v p).length ≤ n := by
  refine ifSome_length_le v fun a => ?_
  cases p with
  | none => exact hp a
  | some q =>
    dsimp only
    split
    · exact hm a _
    · exact hp a

theorem flatten_length_le {n : Nat} {parts : List Bytes} (h : ∀ p ∈ parts, p.length ≤ n) :
    parts.flatten.length ≤ parts.length * n := by
  induction parts with
  | nil => simp
  | cons p parts ih =>
    have hp := h p (List.mem_cons_self ..)
    have hrest := ih fun q hq => h q (List.mem_cons_of_mem _ hq)
    rw [List.flatten_cons, List.length_append, List.length_cons, Nat.succ_mul]
    omega

section Length

variable {w : Nat} {length length' field : U8} {class_ : OxmClass}

@[simp] theorem encodeValue_length (v : BitVec w) :
    (encodeValue length class_ field v).length = 4 + w / 8 := by
  simp [encodeValue]

@[simp] theorem encodeMasked_length (v k : BitVec w) :
    (encodeMasked length class_ field v k).length = 4 + 2 * (w / 8) := by
  simp only [encodeMasked, List.length_append, OxmHeader.encode_length, be_length]
  omega

end Length

theorem oxmFields_length_le (m : Match) : m.oxmFields.length ≤ 33 * 36 := by
  have hvalue : ∀ {w : Nat} {length field : U8} {class_ : OxmClass} (o : Option (BitVec w)),
      w ≤ 128 → (ifSome o (encodeValue length class_ field)).length ≤ 36 := by
    intro w length field class_ o hw
    exact ifSome_length_le o fun v => by rw [encodeValue_length]; omega
  have hmask : ∀ {w : Nat} {length length' field : U8} {class_ : OxmClass}
      (o k : Option (BitVec w)), w ≤ 128 → (encodeWithMask (encodeValue length class_ field)
        (encodeMasked length' class_ field) o k).length ≤ 36 := by
    intro w length length' field class_ o k hw
    exact encodeWithMask_length_le o k (fun v => by rw [encodeValue_length]; omega)
      fun v k => by rw [encodeMasked_length]; omega
  have hprefix : ∀ {w : Nat} {length length' field full : U8} {class_ : OxmClass}
      {toMask : U8 → BitVec w} (o : Option (BitVec w)) (p : Option U8), w ≤ 128 →
      (encodeWithPrefix (encodeValue length class_ field) (encodeMasked length' class_ field)
        toMask full o p).length ≤ 36 := by
    intro w length length' field full class_ toMask o p hw
    exact encodeWithPrefix_length_le o p (fun v => by rw [encodeValue_length]; omega)
      fun v k => by rw [encodeMasked_length]; omega
  refine @flatten_length_le 36 _ ?_
  simp only [List.forall_mem_cons, encodeIpv6Prefix, encodeIpv6_eq, encodeIpv6Masked_eq,
    encodeCtStateCondition_eq]
  exact ⟨hvalue _ (by decide), hvalue _ (by decide), hmask _ _ (by decide), hmask _ _ (by decide),
    hmask _ _ (by decide), hvalue _ (by decide), hvalue _ (by decide), hvalue _ (by decide),
    hvalue _ (by decide), hvalue _ (by decide), hvalue _ (by decide), hprefix _ _ (by decide),
    hprefix _ _ (by decide), hvalue _ (by decide), hvalue _ (by decide), hvalue _ (by decide),
    hvalue _ (by decide), hvalue _ (by decide), hvalue _ (by decide), hvalue _ (by decide),
    hvalue _ (by decide), hvalue _ (by decide), hvalue _ (by decide), hvalue _ (by decide),
    hvalue _ (by decide), hvalue _ (by decide), hprefix _ _ (by decide),
    hprefix _ _ (by decide), hvalue _ (by decide), hvalue _ (by decide), hmask _ _ (by decide),
    hvalue _ (by decide), hmask _ _ (by decide), List.forall_mem_nil _⟩

theorem oxmFields_length_toNat (m : Match) :
    (BitVec.ofNat 16 (4 + m.oxmFields.length)).toNat = 4 + m.oxmFields.length := by
  have := oxmFields_length_le m
  rw [BitVec.toNat_ofNat, Nat.mod_eq_of_lt (by omega)]

theorem Match.encode_length (m : Match) : m.encode.length = pad8 (4 + m.oxmFields.length) := by
  have := le_pad8 (4 + m.oxmFields.length)
  simp only [Match.encode, List.length_append, be_length, zeros_length]
  omega

theorem Match.encode_eq (m : Match) : m.encode =
    be MatchType.oxm.toU16 ++ (be (BitVec.ofNat 16 (4 + m.oxmFields.length)) ++
      (m.oxmFields ++ zeros (pad8 (4 + m.oxmFields.length) - (4 + m.oxmFields.length)))) := by
  simp only [Match.encode, List.append_assoc]

theorem Match.beAt_encode (m : Match) (rest : Bytes) :
    beAt (E := Error) 16 (m.encode ++ rest) 2 =
      .ok (BitVec.ofNat 16 (4 + m.oxmFields.length)) := by
  rw [Match.encode_eq, List.append_assoc, beAt_append_right (by simp), List.append_assoc]
  exact beAt_be_append _ _ rfl

theorem Match.slice_encode (m : Match) (rest : Bytes) :
    slice (E := Error) (m.encode ++ rest) 4 (4 + m.oxmFields.length) = .ok m.oxmFields := by
  rw [Match.encode_eq, ← List.append_assoc (be MatchType.oxm.toU16), List.append_assoc,
    List.append_assoc m.oxmFields]
  exact slice_middle rfl rfl

theorem Match.encodeOxmFields_eq (m : Match) : m.encodeOxmFields = .ok m.oxmFields := by
  have hlen := m.encode_length
  have hpad := pad8_mod (4 + m.oxmFields.length)
  have hle := le_pad8 (4 + m.oxmFields.length)
  have h4 : ¬ m.encode.length ≤ 4 := by omega
  have hread := m.beAt_encode []
  have hslice := m.slice_encode []
  rw [List.append_nil] at hread hslice
  simp only [Match.encodeOxmFields, if_neg h4, hread, ok_bind, oxmFields_length_toNat, hslice]

/-- **Round trip of a match**, whatever bytes follow it. -/
theorem Match.decode_encode_append {m : Match} (hm : m.Representable) (rest : Bytes) :
    Match.decode (m.encode ++ rest) = .ok (m.norm, m.encode.length) := by
  have hlen := m.encode_length
  have hle := le_pad8 (4 + m.oxmFields.length)
  have h4 : ¬ (m.encode ++ rest).length < 4 := by rw [List.length_append]; omega
  have hfit : ¬ (m.encode ++ rest).length < 4 + m.oxmFields.length := by
    rw [List.length_append]; omega
  have htype : beAt (E := Error) 16 (m.encode ++ rest) 0 = .ok MatchType.oxm.toU16 := by
    rw [Match.encode_eq, List.append_assoc]
    exact beAt_be_append _ _ rfl
  simp only [Match.decode, if_neg h4, htype, m.beAt_encode rest, ok_bind, ne_eq,
    not_true_eq_false, if_false, oxmFields_length_toNat, if_neg hfit, m.slice_encode rest,
    Match.decodeOxm, decodeTlvs_oxmFields hm, pure_eq, hlen]

/-- **`Match::decode` and `Match::decode_oxm` undo the encoders** up to `norm`, and `decode` takes
    exactly the encoded match from a longer buffer.  `norm` is how the decoders spell the same
    match: an address always has a prefix, at most the full one, and a full mask of the connection
    state is no mask. -/
theorem match_roundTrip {m : Match} (hm : m.Representable) :
    Match.decode m.encode = .ok (m.norm, m.encode.length) ∧
      (do Match.decodeOxm (← m.encodeOxmFields)) = .ok m.norm ∧
      ∀ rest, Match.decode (m.encode ++ rest) = .ok (m.norm, m.encode.length) := by
  refine ⟨?_, ?_, Match.decode_encode_append hm⟩
  · have h := Match.decode_encode_append hm []
    rwa [List.append_nil] at h
  · rw [Match.encodeOxmFields_eq, ok_bind]
    exact decodeTlvs_oxmFields hm

def webMatch : Match :=
  { ethType := some 0x0800, vlanVid := some 100, ipProto := some 6, tcpDst := some 443
    ipv4Src := some 0x0a000000, ipv4SrcMask := some 24, ipv4Dst := some 0xc0a80001
    ctState := some 0x21, ctStateMask := some 0xffffffff }

theorem webMatch_representable : webMatch.Representable where
  tcpFlags := rfl
  vlanVid := fun vid h => by cases h; decide
  metadata := fun _ => rfl
  ethSrc := fun _ => rfl
  ethDst := fun _ => rfl
  ipv4Src := nofun
  ipv4Dst := fun _ => rfl
  ipv6Src := fun _ => rfl
  ipv6Dst := fun _ => rfl
  ctState := nofun
  ctMark := fun _ => rfl

theorem match_roundTrip_webMatch :
    Match.decode webMatch.encode =
        .ok ({ webMatch with ipv4DstMask := some 32, ctStateMask := none }, 56) ∧
      (do Match.decodeOxm (← webMatch.encodeOxmFields)) =
        .ok { webMatch with ipv4DstMask := some 32, ctStateMask := none } :=
  have h := match_roundTrip webMatch_representable
  ⟨h.1, h.2.1⟩

end Rovs.OpenFlow

import Rovs.MatchOverlay

/-!
# Lists of match fields (`rovs-openflow/src/oxm.rs`)

`OxmMatchField` and `NxmMatchField` are the conditions that the crate can write, one constructor
for each width and each kind of mask.  Whatever the constructor, its encoding is a header whose
length byte counts the bytes behind it; so encodings can be written one behind the other, and
decoding them overlays what each of them decodes to alone.

`encodeFields_concatenate` is the main result, for lists of any length and all constructors.
-/

namespace Rovs.OpenFlow

open Outcome

/-! ### Encoders -/

/-- The identifiers of `NxmField` that no match decoder knows. -/
def nxmTunIpv4Src : U8 := 31
def nxmTunIpv4Dst : U8 := 32
def nxmPktMark : U8 := 33
def nxmCtLabel : U8 := 108
def nxmXxReg0 : U8 := 111

def encodeU16Masked : OxmClass → U8 → U16 → U16 → Bytes := encodeMasked 4

/-- `encode_u8_field` and its siblings: a writer for a field of the OpenFlow Basic class. -/
def basicField {α : Type} (write : OxmClass → U8 → α) (field : OxmField) : α :=
  write .openflowBasic field.toU8

def encodeU8Field : OxmField → U8 → Bytes := basicField encodeU8
def encodeU16Field : OxmField → U16 → Bytes := basicField encodeU16
def encodeU32Field : OxmField → U32 → Bytes := basicField encodeU32
def encodeU64Field : OxmField → U64 → Bytes := basicField encodeU64
def encodeMacField : OxmField → MacAddr → Bytes := basicField encodeMac
def encodeU32MaskedField : OxmField → U32 → U32 → Bytes := basicField encodeU32Masked
def encodeU64MaskedField : OxmField → U64 → U64 → Bytes := basicField encodeU64Masked
def encodeMacMaskedField : OxmField → MacAddr → MacAddr → Bytes := basicField encodeMacMasked

/-- `assert!` on a register number, in front of an encoding. -/
def assertReg (last regNum : U8) (bytes : Bytes) : Result Bytes :=
  if regNum ≤ last then pure bytes else .panic

def encodeReg (regNum : U8) (value : U32) : Result Bytes :=
  assertReg 15 regNum (encodeU32 .nxm1 regNum value)

def encodeRegMasked (regNum : U8) (value mask : U32) : Result Bytes :=
  assertReg 15 regNum (encodeU32Masked .nxm1 regNum value mask)

def encodeXxreg (regNum : U8) (value : U128) : Result Bytes :=
  assertReg 3 regNum (encodeValue 16 .nxm1 (nxmXxReg0 + regNum) value)

def encodeXxregMasked (regNum : U8) (value mask : U128) : Result Bytes :=
  assertReg 3 regNum (encodeMasked 32 .nxm1 (nxmXxReg0 + regNum) value mask)

def encodeTunIdMasked (value mask : U64) : Bytes :=
  encodeU64Masked .nxm1 NxmField.tunId.toU8 value mask

def encodeTunIpv4Src (addr : U32) : Bytes := encodeU32 .nxm1 nxmTunIpv4Src addr
def encodeTunIpv4Dst (addr : U32) : Bytes := encodeU32 .nxm1 nxmTunIpv4Dst addr
def encodePktMark (value : U32) : Bytes := encodeU32 .nxm1 nxmPktMark value

def encodePktMarkMasked (value mask : U32) : Bytes :=
  encodeU32Masked .nxm1 nxmPktMark value mask

def encodeCtLabel (label : U128) : Bytes := encodeValue 16 .nxm1 nxmCtLabel label

def encodeCtLabelMasked (label mask : U128) : Bytes := encodeMasked 32 .nxm1 nxmCtLabel label mask

/-! ### Match fields -/

inductive OxmMatchField where
  | inPort (v : U32)
  | inPhyPort (v : U32)
  | metadata (v : U64)
  | metadataMasked (v m : U64)
  | ethDst (v : MacAddr)
  | ethDstMasked (v m : MacAddr)
  | ethSrc (v : MacAddr)
  | ethSrcMasked (v m : MacAddr)
  | ethType (v : U16)
  | vlanVid (v : U16)
  | vlanVidMasked (v m : U16)
  | vlanPcp (v : U8)
  | ipDscp (v : U8)
  | ipEcn (v : U8)
  | ipProto (v : U8)
  | ipv4Src (v : U32)
  | ipv4SrcMasked (v m : U32)
  | ipv4Dst (v : U32)
  | ipv4DstMasked (v m : U32)
  | tcpSrc (v : U16)
  | tcpDst (v : U16)
  | udpSrc (v : U16)
  | udpDst (v : U16)
  | sctpSrc (v : U16)
  | sctpDst (v : U16)
  | icmpv4Type (v : U8)
  | icmpv4Code (v : U8)
  | arpOp (v : U16)
  | arpSpa (v : U32)
  | arpSpaMasked (v m : U32)
  | arpTpa (v : U32)
  | arpTpaMasked (v m : U32)
  | arpSha (v : MacAddr)
  | arpTha (v : MacAddr)
  | tunnelId (v : U64)
  | tunnelIdMasked (v m : U64)
deriving DecidableEq, Repr

def OxmMatchField.encode : OxmMatchField → Bytes
  | .inPort v => encodeU32Field .inPort v
  | .inPhyPort v => encodeU32Field .inPhyPort v
  | .metadata v => encodeU64Field .metadata v
  | .metadataMasked v m => encodeU64MaskedField .metadata v m
  | .ethDst v => encodeMacField .ethDst v
  | .ethDstMasked v m => encodeMacMaskedField .ethDst v m
  | .ethSrc v => encodeMacField .ethSrc v
  | .ethSrcMasked v m => encodeMacMaskedField .ethSrc v m
  | .ethType v => encodeU16Field .ethType v
  | .vlanVid v => encodeU16Field .vlanVid v
  | .vlanVidMasked v m => encodeU16Masked .openflowBasic OxmField.vlanVid.toU8 v m
  | .vlanPcp v => encodeU8Field .vlanPcp v
  | .ipDscp v => encodeU8Field .ipDscp v
  | .ipEcn v => encodeU8Field .ipEcn v
  | .ipProto v => encodeU8Field .ipProto v
  | .ipv4Src v => encodeU32Field .ipv4Src v
  | .ipv4SrcMasked v m => encodeU32MaskedField .ipv4Src v m
  | .ipv4Dst v => encodeU32Field .ipv4Dst v
  | .ipv4DstMasked v m => encodeU32MaskedField .ipv4Dst v m
  | .tcpSrc v => encodeU16Field .tcpSrc v
  | .tcpDst v => encodeU16Field .tcpDst v
  | .udpSrc v => encodeU16Field .udpSrc v
  | .udpDst v => encodeU16Field .udpDst v
  | .sctpSrc v => encodeU16Field .sctpSrc v
  | .sctpDst v => encodeU16Field .sctpDst v
  | .icmpv4Type v => encodeU8Field .icmpv4Type v
  | .icmpv4Code v => encodeU8Field .icmpv4Code v
  | .arpOp v => encodeU16Field .arpOp v
  | .arpSpa v => encodeU32Field .arpSpa v
  | .arpSpaMasked v m => encodeU32MaskedField .arpSpa v m
  | .arpTpa v => encodeU32Field .arpTpa v
  | .arpTpaMasked v m => encodeU32MaskedField .arpTpa v m
  | .arpSha v => encodeMacField .arpSha v
  | .arpTha v => encodeMacField .arpTha v
  | .tunnelId v => encodeU64Field .tunnelId v
  | .tunnelIdMasked v m => encodeU64MaskedField .tunnelId v m

inductive NxmMatchField where
  | reg (n : U8) (v : U32)
  | regMasked (n : U8) (v m : U32)
  | xxReg (n : U8) (v : U128)
  | xxRegMasked (n : U8) (v m : U128)
  | tunId (v : U64)
  | tunIdMasked (v m : U64)
  | tunIpv4Src (v : U32)
  | tunIpv4Dst (v : U32)
  | pktMark (v : U32)
  | pktMarkMasked (v m : U32)
  | ctState (v : U32)
  | ctStateMasked (v m : U32)
  | ctZone (v : U16)
  | ctMark (v : U32)
  | ctMarkMasked (v m : U32)
  | ctLabel (v : U128)
  | ctLabelMasked (v m : U128)
deriving DecidableEq, Repr

def NxmMatchField.encode : NxmMatchField → Result Bytes
  | .reg n v => encodeReg n v
  | .regMasked n v m => encodeRegMasked n v m
  | .xxReg n v => encodeXxreg n v
  | .xxRegMasked n v m => encodeXxregMasked n v m
  | .tunId v => pure (encodeTunId v)
  | .tunIdMasked v m => pure (encodeTunIdMasked v m)
  | .tunIpv4Src v => pure (encodeTunIpv4Src v)
  | .tunIpv4Dst v => pure (encodeTunIpv4Dst v)
  | .pktMark v => pure (encodePktMark v)
  | .pktMarkMasked v m => pure (encodePktMarkMasked v m)
  | .ctState v => pure (encodeCtState v)
  | .ctStateMasked v m => pure (encodeCtStateMasked v m)
  | .ctZone v => pure (encodeCtZone v)
  | .ctMark v => pure (encodeCtMark v)
  | .ctMarkMasked v m => pure (encodeCtMarkMasked v m)
  | .ctLabel v => pure (encodeCtLabel v)
  | .ctLabelMasked v m => pure (encodeCtLabelMasked v m)

inductive MatchField where
  | oxm (f : OxmMatchField)
  | nxm (f : NxmMatchField)
deriving DecidableEq, Repr

def MatchField.encode : MatchField → Result Bytes
  | .oxm f => pure f.encode
  | .nxm f => f.encode

/-- The encodings one behind the other. -/
def encodeFields : List MatchField → Result Bytes
  | [] => pure []
  | f :: fields => do
    let bytes ← f.encode
    let rest ← encodeFields fields
    pure (bytes ++ rest)

/-- The register numbers that the encoders assert. -/
def MatchField.InRange : MatchField → Prop
  | .nxm (.reg n _) => n ≤ 15
  | .nxm (.regMasked n _ _) => n ≤ 15
  | .nxm (.xxReg n _) => n ≤ 3
  | .nxm (.xxRegMasked n _ _) => n ≤ 3
  | _ => True

/-- The fields that the match decoder has a case for. -/
def MatchField.known : MatchField → Bool
  | .oxm (.sctpSrc _) => false
  | .oxm (.sctpDst _) => false
  | .oxm _ => true
  | .nxm (.tunId _) => true
  | .nxm (.tunIdMasked _ _) => true
  | .nxm (.ctState _) => true
  | .nxm (.ctStateMasked _ _) => true
  | .nxm (.ctZone _) => true
  | .nxm (.ctMark _) => true
  | .nxm (.ctMarkMasked _ _) => true
  | .nxm _ => false

/-! ### The length byte -/

/-- A header whose length byte counts the bytes behind it. -/
structure Framed (bytes : Bytes) : Prop where
  header : 4 ≤ bytes.length
  length_eq : (bytes.getD 3 0).toNat = bytes.length - 4

section Framed

variable {w : Nat} {length field : U8} {class_ : OxmClass}

theorem framed_encodeValue {v : BitVec w} (hlen : length.toNat = w / 8) :
    Framed (encodeValue length class_ field v) := by
  have hlength : (encodeValue length class_ field v).length = 4 + w / 8 := by
    simp [encodeValue]
  constructor
  case header => omega
  case length_eq =>
    rw [hlength, Nat.add_sub_cancel_left]
    exact hlen

theorem framed_encodeMasked {v k : BitVec w} (hlen : length.toNat = 2 * (w / 8)) :
    Framed (encodeMasked length class_ field v k) := by
  have hlength : (encodeMasked length class_ field v k).length = 4 + 2 * (w / 8) := by
    simp [encodeMasked]
    omega
  constructor
  case header => omega
  case length_eq =>
    rw [hlength, Nat.add_sub_cancel_left]
    exact hlen

end Framed

theorem OxmMatchField.framed (f : OxmMatchField) : Framed f.encode := by
  cases f
  all_goals first
    | exact framed_encodeValue rfl
    | exact framed_encodeMasked rfl

theorem MatchField.encode_framed {f : MatchField} (h : f.InRange) :
    ∃ bytes, f.encode = .ok bytes ∧ Framed bytes := by
  cases f with
  | oxm f => exact ⟨_, rfl, f.framed⟩
  | nxm f =>
    cases f with
    | reg n v => exact ⟨_, if_pos h, framed_encodeValue rfl⟩
    | regMasked n v m => exact ⟨_, if_pos h, framed_encodeMasked rfl⟩
    | xxReg n v => exact ⟨_, if_pos h, framed_encodeValue rfl⟩
    | xxRegMasked n v m => exact ⟨_, if_pos h, framed_encodeMasked rfl⟩
    | _ =>
      first
      | exact ⟨_, rfl, framed_encodeValue rfl⟩
      | exact ⟨_, rfl, framed_encodeMasked rfl⟩

/-- The length that decoding reads is the fourth byte. -/
theorem headerLength_wordAt {bytes : Bytes} (h4 : 4 ≤ bytes.length) :
    headerLength (wordAt 32 bytes 0) = (bytes.getD 3 0).toNat := by
  match bytes, h4 with
  | a :: b :: c :: d :: rest, _ =>
    have hword : wordAt 32 (a :: b :: c :: d :: rest) 0 =
        BitVec.ofNat 32 (fromBe ([a, b, c] ++ [d])) := rfl
    have hd := d.isLt
    rw [hword, fromBe_concat, headerLength, BitVec.toNat_and, BitVec.toNat_ofNat,
      show (0xff : U32).toNat = 2 ^ 8 - 1 from rfl, Nat.and_two_pow_sub_one_eq_mod]
    show _ = d.toNat
    omega

/-- Framed bytes are a whole TLV. -/
theorem Framed.exists_tlv {bytes : Bytes} (h : Framed bytes) : ∃ t : RawTlv, t.bytes = bytes := by
  have hbe : be (wordAt 32 bytes 0) = bytes.take 4 := be_wordAt rfl h.header
  have hfits : (bytes.drop 4).length = headerLength (wordAt 32 bytes 0) := by
    rw [headerLength_wordAt h.header, h.length_eq, List.length_drop]
  refine ⟨⟨wordAt 32 bytes 0, bytes.drop 4, hfits⟩, ?_⟩
  rw [RawTlv.bytes, hbe, List.take_append_drop]

/-! ### Fields that the decoder does not know -/

theorem decodeNxmField_unknown {field : U8} (m : Match) (hasMask : Bool) (value : Bytes)
    (valueLen : Nat) (h : field.toNat ∉ [16, 105, 106, 107]) :
    decodeNxmField m field hasMask value valueLen = .ok m := by
  unfold decodeNxmField
  split
  case h_5 => rfl
  all_goals
    rename_i hfield
    rw [hfield] at h
    exact absurd h (by decide)

section Alone

variable {w : Nat} {length field : U8} {class_ : OxmClass} {top : Match}

/-- What a field alone decodes to is what its decoder makes of the empty match. -/
theorem decodeOxm_encodeValue (v : BitVec w) (hf : field < 128) (hlen : length.toNat = w / 8)
    (hdec : fieldDecoder class_ Match.new field false (be v) (w / 8) = .ok top) :
    Match.decodeOxm (encodeValue length class_ field v) = .ok top := by
  rw [Match.decodeOxm, ← List.append_nil (encodeValue length class_ field v),
    decodeTlvs_encodeValue hf hlen hdec]
  exact decodeTlvs_nil _

theorem decodeOxm_encodeMasked (v k : BitVec w) (hf : field < 128)
    (hlen : length.toNat = 2 * (w / 8))
    (hdec : fieldDecoder class_ Match.new field true (be v ++ be k) (w / 8) = .ok top) :
    Match.decodeOxm (encodeMasked length class_ field v k) = .ok top := by
  rw [Match.decodeOxm, ← List.append_nil (encodeMasked length class_ field v k),
    decodeTlvs_encodeMasked hf hlen hdec]
  exact decodeTlvs_nil _

theorem decodeOxm_nxmValue_unknown (v : BitVec w) (hf : field < 128)
    (hlen : length.toNat = w / 8) (h : field.toNat ∉ [16, 105, 106, 107]) :
    Match.decodeOxm (encodeValue length .nxm1 field v) = .ok Match.new :=
  decodeOxm_encodeValue v hf hlen (decodeNxmField_unknown Match.new false (be v) (w / 8) h)

theorem decodeOxm_nxmMasked_unknown (v k : BitVec w) (hf : field < 128)
    (hlen : length.toNat = 2 * (w / 8)) (h : field.toNat ∉ [16, 105, 106, 107]) :
    Match.decodeOxm (encodeMasked length .nxm1 field v k) = .ok Match.new :=
  decodeOxm_encodeMasked v k hf hlen
    (decodeNxmField_unknown Match.new true (be v ++ be k) (w / 8) h)

end Alone

/-- A register is none of the fields that the decoder knows. -/
theorem reg_unknown {n : U8} (h : n ≤ 15) : n < 128 ∧ n.toNat ∉ [16, 105, 106, 107] := by
  have hn : n.toNat ≤ 15 := h
  refine ⟨Nat.lt_of_le_of_lt hn (by decide), ?_⟩
  simp
  omega

theorem xxReg_unknown {n : U8} (h : n ≤ 3) :
    nxmXxReg0 + n < 128 ∧ (nxmXxReg0 + n).toNat ∉ [16, 105, 106, 107] := by
  have hn : n.toNat ≤ 3 := h
  have hsum : (nxmXxReg0 + n).toNat = 111 + n.toNat := by
    rw [BitVec.toNat_add, show nxmXxReg0.toNat = 111 from rfl]
    omega
  rw [BitVec.lt_def, hsum]
  refine ⟨Nat.lt_of_le_of_lt (Nat.add_le_add_left hn 111) (by decide), ?_⟩
  simp
  omega

/-- A field that the decoder does not know decodes to the empty match. -/
theorem MatchField.decodeOxm_unknown {f : MatchField} (hrange : f.InRange)
    (hknown : f.known = false) : f.encode >>= Match.decodeOxm = .ok Match.new := by
  cases f with
  | oxm f =>
    cases f with
    | sctpSrc v => exact decodeOxm_encodeValue v (by decide) rfl rfl
    | sctpDst v => exact decodeOxm_encodeValue v (by decide) rfl rfl
    | _ => cases hknown
  | nxm f =>
    cases f with
    | reg n v =>
      obtain ⟨hf, hfield⟩ := reg_unknown hrange
      rw [show MatchField.encode (.nxm (.reg n v)) = .ok _ from if_pos hrange, ok_bind]
      exact decodeOxm_nxmValue_unknown v hf rfl hfield
    | regMasked n v m =>
      obtain ⟨hf, hfield⟩ := reg_unknown hrange
      rw [show MatchField.encode (.nxm (.regMasked n v m)) = .ok _ from if_pos hrange, ok_bind]
      exact decodeOxm_nxmMasked_unknown v m hf rfl hfield
    | xxReg n v =>
      obtain ⟨hf, hfield⟩ := xxReg_unknown hrange
      rw [show MatchField.encode (.nxm (.xxReg n v)) = .ok _ from if_pos hrange, ok_bind]
      exact decodeOxm_nxmValue_unknown v hf rfl hfield
    | xxRegMasked n v m =>
      obtain ⟨hf, hfield⟩ := xxReg_unknown hrange
      rw [show MatchField.encode (.nxm (.xxRegMasked n v m)) = .ok _ from if_pos hrange, ok_bind]
      exact decodeOxm_nxmMasked_unknown v m hf rfl hfield
    | tunIpv4Src v => exact decodeOxm_nxmValue_unknown v (by decide) rfl (by decide)
    | tunIpv4Dst v => exact decodeOxm_nxmValue_unknown v (by decide) rfl (by decide)
    | pktMark v => exact decodeOxm_nxmValue_unknown v (by decide) rfl (by decide)
    | pktMarkMasked v m => exact decodeOxm_nxmMasked_unknown v m (by decide) rfl (by decide)
    | ctLabel v => exact decodeOxm_nxmValue_unknown v (by decide) rfl (by decide)
    | ctLabelMasked v m => exact decodeOxm_nxmMasked_unknown v m (by decide) rfl (by decide)
    | _ => cases hknown

/-! ### Lists of fields -/

/-- The encodings of the fields are a row of TLVs. -/
theorem encodeFields_eq_row {fields : List MatchField} (h : ∀ f ∈ fields, f.InRange) :
    ∃ tlvs : List RawTlv, fields.map MatchField.encode = tlvs.map (fun t => .ok t.bytes) ∧
      encodeFields fields = .ok (tlvs.flatMap RawTlv.bytes) := by
  induction fields with
  | nil => exact ⟨[], rfl, rfl⟩
  | cons f fields ih =>
    obtain ⟨bytes, hbytes, hframed⟩ := MatchField.encode_framed (h f List.mem_cons_self)
    obtain ⟨t, rfl⟩ := hframed.exists_tlv
    obtain ⟨tlvs, hmap, hrow⟩ := ih fun g hg => h g (List.mem_cons_of_mem _ hg)
    refine ⟨t :: tlvs, ?_, ?_⟩
    · rw [List.map_cons, List.map_cons, hbytes, hmap]
    · rw [encodeFields, hbytes, ok_bind, hrow]
      rfl

/-- The row decodes to the overlay of what the fields decode to alone. -/
theorem decodeOxm_encodeFields {fields : List MatchField} (h : ∀ f ∈ fields, f.InRange) :
    ∃ (encoded : Bytes) (tops : List Match), encodeFields fields = .ok encoded ∧
      (fields.map fun f => f.encode >>= Match.decodeOxm) = tops.map Outcome.ok ∧
      Match.decodeOxm encoded = .ok (tops.foldl Match.overlay Match.new) := by
  obtain ⟨tlvs, hmap, hrow⟩ := encodeFields_eq_row h
  obtain ⟨tops, htops, hdecode⟩ := decodeTlvs_flatMap tlvs Match.new
  refine ⟨_, tops, hrow, ?_, hdecode⟩
  calc
    (fields.map fun f => f.encode >>= Match.decodeOxm) =
        (fields.map MatchField.encode).map (· >>= Match.decodeOxm) := by
      rw [List.map_map]
      rfl
    _ = tlvs.map (fun t => Match.decodeOxm t.bytes) := by
      rw [hmap, List.map_map]
      rfl
    _ = tops.map Outcome.ok := htops

/-- An overlay without the empty matches of the fields that the decoder does not know. -/
theorem foldl_overlay_known {fields : List MatchField} (h : ∀ f ∈ fields, f.InRange)
    {tops known : List Match} (m : Match)
    (htops : (fields.map fun f => f.encode >>= Match.decodeOxm) = tops.map Outcome.ok)
    (hknown : ((fields.filter MatchField.known).map fun f => f.encode >>= Match.decodeOxm) =
      known.map Outcome.ok) :
    known.foldl Match.overlay m = tops.foldl Match.overlay m := by
  induction fields generalizing tops known m with
  | nil =>
    rw [List.map_eq_nil_iff.mp htops.symm, List.map_eq_nil_iff.mp hknown.symm]
  | cons f fields ih =>
    have hrest : ∀ g ∈ fields, g.InRange := fun g hg => h g (List.mem_cons_of_mem _ hg)
    obtain ⟨top, tops, rfl, htop, htail⟩ := List.map_eq_cons_iff.mp htops.symm
    by_cases hf : f.known
    case pos =>
      rw [List.filter_cons_of_pos hf] at hknown
      obtain ⟨top', known, rfl, htop', hrow⟩ := List.map_eq_cons_iff.mp hknown.symm
      cases htop.trans htop'.symm
      rw [List.foldl_cons, List.foldl_cons]
      exact ih hrest _ htail.symm hrow.symm
    case neg =>
      rw [List.filter_cons_of_neg hf] at hknown
      have halone := MatchField.decodeOxm_unknown (h f List.mem_cons_self) (by simpa using hf)
      cases htop.trans halone
      rw [List.foldl_cons, Match.overlay_new]
      exact ih hrest m htail.symm hknown

/-- Encodings can be written one behind the other: each of them says how long it is, decoding the
    row overlays what each of them decodes to alone, and a field that the decoder does not know
    adds nothing and changes nothing of its neighbours. -/
structure Concatenate (fields : List MatchField) : Prop where
  framed : ∀ f ∈ fields, ∃ bytes, f.encode = .ok bytes ∧ Framed bytes
  overlay : ∃ (encoded : Bytes) (tops : List Match), encodeFields fields = .ok encoded ∧
    (fields.map fun f => f.encode >>= Match.decodeOxm) = tops.map Outcome.ok ∧
    Match.decodeOxm encoded = .ok (tops.foldl Match.overlay Match.new)
  unknown : ∀ f ∈ fields, f.known = false → f.encode >>= Match.decodeOxm = .ok Match.new
  neighbours : (encodeFields (fields.filter MatchField.known) >>= Match.decodeOxm) =
    (encodeFields fields >>= Match.decodeOxm)

/-- **The fields of a list stand one behind the other on the wire.**  Each encoding says how long it
    is, and the row is decoded to what its fields decode to alone, each overlaid on those in front
    of it; a field that is not known adds nothing. -/
theorem encodeFields_concatenate (fields : List MatchField) (h : ∀ f ∈ fields, f.InRange) :
    Concatenate fields := by
  have hfilter : ∀ f ∈ fields.filter MatchField.known, f.InRange :=
    fun f hf => h f (List.mem_of_mem_filter hf)
  obtain ⟨encoded, tops, hencoded, htops, hrow⟩ := decodeOxm_encodeFields h
  obtain ⟨known, tops', hknown, htops', hrow'⟩ := decodeOxm_encodeFields hfilter
  constructor
  case framed =>
    intro f hf
    exact MatchField.encode_framed (h f hf)
  case overlay => exact ⟨encoded, tops, hencoded, htops, hrow⟩
  case unknown =>
    intro f hf
    exact MatchField.decodeOxm_unknown (h f hf)
  case neighbours =>
    rw [hencoded, hknown, ok_bind, ok_bind, hrow, hrow', foldl_overlay_known h _ htops htops']

/-- A list of both kinds. -/
def mixedFields : List MatchField :=
  [.oxm (.ethType 0x0800), .oxm (.ipProto 6), .oxm (.tcpDst 80), .nxm (.reg 0 1)]

theorem mixedFields_inRange : ∀ f ∈ mixedFields, f.InRange := by
  simp only [mixedFields, List.forall_mem_cons, MatchField.InRange]
  exact ⟨trivial, trivial, trivial, by decide, by simp⟩

theorem mixedFields_concatenate : Concatenate mixedFields :=
  encodeFields_concatenate mixedFields mixedFields_inRange

end Rovs.OpenFlow

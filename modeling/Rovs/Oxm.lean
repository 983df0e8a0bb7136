import Rovs.OpenFlowError

/-!
# OXM and NXM encoding (`rovs-openflow/src/oxm.rs`)

A match field travels as a four-byte header (class, seven-bit field number, mask
flag, length) and its value, with the mask behind the value when there is one.
The encoders of the source differ only in the width they write, so each is an
instance of `encodeValue` or `encodeMasked`.
-/

namespace Rovs.OpenFlow

inductive OxmClass where
  | openflowBasic
  | experimenter
  | nxm0
  | nxm1
deriving DecidableEq, Repr

def OxmClass.toU16 : OxmClass → U16
  | .openflowBasic => 0x8000
  | .experimenter => 0xffff
  | .nxm0 => 0x0000
  | .nxm1 => 0x0001

inductive OxmField where
  | inPort | inPhyPort | metadata | ethDst | ethSrc | ethType | vlanVid | vlanPcp
  | ipDscp | ipEcn | ipProto | ipv4Src | ipv4Dst | tcpSrc | tcpDst | udpSrc | udpDst
  | sctpSrc | sctpDst | icmpv4Type | icmpv4Code | arpOp | arpSpa | arpTpa | arpSha | arpTha
  | ipv6Src | ipv6Dst | ipv6Flabel | icmpv6Type | icmpv6Code | tunnelId
deriving DecidableEq, Repr

def OxmField.toU8 : OxmField → U8
  | .inPort => 0
  | .inPhyPort => 1
  | .metadata => 2
  | .ethDst => 3
  | .ethSrc => 4
  | .ethType => 5
  | .vlanVid => 6
  | .vlanPcp => 7
  | .ipDscp => 8
  | .ipEcn => 9
  | .ipProto => 10
  | .ipv4Src => 11
  | .ipv4Dst => 12
  | .tcpSrc => 13
  | .tcpDst => 14
  | .udpSrc => 15
  | .udpDst => 16
  | .sctpSrc => 17
  | .sctpDst => 18
  | .icmpv4Type => 19
  | .icmpv4Code => 20
  | .arpOp => 21
  | .arpSpa => 22
  | .arpTpa => 23
  | .arpSha => 24
  | .arpTha => 25
  | .ipv6Src => 26
  | .ipv6Dst => 27
  | .ipv6Flabel => 28
  | .icmpv6Type => 29
  | .icmpv6Code => 30
  | .tunnelId => 38

inductive NxmField where
  | tunId | ctState | ctZone | ctMark
deriving DecidableEq, Repr

def NxmField.toU8 : NxmField → U8
  | .tunId => 16
  | .ctState => 105
  | .ctZone => 106
  | .ctMark => 107

/-- The header of an OXM field. -/
structure OxmHeader where
  class_ : OxmClass
  field : U8
  hasMask : Bool
  length : U8
deriving DecidableEq, Repr

def OxmHeader.encode (h : OxmHeader) : Bytes :=
  let classVal := h.class_.toU16
  let fieldAndMask := (h.field <<< 1) ||| (if h.hasMask then 1 else 0)
  [(classVal >>> 8).setWidth 8, classVal.setWidth 8, fieldAndMask, h.length]

@[simp] theorem OxmHeader.encode_length (h : OxmHeader) : h.encode.length = 4 := rfl

section Encoders

variable {w : Nat}

/-- Header without a mask, then the value. -/
def encodeValue (length : U8) (class_ : OxmClass) (field : U8) (value : BitVec w) : Bytes :=
  (OxmHeader.mk class_ field false length).encode ++ be value

/-- Header with the mask flag, then value and mask; the length covers both. -/
def encodeMasked (length : U8) (class_ : OxmClass) (field : U8) (value mask : BitVec w) : Bytes :=
  (OxmHeader.mk class_ field true length).encode ++ be value ++ be mask

def encodeU8 : OxmClass → U8 → U8 → Bytes := encodeValue 1
def encodeU16 : OxmClass → U8 → U16 → Bytes := encodeValue 2
def encodeU32 : OxmClass → U8 → U32 → Bytes := encodeValue 4
def encodeU64 : OxmClass → U8 → U64 → Bytes := encodeValue 8
def encodeMac : OxmClass → U8 → BitVec 48 → Bytes := encodeValue 6

def encodeU32Masked : OxmClass → U8 → U32 → U32 → Bytes := encodeMasked 8
def encodeMacMasked : OxmClass → U8 → BitVec 48 → BitVec 48 → Bytes := encodeMasked 12
def encodeU64Masked : OxmClass → U8 → U64 → U64 → Bytes := encodeMasked 16

end Encoders

def encodeTunId (value : U64) : Bytes := encodeU64 .nxm1 NxmField.tunId.toU8 value

def encodeCtState (state : U32) : Bytes := encodeU32 .nxm1 NxmField.ctState.toU8 state

def encodeCtStateMasked (state mask : U32) : Bytes :=
  encodeU32Masked .nxm1 NxmField.ctState.toU8 state mask

def encodeCtZone (zone : U16) : Bytes := encodeU16 .nxm1 NxmField.ctZone.toU8 zone

def encodeCtMark (mark : U32) : Bytes := encodeU32 .nxm1 NxmField.ctMark.toU8 mark

def encodeCtMarkMasked (mark mask : U32) : Bytes :=
  encodeU32Masked .nxm1 NxmField.ctMark.toU8 mark mask

/-! ### Prefix lengths and masks -/

def prefixToMask (prefixLen : U8) : U32 :=
  if prefixLen = 0 then 0
  else if prefixLen ≥ 32 then 0xffffffff
  else 0xffffffff <<< (32 - prefixLen.toNat)

def prefixToMaskV6 (prefixLen : U8) : U128 :=
  if prefixLen = 0 then 0
  else if prefixLen ≥ 128 then BitVec.allOnes 128
  else BitVec.allOnes 128 <<< (128 - prefixLen.toNat)

/-- The leading ones among the `n` low bits. -/
def leadingOnesFrom {w : Nat} (v : BitVec w) : Nat → Nat
  | 0 => 0
  | n + 1 => if v.getLsbD n then leadingOnesFrom v n + 1 else 0

def leadingOnes {w : Nat} (v : BitVec w) : Nat := leadingOnesFrom v w

/-- `mask_to_prefix` and `mask_to_prefix_v6`: `mask.leading_ones() as u8`. -/
def maskToPrefix {w : Nat} (mask : BitVec w) : U8 := BitVec.ofNat 8 (leadingOnes mask)

theorem leadingOnesFrom_allOnes_shiftLeft (w s n : Nat) (hn : n ≤ w) :
    leadingOnesFrom (BitVec.allOnes w <<< s) n = n - s := by
  induction n with
  | zero => simp [leadingOnesFrom]
  | succ n ih =>
    have hbit : (BitVec.allOnes w <<< s).getLsbD n = decide (s ≤ n) := by
      simp only [BitVec.getLsbD_shiftLeft, BitVec.getLsbD_allOnes]
      by_cases hs : s ≤ n
      · have hlt : n - s < w := by omega
        simp [hs, hlt]; omega
      · simp [hs]
    simp only [leadingOnesFrom, hbit, decide_eq_true_eq, ih (by omega)]
    split <;> omega

/-- A mask of `p` leading ones has prefix length `p`. -/
theorem leadingOnes_allOnes_shiftLeft {w p : Nat} (hp : p ≤ w) :
    leadingOnes (BitVec.allOnes w <<< (w - p)) = p := by
  rw [leadingOnes, leadingOnesFrom_allOnes_shiftLeft w _ w (Nat.le_refl w)]
  omega

/-- A prefix comes back from its mask; the full prefix does not, since a full mask is not written.
    -/
theorem maskToPrefix_prefixToMask {p : U8} (hp : p < 32) : maskToPrefix (prefixToMask p) = p := by
  have hlt : p.toNat < 32 := hp
  have hmask : prefixToMask p = BitVec.allOnes 32 <<< (32 - p.toNat) := by
    unfold prefixToMask
    split
    · next h => subst h; decide
    · rw [if_neg (by simpa [BitVec.le_def] using hlt)]; rfl
  rw [maskToPrefix, hmask, leadingOnes_allOnes_shiftLeft (Nat.le_of_lt hlt), BitVec.ofNat_toNat,
    BitVec.setWidth_eq]

theorem maskToPrefix_prefixToMaskV6 {p : U8} (hp : p < 128) :
    maskToPrefix (prefixToMaskV6 p) = p := by
  have hlt : p.toNat < 128 := hp
  have hmask : prefixToMaskV6 p = BitVec.allOnes 128 <<< (128 - p.toNat) := by
    unfold prefixToMaskV6
    split
    · next h => subst h; decide
    · rw [if_neg (by simpa [BitVec.le_def] using hlt)]
  rw [maskToPrefix, hmask, leadingOnes_allOnes_shiftLeft (Nat.le_of_lt hlt), BitVec.ofNat_toNat,
    BitVec.setWidth_eq]

/-! ### Reading a header back -/

/-- `(header >> 16) as u16`. -/
def headerClass (header : U32) : U16 := (header >>> 16).setWidth 16

/-- `((header >> 9) & 0x7f) as u8`. -/
def headerField (header : U32) : U8 := ((header >>> 9) &&& 0x7f).setWidth 8

/-- `((header >> 8) & 1) != 0`. -/
def headerHasMask (header : U32) : Bool := ((header >>> 8) &&& 1) != 0

/-- `(header & 0xff) as usize`. -/
def headerLength (header : U32) : Nat := (header &&& 0xff).toNat

/-- The four header bytes as the word that decoding reads. -/
def OxmHeader.word (h : OxmHeader) : U32 := BitVec.ofNat 32 (fromBe h.encode)

theorem fieldAndMask_toNat {f : U8} (b : Bool) (hf : f < 128) :
    ((f <<< 1) ||| (if b then 1 else 0)).toNat = f.toNat * 2 + (if b then 1 else 0) := by
  have hlt : f.toNat < 128 := hf
  have hshift : (f <<< 1).toNat = 2 ^ 1 * f.toNat := by
    rw [BitVec.toNat_shiftLeft, Nat.shiftLeft_eq]; omega
  cases b with
  | false => simp [hshift, Nat.mul_comm]
  | true =>
    have hor := Nat.two_pow_add_eq_or_of_lt (i := 1) (b := 1) (by decide) f.toNat
    have hone : (1 : U8).toNat = 1 := rfl
    simp only [if_true, BitVec.toNat_or, hshift, hone]
    omega

/-- The header word, put together by shifts, is a sum of its fields, of which none runs into the
    next. -/
theorem OxmHeader.word_toNat {h : OxmHeader} (hf : h.field < 128) :
    h.word.toNat = h.class_.toU16.toNat * 65536 + h.field.toNat * 512
      + (if h.hasMask then 256 else 0) + h.length.toNat := by
  obtain ⟨c, f, b, n⟩ := h
  have hlt : f.toNat < 128 := hf
  have hc := c.toU16.isLt
  have hn := n.isLt
  have hhi : ((c.toU16 >>> 8).setWidth 8).toNat = c.toU16.toNat / 256 := by
    rw [BitVec.toNat_setWidth, BitVec.toNat_ushiftRight, Nat.shiftRight_eq_div_pow]; omega
  have hlo : (c.toU16.setWidth 8).toNat = c.toU16.toNat % 256 := by
    rw [BitVec.toNat_setWidth]
  simp only [OxmHeader.word, OxmHeader.encode, fromBe, List.foldl_cons, List.foldl_nil,
    BitVec.toNat_ofNat, hhi, hlo, fieldAndMask_toNat b hf]
  cases b <;> simp <;> omega

section Header

variable {h : OxmHeader}

theorem headerClass_word (hf : h.field < 128) : headerClass h.word = h.class_.toU16 := by
  have hlt : h.field.toNat < 128 := hf
  have hw := OxmHeader.word_toNat hf
  have hn := h.length.isLt
  have hc := h.class_.toU16.isLt
  apply BitVec.eq_of_toNat_eq
  rw [headerClass, BitVec.toNat_setWidth, BitVec.toNat_ushiftRight, Nat.shiftRight_eq_div_pow, hw]
  cases h.hasMask <;> simp <;> omega

theorem headerField_word (hf : h.field < 128) : headerField h.word = h.field := by
  have hlt : h.field.toNat < 128 := hf
  have hw := OxmHeader.word_toNat hf
  have hn := h.length.isLt
  apply BitVec.eq_of_toNat_eq
  rw [headerField, BitVec.toNat_setWidth, BitVec.toNat_and, BitVec.toNat_ushiftRight,
    Nat.shiftRight_eq_div_pow, hw, show (0x7f : U32).toNat = 2 ^ 7 - 1 from rfl,
    Nat.and_two_pow_sub_one_eq_mod]
  cases h.hasMask <;> simp <;> omega

theorem headerHasMask_word (hf : h.field < 128) : headerHasMask h.word = h.hasMask := by
  have hlt : h.field.toNat < 128 := hf
  have hw := OxmHeader.word_toNat hf
  have hn := h.length.isLt
  have hbit : ((h.word >>> 8) &&& 1).toNat = if h.hasMask then 1 else 0 := by
    rw [BitVec.toNat_and, BitVec.toNat_ushiftRight, Nat.shiftRight_eq_div_pow, hw,
      show (1 : U32).toNat = 2 ^ 1 - 1 from rfl, Nat.and_two_pow_sub_one_eq_mod]
    cases h.hasMask <;> simp <;> omega
  rw [Bool.eq_iff_iff, headerHasMask, bne_iff_ne, ne_eq, BitVec.toNat_eq, hbit]
  cases h.hasMask <;> simp

theorem headerLength_word (hf : h.field < 128) : headerLength h.word = h.length.toNat := by
  have hlt : h.field.toNat < 128 := hf
  have hw := OxmHeader.word_toNat hf
  have hn := h.length.isLt
  rw [headerLength, BitVec.toNat_and, hw, show (0xff : U32).toNat = 2 ^ 8 - 1 from rfl,
    Nat.and_two_pow_sub_one_eq_mod]
  cases h.hasMask <;> simp <;> omega

theorem beAt_header {E : Type} (h : OxmHeader) (rest : Bytes) :
    beAt (E := E) 32 (h.encode ++ rest) 0 = .ok h.word := by
  rw [beAt, if_pos (by simp)]
  rfl

end Header

end Rovs.OpenFlow

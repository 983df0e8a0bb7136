import Mathlib.Data.List.ReduceOption
import Rovs.MatchRoundTrip
import Rovs.Packet

/-!
# What a match says about packets

On the wire a match is a row of conditions, each with a class and a number that name a field, a
value and perhaps a mask.  `Tlv` is such a condition with a known name and values of the right
width, `readTlvs` reads a row of them, and `Tlv.Holds` says which packets satisfy one.
`Match.tlvs` are the conditions that the encoding of a match consists of.
-/

namespace Rovs.OpenFlow

/-! ### One condition -/

structure Tlv where
  class_ : OxmClass
  number : U8
  field : Field
  known : Field.ofHeader class_ number = some field
  value : BitVec field.width
  mask : Option (BitVec field.width)
deriving DecidableEq

namespace Tlv

/-- The bits that a condition compares. -/
def bits (t : Tlv) : BitVec t.field.width := t.mask.getD (BitVec.allOnes _)

/-- The value that a packet has in the field agrees with the condition's where the mask is set. -/
def Holds (t : Tlv) (pkt : Packet) : Prop :=
  ∃ x, t.field.read pkt = some x ∧ x &&& t.bits = t.value &&& t.bits

def encode (t : Tlv) : Bytes :=
  match t.mask with
  | none => encodeValue (BitVec.ofNat 8 (t.field.width / 8)) t.class_ t.number t.value
  | some k => encodeMasked (BitVec.ofNat 8 (2 * (t.field.width / 8))) t.class_ t.number t.value k

instance (t : Tlv) (pkt : Packet) : Decidable (t.Holds pkt) :=
  match h : t.field.read pkt with
  | none => isFalse fun ⟨_, hx, _⟩ => by simp [h] at hx
  | some x =>
    if hx : x &&& t.bits = t.value &&& t.bits then isTrue ⟨x, h, hx⟩
    else isFalse fun ⟨y, hy, heq⟩ => hx (by cases h.symm.trans hy; exact heq)

end Tlv

/-- `OxmClass` of its number. -/
def OxmClass.ofU16 (v : U16) : Option OxmClass :=
  if v = 0x8000 then some .openflowBasic
  else if v = 0xffff then some .experimenter
  else if v = 0 then some .nxm0
  else if v = 1 then some .nxm1
  else none

theorem OxmClass.ofU16_toU16 (c : OxmClass) : OxmClass.ofU16 c.toU16 = some c := by
  cases c <;> rfl

/-! ### Reading conditions -/

/-- A condition of a known name, from the bytes behind its header. -/
def readCondition (class_ : OxmClass) (number : U8) (hasMask : Bool) (data : Bytes) : Option Tlv :=
  match h : Field.ofHeader class_ number with
  | none => none
  | some f =>
    let n := f.width / 8
    if hasMask then
      if data.length = 2 * n then
        some ⟨class_, number, f, h, wordAt _ data 0, some (wordAt _ data n)⟩
      else none
    else if data.length = n then some ⟨class_, number, f, h, wordAt _ data 0, none⟩
    else none

/-- The condition at the head of a row, and the rest of the row. -/
def readTlv (data : Bytes) : Option (Tlv × Bytes) :=
  let header := wordAt 32 data 0
  let length := headerLength header
  if data.length < 4 + length then none
  else do
    let class_ ← OxmClass.ofU16 (headerClass header)
    let t ← readCondition class_ (headerField header) (headerHasMask header)
      ((data.drop 4).take length)
    pure (t, data.drop (4 + length))

def readTlvsFrom : Nat → Bytes → Option (List Tlv)
  | 0, _ => none
  | fuel + 1, data =>
      if data = [] then some []
      else do
        let (t, rest) ← readTlv data
        let ts ← readTlvsFrom fuel rest
        pure (t :: ts)

/-- The conditions of a row. -/
def readTlvs (data : Bytes) : Option (List Tlv) := readTlvsFrom (data.length + 1) data

section Read

theorem Tlv.number_lt (t : Tlv) : t.number < 128 := Field.ofHeader_lt t.known

theorem readCondition_encode (t : Tlv) :
    readCondition t.class_ t.number t.mask.isSome (be t.value ++ ifSome t.mask be) = some t := by
  rcases t with ⟨class_, number, f, known, value, mask⟩
  have hf := f.width_bytes
  have hvalue : ∀ rest, wordAt f.width (be value ++ rest) 0 = value := fun rest =>
    wordAt_be_append value rest hf
  rw [readCondition]
  split
  case h_1 h =>
    rw [known] at h
    cases h
  case h_2 g h =>
    have hg : f = g := Option.some.inj (known.symm.trans h)
    subst hg
    dsimp only
    cases mask with
    | none =>
      rw [if_neg (by simp), if_pos (by simp), hvalue]
    | some k =>
      have hmask : wordAt f.width (be value ++ be k) (f.width / 8) = k := by
        rw [wordAt_append_right (by simp)]
        simpa using wordAt_be_append k [] hf
      rw [if_pos (by simp), if_pos (by simp; omega), hvalue]
      simp only [ifSome_some, hmask]

/-- A condition is a header and the words behind it. -/
theorem Tlv.encode_eq (t : Tlv) : ∃ h : OxmHeader, h.class_ = t.class_ ∧ h.field = t.number ∧
    h.hasMask = t.mask.isSome ∧ h.length.toNat = (be t.value ++ ifSome t.mask be).length ∧
    t.encode = h.encode ++ (be t.value ++ ifSome t.mask be) := by
  have hle := t.field.width_le
  rcases hmask : t.mask with _ | k
  · refine ⟨⟨t.class_, t.number, false, BitVec.ofNat 8 (t.field.width / 8)⟩, rfl, rfl, rfl, ?_, ?_⟩
    · simp only [BitVec.toNat_ofNat, ifSome_none, List.append_nil, be_length]
      omega
    · simp [encode, hmask, encodeValue]
  · refine ⟨⟨t.class_, t.number, true, BitVec.ofNat 8 (2 * (t.field.width / 8))⟩,
      rfl, rfl, rfl, ?_, ?_⟩
    · simp only [BitVec.toNat_ofNat, ifSome_some, List.length_append, be_length]
      omega
    · simp [encode, hmask, encodeMasked]

theorem wordAt_header (h : OxmHeader) (rest : Bytes) :
    wordAt 32 (h.encode ++ rest) 0 = h.word := rfl

/-- A TLV is read back from its bytes, whatever stands behind it. -/
theorem readTlv_encode (t : Tlv) (rest : Bytes) : readTlv (t.encode ++ rest) = some (t, rest) := by
  rcases t.encode_eq with ⟨h, hclass, hfield, hmask, hlength, hencode⟩
  have hlt : h.field < 128 := by
    rw [hfield]
    exact t.number_lt
  have hread := readCondition_encode t
  have hdrop : (h.encode ++ ((be t.value ++ ifSome t.mask be) ++ rest)).drop 4 =
      (be t.value ++ ifSome t.mask be) ++ rest := List.drop_left' h.encode_length
  have htake : ((be t.value ++ ifSome t.mask be) ++ rest).take h.length.toNat =
      be t.value ++ ifSome t.mask be := by
    rw [hlength, List.take_left]
  have hrest : (h.encode ++ ((be t.value ++ ifSome t.mask be) ++ rest)).drop
      (4 + h.length.toNat) = rest := by
    rw [hlength, ← List.append_assoc, List.drop_left' (by simp)]
  have hfits : ¬ (h.encode ++ ((be t.value ++ ifSome t.mask be) ++ rest)).length <
      4 + h.length.toNat := by
    rw [hlength]
    simp only [List.length_append, OxmHeader.encode_length]
    omega
  rw [hencode, List.append_assoc, readTlv, wordAt_header]
  simp only [headerLength_word hlt, headerClass_word hlt, headerField_word hlt,
    headerHasMask_word hlt]
  rw [if_neg hfits, hdrop, htake, hrest, hclass, hfield, hmask, OxmClass.ofU16_toU16]
  simp [hread]

theorem Tlv.encode_length_pos (t : Tlv) : 0 < t.encode.length := by
  rcases t.encode_eq with ⟨h, -, -, -, -, hencode⟩
  rw [hencode, List.length_append, OxmHeader.encode_length]
  omega

theorem readTlvsFrom_encode {ts : List Tlv} {fuel : Nat}
    (hfuel : (ts.flatMap Tlv.encode).length < fuel) :
    readTlvsFrom fuel (ts.flatMap Tlv.encode) = some ts := by
  induction ts generalizing fuel with
  | nil =>
    rcases fuel with _ | fuel
    · exact absurd hfuel (Nat.not_lt_zero _)
    · rfl
  | cons t ts ih =>
    rcases fuel with _ | fuel
    · exact absurd hfuel (Nat.not_lt_zero _)
    · have hpos := t.encode_length_pos
      rw [List.flatMap_cons, List.length_append] at hfuel
      have hne : t.encode ++ ts.flatMap Tlv.encode ≠ [] := by
        intro hnil
        simp [(List.append_eq_nil_iff.mp hnil).1] at hpos
      rw [List.flatMap_cons, readTlvsFrom, if_neg hne, readTlv_encode]
      simp [ih (show (ts.flatMap Tlv.encode).length < fuel by omega)]

/-- **A row of conditions is read as it was written.** -/
theorem readTlvs_encode (ts : List Tlv) : readTlvs (ts.flatMap Tlv.encode) = some ts :=
  readTlvsFrom_encode (Nat.lt_succ_self _)

end Read

/-! ### The conditions of a match -/

section Conditions

variable {class_ : OxmClass} {number : U8} {f : Field}

/-- A condition on a field, when there is a value. -/
def condition (known : Field.ofHeader class_ number = some f)
    (value mask : Option (BitVec f.width)) : Option Tlv :=
  value.map fun v => ⟨class_, number, f, known, v, mask⟩

theorem condition_encode (known : Field.ofHeader class_ number = some f)
    (value mask : Option (BitVec f.width)) :
    ifSome (condition known value mask) Tlv.encode =
      encodeWithMask (encodeValue (BitVec.ofNat 8 (f.width / 8)) class_ number)
        (encodeMasked (BitVec.ofNat 8 (2 * (f.width / 8))) class_ number) value mask := by
  cases value with
  | none => rfl
  | some v => cases mask <;> rfl

theorem condition_encode_plain (known : Field.ofHeader class_ number = some f)
    (value : Option (BitVec f.width)) :
    ifSome (condition known value none) Tlv.encode =
      ifSome value (encodeValue (BitVec.ofNat 8 (f.width / 8)) class_ number) := by
  cases value <;> rfl

end Conditions

/-- The mask of a prefix that is shorter than the address. -/
def prefixMask {w : Nat} (toMask : U8 → BitVec w) (full : U8) (prefixLen : Option U8) :
    Option (BitVec w) :=
  (prefixLen.filter (· < full)).map toMask

theorem encodeWithPrefix_eq {w : Nat} (plain : BitVec w → Bytes)
    (masked : BitVec w → BitVec w → Bytes) (toMask : U8 → BitVec w) (full : U8)
    (value : Option (BitVec w)) (prefixLen : Option U8) :
    encodeWithPrefix plain masked toMask full value prefixLen =
      encodeWithMask plain masked value (prefixMask toMask full prefixLen) := by
  cases value with
  | none => rfl
  | some v =>
    cases prefixLen with
    | none => rfl
    | some p =>
      by_cases hp : p < full
      · simp [encodeWithPrefix, encodeWithMask, prefixMask, Option.filter, hp]
      · simp [encodeWithPrefix, encodeWithMask, prefixMask, Option.filter, hp]

/-- A condition of the OpenFlow Basic class. -/
def basicCondition (field : OxmField) {f : Field}
    (known : Field.ofHeader .openflowBasic field.toU8 = some f)
    (value mask : Option (BitVec f.width)) : Option Tlv :=
  condition known value mask

/-- A condition of the extension class. -/
def nxmCondition (field : NxmField) {f : Field}
    (known : Field.ofHeader .nxm1 field.toU8 = some f)
    (value mask : Option (BitVec f.width)) : Option Tlv :=
  condition known value mask

/-- The conditions of a match, present or absent, in the order of its encoding. -/
def Match.conditions (m : Match) : List (Option Tlv) := [
    basicCondition .inPort (f := .part .inPort) rfl m.inPort none,
    basicCondition .inPhyPort (f := .part .inPhyPort) rfl m.inPhyPort none,
    basicCondition .metadata (f := .part .metadata) rfl m.metadata m.metadataMask,
    basicCondition .ethDst (f := .part .ethDst) rfl m.ethDst m.ethDstMask,
    basicCondition .ethSrc (f := .part .ethSrc) rfl m.ethSrc m.ethSrcMask,
    basicCondition .ethType (f := .part .ethType) rfl m.ethType none,
    basicCondition .vlanVid (f := .vlanVid) rfl (m.vlanVid.map (· ||| 0x1000)) none,
    basicCondition .vlanPcp (f := .vlanPcp) rfl m.vlanPcp none,
    basicCondition .ipDscp (f := .part .ipDscp) rfl m.ipDscp none,
    basicCondition .ipEcn (f := .part .ipEcn) rfl m.ipEcn none,
    basicCondition .ipProto (f := .part .ipProto) rfl m.ipProto none,
    basicCondition .ipv4Src (f := .part .ipv4Src) rfl m.ipv4Src
      (prefixMask prefixToMask 32 m.ipv4SrcMask),
    basicCondition .ipv4Dst (f := .part .ipv4Dst) rfl m.ipv4Dst
      (prefixMask prefixToMask 32 m.ipv4DstMask),
    basicCondition .tcpSrc (f := .part .tcpSrc) rfl m.tcpSrc none,
    basicCondition .tcpDst (f := .part .tcpDst) rfl m.tcpDst none,
    basicCondition .udpSrc (f := .part .udpSrc) rfl m.udpSrc none,
    basicCondition .udpDst (f := .part .udpDst) rfl m.udpDst none,
    basicCondition .icmpv4Type (f := .part .icmpType) rfl m.icmpType none,
    basicCondition .icmpv4Code (f := .part .icmpCode) rfl m.icmpCode none,
    basicCondition .icmpv6Type (f := .part .icmpv6Type) rfl m.icmpv6Type none,
    basicCondition .icmpv6Code (f := .part .icmpv6Code) rfl m.icmpv6Code none,
    basicCondition .arpOp (f := .part .arpOp) rfl m.arpOp none,
    basicCondition .arpSpa (f := .part .arpSpa) rfl m.arpSpa none,
    basicCondition .arpTpa (f := .part .arpTpa) rfl m.arpTpa none,
    basicCondition .arpSha (f := .part .arpSha) rfl m.arpSha none,
    basicCondition .arpTha (f := .part .arpTha) rfl m.arpTha none,
    basicCondition .ipv6Src (f := .part .ipv6Src) rfl m.ipv6Src
      (prefixMask prefixToMaskV6 128 m.ipv6SrcMask),
    basicCondition .ipv6Dst (f := .part .ipv6Dst) rfl m.ipv6Dst
      (prefixMask prefixToMaskV6 128 m.ipv6DstMask),
    basicCondition .ipv6Flabel (f := .part .ipv6Flabel) rfl m.ipv6Flabel none,
    nxmCondition .tunId (f := .part .tunnelId) rfl m.tunnelId none,
    nxmCondition .ctState (f := .part .ctState) rfl m.ctState (normCtStateMask m.ctStateMask),
    nxmCondition .ctZone (f := .part .ctZone) rfl m.ctZone none,
    nxmCondition .ctMark (f := .part .ctMark) rfl m.ctMark m.ctMarkMask]

def Match.tlvs (m : Match) : List Tlv := m.conditions.reduceOption

/-- A packet satisfies a match when it satisfies the conditions that its encoding has. -/
def Match.Holds (m : Match) (pkt : Packet) : Prop := ∀ t ∈ m.tlvs, t.Holds pkt

theorem flatMap_reduceOption (os : List (Option Tlv)) :
    os.reduceOption.flatMap Tlv.encode = (os.map (ifSome · Tlv.encode)).flatten := by
  induction os with
  | nil => rfl
  | cons o os ih =>
    cases o with
    | none => simpa [List.reduceOption_cons_of_none] using ih
    | some t => simp [List.reduceOption_cons_of_some, ih]

/-- **The encoding of a match is the row of its conditions.** -/
theorem Match.tlvs_encode (m : Match) : m.tlvs.flatMap Tlv.encode = m.oxmFields := by
  rw [Match.tlvs, flatMap_reduceOption, Match.oxmFields]
  congr 1
  simp only [Match.conditions, List.map_cons, List.map_nil, encodeCtStateCondition_eq, encodeIpv4,
    encodeIpv6Prefix, encodeIpv6_eq, encodeIpv6Masked_eq, encodeWithPrefix_eq, List.cons.injEq]
  exact ⟨condition_encode_plain _ _, condition_encode_plain _ _, condition_encode _ _ _,
    condition_encode _ _ _, condition_encode _ _ _, condition_encode_plain _ _,
    condition_encode_plain _ _, condition_encode_plain _ _, condition_encode_plain _ _,
    condition_encode_plain _ _, condition_encode_plain _ _, condition_encode _ _ _,
    condition_encode _ _ _, condition_encode_plain _ _, condition_encode_plain _ _,
    condition_encode_plain _ _, condition_encode_plain _ _, condition_encode_plain _ _,
    condition_encode_plain _ _, condition_encode_plain _ _, condition_encode_plain _ _,
    condition_encode_plain _ _, condition_encode_plain _ _, condition_encode_plain _ _,
    condition_encode_plain _ _, condition_encode_plain _ _, condition_encode _ _ _,
    condition_encode _ _ _, condition_encode_plain _ _, condition_encode_plain _ _,
    condition_encode _ _ _, condition_encode_plain _ _, condition_encode _ _ _, trivial⟩

/-- **The conditions of a match are what a switch reads from its bytes.** -/
theorem Match.readTlvs_oxmFields (m : Match) : readTlvs m.oxmFields = some m.tlvs := by
  rw [← Match.tlvs_encode, readTlvs_encode]

/-! ### What a match asks of a packet -/

/-- A value, if there is one, is what a field has where the mask is set. -/
def Asks {w : Nat} (value mask : Option (BitVec w)) (x : Option (BitVec w)) : Prop :=
  ∀ v ∈ value, ∃ y, x = some y ∧
    y &&& mask.getD (BitVec.allOnes w) = v &&& mask.getD (BitVec.allOnes w)

section Asks

variable {w : Nat}

@[simp] theorem asks_none (mask x : Option (BitVec w)) : Asks none mask x := fun _ hv => by cases hv

@[simp] theorem asks_plain (v y : BitVec w) : Asks (some v) none (some y) ↔ y = v := by
  simp [Asks]

@[simp] theorem asks_masked (v k y : BitVec w) :
    Asks (some v) (some k) (some y) ↔ y &&& k = v &&& k := by
  simp [Asks]

end Asks

theorem condition_holds {class_ : OxmClass} {number : U8} {f : Field}
    (known : Field.ofHeader class_ number = some f) (value mask : Option (BitVec f.width))
    (pkt : Packet) :
    (∀ t ∈ condition known value mask, t.Holds pkt) ↔ Asks value mask (f.read pkt) := by
  cases value with
  | none => simp [condition]
  | some v => simp [condition, Asks, Tlv.Holds, Tlv.bits]

/-- So a packet satisfies the match exactly if it satisfies them all. -/
theorem Match.holds_conditions (m : Match) (pkt : Packet) :
    m.Holds pkt ↔ ∀ o ∈ m.conditions, ∀ t ∈ o, t.Holds pkt := by
  simp only [Match.Holds, Match.tlvs, List.reduceOption_mem_iff, Option.mem_def]
  constructor
  · intro h o ho t ht
    rw [ht] at ho
    exact h t ho
  · intro h t ht
    exact h _ ht t rfl

theorem conditions_cons {class_ : OxmClass} {number : U8} {f : Field}
    (known : Field.ofHeader class_ number = some f) (value mask : Option (BitVec f.width))
    (os : List (Option Tlv)) (pkt : Packet) :
    (∀ o ∈ condition known value mask :: os, ∀ t ∈ o, t.Holds pkt) ↔
      Asks value mask (f.read pkt) ∧ ∀ o ∈ os, ∀ t ∈ o, t.Holds pkt := by
  rw [List.forall_mem_cons, condition_holds]

/-- **What a match asks of a packet, field by field.** -/
theorem Match.holds_iff (m : Match) (pkt : Packet) : m.Holds pkt ↔
    Asks m.inPort none (some pkt.inPort) ∧
    Asks m.inPhyPort none (some (pkt.part .inPhyPort)) ∧
    Asks m.metadata m.metadataMask (some (pkt.part .metadata)) ∧
    Asks m.ethDst m.ethDstMask (some pkt.ethDst) ∧
    Asks m.ethSrc m.ethSrcMask (some pkt.ethSrc) ∧
    Asks m.ethType none (some pkt.ethType) ∧
    Asks (m.vlanVid.map (· ||| 0x1000)) none (some (vlanWord pkt.vlan)) ∧
    Asks m.vlanPcp none (pkt.vlan.map fun tag => tag.pcp.setWidth 8) ∧
    Asks m.ipDscp none (some ((pkt.part .ipDscp).setWidth 8)) ∧
    Asks m.ipEcn none (some ((pkt.part .ipEcn).setWidth 8)) ∧
    Asks m.ipProto none (some pkt.ipProto) ∧
    Asks m.ipv4Src (prefixMask prefixToMask 32 m.ipv4SrcMask) (some (pkt.part .ipv4Src)) ∧
    Asks m.ipv4Dst (prefixMask prefixToMask 32 m.ipv4DstMask) (some (pkt.part .ipv4Dst)) ∧
    Asks m.tcpSrc none (some (pkt.part .tcpSrc)) ∧
    Asks m.tcpDst none (some pkt.tcpDst) ∧
    Asks m.udpSrc none (some (pkt.part .udpSrc)) ∧
    Asks m.udpDst none (some pkt.udpDst) ∧
    Asks m.icmpType none (some (pkt.part .icmpType)) ∧
    Asks m.icmpCode none (some (pkt.part .icmpCode)) ∧
    Asks m.icmpv6Type none (some (pkt.part .icmpv6Type)) ∧
    Asks m.icmpv6Code none (some (pkt.part .icmpv6Code)) ∧
    Asks m.arpOp none (some (pkt.part .arpOp)) ∧
    Asks m.arpSpa none (some (pkt.part .arpSpa)) ∧
    Asks m.arpTpa none (some (pkt.part .arpTpa)) ∧
    Asks m.arpSha none (some (pkt.part .arpSha)) ∧
    Asks m.arpTha none (some (pkt.part .arpTha)) ∧
    Asks m.ipv6Src (prefixMask prefixToMaskV6 128 m.ipv6SrcMask)
      (some (pkt.part .ipv6Src)) ∧
    Asks m.ipv6Dst (prefixMask prefixToMaskV6 128 m.ipv6DstMask)
      (some (pkt.part .ipv6Dst)) ∧
    Asks m.ipv6Flabel none (some ((pkt.part .ipv6Flabel).setWidth 32)) ∧
    Asks m.tunnelId none (some (pkt.part .tunnelId)) ∧
    Asks m.ctState (normCtStateMask m.ctStateMask) (some pkt.ctState) ∧
    Asks m.ctZone none (some (pkt.part .ctZone)) ∧
    Asks m.ctMark m.ctMarkMask (some (pkt.part .ctMark)) := by
  rw [Match.holds_conditions, Match.conditions]
  iterate 32 apply (conditions_cons _ _ _ _ _).trans (and_congr_right' ?_)
  exact (conditions_cons _ _ _ _ _).trans (and_iff_left (List.forall_mem_nil _))

end Rovs.OpenFlow

import Rovs.MatchDecoding
import Rovs.WordMasks

/-!
# The conditions that decoding retains

`Match::decode_oxm` never refuses a condition that it knows, so a condition that a match cannot
hold comes back wider, narrower or as another one.  `Tlv.Retained` says which conditions come back
with their meaning: for a value that fits its field it holds exactly when the same packets satisfy
the condition and what is kept of it.
-/

namespace Rovs.OpenFlow

/-! ### Retained conditions -/

/-- What a match can hold of the masks of a part. -/
inductive MaskUse where
  /-- no mask -/
  | exact
  /-- the masks of prefixes -/
  | prefixes
  | all
deriving DecidableEq, Repr

def Part.maskUse : Part → MaskUse
  | .metadata | .ethDst | .ethSrc | .ctState | .ctMark => .all
  | .ipv4Src | .ipv4Dst | .ipv6Src | .ipv6Dst => .prefixes
  | _ => .exact

/-- The mask of a prefix: ones, then zeros. -/
def IsPrefixMask {w : Nat} (k : BitVec w) : Prop := ∃ n : Nat, k = BitVec.allOnes w <<< n

/-- A match can hold what the mask says about the part. -/
def Part.Retains (p : Part) (mask : Option (BitVec p.wireWidth)) : Prop :=
  match p.maskUse with
  | .exact => Covers (mask.getD (BitVec.allOnes _)) 0 p.width
  | .prefixes => IsPrefixMask (mask.getD (BitVec.allOnes _))
  | .all => True

/-- The mask leaves nothing of a VLAN id open, and asks nothing of the bits above but that the
    "present" bit is set and the others are not. -/
def VidRetained (v k : U16) : Prop := Covers k 0 12 ∧ present (vidBits v) &&& k = v &&& k

/-- The value is one that the field can have after decoding. -/
def Tlv.Fits : Tlv → Prop
  | ⟨_, _, .part p, _, v, _⟩ => v.toNat < 2 ^ p.width
  | ⟨_, _, .vlanPcp, _, v, _⟩ => v.toNat < 8
  | ⟨_, _, .vlanTci, _, v, _⟩ => v.toNat < 0x2000
  | _ => True

/-- The condition comes back with its meaning, beside the others of its row. -/
def Tlv.Retained (ts : List Tlv) : Tlv → Prop
  | ⟨_, _, .part p, _, _, mask⟩ => p.Retains mask
  | ⟨_, _, .vlanVid, _, v, mask⟩ =>
    let k := mask.getD (BitVec.allOnes _)
    VidRetained v k ∧ (v &&& k ≠ 0 ∨ ∃ u ∈ ts, u.field = .vlanPcp)
  | ⟨_, _, .vlanPcp, _, _, mask⟩ => Covers (mask.getD (BitVec.allOnes _)) 0 3
  | ⟨_, _, .vlanTci, _, v, mask⟩ =>
    let k := mask.getD (BitVec.allOnes _)
    VidRetained v k ∧ v &&& k ≠ 0 ∧ k >>> 13 = 0
  | ⟨_, _, .ofp10InPort, _, v, mask⟩ =>
    mask.getD (BitVec.allOnes _) = BitVec.allOnes _ ∧ v.toNat < 0xff00
  | ⟨_, _, .ipTos, _, v, mask⟩ =>
    let k := mask.getD (BitVec.allOnes _)
    Covers k 2 6 ∧ v &&& k &&& 3 = 0

/-! ### Masks of parts -/

section Masks

variable {w : Nat}

theorem leadingOnesFrom_le (k : BitVec w) (n : Nat) : leadingOnesFrom k n ≤ n := by
  induction n with
  | zero => exact Nat.le_refl 0
  | succ n ih =>
    rw [leadingOnesFrom]
    split
    · omega
    · omega

theorem isPrefixMask_iff (k : BitVec w) :
    IsPrefixMask k ↔ k = BitVec.allOnes w <<< (w - leadingOnes k) := by
  constructor
  case mp =>
    rintro ⟨n, hk⟩
    have hones : leadingOnes k = w - n := by
      rw [hk, leadingOnes, leadingOnesFrom_allOnes_shiftLeft w n w (Nat.le_refl w)]
    rcases Nat.le_total n w with hle | hge
    · rw [hones, Nat.sub_sub_self hle]
      exact hk
    · have hzero : w - leadingOnes k = w := by omega
      rw [hzero, hk, BitVec.shiftLeft_eq_zero hge, BitVec.shiftLeft_eq_zero (Nat.le_refl w)]
  case mpr => exact fun hk => ⟨_, hk⟩

instance (k : BitVec w) : Decidable (IsPrefixMask k) := decidable_of_iff' _ (isPrefixMask_iff k)

/-- What is kept of a mask of addresses is the prefix that it starts with. -/
theorem prefixMask_getD {toMask : U8 → BitVec w} {full : U8} (hfull : full.toNat = w)
    (htoMask : ∀ p < full, toMask p = BitVec.allOnes w <<< (w - p.toNat))
    (mask : Option (BitVec w)) :
    (prefixMask toMask full (some ((mask.map maskToPrefix).getD full))).getD (BitVec.allOnes w) =
      BitVec.allOnes w <<< (w - leadingOnes (mask.getD (BitVec.allOnes w))) := by
  cases mask with
  | none =>
    have hones := leadingOnes_allOnes_shiftLeft (Nat.le_refl w)
    rw [Nat.sub_self, BitVec.shiftLeft_zero] at hones
    simp [prefixMask, Option.filter, hones]
  | some k =>
    have hle : leadingOnes k ≤ w := leadingOnesFrom_le k w
    have hsmall : (maskToPrefix k).toNat = leadingOnes k := by
      have hlt := full.isLt
      rw [maskToPrefix, BitVec.toNat_ofNat]
      omega
    by_cases hlt : maskToPrefix k < full
    · simp [prefixMask, Option.filter, hlt, htoMask _ hlt, hsmall]
    · have heq : leadingOnes k = w := by
        rw [BitVec.lt_def] at hlt
        omega
      simp [prefixMask, Option.filter, hlt, heq]

theorem normCtStateMask_getD (mask : Option U32) :
    (normCtStateMask mask).getD (BitVec.allOnes 32) = mask.getD (BitVec.allOnes 32) := by
  by_cases h : mask = some 0xffffffff
  · rw [h]
    rfl
  · rw [normCtStateMask, if_neg h]

end Masks

section Parts

theorem prefixToMask_eq : ∀ p < (32 : U8),
    prefixToMask p = BitVec.allOnes 32 <<< (32 - p.toNat) := by
  intro p hp
  rw [prefixToMask]
  split
  · next hzero => rw [hzero]; rfl
  · rw [if_neg (by bv_omega)]
    rfl

theorem prefixToMaskV6_eq : ∀ p < (128 : U8),
    prefixToMaskV6 p = BitVec.allOnes 128 <<< (128 - p.toNat) := by
  intro p hp
  rw [prefixToMaskV6]
  split
  · next hzero => rw [hzero]; rfl
  · rw [if_neg (by bv_omega)]

theorem shift_lt (v : U8) : (v >>> 2).toNat < 2 ^ 6 := by
  have hlt := v.isLt
  rw [BitVec.toNat_ushiftRight, Nat.shiftRight_eq_div_pow]
  omega

theorem Part.width_le (p : Part) : p.width ≤ p.wireWidth := by
  cases p <;> decide

instance Part.decidableRetains (p : Part) (mask : Option (BitVec p.wireWidth)) :
    Decidable (p.Retains mask) :=
  match h : p.maskUse with
  | .exact => decidable_of_iff (Covers (mask.getD (BitVec.allOnes _)) 0 p.width)
      (by rw [Part.Retains, h])
  | .prefixes => decidable_of_iff (IsPrefixMask (mask.getD (BitVec.allOnes _)))
      (by rw [Part.Retains, h])
  | .all => isTrue (by rw [Part.Retains, h]; trivial)

instance (t : Tlv) : Decidable t.Fits :=
  match t with
  | ⟨_, _, .part p, _, v, _⟩ => inferInstanceAs (Decidable (v.toNat < 2 ^ p.width))
  | ⟨_, _, .vlanPcp, _, v, _⟩ => inferInstanceAs (Decidable (v.toNat < 8))
  | ⟨_, _, .vlanTci, _, v, _⟩ => inferInstanceAs (Decidable (v.toNat < 0x2000))
  | ⟨_, _, .vlanVid, _, _, _⟩ | ⟨_, _, .ofp10InPort, _, _, _⟩ | ⟨_, _, .ipTos, _, _, _⟩ =>
    isTrue trivial

instance VidRetained.decidable (v k : U16) : Decidable (VidRetained v k) :=
  inferInstanceAs (Decidable (_ ∧ _))

instance (ts : List Tlv) (t : Tlv) : Decidable (t.Retained ts) :=
  match t with
  | ⟨_, _, .part p, _, _, mask⟩ => p.decidableRetains mask
  | ⟨_, _, .vlanVid, _, v, mask⟩ =>
    @instDecidableAnd _ _ (VidRetained.decidable v (mask.getD (BitVec.allOnes _)))
      (inferInstanceAs (Decidable (¬ _ = _ ∨ _)))
  | ⟨_, _, .vlanPcp, _, _, _⟩ => inferInstanceAs (Decidable (Covers _ _ _))
  | ⟨_, _, .vlanTci, _, v, mask⟩ =>
    @instDecidableAnd _ _ (VidRetained.decidable v (mask.getD (BitVec.allOnes _)))
      (inferInstanceAs (Decidable (¬ _ = _ ∧ _ = _)))
  | ⟨_, _, .ofp10InPort, _, _, _⟩ => inferInstanceAs (Decidable (_ = _ ∧ _ < _))
  | ⟨_, _, .ipTos, _, _, _⟩ => inferInstanceAs (Decidable (Covers _ _ _ ∧ _ = _))

section Retains

variable {p : Part} {mask : Option (BitVec p.wireWidth)}

theorem Part.retains_exact (huse : p.maskUse = .exact) (hkept : p.keptMask mask = none) :
    p.Retains mask ↔ ∀ j < p.width, (mask.getD (BitVec.allOnes _)).getLsbD j =
      ((p.keptMask mask).getD (BitVec.allOnes _)).getLsbD j := by
  rw [Retains, huse, hkept, covers_iff]
  apply forall_congr'
  intro j
  apply forall_congr'
  intro hj
  have hlt : j < p.wireWidth := Nat.lt_of_lt_of_le hj p.width_le
  simp [hlt]

theorem Part.retains_prefix (huse : p.maskUse = .prefixes) (hwidth : p.width = p.wireWidth)
    (hkept : (p.keptMask mask).getD (BitVec.allOnes _) =
      BitVec.allOnes _ <<< (p.wireWidth - leadingOnes (mask.getD (BitVec.allOnes _)))) :
    p.Retains mask ↔ ∀ j < p.width, (mask.getD (BitVec.allOnes _)).getLsbD j =
      ((p.keptMask mask).getD (BitVec.allOnes _)).getLsbD j := by
  rw [Retains, huse, hkept, hwidth]
  refine (isPrefixMask_iff _).trans ?_
  constructor
  · intro h j _
    exact congrArg (fun k => k.getLsbD j) h
  · exact BitVec.eq_of_getLsbD_eq

end Retains

/-- The kept mask sees the same of a part as the mask itself exactly when the mask is retained. -/
theorem Part.retains_iff (p : Part) (mask : Option (BitVec p.wireWidth)) :
    p.Retains mask ↔ ∀ j < p.width, (mask.getD (BitVec.allOnes _)).getLsbD j =
      ((p.keptMask mask).getD (BitVec.allOnes _)).getLsbD j := by
  cases p with
  | metadata | ethDst | ethSrc | ctMark => exact ⟨fun _ _ _ => rfl, fun _ => trivial⟩
  | ctState =>
    have hkept : (Part.keptMask .ctState mask).getD (BitVec.allOnes _) =
        mask.getD (BitVec.allOnes _) := normCtStateMask_getD mask
    rw [hkept]
    exact ⟨fun _ _ _ => rfl, fun _ => trivial⟩
  | ipv4Src | ipv4Dst =>
    exact Part.retains_prefix rfl rfl (prefixMask_getD (w := 32) (by decide) prefixToMask_eq mask)
  | ipv6Src | ipv6Dst =>
    exact Part.retains_prefix rfl rfl
      (prefixMask_getD (w := 128) (by decide) prefixToMaskV6_eq mask)
  | _ => exact Part.retains_exact rfl rfl

end Parts

/-! ### VLAN ids -/

section Vid

variable (v : U16)

theorem getLsbD_present {i : Nat} (hi : i < 16) :
    (present v).getLsbD i = (v.getLsbD i || decide (i = 12)) := by
  have hbit : ∀ i < 16, (0x1000 : U16).getLsbD i = decide (i = 12) := by decide
  rw [present, BitVec.getLsbD_or, hbit i hi]

theorem getLsbD_vidBits {i : Nat} (hi : i < 16) :
    (vidBits v).getLsbD i = (v.getLsbD i && decide (i < 12)) := by
  have hbit : ∀ i < 16, (0x0fff : U16).getLsbD i = decide (i < 12) := by decide
  rw [vidBits, BitVec.getLsbD_and, hbit i hi]

theorem getLsbD_vid (vid : BitVec 12) {i : Nat} (hi : i < 16) :
    (present (vid.setWidth 16)).getLsbD i = (vid.getLsbD i || decide (i = 12)) := by
  rw [getLsbD_present _ hi, BitVec.getLsbD_setWidth, decide_eq_true hi, Bool.true_and]

theorem present_vid : present ((v.setWidth 12).setWidth 16) = present (vidBits v) := by
  apply BitVec.eq_of_getLsbD_eq
  intro i hi
  rw [getLsbD_vid _ hi, getLsbD_present _ hi, getLsbD_vidBits _ hi, BitVec.getLsbD_setWidth,
    Bool.and_comm]

theorem present_vidBits (h : v.toNat < 0x2000) : present (vidBits v) = present v := by
  apply BitVec.eq_of_getLsbD_eq
  intro i hi
  rw [getLsbD_present _ hi, getLsbD_present _ hi, getLsbD_vidBits _ hi]
  by_cases hlow : i < 12
  · simp [hlow]
  · by_cases htwelve : i = 12
    · simp [htwelve]
    · have hbit : v.getLsbD i = false := getLsbD_of_lt (m := 13) h (by omega)
      simp [hbit]

end Vid

theorem vlanWord_lt (vlan : Option VlanTag) : (vlanWord vlan).toNat < 0x2000 := by
  cases vlan with
  | none => decide
  | some tag =>
    apply lt_of_getLsbD (m := 13)
    intro i hi
    rcases Nat.lt_or_ge i 16 with hlt | hge
    · have htwelve : ¬ i = 12 := by omega
      have hbit := getLsbD_vid tag.vid hlt
      rwa [BitVec.getLsbD_of_ge tag.vid i (by omega), decide_eq_false htwelve] at hbit
    · exact BitVec.getLsbD_of_ge _ _ hge

theorem lt_of_present {v : U16} (h : (present v).toNat < 0x2000) : v.toNat < 0x2000 := by
  apply lt_of_getLsbD (m := 13)
  intro i hi
  rcases Nat.lt_or_ge i 16 with hlt | hge
  · have hbit := getLsbD_present v hlt
    rw [getLsbD_of_lt (m := 13) h hi] at hbit
    exact (Bool.or_eq_false_iff.mp hbit.symm).1
  · exact BitVec.getLsbD_of_ge _ _ hge

section VidMask

variable {v k : U16}

theorem embeds_vid : Embeds (fun vid : BitVec 12 => present (vid.setWidth 16)) 0 := by
  have hzero : ∀ j < 12, (0x1000 : U16).getLsbD (0 + j) = false := by decide
  have hembeds := embeds_shiftLeft (by decide) hzero
  have heq : (fun vid : BitVec 12 => present (vid.setWidth 16)) =
      fun vid : BitVec 12 => (0x1000 : U16) ||| vid.setWidth 16 <<< 0 := by
    funext vid
    rw [present, BitVec.shiftLeft_zero, BitVec.or_comm]
  rwa [heq]

@[simp] theorem vlanWord_none : vlanWord none = 0 := rfl

@[simp] theorem vlanWord_some (tag : VlanTag) :
    vlanWord (some tag) = present (tag.vid.setWidth 16) := rfl

theorem vlanWord_eq_iff (vlan : Option VlanTag) :
    vlanWord vlan = present (vidBits v) ↔ vlan.map VlanTag.vid = some (v.setWidth 12) := by
  rw [← present_vid]
  cases vlan with
  | none =>
    have hbit : (0 : U16) ≠ present ((v.setWidth 12).setWidth 16) := by
      intro h
      have htwelve := congrArg (fun x => x.getLsbD 12) h
      rw [getLsbD_vid _ (by decide)] at htwelve
      simp at htwelve
    simpa using hbit
  | some tag => simpa using embeds_vid.injective.eq_iff

theorem vidRetained_iff : VidRetained v k ↔
    ∀ vid : BitVec 12, present (vid.setWidth 16) &&& k = v &&& k ↔ vid = v.setWidth 12 := by
  have hpins := embeds_vid.pins_iff (v.setWidth 12) k
  rw [present_vid] at hpins
  constructor
  case mp =>
    rintro ⟨hcovers, heq⟩ vid
    constructor
    case mp => exact fun h => hpins.mpr hcovers vid (h.trans heq.symm)
    case mpr =>
      rintro rfl
      rwa [present_vid]
  case mpr =>
    intro h
    have heq : present (vidBits v) &&& k = v &&& k := by
      rw [← present_vid]
      exact (h _).mpr rfl
    exact ⟨hpins.mp fun vid hvid => (h vid).mp (hvid.trans heq), heq⟩

/-- What a mask of VLAN words asks, when it asks for the id and nothing else. -/
theorem vidRetained_words (P : Prop) : VidRetained v k ∧ (v &&& k ≠ 0 ∨ P) ↔
    ∀ vlan : Option VlanTag, (P → vlan.isSome = true) →
      (vlanWord vlan &&& k = v &&& k ↔ vlanWord vlan = present (vidBits v)) := by
  rw [vidRetained_iff]
  constructor
  case mp =>
    rintro ⟨hvid, hne⟩ vlan htagged
    rw [vlanWord_eq_iff]
    cases vlan with
    | none =>
      rcases hne with hne | hP
      · simpa using hne.symm
      · cases htagged hP
    | some tag => simpa using hvid tag.vid
  case mpr =>
    intro h
    constructor
    · intro vid
      have htag := h (some ⟨0, vid⟩) fun _ => rfl
      rw [vlanWord_eq_iff] at htag
      simpa using htag
    · by_contra hnone
      rw [not_or, not_not] at hnone
      have huntagged := h none fun hP => absurd hP hnone.2
      rw [vlanWord_eq_iff] at huntagged
      simp [hnone.1] at huntagged

end VidMask

section Tci

variable {base k : U16}

theorem embeds_pcp (hbase : base.toNat < 0x2000) :
    Embeds (fun pcp : BitVec 3 => base ||| pcp.setWidth 16 <<< 13) 13 :=
  embeds_shiftLeft (by decide) fun j _ => getLsbD_of_lt (m := 13) hbase (by omega)

/-- The mask is open where the priority is. -/
theorem open_iff (hbase : base.toNat < 0x2000) : k >>> 13 = 0 ↔
    ∀ pcp : BitVec 3, (base ||| pcp.setWidth 16 <<< 13) &&& k = base &&& k := by
  have hsame := (embeds_pcp hbase).same_iff 0 k 0
  have hzero : base ||| (0 : BitVec 3).setWidth 16 <<< 13 = base := by simp
  have hbits : k >>> 13 = 0 ↔ ∀ j < 3, k.getLsbD (13 + j) = (0 : U16).getLsbD (13 + j) := by
    constructor
    case mp =>
      intro h j _
      have hbit := congrArg (fun x => x.getLsbD j) h
      simpa using hbit
    case mpr =>
      intro h
      apply BitVec.eq_of_getLsbD_eq
      intro j _
      rw [BitVec.getLsbD_ushiftRight]
      rcases Nat.lt_or_ge j 3 with hlt | hge
      · simpa using h j hlt
      · rw [BitVec.getLsbD_of_ge k _ (by omega)]
        simp
  rw [hbits, ← hsame, hzero]
  simp

end Tci

/-! ### Conditions -/

section Words

/-- A part, on the wire. -/
theorem retained_part {p : Part} {v : BitVec p.wireWidth} (mask : Option (BitVec p.wireWidth))
    (hfits : v.toNat < 2 ^ p.width) : p.Retains mask ↔ ∀ x : BitVec p.width,
      x.setWidth p.wireWidth &&& mask.getD (BitVec.allOnes _) =
          v &&& mask.getD (BitVec.allOnes _) ↔
        x.setWidth p.wireWidth &&& (p.keptMask mask).getD (BitVec.allOnes _) =
          v &&& (p.keptMask mask).getD (BitVec.allOnes _) := by
  have hsame := (embeds_setWidth p.width_le).same_iff (v.setWidth p.width)
    (mask.getD (BitVec.allOnes _)) ((p.keptMask mask).getD (BitVec.allOnes _))
  simp only [setWidth_back hfits, Nat.zero_add] at hsame
  rw [p.retains_iff, hsame]

theorem retained_pcp {v : U8} (k : U8) (hfits : v.toNat < 8) :
    Covers k 0 3 ↔ ∀ pcp : BitVec 3, pcp.setWidth 8 &&& k = v &&& k ↔ pcp.setWidth 8 = v := by
  have hselects := (embeds_setWidth (by decide : 3 ≤ 8)).selects_iff (v.setWidth 3) k
  have hback : (v.setWidth 3).setWidth 8 = v := setWidth_back hfits
  rw [hback] at hselects
  exact hselects.symm

/-- The tag as the OpenFlow 1.0 class of Nicira reads it. -/
def tciWord (vlan : Option VlanTag) : U16 :=
  vlanWord vlan ||| (vlan.elim 0 fun tag => tag.pcp.setWidth 16) <<< 13

theorem retained_tci {v : U16} (k : U16) (hfits : v.toNat < 0x2000) :
    VidRetained v k ∧ v &&& k ≠ 0 ∧ k >>> 13 = 0 ↔
      ∀ vlan, tciWord vlan &&& k = v &&& k ↔ vlanWord vlan = present v := by
  have hwords := vidRetained_words (v := v) (k := k) False
  simp only [or_false, false_imp_iff, true_imp_iff, present_vidBits v hfits] at hwords
  rw [← and_assoc, hwords]
  have hopen (vid : BitVec 12) :
      k >>> 13 = 0 ↔ ∀ pcp : BitVec 3, tciWord (some ⟨pcp, vid⟩) &&& k =
        vlanWord (some ⟨0, vid⟩) &&& k := open_iff (vlanWord_lt (some ⟨0, vid⟩))
  have hword (hzero : k >>> 13 = 0) (vlan : Option VlanTag) :
      tciWord vlan &&& k = vlanWord vlan &&& k := by
    cases vlan with
    | none => rfl
    | some tag => exact (hopen tag.vid).mp hzero tag.pcp
  constructor
  case mp =>
    rintro ⟨hwords, hzero⟩ vlan
    rw [hword hzero]
    exact hwords vlan
  case mpr =>
    intro h
    have hvid : vlanWord (some ⟨0, v.setWidth 12⟩) = present v := by
      rw [← present_vidBits v hfits, vlanWord_eq_iff]
      rfl
    have hzero : k >>> 13 = 0 := by
      apply (hopen (v.setWidth 12)).mpr
      intro pcp
      have hpcp := (h (some ⟨pcp, v.setWidth 12⟩)).mpr hvid
      have hplain := (h (some ⟨0, v.setWidth 12⟩)).mpr hvid
      have hsame : tciWord (some ⟨0, v.setWidth 12⟩) = vlanWord (some ⟨0, v.setWidth 12⟩) := by
        simp [tciWord]
      rw [hpcp, ← hplain, hsame]
    refine ⟨fun vlan => ?_, hzero⟩
    rw [← hword hzero]
    exact h vlan

theorem embeds_tos : Embeds (fun dscp : BitVec 6 => dscp.setWidth 8 <<< 2) 2 := by
  have hzero : ∀ j < 6, (0 : U8).getLsbD (2 + j) = false := by decide
  have hplain := embeds_shiftLeft (by decide) hzero
  simpa using hplain

theorem retained_tos (v k : U8) : Covers k 2 6 ∧ v &&& k &&& 3 = 0 ↔
    ∀ dscp : BitVec 6, dscp.setWidth 8 <<< 2 &&& k = v &&& k ↔ dscp.setWidth 8 = v >>> 2 := by
  have hlow : ∀ y : U8, y &&& 0xfc = y ↔ y &&& 3 = 0 := by decide
  have hshift : ∀ y : U8, y >>> 2 <<< 2 = y &&& 0xfc := by decide
  have hback : ((v >>> 2).setWidth 6).setWidth 8 = v >>> 2 := setWidth_back (shift_lt v)
  have hpins := embeds_tos.pins_iff ((v >>> 2).setWidth 6) k
  have hdscp (dscp : BitVec 6) : dscp.setWidth 8 = v >>> 2 ↔ dscp = (v >>> 2).setWidth 6 := by
    have hinjective := (embeds_setWidth (by decide : 6 ≤ 8)).injective.eq_iff
      (a := dscp) (b := (v >>> 2).setWidth 6)
    rwa [hback] at hinjective
  have hself : v >>> 2 <<< 2 &&& k = v &&& k ↔ v &&& k &&& 3 = 0 := by
    rw [hshift, BitVec.and_assoc, BitVec.and_comm _ k, ← BitVec.and_assoc, hlow]
  rw [hback] at hpins
  rw [← hpins, ← hself]
  simp only [hdscp]
  constructor
  case mp =>
    rintro ⟨hall, heq⟩ dscp
    rw [← heq]
    refine ⟨hall dscp, ?_⟩
    rintro rfl
    rw [hback]
  case mpr =>
    intro h
    have heq := (h _).mpr rfl
    rw [hback] at heq
    exact ⟨fun dscp hsame => (h dscp).mp (hsame.trans heq), heq⟩

theorem ofp10Port_iff {v : U16} (hv : v.toNat < 0xff00) (port : U32) :
    ofp10Port port = some v ↔ port = v.setWidth 32 := by
  have hlt := v.isLt
  constructor
  case mp =>
    intro h
    rw [ofp10Port] at h
    split at h
    · next hport =>
      have hvalue : port.toNat % 2 ^ 16 = v.toNat := by
        rw [← BitVec.toNat_setWidth, Option.some.inj h]
      rw [BitVec.lt_def, BitVec.le_def] at hport
      apply BitVec.eq_of_toNat_eq
      rw [BitVec.toNat_setWidth]
      simp at hport
      omega
    · cases h
  case mpr =>
    rintro rfl
    have hsmall : v.setWidth 32 < (0xff00 : U32) := by
      rw [BitVec.lt_def, BitVec.toNat_setWidth]
      simp
      omega
    rw [ofp10Port, if_pos (.inl hsmall)]
    simp

theorem ofp10Port_lt {v x : U16} (h : ofp10Port (v.setWidth 32) = some x) : v.toNat < 0xff00 := by
  have hlt := v.isLt
  rw [ofp10Port] at h
  split at h
  · next hport =>
    rw [BitVec.lt_def, BitVec.le_def, BitVec.toNat_setWidth] at hport
    simp at hport
    omega
  · cases h

/-- Every number of OpenFlow 1.0 is a port's. -/
theorem exists_ofp10Port (x : U16) : ∃ port, ofp10Port port = some x := by
  have hlt := x.isLt
  rcases Nat.lt_or_ge x.toNat 0xff00 with hsmall | hlarge
  · exact ⟨_, (ofp10Port_iff hsmall _).mpr rfl⟩
  · refine ⟨BitVec.ofNat 32 (0xffff0000 + x.toNat), ?_⟩
    have hport : (0xffffff00 : U32) ≤ BitVec.ofNat 32 (0xffff0000 + x.toNat) := by
      rw [BitVec.le_def, BitVec.toNat_ofNat]
      simp
      omega
    rw [ofp10Port, if_pos (.inr hport), Option.some.injEq]
    apply BitVec.eq_of_toNat_eq
    rw [BitVec.toNat_setWidth, BitVec.toNat_ofNat]
    omega

theorem retained_port (v k : U16) : k = BitVec.allOnes 16 ∧ v.toNat < 0xff00 ↔
    ∀ port, (∃ x, ofp10Port port = some x ∧ x &&& k = v &&& k) ↔ port = v.setWidth 32 := by
  constructor
  case mp =>
    rintro ⟨rfl, hv⟩ port
    rw [← ofp10Port_iff hv]
    simp only [BitVec.and_allOnes, exists_eq_right]
  case mpr =>
    intro h
    rcases (h (v.setWidth 32)).mpr rfl with ⟨x, hx, -⟩
    have hv := ofp10Port_lt hx
    have hpins := (embeds_setWidth (Nat.le_refl 16)).pins_iff v k
    simp only [BitVec.setWidth_eq] at hpins
    have hcovers : Covers k 0 16 := by
      apply hpins.mp
      intro y hy
      rcases exists_ofp10Port y with ⟨port, hport⟩
      have heq := (h port).mp ⟨y, hport, hy⟩
      rw [(ofp10Port_iff hv port).mpr heq] at hport
      exact (Option.some.inj hport).symm
    refine ⟨?_, hv⟩
    simpa [Covers] using hcovers

end Words

section Retained

theorem forall_part {p : Part} (P : BitVec p.width → Prop) :
    (∀ pkt : Packet, P (pkt.part p)) ↔ ∀ x, P x := by
  constructor
  case mp =>
    intro h x
    have hput := h ((⟨fun _ => 0, none⟩ : Packet).put p x)
    rwa [Packet.put_part_self] at hput
  case mpr => exact fun h pkt => h _

theorem forall_vlan (P : Option VlanTag → Prop) :
    (∀ pkt : Packet, P pkt.vlan) ↔ ∀ vlan, P vlan :=
  ⟨fun h vlan => h ⟨fun _ => 0, vlan⟩, fun h _ => h _⟩

theorem Tlv.holds_of_read {t : Tlv} {pkt : Packet} {x : BitVec t.field.width}
    (h : t.field.read pkt = some x) : t.Holds pkt ↔ x &&& t.bits = t.value &&& t.bits := by
  simp [Tlv.Holds, h]

theorem Tlv.holds_plain {t : Tlv} {pkt : Packet} {x : BitVec t.field.width}
    (h : t.field.read pkt = some x) (hmask : t.mask = none) : t.Holds pkt ↔ x = t.value := by
  rw [Tlv.holds_of_read h, Tlv.bits, hmask, Option.getD_none, BitVec.and_allOnes,
    BitVec.and_allOnes]

theorem Tlv.not_holds_of_read {t : Tlv} {pkt : Packet} (h : t.field.read pkt = none) :
    ¬ t.Holds pkt := by
  rintro ⟨x, hx, -⟩
  rw [h] at hx
  cases hx

theorem part_holds {class_ : OxmClass} {number : U8} {p : Part}
    (known : Field.ofHeader class_ number = some (.part p)) (v : BitVec p.wireWidth)
    (mask : Option (BitVec p.wireWidth)) (pkt : Packet) :
    Tlv.Holds ⟨class_, number, .part p, known, v, mask⟩ pkt ↔
      (pkt.part p).setWidth p.wireWidth &&& mask.getD (BitVec.allOnes _) =
        v &&& mask.getD (BitVec.allOnes _) :=
  Tlv.holds_of_read rfl

theorem read_pcp {pkt : Packet} {vlan : Option VlanTag} (h : pkt.vlan = vlan) :
    Field.read pkt .vlanPcp = vlan.map fun tag => tag.pcp.setWidth 8 := by
  rw [Field.read, h]
  rfl

/-- The packet has a tag where the row asks for a priority beside a VLAN id. -/
def Tlv.Tagged (ts : List Tlv) (t : Tlv) (pkt : Packet) : Prop :=
  t.field = .vlanVid → (∃ u ∈ ts, u.field = .vlanPcp) → pkt.vlan.isSome = true

/-- **A condition whose value fits is retained exactly when the same packets satisfy what is kept
    of it.** -/
theorem Tlv.retained_iff {t : Tlv} (ts : List Tlv) (hfits : t.Fits) :
    t.Retained ts ↔ ∀ pkt, t.Tagged ts pkt → (t.Holds pkt ↔ t.kept.Holds pkt) := by
  rcases t with ⟨class_, number, f, known, v, mask⟩
  have hall {pkt : Packet} {P : Prop} (h : f ≠ .vlanVid) :
      (Tlv.Tagged ts ⟨class_, number, f, known, v, mask⟩ pkt → P) ↔ P :=
    ⟨fun hP => hP fun hf => absurd hf h, fun hP _ => hP⟩
  have hholds {pkt : Packet} {x : BitVec f.width} (hread : f.read pkt = some x) :
      Tlv.Holds ⟨class_, number, f, known, v, mask⟩ pkt ↔
        x &&& mask.getD (BitVec.allOnes _) = v &&& mask.getD (BitVec.allOnes _) :=
    Tlv.holds_of_read hread
  cases f with
  | part p =>
    refine (retained_part mask hfits).trans ((forall_part _).symm.trans ?_)
    apply forall_congr'
    intro pkt
    rw [hall (by simp)]
    exact iff_congr (part_holds known v mask pkt).symm
      (part_holds p.known v (p.keptMask mask) pkt).symm
  | vlanVid =>
    have hkept (pkt : Packet) : Tlv.Holds (Tlv.kept ⟨class_, number, .vlanVid, known, v, mask⟩)
        pkt ↔ vlanWord pkt.vlan = present (vidBits v) := Tlv.holds_plain rfl rfl
    refine (vidRetained_words _).trans ((forall_vlan _).symm.trans ?_)
    apply forall_congr'
    intro pkt
    rw [hholds rfl, hkept]
    exact ⟨fun h htagged => h (htagged rfl), fun h htagged => h fun _ => htagged⟩
  | vlanPcp =>
    have hkept {pkt : Packet} {tag : VlanTag} (htag : pkt.vlan = some tag) :
        Tlv.Holds (Tlv.kept ⟨class_, number, .vlanPcp, known, v, mask⟩) pkt ↔
          tag.pcp.setWidth 8 = v :=
      Tlv.holds_plain (read_pcp htag) rfl
    refine (retained_pcp _ hfits).trans ?_
    constructor
    case mp =>
      intro h pkt _
      rcases hvlan : pkt.vlan with _ | tag
      · have hread : Field.read pkt .vlanPcp = none := read_pcp hvlan
        exact iff_of_false (Tlv.not_holds_of_read hread) (Tlv.not_holds_of_read hread)
      · rw [hholds (read_pcp hvlan), hkept hvlan]
        exact h tag.pcp
    case mpr =>
      intro h pcp
      have hpkt := h ⟨fun _ => 0, some ⟨pcp, 0⟩⟩
      rwa [hall (by simp), hholds rfl, hkept rfl] at hpkt
  | vlanTci =>
    have hkept (pkt : Packet) : Tlv.Holds (Tlv.kept ⟨class_, number, .vlanTci, known, v, mask⟩)
        pkt ↔ vlanWord pkt.vlan = present v := Tlv.holds_plain rfl rfl
    refine (retained_tci _ hfits).trans ((forall_vlan _).symm.trans ?_)
    apply forall_congr'
    intro pkt
    rw [hall (by simp), hholds rfl, hkept]
    rfl
  | ofp10InPort =>
    have hkept (pkt : Packet) : Tlv.Holds (Tlv.kept ⟨class_, number, .ofp10InPort, known, v, mask⟩)
        pkt ↔ pkt.part .inPort = BitVec.setWidth 32 v := by
      have hself : BitVec.setWidth 32 (pkt.part .inPort) = pkt.part .inPort :=
        BitVec.setWidth_eq _
      rw [← hself]
      exact Tlv.holds_plain rfl rfl
    refine (retained_port _ _).trans ((forall_part (p := .inPort) _).symm.trans ?_)
    apply forall_congr'
    intro pkt
    rw [hall (by simp), hkept]
    rfl
  | ipTos =>
    have hkept (pkt : Packet) : Tlv.Holds (Tlv.kept ⟨class_, number, .ipTos, known, v, mask⟩)
        pkt ↔ (pkt.part .ipDscp).setWidth 8 = v >>> 2 := Tlv.holds_plain rfl rfl
    refine (retained_tos _ _).trans ((forall_part (p := .ipDscp) _).symm.trans ?_)
    apply forall_congr'
    intro pkt
    rw [hall (by simp), hholds rfl, hkept]
    rfl

end Retained

end Rovs.OpenFlow

import Rovs.MatchRetention

/-!
# Masked addresses

A condition on a network is canonical when the address has no bit outside the mask.  The helper
`encode_ipv4_prefix` clears such bits before it writes an address; `Match::encode` has its own
copy for each of the four address fields and writes the address as it is.

`Match.canonicalMasks_iff` is the main result: the address alone decides, since the mask that
is written always is that of the prefix.
-/

namespace Rovs.OpenFlow

/-- `oxm::encode_ipv4_prefix`. -/
def encodeIpv4Subnet (field : OxmField) (addr : U32) (prefixLen : U8) : Bytes :=
  let mask := prefixToMask prefixLen
  encodeU32Masked .openflowBasic field.toU8 (addr &&& mask) mask

/-! ### Networks -/

section Networks

variable {w : Nat}

theorem and_not_eq_zero_iff (a k : BitVec w) : a &&& ~~~k = 0#w ↔ a &&& k = a := by
  rw [BitVec.eq_of_getLsbD_eq_iff, BitVec.eq_of_getLsbD_eq_iff]
  apply forall_congr'
  intro i
  apply forall_congr'
  intro hi
  rw [BitVec.getLsbD_and, BitVec.getLsbD_not, decide_eq_true hi, Bool.true_and,
    BitVec.getLsbD_zero, BitVec.getLsbD_and]
  cases a.getLsbD i <;> cases k.getLsbD i <;> decide

/-- An address lies in the mask of a prefix exactly if its host part is zero. -/
theorem and_not_shiftLeft_eq_zero_iff (a : BitVec w) (n : Nat) :
    a &&& ~~~(BitVec.allOnes w <<< n) = 0#w ↔ 2 ^ n ∣ a.toNat := by
  have hbits : 2 ^ n ∣ a.toNat ↔ ∀ i < n, a.getLsbD i = false := by
    rw [Nat.dvd_iff_mod_eq_zero]
    constructor
    · intro h i hi
      have hbit := congrArg (fun x => x.testBit i) h
      rwa [Nat.testBit_mod_two_pow, decide_eq_true hi, Bool.true_and, Nat.zero_testBit] at hbit
    · intro h
      apply Nat.eq_of_testBit_eq
      intro i
      rw [Nat.testBit_mod_two_pow, Nat.zero_testBit]
      by_cases hi : i < n
      · rw [show a.toNat.testBit i = false from h i hi, Bool.and_false]
      · rw [decide_eq_false hi, Bool.false_and]
  rw [hbits, BitVec.eq_of_getLsbD_eq_iff]
  constructor
  · intro h i hi
    by_cases hw : i < w
    · have hbit := h i hw
      simpa [hw, hi] using hbit
    · exact BitVec.getLsbD_of_ge a i (Nat.le_of_not_lt hw)
  · intro h i hw
    by_cases hi : i < n
    · rw [BitVec.getLsbD_and, h i hi, Bool.false_and, BitVec.getLsbD_zero]
    · simp [hw, hi]

/-- An address with a prefix shorter than the address is the address of its network. -/
def IsNetwork (full : U8) (addr : Option (BitVec w)) (prefixLen : Option U8) : Prop :=
  ∀ a ∈ addr, ∀ p ∈ prefixLen, p < full → 2 ^ (w - p.toNat) ∣ a.toNat

/-- The mask of an address leaves no bit of it out. -/
def NoHostBits (addr mask : Option (BitVec w)) : Prop :=
  ∀ a ∈ addr, ∀ k ∈ mask, a &&& ~~~k = 0#w

theorem noHostBits_prefixMask {toMask : U8 → BitVec w} {full : U8}
    (htoMask : ∀ p < full, toMask p = BitVec.allOnes w <<< (w - p.toNat))
    (addr : Option (BitVec w)) (prefixLen : Option U8) :
    NoHostBits addr (prefixMask toMask full prefixLen) ↔ IsNetwork full addr prefixLen := by
  cases prefixLen with
  | none => simp [NoHostBits, IsNetwork, prefixMask]
  | some p =>
    by_cases hp : p < full
    · simp [NoHostBits, IsNetwork, prefixMask, Option.filter, hp, htoMask p hp,
        and_not_shiftLeft_eq_zero_iff]
    · simp [NoHostBits, IsNetwork, prefixMask, Option.filter, hp]

/-- The address without its host bits. -/
def networkAddress (addr mask : Option (BitVec w)) : Option (BitVec w) :=
  addr.map fun a => a &&& mask.getD (BitVec.allOnes w)

/-- The prefix length of an address, if there is an address and the prefix is shorter. -/
def networkPrefix (full : U8) (addr : Option (BitVec w)) (prefixLen : Option U8) : Option U8 :=
  addr.bind fun _ => prefixLen.filter (· < full)

theorem networkAddress_eq {addr mask : Option (BitVec w)} (h : NoHostBits addr mask) :
    networkAddress addr mask = addr := by
  cases addr with
  | none => rfl
  | some a =>
    cases mask with
    | none => simp [networkAddress]
    | some k =>
      have hclear := (and_not_eq_zero_iff a k).mp (h a rfl k rfl)
      simp [networkAddress, hclear]

theorem asks_network (addr mask x : Option (BitVec w)) :
    Asks (networkAddress addr mask) mask x ↔ Asks addr mask x := by
  cases addr with
  | none => rfl
  | some a =>
    have hmask : a &&& mask.getD (BitVec.allOnes w) &&& mask.getD (BitVec.allOnes w) =
        a &&& mask.getD (BitVec.allOnes w) := by
      rw [BitVec.and_assoc, BitVec.and_self]
    simp [Asks, networkAddress, hmask]

theorem prefixMask_networkPrefix {toMask : U8 → BitVec w} {full : U8} {a : BitVec w}
    (prefixLen : Option U8) :
    prefixMask toMask full (networkPrefix full (some a) prefixLen) =
      prefixMask toMask full prefixLen := by
  cases prefixLen with
  | none => rfl
  | some p =>
    by_cases hp : p < full
    · simp [prefixMask, networkPrefix, Option.filter, hp]
    · simp [prefixMask, networkPrefix, Option.filter, hp]

end Networks

/-! ### Matches on networks -/

/-- The match on the same packets whose addresses have no host bits. -/
def Match.network (m : Match) : Match :=
  { m with
    ipv4Src := networkAddress m.ipv4Src (prefixMask prefixToMask 32 m.ipv4SrcMask)
    ipv4SrcMask := networkPrefix 32 m.ipv4Src m.ipv4SrcMask
    ipv4Dst := networkAddress m.ipv4Dst (prefixMask prefixToMask 32 m.ipv4DstMask)
    ipv4DstMask := networkPrefix 32 m.ipv4Dst m.ipv4DstMask
    ipv6Src := networkAddress m.ipv6Src (prefixMask prefixToMaskV6 128 m.ipv6SrcMask)
    ipv6SrcMask := networkPrefix 128 m.ipv6Src m.ipv6SrcMask
    ipv6Dst := networkAddress m.ipv6Dst (prefixMask prefixToMaskV6 128 m.ipv6DstMask)
    ipv6DstMask := networkPrefix 128 m.ipv6Dst m.ipv6DstMask }

theorem asks_networkPrefix {w : Nat} (toMask : U8 → BitVec w) (full : U8)
    (addr : Option (BitVec w)) (prefixLen : Option U8) (x : Option (BitVec w)) :
    Asks (networkAddress addr (prefixMask toMask full prefixLen))
        (prefixMask toMask full (networkPrefix full addr prefixLen)) x ↔
      Asks addr (prefixMask toMask full prefixLen) x := by
  cases addr with
  | none => exact iff_of_true (asks_none _ _) (asks_none _ _)
  | some a =>
    rw [prefixMask_networkPrefix]
    exact asks_network _ _ _

/-- Clearing the host bits does not change what a match asks of packets. -/
theorem Match.network_holds (m : Match) (pkt : Packet) : m.network.Holds pkt ↔ m.Holds pkt := by
  rw [Match.holds_iff, Match.holds_iff]
  simp only [Match.network, asks_networkPrefix]

/-- Every address that a match has is the address of its network. -/
structure Match.OnNetworks (m : Match) : Prop where
  ipv4Src : IsNetwork 32 m.ipv4Src m.ipv4SrcMask
  ipv4Dst : IsNetwork 32 m.ipv4Dst m.ipv4DstMask
  ipv6Src : IsNetwork 128 m.ipv6Src m.ipv6SrcMask
  ipv6Dst : IsNetwork 128 m.ipv6Dst m.ipv6DstMask

def Field.isAddress : Field → Bool
  | .part .ipv4Src | .part .ipv4Dst | .part .ipv6Src | .part .ipv6Dst => true
  | _ => false

/-- A condition on an address has no bit of its value outside its mask. -/
def Tlv.Canonical (t : Tlv) : Prop :=
  t.field.isAddress = true → ∀ k ∈ t.mask, t.value &&& ~~~k = 0#_

/-- The conditions on addresses are canonical, two matches on the same networks have the same
    encoding, and an IPv4 network is written as `encode_ipv4_prefix` writes it. -/
structure Match.CanonicalMasks (m : Match) : Prop where
  canonical : ∀ t ∈ m.tlvs, t.Canonical
  sameBytes : ∀ m' : Match, m'.OnNetworks → m.network = m'.network → m.encode = m'.encode
  ipv4Src : ∀ addr p, m.ipv4Src = some addr → m.ipv4SrcMask = some p → p < 32 →
    encodeIpv4 .ipv4Src m.ipv4Src m.ipv4SrcMask = encodeIpv4Subnet .ipv4Src addr p
  ipv4Dst : ∀ addr p, m.ipv4Dst = some addr → m.ipv4DstMask = some p → p < 32 →
    encodeIpv4 .ipv4Dst m.ipv4Dst m.ipv4DstMask = encodeIpv4Subnet .ipv4Dst addr p

theorem canonical_cons {class_ : OxmClass} {number : U8} {f : Field}
    (known : Field.ofHeader class_ number = some f) (value mask : Option (BitVec f.width))
    (os : List (Option Tlv)) :
    (∀ o ∈ condition known value mask :: os, ∀ t ∈ o, t.Canonical) ↔
      (f.isAddress = true → NoHostBits value mask) ∧ ∀ o ∈ os, ∀ t ∈ o, t.Canonical := by
  rw [List.forall_mem_cons]
  apply and_congr_left'
  cases value with
  | none => simp [condition, NoHostBits]
  | some v => simp [condition, NoHostBits, Tlv.Canonical]

theorem canonical_cons_other {class_ : OxmClass} {number : U8} {f : Field}
    (known : Field.ofHeader class_ number = some f) (value mask : Option (BitVec f.width))
    (os : List (Option Tlv)) (hf : f.isAddress = false) :
    (∀ o ∈ condition known value mask :: os, ∀ t ∈ o, t.Canonical) ↔
      ∀ o ∈ os, ∀ t ∈ o, t.Canonical := by
  rw [canonical_cons, hf]
  simp

theorem canonical_cons_address {class_ : OxmClass} {number : U8} {f : Field}
    (known : Field.ofHeader class_ number = some f) (value mask : Option (BitVec f.width))
    (os : List (Option Tlv)) (hf : f.isAddress = true) :
    (∀ o ∈ condition known value mask :: os, ∀ t ∈ o, t.Canonical) ↔
      NoHostBits value mask ∧ ∀ o ∈ os, ∀ t ∈ o, t.Canonical := by
  rw [canonical_cons, hf]
  simp

/-- The conditions of a match are canonical exactly if its addresses are those of networks. -/
theorem Match.canonical_iff (m : Match) : (∀ t ∈ m.tlvs, t.Canonical) ↔ m.OnNetworks := by
  have hconditions : (∀ t ∈ m.tlvs, t.Canonical) ↔
      ∀ o ∈ m.conditions, ∀ t ∈ o, t.Canonical := by
    simp only [Match.tlvs, List.reduceOption_mem_iff, Option.mem_def]
    constructor
    · intro h o ho t ht
      rw [ht] at ho
      exact h t ho
    · intro h t ht
      exact h _ ht t rfl
  have haddresses : (∀ o ∈ m.conditions, ∀ t ∈ o, t.Canonical) ↔
      IsNetwork 32 m.ipv4Src m.ipv4SrcMask ∧ IsNetwork 32 m.ipv4Dst m.ipv4DstMask ∧
        IsNetwork 128 m.ipv6Src m.ipv6SrcMask ∧ IsNetwork 128 m.ipv6Dst m.ipv6DstMask ∧
          True := by
    rw [Match.conditions]
    iterate 11 apply (canonical_cons_other _ _ _ _ rfl).trans
    apply (canonical_cons_address _ _ _ _ rfl).trans
    apply and_congr (noHostBits_prefixMask prefixToMask_eq _ _)
    apply (canonical_cons_address _ _ _ _ rfl).trans
    apply and_congr (noHostBits_prefixMask prefixToMask_eq _ _)
    iterate 13 apply (canonical_cons_other _ _ _ _ rfl).trans
    apply (canonical_cons_address _ _ _ _ rfl).trans
    apply and_congr (noHostBits_prefixMask prefixToMaskV6_eq _ _)
    apply (canonical_cons_address _ _ _ _ rfl).trans
    apply and_congr (noHostBits_prefixMask prefixToMaskV6_eq _ _)
    iterate 5 apply (canonical_cons_other _ _ _ _ rfl).trans
    exact iff_of_true (List.forall_mem_nil _) trivial
  rw [hconditions, haddresses]
  constructor
  · rintro ⟨hsrc, hdst, hsrc6, hdst6, -⟩
    exact ⟨hsrc, hdst, hsrc6, hdst6⟩
  · rintro ⟨hsrc, hdst, hsrc6, hdst6⟩
    exact ⟨hsrc, hdst, hsrc6, hdst6, trivial⟩

/-! ### The encodings of networks -/

theorem condition_networkPrefix {class_ : OxmClass} {number : U8} {f : Field}
    (known : Field.ofHeader class_ number = some f) {toMask : U8 → BitVec f.width} {full : U8}
    (htoMask : ∀ p < full, toMask p = BitVec.allOnes f.width <<< (f.width - p.toNat))
    {addr : Option (BitVec f.width)} {prefixLen : Option U8}
    (h : IsNetwork full addr prefixLen) :
    condition known (networkAddress addr (prefixMask toMask full prefixLen))
        (prefixMask toMask full (networkPrefix full addr prefixLen)) =
      condition known addr (prefixMask toMask full prefixLen) := by
  rw [networkAddress_eq ((noHostBits_prefixMask htoMask addr prefixLen).mpr h)]
  cases addr with
  | none => rfl
  | some a => rw [prefixMask_networkPrefix]

/-- A match on networks is encoded as its normal form. -/
theorem Match.OnNetworks.encode_network {m : Match} (h : m.OnNetworks) :
    m.network.encode = m.encode := by
  have hconditions : m.network.conditions = m.conditions := by
    have hsrc := condition_networkPrefix (Part.known .ipv4Src) prefixToMask_eq h.ipv4Src
    have hdst := condition_networkPrefix (Part.known .ipv4Dst) prefixToMask_eq h.ipv4Dst
    have hsrc6 := condition_networkPrefix (Part.known .ipv6Src) prefixToMaskV6_eq h.ipv6Src
    have hdst6 := condition_networkPrefix (Part.known .ipv6Dst) prefixToMaskV6_eq h.ipv6Dst
    rw [Match.conditions, Match.conditions]
    iterate 11 refine List.cons_eq_cons.mpr ⟨rfl, ?_⟩
    refine List.cons_eq_cons.mpr ⟨hsrc, List.cons_eq_cons.mpr ⟨hdst, ?_⟩⟩
    iterate 13 refine List.cons_eq_cons.mpr ⟨rfl, ?_⟩
    exact List.cons_eq_cons.mpr ⟨hsrc6, List.cons_eq_cons.mpr ⟨hdst6, rfl⟩⟩
  have hfields : m.network.oxmFields = m.oxmFields := by
    rw [← Match.tlvs_encode, ← Match.tlvs_encode, Match.tlvs, Match.tlvs, hconditions]
  rw [Match.encode, Match.encode, hfields]

theorem encodeIpv4_eq_subnet {field : OxmField} {addr : U32} {p : U8} (hp : p < 32)
    (h : 2 ^ (32 - p.toNat) ∣ addr.toNat) :
    encodeIpv4 field (some addr) (some p) = encodeIpv4Subnet field addr p := by
  have hclear : addr &&& prefixToMask p = addr := by
    rw [← and_not_eq_zero_iff, prefixToMask_eq p hp]
    exact (and_not_shiftLeft_eq_zero_iff addr _).mpr h
  rw [encodeIpv4Subnet, hclear]
  simp only [encodeIpv4, encodeWithPrefix, ifSome_some, if_pos hp]

/-- **Masks are canonical exactly on network addresses.**  The mask on the wire is always the
    prefix, and a value whose bits behind the prefix are not zero is sent as it is, so the address
    alone decides. -/
theorem Match.canonicalMasks_iff (m : Match) : m.CanonicalMasks ↔ m.OnNetworks := by
  constructor
  case mp => exact fun h => m.canonical_iff.mp h.canonical
  case mpr =>
    intro h
    refine ⟨m.canonical_iff.mpr h, ?_, ?_, ?_⟩
    · intro m' h' hnetwork
      rw [← h.encode_network, ← h'.encode_network, hnetwork]
    · intro addr p haddr hp hlt
      rw [haddr, hp]
      exact encodeIpv4_eq_subnet hlt (h.ipv4Src addr haddr p hp hlt)
    · intro addr p haddr hp hlt
      rw [haddr, hp]
      exact encodeIpv4_eq_subnet hlt (h.ipv4Dst addr haddr p hp hlt)

/-- Match the network of 10.0.0.1/24 through the address of a host. -/
def hostMatch : Match :=
  { Match.new with ethType := some 0x0800, ipv4Dst := some 0x0a000001, ipv4DstMask := some 24 }

/-- The last octet of the host is written although the mask leaves it out. -/
theorem hostMatch_not_canonical : ¬ hostMatch.CanonicalMasks := by
  intro h
  have hbytes := h.ipv4Dst 0x0a000001 24 rfl rfl (by decide)
  revert hbytes
  decide

end Rovs.OpenFlow

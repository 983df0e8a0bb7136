import Rovs.Ndp
import Rovs.OnesComplement

/-!
# The ICMPv6 checksum

A receiver adds the words of a pseudo-header and of the message, the checksum
included, and wants all ones.  The code adds the same words without folding, in
an accumulator of 32 bits, which has room for the words of every message that
an IPv6 payload can hold; the folding loop then gives what is left of the sum,
and the checksum is its complement.
-/

namespace Rovs.OpenFlow.Ndp

open Outcome

/-! ### What a receiver checks -/

/-- The pseudo-header of a message: the addresses, the length, and the next header. -/
def pseudoHeader (src dst : Ipv6Addr) (length : Nat) : Bytes :=
  be src ++ (be dst ++ (be (BitVec.ofNat 32 length) ++ (zeros 3 ++ [ipprotoIcmpv6])))

/-- The one's-complement sum over the pseudo-header and the message is all ones. -/
def Verifies (src dst : Ipv6Addr) (message : Bytes) : Prop :=
  onesSum (pseudoHeader src dst message.length ++ message) = 0xffff

theorem pseudoHeader_length (src dst : Ipv6Addr) (length : Nat) :
    (pseudoHeader src dst length).length = 40 := by
  simp [pseudoHeader]

/-- The two words of a word of 32 bits. -/
theorem wordSum_be32 (v : U32) : wordSum (be v) = v.toNat / 65536 + v.toNat % 65536 := by
  have hlt := v.isLt
  have hbytes : be v = [BitVec.ofNat 8 (v.toNat / 256 / 256 / 256),
      BitVec.ofNat 8 (v.toNat / 256 / 256), BitVec.ofNat 8 (v.toNat / 256),
      BitVec.ofNat 8 v.toNat] := rfl
  rw [hbytes, wordSum, wordSum, wordSum, fromBe_pair, fromBe_pair]
  simp only [BitVec.toNat_ofNat]
  omega

/-- The plain sum of a pseudo-header. -/
theorem wordSum_pseudoHeader (src dst : Ipv6Addr) {length : Nat} (h : length < 65536) :
    wordSum (pseudoHeader src dst length) =
      wordSum (be src) + wordSum (be dst) + length + 58 := by
  have hlength : wordSum (be (BitVec.ofNat 32 length)) = length := by
    rw [wordSum_be32, BitVec.toNat_ofNat]
    omega
  have hnext : wordSum (zeros 3 ++ [ipprotoIcmpv6]) = 58 := by decide
  have haddress : ∀ addr : Ipv6Addr, (be addr).length % 2 = 0 := fun addr => by
    rw [be_length]
  rw [pseudoHeader, wordSum_append (haddress src), wordSum_append (haddress dst),
    wordSum_append (by rw [be_length]), hlength, hnext]
  omega

/-! ### The accumulator -/

section Sums

variable (checks : Bool)

/-- A word is added without overflow while the sum has room for it. -/
theorem addWord_ok (sum : U32) (word : Nat) (h : sum.toNat + word < 2 ^ 32) :
    ∃ total, addIn checks sum (BitVec.ofNat 32 word) = .ok total ∧
      total.toNat = sum.toNat + word := by
  have hword : (BitVec.ofNat 32 word).toNat = word := by
    rw [BitVec.toNat_ofNat]
    omega
  refine ⟨sum + BitVec.ofNat 32 word, addIn_ok (by rw [hword]; exact h) checks, ?_⟩
  rw [BitVec.toNat_add, hword, Nat.mod_eq_of_lt h]

theorem addChunks_ok {bytes : Bytes} (heven : bytes.length % 2 = 0) (sum : U32)
    (h : sum.toNat + wordSum bytes < 2 ^ 32) :
    ∃ total, addChunks checks sum bytes = .ok total ∧
      total.toNat = sum.toNat + wordSum bytes := by
  induction bytes using wordSum.induct generalizing sum with
  | case1 hi lo rest ih =>
    rw [wordSum] at h ⊢
    simp only [List.length_cons] at heven
    obtain ⟨next, hadd, hnext⟩ := addWord_ok checks sum (fromBe [hi, lo]) (by omega)
    obtain ⟨total, htotal, hvalue⟩ := ih (by omega) next (by omega)
    refine ⟨total, ?_, by omega⟩
    rw [addChunks, hadd, ok_bind, htotal]
  | case2 last =>
    simp only [List.length_singleton] at heven
    omega
  | case3 => exact ⟨sum, rfl, rfl⟩

theorem addData_ok (bytes : Bytes) (sum : U32) (h : sum.toNat + wordSum bytes < 2 ^ 32) :
    ∃ total, addData checks sum bytes = .ok total ∧
      total.toNat = sum.toNat + wordSum bytes := by
  induction bytes using wordSum.induct generalizing sum with
  | case1 hi lo rest ih =>
    rw [wordSum] at h ⊢
    obtain ⟨next, hadd, hnext⟩ := addWord_ok checks sum (fromBe [hi, lo]) (by omega)
    obtain ⟨total, htotal, hvalue⟩ := ih next (by omega)
    refine ⟨total, ?_, by omega⟩
    rw [addData, hadd, ok_bind, htotal]
  | case2 last =>
    have hlast := last.isLt
    have hshifted : last.setWidth 32 <<< 8 = BitVec.ofNat 32 (last.toNat * 256) := by
      apply BitVec.eq_of_toNat_eq
      rw [BitVec.toNat_shiftLeft, BitVec.toNat_setWidth, BitVec.toNat_ofNat, Nat.shiftLeft_eq]
      omega
    rw [addData, hshifted]
    exact addWord_ok checks sum _ h
  | case3 => exact ⟨sum, rfl, rfl⟩

/-! ### The folding loop -/

/-- A pass folds the carries in, or leaves the loop when there are none. -/
theorem foldPass_ok (sum : U32) :
    foldPass checks sum = .ok (if sum.toNat < 65536 then .leave sum
      else .again (BitVec.ofNat 32 (endAround sum.toNat))) := by
  have hlt := sum.isLt
  have hhigh : (sum >>> 16).toNat = sum.toNat / 65536 := by
    rw [BitVec.toNat_ushiftRight, Nat.shiftRight_eq_div_pow]
  have hlow : (sum &&& 0xffff).toNat = sum.toNat % 65536 := by
    rw [BitVec.toNat_and]
    exact Nat.and_two_pow_sub_one_eq_mod sum.toNat 16
  have hnone : sum >>> 16 = 0 ↔ sum.toNat < 65536 := by
    rw [← BitVec.toNat_inj, hhigh]
    constructor
    case mp =>
      intro hzero
      have hzero : sum.toNat / 65536 = 0 := hzero
      omega
    case mpr =>
      intro hsmall
      exact Nat.div_eq_of_lt hsmall
  unfold foldPass
  by_cases hsmall : sum.toNat < 65536
  · rw [if_neg (not_not.mpr (hnone.mpr hsmall)), if_pos hsmall]
    rfl
  · have hroom : (sum &&& 0xffff).toNat + (sum >>> 16).toNat < 2 ^ 32 := by
      rw [hlow, hhigh]
      omega
    have hfolded : (sum &&& (0xffff : U32)) + (sum >>> 16) =
        BitVec.ofNat 32 (endAround sum.toNat) := by
      apply BitVec.eq_of_toNat_eq
      rw [BitVec.toNat_add, BitVec.toNat_ofNat, hlow, hhigh, endAround]
    rw [if_pos (fun hzero => hsmall (hnone.mp hzero)), if_neg hsmall, addIn_ok hroom checks,
      hfolded]
    rfl

theorem foldPass_again {sum next : U32} (h : foldPass checks sum = .ok (.again next)) :
    65536 ≤ sum.toNat ∧ next.toNat = endAround sum.toNat := by
  have hlt := sum.isLt
  rw [foldPass_ok checks sum] at h
  by_cases hsmall : sum.toNat < 65536
  · rw [if_pos hsmall] at h
    cases h
  · rw [if_neg hsmall] at h
    cases h
    have hdown := endAround_lt (Nat.not_lt.mp hsmall)
    refine ⟨Nat.not_lt.mp hsmall, ?_⟩
    rw [BitVec.toNat_ofNat]
    omega

theorem foldPass_leave {sum folded : U32} (h : foldPass checks sum = .ok (.leave folded)) :
    sum.toNat < 65536 ∧ folded = sum := by
  rw [foldPass_ok checks sum] at h
  by_cases hsmall : sum.toNat < 65536
  · rw [if_pos hsmall] at h
    cases h
    exact ⟨hsmall, rfl⟩
  · rw [if_neg hsmall] at h
    cases h

theorem foldPass_decreases : Decreases (foldPass checks) BitVec.toNat := by
  intro sum next hpass
  obtain ⟨hlarge, hnext⟩ := foldPass_again checks hpass
  rw [hnext]
  exact endAround_lt hlarge

/-- Folding ends, with what is left of the sum. -/
theorem foldLoop_ok (sum : U32) :
    ∃ folded, loop (foldPass checks) (sum.toNat + 1) sum = .ok folded ∧
      folded.toNat = fold16 sum.toNat := by
  obtain ⟨folded, hloop⟩ := loop_total (foldPass_decreases checks)
    (fun s => ⟨_, foldPass_ok checks s⟩) (Nat.lt_succ_self sum.toNat)
  refine ⟨folded, hloop, ?_⟩
  -- every pass keeps what is left of the sum in the end
  refine loop_invariant (fun s => fold16 s.toNat = fold16 sum.toNat)
    (fun folded => folded.toNat = fold16 sum.toNat) ?_ ?_ rfl hloop
  · intro s s' hs hpass
    rw [(foldPass_again checks hpass).2, fold16_endAround, hs]
  · intro s b hs hpass
    obtain ⟨hsmall, rfl⟩ := foldPass_leave checks hpass
    rw [← hs, fold16_of_lt hsmall]

end Sums

/-! ### The checksum -/

/-- The words that the checksum of a message covers. -/
def covered (src dst : Ipv6Addr) (message : Bytes) : Nat :=
  wordSum (pseudoHeader src dst message.length ++ message)

theorem covered_eq (src dst : Ipv6Addr) {message : Bytes} (h : message.length < 65536) :
    covered src dst message =
      wordSum (be src) + wordSum (be dst) + message.length + 58 + wordSum message := by
  have heven : (pseudoHeader src dst message.length).length % 2 = 0 := by
    rw [pseudoHeader_length]
  rw [covered, wordSum_append heven, wordSum_pseudoHeader src dst h]

/-- **The checksum of every message that a payload can hold**: the accumulator has room, the
    folding ends, and the result is the complement of the folded sum. -/
theorem icmpv6Checksum_ok (checks : Bool) (src dst : Ipv6Addr) {message : Bytes}
    (h : message.length < 65536) :
    ∃ checksum, icmpv6Checksum checks src dst message = .ok checksum ∧
      checksum.toNat = 65535 - fold16 (covered src dst message) := by
  have haddress : ∀ addr : Ipv6Addr, wordSum (be addr) ≤ 524280 ∧ (be addr).length % 2 = 0 :=
    fun addr => by
      have hle := wordSum_le (be addr)
      rw [be_length] at hle ⊢
      omega
  have hsrc := haddress src
  have hdst := haddress dst
  have hmessage := wordSum_le message
  have hzero : (0 : U32).toNat = 0 := rfl
  obtain ⟨sum₁, hrun₁, hsum₁⟩ := addChunks_ok checks hsrc.2 0 (by omega)
  obtain ⟨sum₂, hrun₂, hsum₂⟩ := addChunks_ok checks hdst.2 sum₁ (by omega)
  obtain ⟨sum₃, hrun₃, hsum₃⟩ := addWord_ok checks sum₂ message.length (by omega)
  obtain ⟨sum₄, hrun₄, hsum₄⟩ := addWord_ok checks sum₃ 58 (by omega)
  obtain ⟨sum₅, hrun₅, hsum₅⟩ := addData_ok checks message sum₄ (by omega)
  obtain ⟨folded, hrun, hfolded⟩ := foldLoop_ok checks sum₅
  have hnext : ipprotoIcmpv6.setWidth 32 = BitVec.ofNat 32 58 := rfl
  refine ⟨(~~~folded).setWidth 16, ?_, ?_⟩
  · rw [icmpv6Checksum, hrun₁, ok_bind, hrun₂, ok_bind, hrun₃, ok_bind, hnext, hrun₄, ok_bind,
      hrun₅, ok_bind, hrun, ok_bind]
    rfl
  · have hle := fold16_le (covered src dst message)
    have hsum : sum₅.toNat = covered src dst message := by
      rw [covered_eq src dst h]
      omega
    rw [BitVec.toNat_setWidth, BitVec.toNat_not, hfolded, hsum]
    omega

/-! ### A stored checksum -/

/-- Storing a checksum in a zeroed field adds it to the words of the message. -/
theorem wordSum_insertChecksum {message : Bytes} (h : 4 ≤ message.length) (checksum : U16) :
    wordSum (insertChecksum message checksum) =
      wordSum (insertChecksum message 0) + checksum.toNat := by
  obtain ⟨t, c, x, y, rest, rfl⟩ : ∃ t c x y rest, message = t :: c :: x :: y :: rest := by
    rcases message with _ | ⟨t, _ | ⟨c, _ | ⟨x, _ | ⟨y, rest⟩⟩⟩⟩
    case cons.cons.cons.cons => exact ⟨t, c, x, y, rest, rfl⟩
    all_goals
      simp only [List.length_cons, List.length_nil] at h
      omega
  have hstored : ∀ stored : U16, insertChecksum (t :: c :: x :: y :: rest) stored =
      t :: c :: (stored >>> 8).setWidth 8 :: stored.setWidth 8 :: rest := fun _ => rfl
  have hword : fromBe [(checksum >>> 8).setWidth 8, checksum.setWidth 8] = checksum.toNat := by
    have hlt := checksum.isLt
    rw [fromBe_pair, BitVec.toNat_setWidth, BitVec.toNat_setWidth, BitVec.toNat_ushiftRight,
      Nat.shiftRight_eq_div_pow]
    omega
  have hnone : fromBe [((0 : U16) >>> 8).setWidth 8, (0 : U16).setWidth 8] = 0 := rfl
  rw [hstored, hstored]
  simp only [wordSum, hword, hnone]
  omega

theorem insertChecksum_length (message : Bytes) (checksum : U16) :
    (insertChecksum message checksum).length = message.length := by
  rw [insertChecksum, List.length_set, List.length_set]

/-- **A message that carries its checksum verifies.** -/
theorem verifies_insertChecksum {src dst : Ipv6Addr} {message : Bytes} (hlong : 4 ≤ message.length)
    (hshort : message.length < 65536) {checksum : U16}
    (h : checksum.toNat = 65535 - fold16 (covered src dst (insertChecksum message 0))) :
    Verifies src dst (insertChecksum message checksum) := by
  have hlength := insertChecksum_length message
  have hcovered : covered src dst (insertChecksum message checksum) =
      covered src dst (insertChecksum message 0) + checksum.toNat := by
    rw [covered_eq src dst (by rw [hlength]; exact hshort),
      covered_eq src dst (by rw [hlength]; exact hshort), hlength, hlength,
      wordSum_insertChecksum hlong checksum]
    omega
  have hones := fold16_complement (covered src dst (insertChecksum message 0))
  rw [← h, ← hcovered] at hones
  rw [Verifies, onesSum_eq]
  exact hones

end Rovs.OpenFlow.Ndp

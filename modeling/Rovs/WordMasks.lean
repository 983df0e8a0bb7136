import Mathlib.Data.BitVec
import Mathlib.Tactic.ByContra

/-!
# Masks on words

A word agrees with another one under a mask when they have the same bits where the mask is set.  A
narrow value may stand in a word at an offset, beside bits that do not depend on it; what a mask
asks of such words is what its bits at the offset ask of the value.
-/

namespace Rovs

variable {n w : Nat}

theorem and_eq_and_iff {x y k : BitVec w} :
    x &&& k = y &&& k ↔ ∀ i, k.getLsbD i = true → x.getLsbD i = y.getLsbD i := by
  constructor
  case mp =>
    intro h i hi
    have hbit := congrArg (fun z => z.getLsbD i) h
    simpa [hi] using hbit
  case mpr =>
    intro h
    apply BitVec.eq_of_getLsbD_eq
    intro i _
    rw [BitVec.getLsbD_and, BitVec.getLsbD_and]
    cases hi : k.getLsbD i with
    | true => rw [h i hi]
    | false => rw [Bool.and_false, Bool.and_false]

/-- A small word has no high bits. -/
theorem getLsbD_of_lt {v : BitVec w} {m i : Nat} (h : v.toNat < 2 ^ m) (hi : m ≤ i) :
    v.getLsbD i = false :=
  Nat.testBit_lt_two_pow (Nat.lt_of_lt_of_le h (Nat.pow_le_pow_right (by decide) hi))

theorem lt_of_getLsbD {v : BitVec w} {m : Nat} (h : ∀ i, m ≤ i → v.getLsbD i = false) :
    v.toNat < 2 ^ m :=
  Nat.lt_pow_two_of_testBit _ h

theorem setWidth_back {v : BitVec w} (h : v.toNat < 2 ^ n) : (v.setWidth n).setWidth w = v := by
  apply BitVec.eq_of_toNat_eq
  rw [BitVec.toNat_setWidth, BitVec.toNat_setWidth, Nat.mod_eq_of_lt h, Nat.mod_eq_of_lt v.isLt]

theorem toNat_setWidth_lt (x : BitVec n) : (x.setWidth w).toNat < 2 ^ n := by
  rw [BitVec.toNat_setWidth]
  exact Nat.lt_of_le_of_lt (Nat.mod_le _ _) x.isLt

/-- The mask is set in `n` bits from an offset on. -/
def Covers (k : BitVec w) (off n : Nat) : Prop := (k >>> off).setWidth n = BitVec.allOnes n

instance (k : BitVec w) (off n : Nat) : Decidable (Covers k off n) :=
  inferInstanceAs (Decidable (_ = _))

theorem covers_iff {k : BitVec w} {off : Nat} :
    Covers k off n ↔ ∀ j < n, k.getLsbD (off + j) = true := by
  rw [Covers, BitVec.eq_of_getLsbD_eq_iff]
  apply forall_congr'
  intro j
  apply forall_congr'
  intro hj
  simp [hj]

/-- Values stand in words at an offset. -/
structure Embeds (f : BitVec n → BitVec w) (off : Nat) : Prop where
  bit : ∀ x j, j < n → (f x).getLsbD (off + j) = x.getLsbD j
  other : ∀ x y i, i < off ∨ off + n ≤ i → (f x).getLsbD i = (f y).getLsbD i

namespace Embeds

variable {f : BitVec n → BitVec w} {off : Nat} {a x : BitVec n} {k : BitVec w}

/-- Words of two values agree where the values do. -/
theorem agree_iff (hf : Embeds f off) :
    f x &&& k = f a &&& k ↔
      ∀ j < n, k.getLsbD (off + j) = true → x.getLsbD j = a.getLsbD j := by
  rw [and_eq_and_iff]
  constructor
  case mp =>
    intro h j hj hk
    have hbit := h (off + j) hk
    rwa [hf.bit x j hj, hf.bit a j hj] at hbit
  case mpr =>
    intro h i hk
    by_cases hi : i < off ∨ off + n ≤ i
    · exact hf.other x a i hi
    · have hsum : off + (i - off) = i := by omega
      have hj : i - off < n := by omega
      have hbit := h (i - off) hj (by rwa [hsum])
      rwa [← hf.bit x _ hj, ← hf.bit a _ hj, hsum] at hbit

theorem getLsbD_flip (a : BitVec n) {i j : Nat} (hj : j < n) :
    (a ^^^ BitVec.twoPow n j).getLsbD i = (a.getLsbD i ^^ decide (i = j)) := by
  rw [BitVec.getLsbD_xor, BitVec.getLsbD_twoPow]
  by_cases h : i = j
  · subst h
    simp [hj]
  · simp [h, Ne.symm h]

/-- A word is of one value. -/
theorem injective (hf : Embeds f off) : Function.Injective f := by
  intro x y h
  apply BitVec.eq_of_getLsbD_eq
  intro j hj
  rw [← hf.bit x j hj, ← hf.bit y j hj, h]

/-- A mask that leaves a bit open lets the value with the other bit there pass. -/
theorem flip_agrees (hf : Embeds f off) {j : Nat} (hj : j < n)
    (hk : k.getLsbD (off + j) = false) :
    f (a ^^^ BitVec.twoPow n j) &&& k = f a &&& k := by
  rw [hf.agree_iff]
  intro i hi hki
  have hne : i ≠ j := by
    rintro rfl
    rw [hk] at hki
    cases hki
  rw [getLsbD_flip a hj, decide_eq_false hne, Bool.xor_false]

theorem flip_ne (a : BitVec n) {j : Nat} (hj : j < n) :
    (a ^^^ BitVec.twoPow n j).getLsbD j ≠ a.getLsbD j := by
  rw [getLsbD_flip a hj]
  simp

/-- Of two masks one asks what the other asks when they are set in the same bits of the value. -/
theorem same_iff (hf : Embeds f off) (a : BitVec n) (k k' : BitVec w) :
    (∀ x, f x &&& k = f a &&& k ↔ f x &&& k' = f a &&& k') ↔
      ∀ j < n, k.getLsbD (off + j) = k'.getLsbD (off + j) := by
  constructor
  case mp =>
    intro h j hj
    by_contra hne
    rcases Bool.eq_false_or_eq_true (k.getLsbD (off + j)) with hk | hk
    · have hk' : k'.getLsbD (off + j) = false := by
        rw [hk] at hne
        simpa using Ne.symm hne
      have hagrees := (h _).mpr (hf.flip_agrees (a := a) hj hk')
      exact flip_ne a hj (hf.agree_iff.mp hagrees j hj hk)
    · have hk' : k'.getLsbD (off + j) = true := by
        rw [hk] at hne
        simpa using Ne.symm hne
      have hagrees := (h _).mp (hf.flip_agrees (a := a) hj hk)
      exact flip_ne a hj (hf.agree_iff.mp hagrees j hj hk')
  case mpr =>
    intro h x
    rw [hf.agree_iff, hf.agree_iff]
    apply forall_congr'
    intro j
    apply forall_congr'
    intro hj
    rw [h j hj]

/-- A mask lets just one value pass when it covers the values. -/
theorem pins_iff (hf : Embeds f off) (a : BitVec n) (k : BitVec w) :
    (∀ x, f x &&& k = f a &&& k → x = a) ↔ Covers k off n := by
  rw [covers_iff]
  constructor
  case mp =>
    intro h j hj
    by_contra hne
    have hk : k.getLsbD (off + j) = false := by simpa using hne
    have heq := h _ (hf.flip_agrees (a := a) hj hk)
    apply flip_ne a hj
    rw [heq]
  case mpr =>
    intro h x hx
    apply BitVec.eq_of_getLsbD_eq
    intro j hj
    exact hf.agree_iff.mp hx j hj (h j hj)

/-- A mask lets just one word pass when it covers the values. -/
theorem selects_iff (hf : Embeds f off) (a : BitVec n) (k : BitVec w) :
    (∀ x, f x &&& k = f a &&& k ↔ f x = f a) ↔ Covers k off n := by
  rw [← hf.pins_iff a k]
  apply forall_congr'
  intro x
  rw [hf.injective.eq_iff]
  constructor
  case mp => exact Iff.mp
  case mpr =>
    intro h
    refine ⟨h, ?_⟩
    rintro rfl
    rfl

end Embeds

/-- A value at an offset in a word that is zero there. -/
theorem embeds_shiftLeft {base : BitVec w} {off : Nat} (hfits : off + n ≤ w)
    (hzero : ∀ j < n, base.getLsbD (off + j) = false) :
    Embeds (fun x : BitVec n => base ||| x.setWidth w <<< off) off where
  bit x j hj := by
    have hlt : off + j < w := by omega
    have hlt' : j < w := by omega
    rw [BitVec.getLsbD_or, hzero j hj, Bool.false_or, BitVec.getLsbD_shiftLeft,
      BitVec.getLsbD_setWidth]
    simp [hlt, hlt']
  other x y i hi := by
    rw [BitVec.getLsbD_or, BitVec.getLsbD_or, BitVec.getLsbD_shiftLeft, BitVec.getLsbD_shiftLeft]
    rcases hi with hlow | hhigh
    · simp [hlow]
    · have hle : n ≤ i - off := by omega
      rw [BitVec.getLsbD_setWidth, BitVec.getLsbD_setWidth, BitVec.getLsbD_of_ge x _ hle,
        BitVec.getLsbD_of_ge y _ hle]

/-- A value in the low bits of a wider word. -/
theorem embeds_setWidth (h : n ≤ w) : Embeds (fun x : BitVec n => x.setWidth w) 0 := by
  have hembeds := embeds_shiftLeft (n := n) (w := w) (by omega : 0 + n ≤ w)
    fun j _ => BitVec.getLsbD_zero
  simpa using hembeds

end Rovs

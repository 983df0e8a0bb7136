import Rovs.Bytes

/-!
# One's-complement sums of sixteen-bit words

The one's-complement sum adds each carry out of the high bit at the low end.  The
carries can be kept apart and folded in afterwards: `fold16` is what is left of a
plain sum when all its carries are folded, and the one's-complement sum of words
is the fold of their plain sum.  A word that completes a sum to its fold makes
the whole sum all ones.
-/

namespace Rovs

/-! ### Carries -/

/-- One pass of folding: the carries above sixteen bits are added at the low end. -/
def endAround (s : Nat) : Nat := s % 65536 + s / 65536

/-- A sum with all its carries folded. -/
def fold16 (s : Nat) : Nat := if s = 0 then 0 else (s - 1) % 65535 + 1

/-- The one's-complement sum of two words. -/
def onesAdd (a b : Nat) : Nat := endAround (a + b)

theorem fold16_le (s : Nat) : fold16 s ≤ 65535 := by
  unfold fold16
  split <;> omega

theorem fold16_of_lt {s : Nat} (h : s < 65536) : fold16 s = s := by
  unfold fold16
  split <;> omega

/-- A pass of folding does not change what is left in the end. -/
theorem fold16_endAround (s : Nat) : fold16 (endAround s) = fold16 s := by
  unfold fold16 endAround
  split <;> split <;> omega

theorem endAround_lt {s : Nat} (h : 65536 ≤ s) : endAround s < s := by
  unfold endAround
  omega

theorem fold16_add_fold16 (a b : Nat) : fold16 (fold16 a + b) = fold16 (a + b) := by
  unfold fold16
  split <;> split <;> split <;> omega

theorem onesAdd_eq {a b : Nat} (ha : a < 65536) (hb : b < 65536) :
    onesAdd a b = fold16 (a + b) := by
  have hlt : endAround (a + b) < 65536 := by
    unfold endAround
    omega
  rw [onesAdd, ← fold16_endAround, fold16_of_lt hlt]

/-- The word that completes a sum makes it all ones. -/
theorem fold16_complement (s : Nat) : fold16 (s + (65535 - fold16 s)) = 65535 := by
  unfold fold16
  split <;> split <;> omega

/-! ### Words of bytes -/

/-- The plain sum of the big-endian words of bytes; a last odd byte is the high byte of a word. -/
def wordSum : Bytes → Nat
  | hi :: lo :: rest => fromBe [hi, lo] + wordSum rest
  | [last] => last.toNat * 256
  | [] => 0

/-- The one's-complement sum of these words, from a sum so far. -/
def onesSumFrom (acc : Nat) : Bytes → Nat
  | hi :: lo :: rest => onesSumFrom (onesAdd acc (fromBe [hi, lo])) rest
  | [last] => onesAdd acc (last.toNat * 256)
  | [] => acc

/-- The one's-complement sum of the big-endian words of bytes. -/
def onesSum (bytes : Bytes) : Nat := onesSumFrom 0 bytes

theorem fromBe_pair (hi lo : U8) : fromBe [hi, lo] = hi.toNat * 256 + lo.toNat := by
  simp [fromBe]

theorem fromBe_pair_lt (hi lo : U8) : fromBe [hi, lo] < 65536 := by
  have h := fromBe_lt [hi, lo]
  simpa using h

theorem onesSumFrom_eq {acc : Nat} (hacc : acc < 65536) (bytes : Bytes) :
    onesSumFrom acc bytes = fold16 (acc + wordSum bytes) := by
  induction bytes using wordSum.induct generalizing acc with
  | case1 hi lo rest ih =>
    have hpair := fromBe_pair_lt hi lo
    have hlt : fold16 (acc + fromBe [hi, lo]) < 65536 :=
      Nat.lt_succ_of_le (fold16_le _)
    rw [onesSumFrom, onesAdd_eq hacc hpair, ih hlt, fold16_add_fold16, wordSum, Nat.add_assoc]
  | case2 last =>
    have hlast : last.toNat < 256 := last.isLt
    rw [onesSumFrom, wordSum, onesAdd_eq hacc (by omega)]
  | case3 => rw [onesSumFrom, wordSum, Nat.add_zero, fold16_of_lt hacc]

/-- **The one's-complement sum is the plain sum with its carries folded.** -/
theorem onesSum_eq (bytes : Bytes) : onesSum bytes = fold16 (wordSum bytes) := by
  rw [onesSum, onesSumFrom_eq (by decide), Nat.zero_add]

/-- Behind an even number of bytes the words start anew. -/
theorem wordSum_append {xs : Bytes} (h : xs.length % 2 = 0) (ys : Bytes) :
    wordSum (xs ++ ys) = wordSum xs + wordSum ys := by
  induction xs using wordSum.induct with
  | case1 hi lo rest ih =>
    have hrest : rest.length % 2 = 0 := by
      simp only [List.length_cons] at h
      omega
    rw [List.cons_append, List.cons_append, wordSum, wordSum, ih hrest, Nat.add_assoc]
  | case2 last =>
    simp only [List.length_singleton] at h
    omega
  | case3 => rw [List.nil_append, wordSum, Nat.zero_add]

theorem wordSum_le (bytes : Bytes) : wordSum bytes ≤ 65535 * ((bytes.length + 1) / 2) := by
  induction bytes using wordSum.induct with
  | case1 hi lo rest ih =>
    have hpair := fromBe_pair_lt hi lo
    rw [wordSum, List.length_cons, List.length_cons]
    omega
  | case2 last =>
    have hlast : last.toNat < 256 := last.isLt
    rw [wordSum, List.length_singleton]
    omega
  | case3 => exact Nat.le_refl 0

end Rovs

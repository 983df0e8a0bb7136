import Rovs.Outcome
import Mathlib.Algebra.Group.Nat.Defs
import Mathlib.Data.List.Basic
import Mathlib.Data.List.Induction

/-!
# Big-endian words in byte buffers

Fixed-width words are bit vectors and a buffer is the list of its bytes.  `be`
writes a word most significant byte first; `beAt` reads one at an offset and
panics when the offset runs past the buffer, as indexing does in the source;
`slice` is a checked sub-slice.  The `simp` lemmas let a reader walk over a
buffer that was written by appending words: a read skips what stands before its
offset and finds the word that was written there.
-/

namespace Rovs

abbrev U8 := BitVec 8
abbrev U16 := BitVec 16
abbrev U32 := BitVec 32
abbrev U64 := BitVec 64
abbrev U128 := BitVec 128

abbrev Bytes := List U8

/-- The `n` low bytes of a number, most significant first. -/
def toBe : Nat → Nat → Bytes
  | 0, _ => []
  | n + 1, v => toBe n (v / 256) ++ [BitVec.ofNat 8 v]

/-- The number that bytes spell in base 256. -/
def fromBe (bytes : Bytes) : Nat :=
  bytes.foldl (fun acc b => acc * 256 + b.toNat) 0

/-- `to_be_bytes`. -/
def be {w : Nat} (v : BitVec w) : Bytes := toBe (w / 8) v.toNat

/-- The word that the bytes from an offset on spell. -/
def wordAt (w : Nat) (data : Bytes) (off : Nat) : BitVec w :=
  BitVec.ofNat w (fromBe ((data.drop off).take (w / 8)))

/-- `from_be_bytes` of the bytes that start at an offset. -/
def beAt {E : Type} (w : Nat) (data : Bytes) (off : Nat) : Outcome E (BitVec w) :=
  if off + w / 8 ≤ data.length then .ok (wordAt w data off) else .panic

/-- `&data[a..b]`. -/
def slice {E : Type} (data : Bytes) (a b : Nat) : Outcome E Bytes :=
  if a ≤ b ∧ b ≤ data.length then .ok ((data.take b).drop a) else .panic

/-- `&data[a..]`. -/
def sliceFrom {E : Type} (data : Bytes) (a : Nat) : Outcome E Bytes :=
  if a ≤ data.length then .ok (data.drop a) else .panic

/-- `[0u8; n]`. -/
def zeros (n : Nat) : Bytes := List.replicate n 0

/-- `buf.resize(n, 0)`. -/
def resize (buf : Bytes) (n : Nat) : Bytes := buf.take n ++ zeros (n - buf.length)

/-- `if let Some(a) = o { buf.extend(write(a)) }`. -/
def ifSome {α : Type} (o : Option α) (write : α → Bytes) : Bytes :=
  match o with
  | some a => write a
  | none => []

/-- `(n + 7) & !7`: the next multiple of eight. -/
def pad8 (n : Nat) : Nat := (n + 7) / 8 * 8

/-! ### Words and their bytes -/

@[simp] theorem toBe_length (n v : Nat) : (toBe n v).length = n := by
  induction n generalizing v with
  | zero => rfl
  | succ n ih => simp [toBe, ih]

@[simp] theorem be_length {w : Nat} (v : BitVec w) : (be v).length = w / 8 := toBe_length _ _

@[simp] theorem zeros_length (n : Nat) : (zeros n).length = n := List.length_replicate

theorem fromBe_concat (bytes : Bytes) (b : U8) :
    fromBe (bytes ++ [b]) = fromBe bytes * 256 + b.toNat := by
  simp [fromBe, List.foldl_append]

theorem fromBe_toBe (n v : Nat) : fromBe (toBe n v) = v % 256 ^ n := by
  induction n generalizing v with
  | zero => simp [toBe, fromBe, Nat.mod_one]
  | succ n ih =>
    have hbyte : (BitVec.ofNat 8 v).toNat = v % 256 := by simp
    rw [toBe, fromBe_concat, ih, hbyte, Nat.pow_succ, Nat.mul_comm (256 ^ n), Nat.mod_mul]
    omega

theorem ofNat_fromBe_be {w : Nat} (v : BitVec w) (hw : 8 * (w / 8) = w) :
    BitVec.ofNat w (fromBe (be v)) = v := by
  have hlt : v.toNat < 256 ^ (w / 8) := by
    have := v.isLt
    rwa [show (256 : Nat) = 2 ^ 8 from rfl, ← Nat.pow_mul, hw]
  rw [be, fromBe_toBe, Nat.mod_eq_of_lt hlt, BitVec.ofNat_toNat, BitVec.setWidth_eq]

theorem fromBe_append (xs ys : Bytes) :
    fromBe (xs ++ ys) = fromBe xs * 256 ^ ys.length + fromBe ys := by
  induction ys using List.reverseRecOn with
  | nil => simp [fromBe]
  | append_singleton ys b ih =>
    rw [← List.append_assoc, fromBe_concat, ih, fromBe_concat, List.length_append,
      List.length_singleton, Nat.pow_succ, Nat.add_mul, Nat.mul_assoc, Nat.add_assoc]

theorem fromBe_lt (xs : Bytes) : fromBe xs < 256 ^ xs.length := by
  induction xs using List.reverseRecOn with
  | nil => exact Nat.one_pos
  | append_singleton xs b ih =>
    have hb : b.toNat < 256 := b.isLt
    rw [fromBe_concat, List.length_append, List.length_singleton, Nat.pow_succ]
    omega

theorem toBe_fromBe (xs : Bytes) : toBe xs.length (fromBe xs) = xs := by
  induction xs using List.reverseRecOn with
  | nil => rfl
  | append_singleton xs b ih =>
    have hb : b.toNat < 256 := b.isLt
    have hdiv : (fromBe xs * 256 + b.toNat) / 256 = fromBe xs := by omega
    have hbyte : BitVec.ofNat 8 (fromBe xs * 256 + b.toNat) = b := by
      apply BitVec.eq_of_toNat_eq
      rw [BitVec.toNat_ofNat]
      omega
    rw [fromBe_concat, List.length_append, List.length_singleton, toBe, hdiv, ih, hbyte]

/-- The bytes of a word that is read are the bytes it was read from. -/
theorem be_wordAt {w : Nat} {data : Bytes} {off : Nat} (hw : 8 * (w / 8) = w)
    (h : off + w / 8 ≤ data.length) :
    be (wordAt w data off) = (data.drop off).take (w / 8) := by
  have hlen : ((data.drop off).take (w / 8)).length = w / 8 := by
    rw [List.length_take, List.length_drop]
    omega
  have hlt : fromBe ((data.drop off).take (w / 8)) < 2 ^ w := by
    have hlt := fromBe_lt ((data.drop off).take (w / 8))
    rwa [hlen, show (256 : Nat) = 2 ^ 8 from rfl, ← Nat.pow_mul, hw] at hlt
  have hspelled := toBe_fromBe ((data.drop off).take (w / 8))
  rw [hlen] at hspelled
  rw [be, wordAt, BitVec.toNat_ofNat, Nat.mod_eq_of_lt hlt, hspelled]

@[simp] theorem ifSome_none {α : Type} (write : α → Bytes) : ifSome none write = [] := rfl

@[simp] theorem ifSome_some {α : Type} (a : α) (write : α → Bytes) :
    ifSome (some a) write = write a := rfl

theorem ifSome_length_le {α : Type} {write : α → Bytes} {n : Nat} (o : Option α)
    (h : ∀ a, (write a).length ≤ n) : (ifSome o write).length ≤ n := by
  cases o with
  | none => exact Nat.zero_le n
  | some a => exact h a

theorem ifSome_be_length {w : Nat} (o : Option (BitVec w)) :
    (ifSome o be).length = if o.isSome then w / 8 else 0 := by
  cases o with
  | none => rfl
  | some v => exact be_length v

theorem be_zero {w : Nat} : be (0 : BitVec w) = zeros (w / 8) := by
  have htoBe : ∀ n, toBe n 0 = zeros n := by
    intro n
    induction n with
    | zero => rfl
    | succ n ih =>
      rw [toBe, Nat.zero_div, ih, zeros, zeros, List.replicate_succ']
      rfl
  rw [be, ← htoBe]
  exact congrArg (toBe (w / 8)) BitVec.toNat_zero

theorem zeros_add (m n : Nat) : zeros (m + n) = zeros m ++ zeros n :=
  List.replicate_add m n 0

/-! ### Padding -/

theorem resize_eq {buf : Bytes} {n : Nat} (h : buf.length ≤ n) :
    resize buf n = buf ++ zeros (n - buf.length) := by
  rw [resize, List.take_of_length_le h]

theorem resize_length (buf : Bytes) (n : Nat) : (resize buf n).length = n := by
  simp only [resize, List.length_append, List.length_take, zeros_length]
  omega

theorem le_pad8 (n : Nat) : n ≤ pad8 n := by
  unfold pad8; omega

theorem pad8_lt (n : Nat) : pad8 n < n + 8 := by
  unfold pad8; omega

theorem pad8_mod (n : Nat) : pad8 n % 8 = 0 := by
  unfold pad8; omega

/-! ### Reading what was appended -/

section Read

variable {E : Type} {w : Nat}

@[simp] theorem wordAt_be_append (v : BitVec w) (rest : Bytes) (hw : 8 * (w / 8) = w) :
    wordAt w (be v ++ rest) 0 = v := by
  have htake : (be v ++ rest).take (w / 8) = be v := by
    rw [← be_length v, List.take_left]
  rw [wordAt, List.drop_zero, htake, ofNat_fromBe_be v hw]

theorem wordAt_append_right {xs ys : Bytes} {off : Nat} (h : xs.length ≤ off) :
    wordAt w (xs ++ ys) off = wordAt w ys (off - xs.length) := by
  rw [wordAt, wordAt, List.drop_append, List.drop_eq_nil_of_le h, List.nil_append]

theorem wordAt_append_left {xs ys : Bytes} {off : Nat} (h : off + w / 8 ≤ xs.length) :
    wordAt w (xs ++ ys) off = wordAt w xs off := by
  rw [wordAt, wordAt, List.drop_append_of_le_length (by omega), List.take_append_of_le_length]
  rw [List.length_drop]; omega

theorem wordAt_drop (data : Bytes) (m n : Nat) :
    wordAt w (data.drop m) n = wordAt w data (m + n) := by
  rw [wordAt, wordAt, List.drop_drop]

/-- A word is read from the bytes up to its end. -/
theorem wordAt_take {data : Bytes} {n off : Nat} (h : off + w / 8 ≤ n) :
    wordAt w (data.take n) off = wordAt w data off := by
  rw [wordAt, wordAt, List.drop_take, List.take_take, Nat.min_eq_left (by omega)]

theorem beAt_eq_ok {data : Bytes} {off : Nat} (h : off + w / 8 ≤ data.length) :
    beAt (E := E) w data off = .ok (wordAt w data off) := if_pos h

@[simp] theorem beAt_be_append (v : BitVec w) (rest : Bytes) (hw : 8 * (w / 8) = w) :
    beAt (E := E) w (be v ++ rest) 0 = .ok v := by
  rw [beAt_eq_ok (by simp), wordAt_be_append v rest hw]

@[simp] theorem beAt_be (v : BitVec w) (hw : 8 * (w / 8) = w) :
    beAt (E := E) w (be v) 0 = .ok v := by
  simpa using beAt_be_append (E := E) v [] hw

theorem beAt_append_right {xs ys : Bytes} {off : Nat} (h : xs.length ≤ off) :
    beAt (E := E) w (xs ++ ys) off = beAt w ys (off - xs.length) := by
  rw [beAt, beAt, wordAt_append_right h]
  exact if_congr (by rw [List.length_append]; omega) rfl rfl

@[simp] theorem beAt_returns {data : Bytes} {off : Nat} :
    (beAt (E := E) w data off).Returns ↔ off + w / 8 ≤ data.length := by
  unfold beAt; split <;> simp_all

/-! ### Slices -/

@[simp] theorem slice_returns {data : Bytes} {a b : Nat} :
    (slice (E := E) data a b).Returns ↔ a ≤ b ∧ b ≤ data.length := by
  unfold slice; split <;> simp_all

theorem slice_eq_ok {data bytes : Bytes} {a b : Nat} (h : slice (E := E) data a b = .ok bytes) :
    bytes = (data.take b).drop a ∧ bytes.length = b - a ∧ a ≤ b ∧ b ≤ data.length := by
  unfold slice at h
  split at h
  · next hb =>
    cases h
    exact ⟨rfl, by simp [Nat.min_eq_left hb.2], hb⟩
  · cases h

theorem slice_eq {data : Bytes} {a b : Nat} (h : a ≤ b ∧ b ≤ data.length) :
    slice (E := E) data a b = .ok ((data.take b).drop a) := if_pos h

theorem slice_append_left {xs ys : Bytes} {a b : Nat} (h : b ≤ xs.length) :
    slice (E := E) (xs ++ ys) a b = slice xs a b := by
  rw [slice, slice, List.take_append_of_le_length h]
  exact if_congr (by rw [List.length_append]; omega) rfl rfl

theorem sliceFrom_eq {data : Bytes} {a : Nat} (h : a ≤ data.length) :
    sliceFrom (E := E) data a = .ok (data.drop a) := if_pos h

theorem slice_middle {xs ys zs : Bytes} {a b : Nat} (ha : a = xs.length)
    (hb : b = xs.length + ys.length) : slice (E := E) (xs ++ (ys ++ zs)) a b = .ok ys := by
  subst ha hb
  rw [slice, if_pos ⟨by omega, by simp only [List.length_append]; omega⟩]
  congr 1
  rw [← List.append_assoc, List.take_left' (by simp), List.drop_left]

theorem slice_suffix {xs ys : Bytes} {a b : Nat} (ha : a = xs.length)
    (hb : b = xs.length + ys.length) : slice (E := E) (xs ++ ys) a b = .ok ys := by
  rw [← List.append_nil ys, slice_middle ha hb, List.append_nil]

end Read

end Rovs

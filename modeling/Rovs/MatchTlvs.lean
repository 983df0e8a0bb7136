import Rovs.MatchFields

/-!
# Reading match fields one by one

The TLV loop of the match decoders, as it runs over bytes that the encoders
wrote.  Every writer of a single condition has a lemma here that says what the
loop makes of its bytes: the condition, present or absent, is in the match as it
was, and the loop goes on behind it.
-/

namespace Rovs.OpenFlow

open Outcome

/-! ### One TLV -/

/-- The decoder of a class. -/
def fieldDecoder : OxmClass → Match → U8 → Bool → Bytes → Nat → Result Match
  | .openflowBasic => decodeOxmField
  | .nxm1 => decodeNxmField
  | .nxm0 => decodeNxm0Field
  | .experimenter => fun m _ _ _ _ => pure m

theorem decodeField_word {h : OxmHeader} (hf : h.field < 128) (m : Match) (value : Bytes) :
    decodeField m h.word value = fieldDecoder h.class_ m h.field h.hasMask value
      (if h.hasMask then h.length.toNat / 2 else h.length.toNat) := by
  simp only [decodeField, headerClass_word hf, headerField_word hf, headerHasMask_word hf,
    headerLength_word hf]
  cases h.class_ <;> rfl

theorem tlvPass_decreases : Decreases tlvPass (fun s => s.2.length) := by
  rintro ⟨m, data⟩ s' h
  simp only [tlvPass] at h
  split at h
  · next hlen =>
    obtain ⟨header, hheader, h⟩ := bind_eq_ok.mp h
    split at h
    · cases h
    · obtain ⟨value, hvalue, h⟩ := bind_eq_ok.mp h
      obtain ⟨m', hm, h⟩ := bind_eq_ok.mp h
      cases h
      simp only [List.length_drop]
      omega
  · cases h

/-- One pass of the loop reads one TLV; the fuel does not show, since every pass takes bytes away.
    -/
theorem decodeTlvs_step {m m' : Match} {data rest : Bytes}
    (h : tlvPass (m, data) = .ok (.again (m', rest))) : decodeTlvs m data = decodeTlvs m' rest :=
  loop_step tlvPass_decreases h

theorem decodeTlvs_nil (m : Match) : decodeTlvs m [] = .ok m := rfl

/-- **One TLV in front of others**: if its decoder reads the value to `m'`, the loop goes on from
    `m'` behind it. -/
theorem decodeTlvs_header {h : OxmHeader} {m m' : Match} {value rest : Bytes}
    (hf : h.field < 128) (hlen : h.length.toNat = value.length)
    (hdec : fieldDecoder h.class_ m h.field h.hasMask value
      (if h.hasMask then h.length.toNat / 2 else h.length.toNat) = .ok m') :
    decodeTlvs m (h.encode ++ (value ++ rest)) = decodeTlvs m' rest := by
  apply decodeTlvs_step
  have hslice : slice (E := Error) (h.encode ++ (value ++ rest)) 4 (4 + value.length)
      = .ok value := slice_middle rfl rfl
  have hdrop : (h.encode ++ (value ++ rest)).drop (4 + value.length) = rest := by
    rw [← List.append_assoc, List.drop_left' (by simp)]
  have h4 : 4 ≤ (h.encode ++ (value ++ rest)).length := by simp
  have hfit : ¬ 4 + value.length > (h.encode ++ (value ++ rest)).length := by simp
  rw [hlen] at hdec
  simp only [tlvPass, if_pos h4, beAt_header, ok_bind, headerLength_word hf, hlen, if_neg hfit,
    hslice, decodeField_word hf, hdec, pure_eq, hdrop]

section Fields

variable {w : Nat} {m m' : Match} {rest : Bytes} {length field : U8} {class_ : OxmClass}

theorem decodeTlvs_encodeValue {v : BitVec w} (hf : field < 128) (hlen : length.toNat = w / 8)
    (hdec : fieldDecoder class_ m field false (be v) (w / 8) = .ok m') :
    decodeTlvs m (encodeValue length class_ field v ++ rest) = decodeTlvs m' rest := by
  rw [encodeValue, List.append_assoc]
  refine decodeTlvs_header hf (by simpa using hlen) ?_
  simpa [hlen] using hdec

theorem decodeTlvs_encodeMasked {v k : BitVec w} (hf : field < 128)
    (hlen : length.toNat = 2 * (w / 8))
    (hdec : fieldDecoder class_ m field true (be v ++ be k) (w / 8) = .ok m') :
    decodeTlvs m (encodeMasked length class_ field v k ++ rest) = decodeTlvs m' rest := by
  rw [encodeMasked, List.append_assoc, List.append_assoc, ← List.append_assoc (be v)]
  refine decodeTlvs_header hf (by simp; omega) ?_
  simpa [hlen] using hdec

end Fields

/-! ### The readers on what the writers wrote -/

section Readers

variable {w : Nat}

theorem beAt_be_be {E : Type} (v k : BitVec w) (hw : 8 * (w / 8) = w) :
    beAt (E := E) w (be v ++ be k) (w / 8) = .ok k := by
  rw [beAt_append_right (by simp)]
  simp [hw]

theorem readValue_be (m : Match) (v : BitVec w) (store : BitVec w → Match)
    (hw : 8 * (w / 8) = w) : readValue w m (be v) (w / 8) store = .ok (store v) := by
  simp [readValue, hw]

theorem readMasked_be (m : Match) (v : BitVec w) (store : BitVec w → Match)
    (storeMask : Match → BitVec w → Match) (hw : 8 * (w / 8) = w) :
    readMasked w m false (be v) (w / 8) store storeMask = .ok (store v) := by
  simp [readMasked, readMask, hw]

/-- A value and its mask, one behind the other, are both read back. -/
theorem readMasked_be_be (m : Match) (v k : BitVec w) (store : BitVec w → Match)
    (storeMask : Match → BitVec w → Match) (hw : 8 * (w / 8) = w) :
    readMasked w m true (be v ++ be k) (w / 8) store storeMask = .ok (storeMask (store v) k) := by
  have hlen : 2 * (w / 8) ≤ (be v ++ be k).length := by simp; omega
  simp only [readMasked, readMask, if_pos (Nat.le_refl _), beAt_be_append v _ hw, ok_bind,
    if_pos (And.intro trivial hlen), beAt_be_be v k hw, pure_eq]

theorem readPrefixed_be (m : Match) (v : BitVec w) (full : U8) (store : BitVec w → U8 → Match)
    (hw : 8 * (w / 8) = w) :
    readPrefixed w m false (be v) (w / 8) full store = .ok (store v full) := by
  simp [readPrefixed, hw]

theorem readPrefixed_be_be (m : Match) (v k : BitVec w) (full : U8)
    (store : BitVec w → U8 → Match) (hw : 8 * (w / 8) = w) :
    readPrefixed w m true (be v ++ be k) (w / 8) full store = .ok (store v (maskToPrefix k)) := by
  have hlen : 2 * (w / 8) ≤ (be v ++ be k).length := by simp; omega
  simp only [readPrefixed, if_pos (Nat.le_refl _), beAt_be_append v _ hw, ok_bind,
    if_pos (And.intro trivial hlen), beAt_be_be v k hw, pure_eq]

end Readers

/-! ### One condition

Each lemma says that a condition, present or absent, is read into the match as
it was: `store m o` is the match `m` with the condition `o`. -/

/-- The prefix length that decoding reports for an address. -/
def normPrefix {α : Type} (full : U8) (addr : Option α) (prefixLen : Option U8) : Option U8 :=
  match addr, prefixLen with
  | none, p => p
  | some _, some p => if p < full then some p else some full
  | some _, none => some full

section Conditions

variable {w : Nat} {m : Match} {rest : Bytes} {length length' field : U8} {class_ : OxmClass}

/-- An optional field is written or left out, and the loop then goes on from the match with the
    field as it was. -/
theorem decodeTlvs_value (o : Option (BitVec w)) (store : Match → Option (BitVec w) → Match)
    (hf : field < 128) (hlen : length.toNat = w / 8) (hw : 8 * (w / 8) = w)
    (hnone : store m none = m)
    (hdec : ∀ value n, fieldDecoder class_ m field false value n =
      readValue w m value n fun v => store m (some v)) :
    decodeTlvs m (ifSome o (encodeValue length class_ field) ++ rest) =
      decodeTlvs (store m o) rest := by
  cases o with
  | none => rw [hnone]; rfl
  | some v =>
    rw [ifSome_some]
    refine decodeTlvs_encodeValue hf hlen ?_
    rw [hdec, readValue_be m v _ hw]

theorem decodeTlvs_withMask (o k : Option (BitVec w))
    (store : Match → Option (BitVec w) → Option (BitVec w) → Match)
    {storeMask : Match → BitVec w → Match} (hf : field < 128)
    (hlen : length.toNat = w / 8) (hlen' : length'.toNat = 2 * (w / 8)) (hw : 8 * (w / 8) = w)
    (habsent : o = none → k = none) (hnone : store m none none = m)
    (hmask : ∀ v k, storeMask (store m (some v) none) k = store m (some v) (some k))
    (hdec : ∀ b value n, fieldDecoder class_ m field b value n =
      readMasked w m b value n (fun v => store m (some v) none) storeMask) :
    decodeTlvs m (encodeWithMask (encodeValue length class_ field)
      (encodeMasked length' class_ field) o k ++ rest) = decodeTlvs (store m o k) rest := by
  cases o with
  | none => rw [habsent rfl, hnone]; rfl
  | some v =>
    cases k with
    | none =>
      refine decodeTlvs_encodeValue hf hlen ?_
      rw [hdec, readMasked_be m v _ _ hw]
    | some k =>
      refine decodeTlvs_encodeMasked hf hlen' ?_
      rw [hdec, readMasked_be_be m v k _ _ hw, hmask]

/-- An address with a prefix comes back with the prefix as decoding reports it, `normPrefix`. -/
theorem decodeTlvs_withPrefix (o : Option (BitVec w)) (p : Option U8)
    (store : Match → Option (BitVec w) → Option U8 → Match) {toMask : U8 → BitVec w} {full : U8}
    (hf : field < 128) (hlen : length.toNat = w / 8) (hlen' : length'.toNat = 2 * (w / 8))
    (hw : 8 * (w / 8) = w) (htoMask : ∀ p, p < full → maskToPrefix (toMask p) = p)
    (habsent : o = none → p = none) (hnone : store m none none = m)
    (hdec : ∀ b value n, fieldDecoder class_ m field b value n =
      readPrefixed w m b value n full fun v p => store m (some v) (some p)) :
    decodeTlvs m (encodeWithPrefix (encodeValue length class_ field)
      (encodeMasked length' class_ field) toMask full o p ++ rest) =
      decodeTlvs (store m o (normPrefix full o p)) rest := by
  have hplain : ∀ v : BitVec w, decodeTlvs m (encodeValue length class_ field v ++ rest) =
      decodeTlvs (store m (some v) (some full)) rest := by
    intro v
    refine decodeTlvs_encodeValue hf hlen ?_
    rw [hdec, readPrefixed_be m v full _ hw]
  cases o with
  | none => rw [habsent rfl, normPrefix, hnone]; rfl
  | some v =>
    cases p with
    | none => exact hplain v
    | some p =>
      by_cases hp : p < full
      · simp only [encodeWithPrefix, ifSome_some, normPrefix, if_pos hp]
        refine decodeTlvs_encodeMasked hf hlen' ?_
        rw [hdec, readPrefixed_be_be m v _ full _ hw, htoMask p hp]
      · simp only [encodeWithPrefix, ifSome_some, normPrefix, if_neg hp]
        exact hplain v

end Conditions

theorem encodeIpv6_eq (field : OxmField) :
    encodeIpv6 field.toU8 = encodeValue 16 .openflowBasic field.toU8 := by
  funext v
  cases field <;> rfl

theorem encodeIpv6Masked_eq (field : OxmField) :
    encodeIpv6Masked field.toU8 = encodeMasked 32 .openflowBasic field.toU8 := by
  funext v k
  cases field <;> rfl

end Rovs.OpenFlow

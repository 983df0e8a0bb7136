import Rovs.MatchTlvs
import Rovs.Walk

/-!
# Match decoding on arbitrary bytes

What `Match::decode` does with bytes nobody promises anything about.  The TLV
loop always comes to an end with a match, since every reader checks the length of
its value first.  The one thing the decoder takes on trust is the match length:
`decode_cases` tells apart the headers it refuses, the match lengths below four
that it slices with regardless, and the headers it reads on from.
-/

namespace Rovs.OpenFlow

open Outcome

/-! ### The TLV loop has a result on every input -/

theorem ite_ok {α : Type} {c : Prop} [Decidable c] {x y : Result α} (hx : ∃ a, x = .ok a)
    (hy : ∃ a, y = .ok a) : ∃ a, (if c then x else y) = .ok a := by
  split
  · exact hx
  · exact hy

section Readers

variable {w : Nat} {m : Match} {hasMask : Bool} {value : Bytes} {valueLen : Nat}

theorem readValue_ok (store : BitVec w → Match) (h : valueLen ≤ value.length) :
    ∃ m', readValue w m value valueLen store = .ok m' := by
  unfold readValue
  split
  · rw [beAt_eq_ok (by omega), ok_bind]
    exact ⟨_, rfl⟩
  · exact ⟨m, rfl⟩

theorem readMask_ok (m : Match) (store : Match → BitVec w → Match) :
    ∃ m', readMask w hasMask value m store = .ok m' := by
  unfold readMask
  split
  · next hmask =>
    rw [beAt_eq_ok (by omega), ok_bind]
    exact ⟨_, rfl⟩
  · exact ⟨m, rfl⟩

theorem readMasked_ok (store : BitVec w → Match) (storeMask : Match → BitVec w → Match)
    (h : valueLen ≤ value.length) :
    ∃ m', readMasked w m hasMask value valueLen store storeMask = .ok m' := by
  unfold readMasked
  split
  · rw [beAt_eq_ok (by omega), ok_bind]
    exact readMask_ok _ _
  · exact ⟨m, rfl⟩

theorem readPrefixed_ok (full : U8) (store : BitVec w → U8 → Match)
    (h : valueLen ≤ value.length) :
    ∃ m', readPrefixed w m hasMask value valueLen full store = .ok m' := by
  unfold readPrefixed
  split
  · rw [beAt_eq_ok (by omega), ok_bind]
    split
    · rw [beAt_eq_ok (by omega), ok_bind]
      exact ⟨_, rfl⟩
    · exact ⟨_, rfl⟩
  · exact ⟨m, rfl⟩

theorem decodeOxmField_ok (m : Match) (field : U8) (h : valueLen ≤ value.length) :
    ∃ m', decodeOxmField m field hasMask value valueLen = .ok m' := by
  unfold decodeOxmField
  repeat' with_reducible apply ite_ok
  all_goals first
    | exact readValue_ok _ h
    | exact readMasked_ok _ _ h
    | exact readPrefixed_ok _ _ h
    | exact ⟨m, rfl⟩

theorem decodeNxm0Field_ok (m : Match) (field : U8) (h : valueLen ≤ value.length) :
    ∃ m', decodeNxm0Field m field hasMask value valueLen = .ok m' := by
  unfold decodeNxm0Field
  split
  all_goals first
    | exact readValue_ok _ h
    | exact readMasked_ok _ _ h
    | exact readPrefixed_ok _ _ h
    | exact ⟨m, rfl⟩

theorem decodeNxmField_ok (m : Match) (field : U8) (h : valueLen ≤ value.length) :
    ∃ m', decodeNxmField m field hasMask value valueLen = .ok m' := by
  unfold decodeNxmField
  split
  all_goals first
    | exact readValue_ok _ h
    | exact readMasked_ok _ _ h
    | exact ⟨m, rfl⟩

end Readers

/-- Whatever the class and the field, decoding a value of the length that the header announces never
    panics. -/
theorem decodeField_ok (m : Match) (header : U32) {value : Bytes}
    (h : headerLength header = value.length) : ∃ m', decodeField m header value = .ok m' := by
  have hlen : (if headerHasMask header then headerLength header / 2 else headerLength header)
      ≤ value.length := by
    split <;> omega
  exact ite_ok (decodeOxmField_ok m _ hlen) (ite_ok (decodeNxmField_ok m _ hlen)
    (ite_ok (decodeNxm0Field_ok m _ hlen) ⟨m, rfl⟩))

theorem tlvPass_ok (s : Match × Bytes) : ∃ p, tlvPass s = .ok p := by
  obtain ⟨m, data⟩ := s
  simp only [tlvPass]
  split
  · rw [beAt_eq_ok (by omega), ok_bind]
    split
    · exact ⟨_, rfl⟩
    · next hfit =>
      have hbound : 4 ≤ 4 + headerLength (wordAt 32 data 0) ∧
          4 + headerLength (wordAt 32 data 0) ≤ data.length := by omega
      have hslice := slice_eq (E := Error) hbound
      obtain ⟨-, hlen, -, -⟩ := slice_eq_ok hslice
      obtain ⟨m', hm'⟩ := decodeField_ok m (wordAt 32 data 0) (by rw [hlen]; omega)
      rw [hslice, ok_bind, hm', ok_bind]
      exact ⟨_, rfl⟩
  · exact ⟨_, rfl⟩

/-- **The loop over the TLVs of a match returns on all bytes**: it leaves where fewer bytes are left
    than the next TLV needs. -/
theorem decodeTlvs_ok (m : Match) (data : Bytes) : ∃ m', decodeTlvs m data = .ok m' :=
  loop_total tlvPass_decreases tlvPass_ok (Nat.lt_succ_self _)

/-! ### The match header -/

/-- The checks that `Match::decode` makes of the header. -/
structure MatchHeaderAccepted (data : Bytes) : Prop where
  header : 4 ≤ data.length
  oxm : wordAt 16 data 0 = MatchType.oxm.toU16
  fits : frameLength data ≤ data.length

section Header

variable {data : Bytes}

theorem Match.decode_accepted (h : MatchHeaderAccepted data) :
    Match.decode data = (do
      let oxmData ← slice data 4 (frameLength data)
      let m ← Match.decodeOxm oxmData
      pure (m, pad8 (frameLength data))) := by
  have h4 : ¬ data.length < 4 := Nat.not_lt.mpr h.header
  have hfits : ¬ data.length < (wordAt 16 data 2).toNat := Nat.not_lt.mpr h.fits
  have hlen := h.header
  rw [Match.decode, if_neg h4, beAt_eq_ok (by omega), ok_bind, beAt_eq_ok (by omega), ok_bind,
    if_neg (fun hne => hne h.oxm), if_neg hfits]
  rfl

theorem Match.decode_rejected (h : ¬ MatchHeaderAccepted data) :
    ∃ e, Match.decode data = .err e := by
  unfold Match.decode
  split
  · exact ⟨_, rfl⟩
  · next h4 =>
    rw [beAt_eq_ok (by omega), ok_bind, beAt_eq_ok (by omega), ok_bind]
    split
    · exact ⟨_, rfl⟩
    · next hoxm =>
      split
      · exact ⟨_, rfl⟩
      · next hfits =>
        exact absurd ⟨by omega, not_not.mp hoxm, Nat.not_lt.mp hfits⟩ h

/-- Behind an accepted header a match is always read, and its padded length is taken. -/
theorem Match.decode_ok (h : MatchHeaderAccepted data) (h4 : 4 ≤ frameLength data) :
    ∃ m, Match.decode data = .ok (m, pad8 (frameLength data)) := by
  obtain ⟨m, hm⟩ := decodeTlvs_ok Match.new ((data.take (frameLength data)).drop 4)
  refine ⟨m, ?_⟩
  rw [Match.decode_accepted h, slice_eq ⟨h4, h.fits⟩, ok_bind, Match.decodeOxm, hm]
  rfl

/-- A match length below four is sliced with as it stands. -/
theorem Match.decode_panics (h : MatchHeaderAccepted data) (h4 : frameLength data < 4) :
    Match.decode data = .panic := by
  have hslice : slice (E := Error) data 4 (frameLength data) = .panic :=
    if_neg fun hb => absurd hb.1 (Nat.not_le.mpr h4)
  rw [Match.decode_accepted h, hslice, panic_bind]

/-- What stands behind the match makes no difference to it. -/
theorem Match.decode_append (h : MatchHeaderAccepted data) (more : Bytes) :
    Match.decode (data ++ more) = Match.decode data := by
  have hlen := frameLength_append h.header more
  have h' : MatchHeaderAccepted (data ++ more) := by
    have h1 := h.header
    have h2 := h.fits
    refine ⟨by rw [List.length_append]; omega, ?_, by rw [hlen, List.length_append]; omega⟩
    rw [wordAt_append_left (by omega), h.oxm]
  rw [Match.decode_accepted h, Match.decode_accepted h', hlen, slice_append_left h.fits]

end Header

end Rovs.OpenFlow

import Rovs.MatchSafety

/-!
# Matches that end in the middle of a condition

A match is exact when its region is a row of whole TLVs and its padding is there.
Both decoders read a region with one loop, which has two ways out besides the
region's end: fewer than four bytes are left, or the next TLV runs past the end.
Neither is reported, so bytes that were cut off decode like the whole TLVs before
the cut, a match with fewer conditions.  The decoders accept exact matches only,
exactly on the bytes where neither way out is taken.

`match_decoders_exact_iff` says so of both decoders and every byte string.
-/

namespace Rovs.OpenFlow

open Outcome

/-! ### Rows of whole TLVs -/

/-- A header word and as many bytes of value as it declares. -/
structure RawTlv where
  header : U32
  value : Bytes
  fits : value.length = headerLength header

def RawTlv.bytes (t : RawTlv) : Bytes := be t.header ++ t.value

/-- The bytes are TLVs one after the other, with none cut off and nothing left over. -/
def TlvsPartition (data : Bytes) : Prop := ∃ tlvs : List RawTlv, tlvs.flatMap RawTlv.bytes = data

/-- A match that took `consumed` bytes is exact: the header fits the bytes, the
    padding is present, and the TLVs partition the declared region. -/
structure ExactMatch (data : Bytes) (consumed : Nat) : Prop where
  oxm : wordAt 16 data 0 = MatchType.oxm.toU16
  headerInside : 4 ≤ frameLength data
  fits : frameLength data ≤ data.length
  consumed_eq : consumed = pad8 (frameLength data)
  padded : consumed ≤ data.length
  tlvs : TlvsPartition ((data.take (frameLength data)).drop 4)

/-- `Match::decode` accepts the bytes only as an exact match. -/
def DecodesExactly (data : Bytes) : Prop :=
  ∀ m n, Match.decode data = .ok (m, n) → ExactMatch data n

/-- `Match::decode_oxm` accepts the bytes only as a row of whole TLVs. -/
def DecodesOxmExactly (data : Bytes) : Prop :=
  ∀ m, Match.decodeOxm data = .ok m → TlvsPartition data

/-! ### Where the loop is left -/

/-- The length of the TLV at the head of `data`, with its header. -/
def tlvLength (data : Bytes) : Nat := 4 + headerLength (wordAt 32 data 0)

/-- A whole TLV stands at the head of `data`. -/
structure WholeTlv (data : Bytes) : Prop where
  header : 4 ≤ data.length
  fits : tlvLength data ≤ data.length

/-- Bytes are left, but no whole TLV. -/
def CutOff (rest : Bytes) : Prop := rest ≠ [] ∧ ¬ WholeTlv rest

/-- The TLV loop never comes to a TLV that is cut off. -/
def NeverCutOff (data : Bytes) : Prop :=
  ∀ rest, Walk tlvLength WholeTlv data rest → ¬ CutOff rest

theorem RawTlv.bytes_length (t : RawTlv) : t.bytes.length = 4 + t.value.length := by
  rw [RawTlv.bytes, List.length_append, be_length]

theorem RawTlv.tlvLength_bytes (t : RawTlv) (rest : Bytes) :
    tlvLength (t.bytes ++ rest) = t.bytes.length := by
  have hword : wordAt 32 (t.bytes ++ rest) 0 = t.header := by
    rw [RawTlv.bytes, List.append_assoc]
    exact wordAt_be_append t.header _ rfl
  rw [tlvLength, hword, t.bytes_length, t.fits]

theorem RawTlv.wholeTlv (t : RawTlv) (rest : Bytes) : WholeTlv (t.bytes ++ rest) where
  header := by
    rw [List.length_append, t.bytes_length]
    omega
  fits := by
    rw [t.tlvLength_bytes, List.length_append]
    omega

/-- A whole TLV is a header word and its value. -/
theorem WholeTlv.exists_tlv {data : Bytes} (h : WholeTlv data) :
    ∃ t : RawTlv, data = t.bytes ++ data.drop (tlvLength data) := by
  have h4 := h.header
  have hfits := h.fits
  have hlen : ((data.drop 4).take (headerLength (wordAt 32 data 0))).length =
      headerLength (wordAt 32 data 0) := by
    rw [List.length_take, List.length_drop]
    rw [tlvLength] at hfits
    omega
  have hword : be (wordAt 32 data 0) = data.take 4 := be_wordAt rfl h4
  refine ⟨⟨wordAt 32 data 0, (data.drop 4).take (headerLength (wordAt 32 data 0)), hlen⟩, ?_⟩
  rw [RawTlv.bytes, hword, tlvLength, ← List.drop_drop, List.append_assoc, List.take_append_drop,
    List.take_append_drop]

/-- The pass over a whole TLV, whatever follows it. -/
theorem RawTlv.tlvPass_eq (t : RawTlv) {m m' : Match}
    (hm : decodeField m t.header t.value = .ok m') (rest : Bytes) :
    tlvPass (m, t.bytes ++ rest) = .ok (.again (m', rest)) := by
  have hbytes : t.bytes ++ rest = be t.header ++ (t.value ++ rest) := List.append_assoc ..
  have h4 : 4 ≤ (t.bytes ++ rest).length := (t.wholeTlv rest).header
  have hheader : beAt (E := Error) 32 (t.bytes ++ rest) 0 = .ok t.header := by
    rw [hbytes, beAt_be_append t.header _ rfl]
  have hfit : ¬ 4 + t.value.length > (t.bytes ++ rest).length := by
    rw [List.length_append, t.bytes_length]
    omega
  have hslice : slice (E := Error) (t.bytes ++ rest) 4 (4 + t.value.length) = .ok t.value := by
    rw [hbytes]
    exact slice_middle (by rw [be_length]) (by rw [be_length])
  have hdrop : (t.bytes ++ rest).drop (4 + t.value.length) = rest := List.drop_left' t.bytes_length
  simp only [tlvPass, if_pos h4, hheader, ok_bind, ← t.fits, if_neg hfit, hslice, hm, hdrop]
  rfl

/-- The loop takes a whole TLV, whatever follows it. -/
theorem RawTlv.tlvPass_bytes (t : RawTlv) (m : Match) :
    ∃ m', ∀ rest, tlvPass (m, t.bytes ++ rest) = .ok (.again (m', rest)) := by
  obtain ⟨m', hm⟩ := decodeField_ok m t.header t.fits.symm
  exact ⟨m', t.tlvPass_eq hm⟩

/-- The loop is left where no whole TLV stands. -/
theorem tlvPass_not_whole {m : Match} {data : Bytes} (h : ¬ WholeTlv data) :
    tlvPass (m, data) = .ok (.leave m) := by
  simp only [tlvPass]
  split
  · next h4 =>
    have hpast : 4 + headerLength (wordAt 32 data 0) > data.length :=
      Nat.not_le.mp fun hfits => h ⟨h4, hfits⟩
    rw [beAt_eq_ok h4, ok_bind, if_pos hpast]
    rfl
  · rfl

/-! ### What is read of bytes that are cut off -/

theorem decodeTlvs_not_whole {data : Bytes} (h : ¬ WholeTlv data) (m : Match) :
    decodeTlvs m data = .ok m := loop_leave (tlvPass_not_whole h) _

/-- **A row of whole TLVs with the beginning of one more decodes like the row alone.** -/
theorem decodeTlvs_cutOff {stub : Bytes} (h : ¬ WholeTlv stub) (tlvs : List RawTlv) (m : Match) :
    decodeTlvs m (tlvs.flatMap RawTlv.bytes ++ stub) =
      decodeTlvs m (tlvs.flatMap RawTlv.bytes) := by
  induction tlvs generalizing m with
  | nil => exact decodeTlvs_not_whole h m
  | cons t tlvs ih =>
    obtain ⟨m', hpass⟩ := t.tlvPass_bytes m
    rw [List.flatMap_cons, List.append_assoc, decodeTlvs_step (hpass _), decodeTlvs_step (hpass _)]
    exact ih m'

/-! ### Exactly where the decoders are exact -/

theorem not_wholeTlv_nil : ¬ WholeTlv [] := fun h => absurd h.header (by decide)

/-- A region is a row of whole TLVs exactly if its loop comes to none that is cut off. -/
theorem tlvsPartition_iff (data : Bytes) : TlvsPartition data ↔ NeverCutOff data := by
  constructor
  case mp =>
    rintro ⟨tlvs, rfl⟩
    intro rest hwalk hcut
    generalize hdata : tlvs.flatMap RawTlv.bytes = data at hwalk
    induction hwalk generalizing tlvs with
    | here data =>
      cases tlvs with
      | nil => exact hcut.1 hdata.symm
      | cons t tlvs =>
        rw [List.flatMap_cons] at hdata
        exact hcut.2 (hdata ▸ t.wholeTlv _)
    | there hwhole _ ih =>
      cases tlvs with
      | nil =>
        rw [← hdata] at hwhole
        exact not_wholeTlv_nil hwhole
      | cons t tlvs =>
        refine ih tlvs hcut ?_
        rw [← hdata, List.flatMap_cons, t.tlvLength_bytes, List.drop_left]
  case mpr =>
    intro hnever
    induction hn : data.length using Nat.strongRecOn generalizing data with
    | ind n ih =>
      by_cases hwhole : WholeTlv data
      · obtain ⟨t, hdata⟩ := hwhole.exists_tlv
        have h4 := hwhole.header
        obtain ⟨tlvs, htlvs⟩ := ih (data.drop (tlvLength data)).length
          (by rw [List.length_drop, tlvLength]; omega) (data.drop (tlvLength data))
          (fun rest hwalk => hnever rest (.there hwhole hwalk)) rfl
        refine ⟨t :: tlvs, ?_⟩
        rw [List.flatMap_cons, htlvs]
        exact hdata.symm
      · have hnil : data = [] := by
          by_contra hne
          exact hnever data (.here data) ⟨hne, hwhole⟩
        exact ⟨[], hnil.symm⟩

theorem decodesOxmExactly_iff (data : Bytes) : DecodesOxmExactly data ↔ NeverCutOff data := by
  rw [← tlvsPartition_iff]
  constructor
  case mp =>
    intro h
    obtain ⟨m, hm⟩ := decodeTlvs_ok Match.new data
    exact h m hm
  case mpr => exact fun h _ _ => h

/-- The checks that `Match::decode` makes, with the match length it slices with. -/
structure MatchAccepted (data : Bytes) : Prop extends MatchHeaderAccepted data where
  headerInside : 4 ≤ frameLength data

theorem Match.decode_eq_ok {data : Bytes} {m : Match} {n : Nat}
    (h : Match.decode data = .ok (m, n)) : MatchAccepted data ∧ n = pad8 (frameLength data) := by
  by_cases haccepted : MatchHeaderAccepted data
  · by_cases h4 : 4 ≤ frameLength data
    · obtain ⟨m', hm'⟩ := Match.decode_ok haccepted h4
      rw [hm'] at h
      cases h
      exact ⟨⟨haccepted, h4⟩, rfl⟩
    · rw [Match.decode_panics haccepted (Nat.not_le.mp h4)] at h
      cases h
  · obtain ⟨e, he⟩ := Match.decode_rejected haccepted
    rw [he] at h
    cases h

/-- What an accepted match has to keep beside the checks that are made: no TLV of its region is
    cut off, and its padding is there. -/
structure RegionWhole (data : Bytes) : Prop where
  neverCutOff : NeverCutOff ((data.take (frameLength data)).drop 4)
  padding : pad8 (frameLength data) ≤ data.length

theorem decodesExactly_iff (data : Bytes) :
    DecodesExactly data ↔ (MatchAccepted data → RegionWhole data) := by
  constructor
  case mp =>
    intro h haccepted
    obtain ⟨m, hm⟩ := Match.decode_ok haccepted.toMatchHeaderAccepted haccepted.headerInside
    have hexact := h m _ hm
    exact ⟨(tlvsPartition_iff _).mp hexact.tlvs, hexact.padded⟩
  case mpr =>
    intro h m n hdecode
    obtain ⟨haccepted, rfl⟩ := Match.decode_eq_ok hdecode
    have hwhole := h haccepted
    exact ⟨haccepted.oxm, haccepted.headerInside, haccepted.fits, rfl, hwhole.padding,
      (tlvsPartition_iff _).mpr hwhole.neverCutOff⟩

/-- **`Match::decode` and `Match::decode_oxm` accept only exact matches on the bytes where their
    loop comes to no TLV that is cut off and the padding is present, and on no others.** -/
theorem match_decoders_exact_iff (data : Bytes) :
    (DecodesExactly data ↔ (MatchAccepted data → RegionWhole data)) ∧
      (DecodesOxmExactly data ↔ NeverCutOff data) :=
  ⟨decodesExactly_iff data, decodesOxmExactly_iff data⟩

/-- An Ethernet type of IPv4, then an IP protocol whose value is cut off. -/
def cutOffRegion : Bytes := [0x80, 0x00, 0x0a, 0x02, 0x08, 0x00, 0x80, 0x00, 0x14, 0x01]

/-- The cut-off region behind a match header, with its padding. -/
def cutOffMatch : Bytes := [0x00, 0x01, 0x00, 0x0e] ++ cutOffRegion ++ [0x00, 0x00]

theorem cutOffRegion_cutOff : ¬ NeverCutOff cutOffRegion := by
  have hwhole : WholeTlv cutOffRegion := ⟨by decide, by decide⟩
  intro h
  refine h (cutOffRegion.drop (tlvLength cutOffRegion)) (.there hwhole (.here _)) ⟨by decide, ?_⟩
  exact fun hrest => absurd hrest.fits (by decide)

/-- Both decoders read the cut-off bytes as a match on the Ethernet type alone. -/
theorem cutOffMatch_broader :
    Match.decode cutOffMatch = .ok ({ Match.new with ethType := some 0x0800 }, 16) ∧
      ¬ DecodesExactly cutOffMatch ∧
      Match.decodeOxm cutOffRegion = .ok { Match.new with ethType := some 0x0800 } ∧
      ¬ DecodesOxmExactly cutOffRegion := by
  have haccepted : MatchAccepted cutOffMatch := ⟨⟨by decide, by decide, by decide⟩, by decide⟩
  refine ⟨by decide, ?_, by decide, ?_⟩
  · rw [decodesExactly_iff]
    exact fun h => cutOffRegion_cutOff (h haccepted).neverCutOff
  · rw [decodesOxmExactly_iff]
    exact cutOffRegion_cutOff

end Rovs.OpenFlow

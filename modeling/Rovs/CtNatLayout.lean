import Rovs.FlowEntry

/-!
# The ct action with NAT describes itself

A NAT configuration is written in three passes that never look at each other: the
bits of the fields that are there, the size of these fields, and the fields.  The
bytes can be read without knowing the configuration: the two length words cut the
action and the one nested in it, and the bits say which fields follow and how
wide each is.  Behind the last one only padding is left.

`SelfDescribing` is this reading of the bytes, and `encodeNxCtNat_selfDescribing` the
main result.
-/

namespace Rovs.OpenFlow

/-- What is left behind the optional fields: each is taken exactly when its bit is set, four
    bytes for an IPv4 address, sixteen for an IPv6 address and two for a port. -/
def rangesRest (present : U16) (data : Bytes) : Bytes :=
  let ipv4Min := readRange present 0 32 data
  let ipv4Max := readRange present 1 32 ipv4Min.2
  let ipv6Min := readRange present 2 128 ipv4Max.2
  let ipv6Max := readRange present 3 128 ipv6Min.2
  let portMin := readRange present 4 16 ipv6Max.2
  (readRange present 5 16 portMin.2).2

/-- The bytes say everything that the action was built from. -/
structure SelfDescribing (bytes : Bytes) (flags zone : U16) (table : Option U8)
    (nat : NatConfig) : Prop where
  type : niciraSubtype bytes = some NxActionSubtype.ct.toU16
  length : frameLength bytes = bytes.length
  aligned : bytes.length % 8 = 0
  flags : wordAt 16 bytes 10 = flags
  zone : wordAt 16 bytes 16 = zone
  table : wordAt 8 bytes 18 = table.getD 255
  natType : niciraSubtype (bytes.drop 24) = some NxActionSubtype.nat.toU16
  natLength : frameLength (bytes.drop 24) = (bytes.drop 24).length
  natAligned : (bytes.drop 24).length % 8 = 0
  natFields : readRanges (wordAt 16 bytes 36) (wordAt 16 bytes 38) (bytes.drop 40) = nat
  padding : ∃ n < 8, rangesRest (wordAt 16 bytes 38) (bytes.drop 40) = zeros n

theorem rangesRest_natRanges (nat : NatConfig) (rest : Bytes) :
    rangesRest nat.rangePresent (natRanges nat ++ rest) = rest := by
  rcases rangePresent_bits nat with ⟨h0, h1, h2, h3, h4, h5⟩
  simp only [natRanges, List.append_assoc, rangesRest, readRange_ifSome rfl h0,
    readRange_ifSome rfl h1, readRange_ifSome rfl h2, readRange_ifSome rfl h3,
    readRange_ifSome rfl h4, readRange_ifSome rfl h5]

/-- **The bytes of a ct action with NAT describe it**: both lengths, every field of the NAT
    configuration, and the fixed part.  The inner action says by a bit for each field which of them
    follow, and is padded to eight bytes. -/
theorem encodeNxCtNat_selfDescribing (flags zone : U16) (table : Option U8) (nat : NatConfig) :
    SelfDescribing (encodeNxCtNat flags zone table nat) flags zone table nat := by
  have hframe := (encodeNxCtNat_decodesTo flags zone table nat).isFrame
  have hnatFrame := encodeNxNat_isFrame nat
  rcases encodeNxCtNat_eq flags zone table nat with ⟨len, hencode⟩
  obtain ⟨hflags, hzone, htable, hnested⟩ := ctFields_words hencode
  obtain ⟨hnatType, hnatFlags, hpresent, pad, hpad, hranges⟩ := encodeNxNat_words nat
  constructor
  case type => exact (nxHeader_words hencode).2
  case length => exact hframe.length_eq
  case aligned =>
    rw [encodeNxCtNat, resize_length]
    exact pad8_mod _
  case flags => exact hflags
  case zone => exact hzone
  case table => exact htable
  case natType => rwa [hnested]
  case natLength =>
    rw [hnested]
    exact hnatFrame.length_eq
  case natAligned =>
    rw [hnested, encodeNxNat, resize_length]
    exact pad8_mod _
  case natFields =>
    rw [← wordAt_drop _ 24 12, ← wordAt_drop _ 24 14, ← List.drop_drop (i := 16) (j := 24), hnested,
      hnatFlags, hpresent, hranges, readRanges_natRanges]
  case padding =>
    refine ⟨pad, hpad, ?_⟩
    rw [← wordAt_drop _ 24 14, ← List.drop_drop (i := 16) (j := 24), hnested, hpresent, hranges,
      rangesRest_natRanges]

end Rovs.OpenFlow

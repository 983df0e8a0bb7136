import Rovs.Oxm

/-!
# Match fields (`rovs-openflow/src/match_fields.rs`)

`Match` is the record of optional match conditions that every flow carries.
`encode` writes the conditions that are present as OXM fields behind a match
header and pads to eight bytes; `decode` and `decodeOxm` read such fields back
with one loop over type-length-value triples.  Three decoders share the work, one
for each class of field identifiers.

An IPv4 address is its 32-bit word, an IPv6 address its 128-bit word and a MAC
address a 48-bit word, first octet most significant.  The offset of the source's
loops is represented by the bytes that are still unread.
-/

namespace Rovs.OpenFlow

abbrev MacAddr := BitVec 48
abbrev Ipv4Addr := U32
abbrev Ipv6Addr := U128

inductive MatchType where
  | standard
  | oxm
deriving DecidableEq, Repr

def MatchType.toU16 : MatchType → U16
  | .standard => 0
  | .oxm => 1

/-- Match fields for flow matching; the masks of IP addresses are prefix lengths. -/
structure Match where
  inPort : Option U32 := none
  inPhyPort : Option U32 := none
  metadata : Option U64 := none
  metadataMask : Option U64 := none
  ethSrc : Option MacAddr := none
  ethSrcMask : Option MacAddr := none
  ethDst : Option MacAddr := none
  ethDstMask : Option MacAddr := none
  ethType : Option U16 := none
  vlanVid : Option U16 := none
  vlanPcp : Option U8 := none
  ipv4Src : Option Ipv4Addr := none
  ipv4SrcMask : Option U8 := none
  ipv4Dst : Option Ipv4Addr := none
  ipv4DstMask : Option U8 := none
  ipProto : Option U8 := none
  ipDscp : Option U8 := none
  ipEcn : Option U8 := none
  ipv6Src : Option Ipv6Addr := none
  ipv6SrcMask : Option U8 := none
  ipv6Dst : Option Ipv6Addr := none
  ipv6DstMask : Option U8 := none
  ipv6Flabel : Option U32 := none
  tcpSrc : Option U16 := none
  tcpDst : Option U16 := none
  tcpFlags : Option U16 := none
  udpSrc : Option U16 := none
  udpDst : Option U16 := none
  icmpType : Option U8 := none
  icmpCode : Option U8 := none
  icmpv6Type : Option U8 := none
  icmpv6Code : Option U8 := none
  arpOp : Option U16 := none
  arpSpa : Option Ipv4Addr := none
  arpTpa : Option Ipv4Addr := none
  arpSha : Option MacAddr := none
  arpTha : Option MacAddr := none
  tunnelId : Option U64 := none
  ctState : Option U32 := none
  ctStateMask : Option U32 := none
  ctZone : Option U16 := none
  ctMark : Option U32 := none
  ctMarkMask : Option U32 := none
deriving DecidableEq, Repr

def Match.new : Match := {}

/-! ### Encoding -/

def encodeIpv6 (field : U8) (value : U128) : Bytes :=
  let oxmHeader : U32 := (OxmClass.openflowBasic.toU16.setWidth 32 <<< 16) |||
    (field.setWidth 32 <<< 9) ||| 16
  be oxmHeader ++ be value

def encodeIpv6Masked (field : U8) (value mask : U128) : Bytes :=
  let oxmHeader : U32 := (OxmClass.openflowBasic.toU16.setWidth 32 <<< 16) |||
    (field.setWidth 32 <<< 9) ||| (1 <<< 8) ||| 32
  be oxmHeader ++ be value ++ be mask

section Conditions

variable {w : Nat}

/-- A condition that is written with its mask when it has one. -/
def encodeWithMask (plain : BitVec w → Bytes) (masked : BitVec w → BitVec w → Bytes)
    (value mask : Option (BitVec w)) : Bytes :=
  ifSome value fun v =>
    match mask with
    | some k => masked v k
    | none => plain v

/-- An address that is written with the mask of its prefix when that is shorter
    than the address. -/
def encodeWithPrefix (plain : BitVec w → Bytes) (masked : BitVec w → BitVec w → Bytes)
    (toMask : U8 → BitVec w) (full : U8) (value : Option (BitVec w)) (prefixLen : Option U8) :
    Bytes :=
  ifSome value fun v =>
    match prefixLen with
    | some p => if p < full then masked v (toMask p) else plain v
    | none => plain v

end Conditions

/-- A plain OpenFlow Basic condition, with the writer of its width. -/
def basic {α : Type} (write : OxmClass → U8 → α → Bytes) (field : OxmField) (value : Option α) :
    Bytes :=
  ifSome value (write .openflowBasic field.toU8)

/-- The IPv4 address conditions. -/
def encodeIpv4 (field : OxmField) : Option Ipv4Addr → Option U8 → Bytes :=
  encodeWithPrefix (encodeU32 .openflowBasic field.toU8)
    (encodeU32Masked .openflowBasic field.toU8) prefixToMask 32

/-- The IPv6 address conditions. -/
def encodeIpv6Prefix (field : OxmField) : Option Ipv6Addr → Option U8 → Bytes :=
  encodeWithPrefix (encodeIpv6 field.toU8) (encodeIpv6Masked field.toU8) prefixToMaskV6 128

/-- The MAC address conditions of the Ethernet header. -/
def encodeEthMac (field : OxmField) : Option MacAddr → Option MacAddr → Bytes :=
  encodeWithMask (encodeMac .openflowBasic field.toU8) (encodeMacMasked .openflowBasic field.toU8)

/-- `ct_state`, whose all-ones mask is written as no mask. -/
def encodeCtStateCondition (state mask : Option U32) : Bytes :=
  ifSome state fun s =>
    match mask with
    | some k => if k = 0xffffffff then encodeCtState s else encodeCtStateMasked s k
    | none => encodeCtState s

/-- The local `oxm_fields` of `Match::encode`, in its order. -/
def Match.oxmFields (m : Match) : Bytes := List.flatten [
    basic encodeU32 .inPort m.inPort,
    basic encodeU32 .inPhyPort m.inPhyPort,
    encodeWithMask (encodeU64 .openflowBasic OxmField.metadata.toU8)
      (encodeU64Masked .openflowBasic OxmField.metadata.toU8) m.metadata m.metadataMask,
    -- L2
    encodeEthMac .ethDst m.ethDst m.ethDstMask,
    encodeEthMac .ethSrc m.ethSrc m.ethSrcMask,
    basic encodeU16 .ethType m.ethType,
    -- the VLAN id travels with its "present" bit
    basic encodeU16 .vlanVid (m.vlanVid.map (· ||| 0x1000)),
    basic encodeU8 .vlanPcp m.vlanPcp,
    -- L3 IPv4
    basic encodeU8 .ipDscp m.ipDscp,
    basic encodeU8 .ipEcn m.ipEcn,
    basic encodeU8 .ipProto m.ipProto,
    encodeIpv4 .ipv4Src m.ipv4Src m.ipv4SrcMask,
    encodeIpv4 .ipv4Dst m.ipv4Dst m.ipv4DstMask,
    -- L4
    basic encodeU16 .tcpSrc m.tcpSrc,
    basic encodeU16 .tcpDst m.tcpDst,
    basic encodeU16 .udpSrc m.udpSrc,
    basic encodeU16 .udpDst m.udpDst,
    basic encodeU8 .icmpv4Type m.icmpType,
    basic encodeU8 .icmpv4Code m.icmpCode,
    basic encodeU8 .icmpv6Type m.icmpv6Type,
    basic encodeU8 .icmpv6Code m.icmpv6Code,
    -- ARP
    basic encodeU16 .arpOp m.arpOp,
    basic encodeU32 .arpSpa m.arpSpa,
    basic encodeU32 .arpTpa m.arpTpa,
    basic encodeMac .arpSha m.arpSha,
    basic encodeMac .arpTha m.arpTha,
    -- L3 IPv6
    encodeIpv6Prefix .ipv6Src m.ipv6Src m.ipv6SrcMask,
    encodeIpv6Prefix .ipv6Dst m.ipv6Dst m.ipv6DstMask,
    basic encodeU32 .ipv6Flabel m.ipv6Flabel,
    -- NXM
    ifSome m.tunnelId encodeTunId,
    encodeCtStateCondition m.ctState m.ctStateMask,
    ifSome m.ctZone encodeCtZone,
    encodeWithMask encodeCtMark encodeCtMarkMasked m.ctMark m.ctMarkMask]

def Match.encode (m : Match) : Bytes :=
  let oxmFields := m.oxmFields
  let matchLen := 4 + oxmFields.length
  let paddedLen := pad8 matchLen
  be MatchType.oxm.toU16 ++ be (BitVec.ofNat 16 matchLen) ++ oxmFields
    ++ zeros (paddedLen - matchLen)

/-- `Match::encode_oxm_fields`: the full encoding without its header and padding. -/
def Match.encodeOxmFields (m : Match) : Result Bytes :=
  let full := m.encode
  if full.length ≤ 4 then pure []
  else do
    let matchLen ← beAt 16 full 2
    slice full 4 matchLen.toNat

/-! ### Decoding -/

section Fields

variable {w : Nat}

/-- A value that is stored when enough bytes are there, else skipped. -/
def readValue (w : Nat) (m : Match) (value : Bytes) (valueLen : Nat)
    (store : BitVec w → Match) : Result Match :=
  if w / 8 ≤ valueLen then do
    let v ← beAt w value 0
    pure (store v)
  else pure m

/-- The mask behind a value, when there is one. -/
def readMask (w : Nat) (hasMask : Bool) (value : Bytes) (m : Match)
    (store : Match → BitVec w → Match) : Result Match :=
  if hasMask ∧ 2 * (w / 8) ≤ value.length then do
    let k ← beAt w value (w / 8)
    pure (store m k)
  else pure m

/-- A value and, where it is masked, its mask. -/
def readMasked (w : Nat) (m : Match) (hasMask : Bool) (value : Bytes) (valueLen : Nat)
    (store : BitVec w → Match) (storeMask : Match → BitVec w → Match) : Result Match :=
  if w / 8 ≤ valueLen then do
    let v ← beAt w value 0
    readMask w hasMask value (store v) storeMask
  else pure m

/-- An address and its prefix length: that of the mask, or the full width. -/
def readPrefixed (w : Nat) (m : Match) (hasMask : Bool) (value : Bytes) (valueLen : Nat)
    (full : U8) (store : BitVec w → U8 → Match) : Result Match :=
  if w / 8 ≤ valueLen then do
    let addr ← beAt w value 0
    if hasMask ∧ 2 * (w / 8) ≤ value.length then do
      let mask ← beAt w value (w / 8)
      pure (store addr (maskToPrefix mask))
    else pure (store addr full)
  else pure m

end Fields

/-- `Match::decode_oxm_field`: the OpenFlow Basic class. -/
def decodeOxmField (m : Match) (field : U8) (hasMask : Bool) (value : Bytes) (valueLen : Nat) :
    Result Match :=
  if field = OxmField.inPort.toU8 then
    readValue 32 m value valueLen fun v => { m with inPort := some v }
  else if field = OxmField.inPhyPort.toU8 then
    readValue 32 m value valueLen fun v => { m with inPhyPort := some v }
  else if field = OxmField.metadata.toU8 then
    readMasked 64 m hasMask value valueLen (fun v => { m with metadata := some v })
      fun m k => { m with metadataMask := some k }
  else if field = OxmField.ethDst.toU8 then
    readMasked 48 m hasMask value valueLen (fun v => { m with ethDst := some v })
      fun m k => { m with ethDstMask := some k }
  else if field = OxmField.ethSrc.toU8 then
    readMasked 48 m hasMask value valueLen (fun v => { m with ethSrc := some v })
      fun m k => { m with ethSrcMask := some k }
  else if field = OxmField.ethType.toU8 then
    readValue 16 m value valueLen fun v => { m with ethType := some v }
  else if field = OxmField.vlanVid.toU8 then
    -- remove the "present" bit (0x1000)
    readValue 16 m value valueLen fun v => { m with vlanVid := some (v &&& 0x0fff) }
  else if field = OxmField.vlanPcp.toU8 then
    readValue 8 m value valueLen fun v => { m with vlanPcp := some v }
  else if field = OxmField.ipDscp.toU8 then
    readValue 8 m value valueLen fun v => { m with ipDscp := some v }
  else if field = OxmField.ipEcn.toU8 then
    readValue 8 m value valueLen fun v => { m with ipEcn := some v }
  else if field = OxmField.ipProto.toU8 then
    readValue 8 m value valueLen fun v => { m with ipProto := some v }
  else if field = OxmField.ipv4Src.toU8 then
    readPrefixed 32 m hasMask value valueLen 32
      fun v p => { m with ipv4Src := some v, ipv4SrcMask := some p }
  else if field = OxmField.ipv4Dst.toU8 then
    readPrefixed 32 m hasMask value valueLen 32
      fun v p => { m with ipv4Dst := some v, ipv4DstMask := some p }
  else if field = OxmField.tcpSrc.toU8 then
    readValue 16 m value valueLen fun v => { m with tcpSrc := some v }
  else if field = OxmField.tcpDst.toU8 then
    readValue 16 m value valueLen fun v => { m with tcpDst := some v }
  else if field = OxmField.udpSrc.toU8 then
    readValue 16 m value valueLen fun v => { m with udpSrc := some v }
  else if field = OxmField.udpDst.toU8 then
    readValue 16 m value valueLen fun v => { m with udpDst := some v }
  else if field = OxmField.icmpv4Type.toU8 then
    readValue 8 m value valueLen fun v => { m with icmpType := some v }
  else if field = OxmField.icmpv4Code.toU8 then
    readValue 8 m value valueLen fun v => { m with icmpCode := some v }
  else if field = OxmField.icmpv6Type.toU8 then
    readValue 8 m value valueLen fun v => { m with icmpv6Type := some v }
  else if field = OxmField.icmpv6Code.toU8 then
    readValue 8 m value valueLen fun v => { m with icmpv6Code := some v }
  else if field = OxmField.arpOp.toU8 then
    readValue 16 m value valueLen fun v => { m with arpOp := some v }
  else if field = OxmField.arpSpa.toU8 then
    readValue 32 m value valueLen fun v => { m with arpSpa := some v }
  else if field = OxmField.arpTpa.toU8 then
    readValue 32 m value valueLen fun v => { m with arpTpa := some v }
  else if field = OxmField.arpSha.toU8 then
    readValue 48 m value valueLen fun v => { m with arpSha := some v }
  else if field = OxmField.arpTha.toU8 then
    readValue 48 m value valueLen fun v => { m with arpTha := some v }
  else if field = OxmField.ipv6Src.toU8 then
    readPrefixed 128 m hasMask value valueLen 128
      fun v p => { m with ipv6Src := some v, ipv6SrcMask := some p }
  else if field = OxmField.ipv6Dst.toU8 then
    readPrefixed 128 m hasMask value valueLen 128
      fun v p => { m with ipv6Dst := some v, ipv6DstMask := some p }
  else if field = OxmField.ipv6Flabel.toU8 then
    readValue 32 m value valueLen fun v => { m with ipv6Flabel := some v }
  else if field = OxmField.tunnelId.toU8 then
    readValue 64 m value valueLen fun v => { m with tunnelId := some v }
  else pure m

/-- `Match::decode_nxm0_field`: the OpenFlow 1.0 compatible class, whose field
    numbers are its own. -/
def decodeNxm0Field (m : Match) (field : U8) (hasMask : Bool) (value : Bytes) (valueLen : Nat) :
    Result Match :=
  match field.toNat with
  | 0 => readValue 16 m value valueLen fun v => { m with inPort := some (v.setWidth 32) }
  | 1 => readMasked 48 m hasMask value valueLen (fun v => { m with ethDst := some v })
      fun m k => { m with ethDstMask := some k }
  | 2 => readMasked 48 m hasMask value valueLen (fun v => { m with ethSrc := some v })
      fun m k => { m with ethSrcMask := some k }
  | 3 => readValue 16 m value valueLen fun v => { m with ethType := some v }
  -- the whole TCI is stored here
  | 4 => readValue 16 m value valueLen fun v => { m with vlanVid := some v }
  | 5 => readValue 8 m value valueLen fun v => { m with ipDscp := some (v >>> 2) }
  | 6 => readValue 8 m value valueLen fun v => { m with ipProto := some v }
  | 7 => readPrefixed 32 m hasMask value valueLen 32
      fun v p => { m with ipv4Src := some v, ipv4SrcMask := some p }
  | 8 => readPrefixed 32 m hasMask value valueLen 32
      fun v p => { m with ipv4Dst := some v, ipv4DstMask := some p }
  | 9 => readValue 16 m value valueLen fun v => { m with tcpSrc := some v }
  | 10 => readValue 16 m value valueLen fun v => { m with tcpDst := some v }
  | 11 => readValue 16 m value valueLen fun v => { m with udpSrc := some v }
  | 12 => readValue 16 m value valueLen fun v => { m with udpDst := some v }
  | 13 => readValue 8 m value valueLen fun v => { m with icmpType := some v }
  | 14 => readValue 8 m value valueLen fun v => { m with icmpCode := some v }
  | 15 => readValue 16 m value valueLen fun v => { m with arpOp := some v }
  | 16 => readValue 32 m value valueLen fun v => { m with arpSpa := some v }
  | 17 => readValue 32 m value valueLen fun v => { m with arpTpa := some v }
  | _ => pure m

/-- `Match::decode_nxm_field`: the Nicira extension class. -/
def decodeNxmField (m : Match) (field : U8) (hasMask : Bool) (value : Bytes) (valueLen : Nat) :
    Result Match :=
  match field.toNat with
  | 16 => readValue 64 m value valueLen fun v => { m with tunnelId := some v }
  | 105 => readMasked 32 m hasMask value valueLen (fun v => { m with ctState := some v })
      fun m k => { m with ctStateMask := some k }
  | 106 => readValue 16 m value valueLen fun v => { m with ctZone := some v }
  | 107 => readMasked 32 m hasMask value valueLen (fun v => { m with ctMark := some v })
      fun m k => { m with ctMarkMask := some k }
  | _ => pure m

/-- The choice of decoder by class; unknown classes are skipped. -/
def decodeField (m : Match) (header : U32) (value : Bytes) : Result Match :=
  let oxmClass := headerClass header
  let field := headerField header
  let hasMask := headerHasMask header
  let valueLen := if hasMask then headerLength header / 2 else headerLength header
  if oxmClass = OxmClass.openflowBasic.toU16 then decodeOxmField m field hasMask value valueLen
  else if oxmClass = OxmClass.nxm1.toU16 then decodeNxmField m field hasMask value valueLen
  else if oxmClass = OxmClass.nxm0.toU16 then decodeNxm0Field m field hasMask value valueLen
  else pure m

/-- One pass of the TLV loop that stands in both `decode` and `decode_oxm`: the
    match so far and the bytes still unread. -/
def tlvPass (s : Match × Bytes) : Result (Outcome.Pass (Match × Bytes) Match) :=
  let (m, data) := s
  if 4 ≤ data.length then do
    let header ← beAt 32 data 0
    let length := headerLength header
    if 4 + length > data.length then pure (.leave m)
    else do
      let value ← slice data 4 (4 + length)
      let m' ← decodeField m header value
      pure (.again (m', data.drop (4 + length)))
  else pure (.leave m)

/-- The TLV loop, adding what it reads to a match. -/
def decodeTlvs (m : Match) (data : Bytes) : Result Match :=
  Outcome.loop tlvPass (data.length + 1) (m, data)

/-- `Match::decode_oxm`: a match from OXM fields without the match header. -/
def Match.decodeOxm (oxmData : Bytes) : Result Match := decodeTlvs Match.new oxmData

/-- `Match::decode`: the match and the number of bytes it takes with its padding. -/
def Match.decode (data : Bytes) : Result (Match × Nat) :=
  if data.length < 4 then parseError "match header too short"
  else do
    let matchType ← beAt 16 data 0
    let matchLen ← beAt 16 data 2
    if matchType ≠ MatchType.oxm.toU16 then
      parseError s!"unsupported match type: {matchType.toNat}"
    else if data.length < matchLen.toNat then parseError "match data truncated"
    else do
      let oxmData ← slice data 4 matchLen.toNat
      let m ← Match.decodeOxm oxmData
      pure (m, pad8 matchLen.toNat)

end Rovs.OpenFlow

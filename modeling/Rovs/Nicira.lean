import Rovs.ActionTypes

/-!
# Nicira extension actions (`rovs-openflow/src/action/nicira.rs`)

The vendor extensions: resubmit, connection tracking with and without NAT, bit
moves and loads, and the learn action with its list of flow-mod specifications.
An encoder writes the experimenter header and then its own layout.  The decoders
read through a cursor that checks every read; the cursor is the bytes it has not
consumed yet, and each read returns what is left.
-/

namespace Rovs.OpenFlow

/-! ### Encoding -/

def encodeNxHeader (subtype : NxActionSubtype) (len : U16) : Bytes :=
  be ActionType.experimenter.toU16 ++ be len ++ be niciraVendorId ++ be subtype.toU16

/-- `encode_set_tunnel_id`: a load of the NXM tunnel id. -/
def encodeSetTunnelId (tunId : U64) : Bytes :=
  let oxmHeader : U32 := (1 <<< 16) ||| (16 <<< 9) ||| 8
  encodeNxHeader .regLoad2 24 ++ be oxmHeader ++ be tunId ++ zeros 2

def encodeNxResubmit (inPort : Option U16) (table : Option U8) : Bytes :=
  encodeNxHeader .resubmitTable 16 ++ be (inPort.getD 0xfff8) ++ be (table.getD 255) ++ zeros 3

/-- The fields of a ct action behind its header. -/
def ctFields (flags zone : U16) (table : Option U8) : Bytes :=
  be flags ++ be (0 : U32) ++ be zone ++ be (table.getD 255) ++ zeros 3 ++ be (0 : U16)

def encodeNxCt (flags zone : U16) (table : Option U8) : Bytes :=
  encodeNxHeader .ct 24 ++ ctFields flags zone table

/-- `encode_nx_nat`: the action nested in ct. -/
def encodeNxNat (nat : NatConfig) : Bytes :=
  let optionalLen :=
    (if nat.ipv4Min.isSome then 4 else 0) + (if nat.ipv4Max.isSome then 4 else 0)
      + (if nat.ipv6Min.isSome then 16 else 0) + (if nat.ipv6Max.isSome then 16 else 0)
      + (if nat.portMin.isSome then 2 else 0) + (if nat.portMax.isSome then 2 else 0)
  let paddedLen := pad8 (16 + optionalLen)
  resize
    (encodeNxHeader .nat (BitVec.ofNat 16 paddedLen) ++ zeros 2 ++ be nat.flags
      ++ be nat.rangePresent
      ++ ifSome nat.ipv4Min be ++ ifSome nat.ipv4Max be
      ++ ifSome nat.ipv6Min be ++ ifSome nat.ipv6Max be
      ++ ifSome nat.portMin be ++ ifSome nat.portMax be)
    paddedLen

def encodeNxCtNat (flags zone : U16) (table : Option U8) (nat : NatConfig) : Bytes :=
  let natAction := encodeNxNat nat
  let paddedLen := pad8 (24 + natAction.length)
  resize
    (encodeNxHeader .ct (BitVec.ofNat 16 paddedLen) ++ ctFields flags zone table ++ natAction)
    paddedLen

def encodeNxRegLoadNxm (dstField : U32) (dstOfs nBits : U16) (value : U64) : Bytes :=
  let ofsNbits := (dstOfs <<< 6) ||| (nBits - 1)
  encodeNxHeader .regLoad 24 ++ be ofsNbits ++ be dstField ++ be value

def encodeNxMove (srcField dstField : U32) (nBits srcOfs dstOfs : U16) : Bytes :=
  encodeNxHeader .move 24 ++ be nBits ++ be srcOfs ++ be dstOfs ++ be srcField ++ be dstField

/-- `learn_spec_header`: where a spec takes its value from and what it does with it. -/
def learnSpecSrcField : U16 := 0 <<< 13
def learnSpecSrcImmediate : U16 := 1 <<< 13
def learnSpecDstMatch : U16 := 0 <<< 11
def learnSpecDstLoad : U16 := 1 <<< 11
def learnSpecDstOutput : U16 := 2 <<< 11

/-- `encode_learn_subfield`: a field header and a bit offset. -/
def encodeLearnSubfield (nxmHeader : U32) (ofs : U16) : Bytes := be nxmHeader ++ be ofs

/-- `n_bits.div_ceil(16) * 2`: the bytes of an immediate value. -/
def learnValueLen (nBits : U16) : Nat := (nBits.toNat + 15) / 16 * 2

/-- An immediate value, right-aligned in its bytes. -/
def encodeLearnValue (value : Bytes) (nBits : U16) : Bytes :=
  let valueLen := learnValueLen nBits
  let copyLen := min value.length valueLen
  zeros (valueLen - copyLen) ++ value.take copyLen

/-- The body of the loop in `encode_learn_specs`. -/
def encodeLearnSpec : LearnSpec → Bytes
  | .matchField srcField dstField nBits =>
      be (learnSpecSrcField ||| learnSpecDstMatch ||| (nBits - 1))
        ++ encodeLearnSubfield srcField 0 ++ encodeLearnSubfield dstField 0
  | .matchImmediate dstField value nBits =>
      be (learnSpecSrcImmediate ||| learnSpecDstMatch ||| (nBits - 1))
        ++ encodeLearnValue value nBits ++ encodeLearnSubfield dstField 0
  | .loadField srcField dstField nBits =>
      be (learnSpecSrcField ||| learnSpecDstLoad ||| (nBits - 1))
        ++ encodeLearnSubfield srcField 0 ++ encodeLearnSubfield dstField 0
  | .loadImmediate dstField value nBits =>
      be (learnSpecSrcImmediate ||| learnSpecDstLoad ||| (nBits - 1))
        ++ encodeLearnValue value nBits ++ encodeLearnSubfield dstField 0
  | .outputField srcField nBits =>
      be (learnSpecSrcField ||| learnSpecDstOutput ||| (nBits - 1))
        ++ encodeLearnSubfield srcField 0

def encodeLearnSpecs (specs : List LearnSpec) : Bytes := specs.flatMap encodeLearnSpec

/-- The fields of a learn action behind its header. -/
def learnFields (learn : NxLearn) : Bytes :=
  be learn.idleTimeout ++ be learn.hardTimeout ++ be learn.priority ++ be learn.cookie
    ++ be learn.flags ++ be learn.tableId ++ zeros 1
    ++ be learn.finIdleTimeout ++ be learn.finHardTimeout

def encodeNxLearn (learn : NxLearn) : Bytes :=
  let specsBytes := encodeLearnSpecs learn.specs
  let totalLen := 32 + specsBytes.length
  let paddedLen := pad8 totalLen
  resize
    (encodeNxHeader .learn (BitVec.ofNat 16 paddedLen) ++ learnFields learn ++ specsBytes)
    paddedLen

/-! ### The cursor -/

namespace Cursor

/-- `Cursor::take`: the next `n` bytes and the rest, or a parse error naming `what`. -/
def take (n : Nat) (what : String) (cur : Bytes) : Result (Bytes × Bytes) :=
  if cur.length < n then parseError s!"{what} truncated"
  else do
    let bytes ← slice cur 0 n
    pure (bytes, cur.drop n)

/-- `Cursor::read_u8`, `read_u16`, `read_u32` and `read_u64`. -/
def read (w : Nat) (what : String) (cur : Bytes) : Result (BitVec w × Bytes) := do
  let (bytes, cur) ← take (w / 8) what cur
  let v ← beAt w bytes 0
  pure (v, cur)

/-- `Cursor::read_subfield`: a field header; the bit offset behind it is skipped. -/
def readSubfield (what : String) (cur : Bytes) : Result (U32 × Bytes) := do
  let (field, cur) ← read 32 what cur
  let (_, cur) ← take 2 what cur
  pure (field, cur)

end Cursor

/-! ### Decoding -/

/-- The port of a resubmit: `0xfff8` is "the packet's original in_port". -/
def resubmitPort (inPort : U16) : Option U16 := if inPort = 0xfff8 then none else some inPort

/-- A table number that may be absent: 255 is no table. -/
def optionalTable (table : U8) : Option U8 := if table = 255 then none else some table

def decodeResubmitTable (cur : Bytes) : Result Action := do
  let (inPort, cur) ← Cursor.read 16 "resubmit action" cur
  let (table, _) ← Cursor.read 8 "resubmit action" cur
  pure (.nxResubmit (resubmitPort inPort) (optionalTable table))

def decodeResubmit (cur : Bytes) : Result Action := do
  let (inPort, _) ← Cursor.read 16 "resubmit action" cur
  pure (.nxResubmit (resubmitPort inPort) none)

def decodeCt (cur : Bytes) : Result Action := do
  let (flags, cur) ← Cursor.read 16 "ct action" cur
  let (_, cur) ← Cursor.take 4 "ct action" cur
  let (zone, cur) ← Cursor.read 16 "ct action" cur
  -- the table may be absent on the wire
  let recircTable ←
    if 0 < cur.length then do
      let (table, _) ← Cursor.read 8 "ct action" cur
      pure table
    else pure 255
  pure (.nxCt flags zone (optionalTable recircTable))

/-- `decode_reg_load2`: an OXM header and a value of the length it gives. -/
def decodeRegLoad2 (cur : Bytes) : Result Action := do
  let (oxmHeader, cur) ← Cursor.read 32 "reg_load2 action" cur
  let (value, _) ← Cursor.take (headerLength oxmHeader) "reg_load2 value" cur
  if headerClass oxmHeader = OxmClass.nxm1.toU16 ∧ headerField oxmHeader = 16 ∧
      8 ≤ headerLength oxmHeader then do
    let tunId ← beAt 64 value 0
    pure (.setTunnelId tunId)
  else pure .drop

/-- The body of one learn spec, by the kind in its header. -/
def decodeLearnSpec (header : U16) (cur : Bytes) : Result (LearnSpec × Bytes) :=
  let nBits := (header &&& 0x07ff) + 1
  let srcType := (header >>> 13) &&& 0x01
  let dstType := (header >>> 11) &&& 0x03
  let valueLen := learnValueLen nBits
  match srcType.toNat, dstType.toNat with
  | 0, 0 => do
      let (srcField, cur) ← Cursor.readSubfield "learn match spec" cur
      let (dstField, cur) ← Cursor.readSubfield "learn match spec" cur
      pure (.matchField srcField dstField nBits, cur)
  | 1, 0 => do
      let (value, cur) ← Cursor.take valueLen "learn match spec value" cur
      let (dstField, cur) ← Cursor.readSubfield "learn match spec" cur
      pure (.matchImmediate dstField value nBits, cur)
  | 0, 1 => do
      let (srcField, cur) ← Cursor.readSubfield "learn load spec" cur
      let (dstField, cur) ← Cursor.readSubfield "learn load spec" cur
      pure (.loadField srcField dstField nBits, cur)
  | 1, 1 => do
      let (value, cur) ← Cursor.take valueLen "learn load spec value" cur
      let (dstField, cur) ← Cursor.readSubfield "learn load spec" cur
      pure (.loadImmediate dstField value nBits, cur)
  | 0, 2 => do
      let (srcField, cur) ← Cursor.readSubfield "learn output spec" cur
      pure (.outputField srcField nBits, cur)
  | _, _ => parseError s!"unknown learn spec type: src={srcType.toNat} dst={dstType.toNat}"

/-- One pass of the loop in `decode_learn_specs`: a zero header ends the specs. -/
def learnSpecsPass (s : List LearnSpec × Bytes) :
    Result (Outcome.Pass (List LearnSpec × Bytes) (List LearnSpec)) :=
  let (specs, cur) := s
  if 2 ≤ cur.length then do
    let (header, cur) ← Cursor.read 16 "learn spec header" cur
    if header = 0 then pure (.leave specs)
    else do
      let (spec, cur) ← decodeLearnSpec header cur
      pure (.again (specs ++ [spec], cur))
  else pure (.leave specs)

def decodeLearnSpecs (data : Bytes) : Result (List LearnSpec) :=
  Outcome.loop learnSpecsPass (data.length + 1) ([], data)

def decodeLearn (cur : Bytes) : Result Action := do
  let (idleTimeout, cur) ← Cursor.read 16 "learn action" cur
  let (hardTimeout, cur) ← Cursor.read 16 "learn action" cur
  let (priority, cur) ← Cursor.read 16 "learn action" cur
  let (cookie, cur) ← Cursor.read 64 "learn action" cur
  let (flags, cur) ← Cursor.read 16 "learn action" cur
  let (tableId, cur) ← Cursor.read 8 "learn action" cur
  let (_, cur) ← Cursor.take 1 "learn action" cur
  let (finIdleTimeout, cur) ← Cursor.read 16 "learn action" cur
  -- older encodings omit the trailing fields
  let (finHardTimeout, cur) ←
    if 2 ≤ cur.length then Cursor.read 16 "learn action" cur else pure (0, cur)
  let specs ← decodeLearnSpecs cur
  pure (.nxLearn
    ⟨idleTimeout, hardTimeout, priority, cookie, flags, tableId, finIdleTimeout, finHardTimeout,
      specs⟩)

/-- `decode_nicira_action`: the vendor id has been consumed, the subtype is next. -/
def decodeNiciraAction (data : Bytes) : Result Action := do
  let (subtype, cur) ← Cursor.read 16 "nicira action subtype" data
  if subtype = NxActionSubtype.resubmitTable.toU16 then decodeResubmitTable cur
  else if subtype = NxActionSubtype.resubmit.toU16 then decodeResubmit cur
  else if subtype = NxActionSubtype.ct.toU16 then decodeCt cur
  else if subtype = NxActionSubtype.regLoad2.toU16 then decodeRegLoad2 cur
  else if subtype = NxActionSubtype.learn.toU16 then decodeLearn cur
  -- unknown subtype
  else pure .drop

end Rovs.OpenFlow

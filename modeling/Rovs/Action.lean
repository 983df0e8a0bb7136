import Rovs.Nicira

/-!
# Encoding and decoding actions (`rovs-openflow/src/action/mod.rs`)

Every action starts with its type and its length.  `Action.encode` writes nothing
for a drop and for the three actions that are instructions on the wire;
`Action.decode` answers a drop for the types it does not decode, and
`ActionList.decode` leaves such placeholders out.
-/

namespace Rovs.OpenFlow

/-! ### Encoding -/

def encodeOutput (portNum : U32) (maxLen : U16) : Bytes :=
  be ActionType.output.toU16 ++ be (16 : U16) ++ be portNum ++ be maxLen ++ zeros 6

/-- An eight-byte action without a body. -/
def encodeBare (type : ActionType) : Bytes :=
  be type.toU16 ++ be (8 : U16) ++ zeros 4

def encodePopVlan : Bytes := encodeBare .popVlan

def encodeDecTtl : Bytes := encodeBare .decNwTtl

def encodePushVlan (ethertype : U16) : Bytes :=
  be ActionType.pushVlan.toU16 ++ be (8 : U16) ++ be ethertype ++ zeros 2

def encodeSetNwTtl (ttl : U8) : Bytes :=
  be ActionType.setNwTtl.toU16 ++ be (8 : U16) ++ be ttl ++ zeros 3

def encodeGroup (groupId : U32) : Bytes :=
  be ActionType.group.toU16 ++ be (8 : U16) ++ be groupId

/-- A set-field action: action header, OXM header, value and padding to 16 bytes. -/
def encodeSetField {w : Nat} (length : U32) (padding : Nat) (field : OxmField)
    (value : BitVec w) : Bytes :=
  let oxmHeader : U32 := (OxmClass.openflowBasic.toU16.setWidth 32 <<< 16) |||
    (field.toU8.setWidth 32 <<< 9) ||| length
  be ActionType.setField.toU16 ++ be (16 : U16) ++ be oxmHeader ++ be value ++ zeros padding

def encodeSetFieldMac : OxmField → MacAddr → Bytes := encodeSetField 6 2

def encodeSetFieldU16 : OxmField → U16 → Bytes := encodeSetField 2 6

def encodeSetFieldU32 : OxmField → U32 → Bytes := encodeSetField 4 4

def Action.encode : Action → Bytes
  | .output port => encodeOutput port.toWirePort 0xffff
  -- a drop is implicit: no actions
  | .drop => []
  | .controller maxLen => encodeOutput portController maxLen
  | .setEthSrc mac => encodeSetFieldMac .ethSrc mac
  | .setEthDst mac => encodeSetFieldMac .ethDst mac
  | .setVlanVid vid => encodeSetFieldU16 .vlanVid (vid ||| 0x1000)
  | .pushVlan ethertype => encodePushVlan ethertype
  | .popVlan => encodePopVlan
  | .setIpv4Src addr => encodeSetFieldU32 .ipv4Src addr
  | .setIpv4Dst addr => encodeSetFieldU32 .ipv4Dst addr
  | .setTpSrc port => encodeSetFieldU16 .tcpSrc port
  | .setTpDst port => encodeSetFieldU16 .tcpDst port
  | .setTtl ttl => encodeSetNwTtl ttl
  | .decTtl => encodeDecTtl
  -- the next three are instructions, not actions
  | .gotoTable _ => []
  | .writeMetadata _ _ => []
  | .meter _ => []
  | .group groupId => encodeGroup groupId
  | .setTunnelId tunId => encodeSetTunnelId tunId
  | .nxResubmit port table => encodeNxResubmit port table
  | .nxLearn learn => encodeNxLearn learn
  | .nxCt flags zone table => encodeNxCt flags zone table
  | .nxCtNat flags zone table nat => encodeNxCtNat flags zone table nat
  | .nxMove srcField dstField nBits srcOfs dstOfs =>
      encodeNxMove srcField dstField nBits srcOfs dstOfs
  | .nxRegLoad dstField dstOfs nBits value => encodeNxRegLoadNxm dstField dstOfs nBits value

/-- `ActionList::encode`: the actions, padded to eight bytes. -/
def ActionList.encode (l : ActionList) : Bytes :=
  let buf := l.actions.flatMap Action.encode
  buf ++ zeros ((8 - buf.length % 8) % 8)

/-! ### Decoding -/

/-- A set-field value of at least the width of its field, else the placeholder. -/
def setFieldValue (w : Nat) (length : Nat) (value : Bytes) (action : BitVec w → Action) :
    Result Action :=
  if w / 8 ≤ length then do
    let v ← beAt w value 0
    pure (action v)
  else pure .drop

/-- The fields of the basic class. -/
def decodeBasicField (field : U8) (length : Nat) (value : Bytes) : Result Action :=
  if field = OxmField.ethSrc.toU8 then setFieldValue 48 length value .setEthSrc
  else if field = OxmField.ethDst.toU8 then setFieldValue 48 length value .setEthDst
  else if field = OxmField.vlanVid.toU8 then
    setFieldValue 16 length value fun vid => .setVlanVid (vid &&& 0x0fff)
  else if field = OxmField.ipv4Src.toU8 then setFieldValue 32 length value .setIpv4Src
  else if field = OxmField.ipv4Dst.toU8 then setFieldValue 32 length value .setIpv4Dst
  else if field = OxmField.tcpSrc.toU8 then setFieldValue 16 length value .setTpSrc
  else if field = OxmField.tcpDst.toU8 then setFieldValue 16 length value .setTpDst
  else if field = OxmField.udpSrc.toU8 then setFieldValue 16 length value .setTpSrc
  else if field = OxmField.udpDst.toU8 then setFieldValue 16 length value .setTpDst
  else pure .drop

/-- `decode_set_field_action`: OXM header and value. -/
def decodeSetFieldAction (data : Bytes) : Result Action :=
  if data.length < 4 then parseError "set_field action too short"
  else do
    let oxmHeader ← beAt 32 data 0
    let oxmClass := headerClass oxmHeader
    let field := headerField oxmHeader
    let length := headerLength oxmHeader
    if data.length < 4 + length then parseError "set_field value truncated"
    else do
      let value ← slice data 4 (4 + length)
      if oxmClass = OxmClass.openflowBasic.toU16 then decodeBasicField field length value
      else if oxmClass = OxmClass.nxm1.toU16 then
        if field = 16 then setFieldValue 64 length value .setTunnelId
        else pure .drop
      else pure .drop

/-- The body of an action that needs a minimum length. -/
def ifLong {α : Type} (min length : Nat) (what : String) (body : Result α) : Result α :=
  if length < min then parseError what else body

/-- The action of a type, from bytes that hold at least its declared length. -/
def Action.decodeBody (data : Bytes) (length : Nat) : ActionType → Result Action
  | .output => ifLong 16 length "output action too short" do
      let portNum ← beAt 32 data 4
      let maxLen ← beAt 16 data 8
      let outputPort := OutputPort.fromWire portNum
      if portNum = portController then pure (.controller maxLen) else pure (.output outputPort)
  | .popVlan => pure .popVlan
  | .pushVlan => ifLong 8 length "push_vlan action too short" do
      let ethertype ← beAt 16 data 4
      pure (.pushVlan ethertype)
  | .decNwTtl => pure .decTtl
  | .setNwTtl => ifLong 8 length "set_nw_ttl action too short" do
      let ttl ← beAt 8 data 4
      pure (.setTtl ttl)
  | .group => ifLong 8 length "group action too short" do
      let groupId ← beAt 32 data 4
      pure (.group groupId)
  | .setField => do
      let oxm ← slice data 4 length
      decodeSetFieldAction oxm
  | .experimenter => ifLong 10 length "experimenter action too short" do
      let vendor ← beAt 32 data 4
      if vendor = niciraVendorId then do
        let body ← slice data 8 length
        decodeNiciraAction body
      else parseError s!"unknown experimenter vendor: {hex vendor.toNat}"
  -- unsupported actions are skipped with a placeholder
  | .copyTtlOut | .copyTtlIn | .setMplsTtl | .decMplsTtl | .pushMpls | .popMpls | .setQueue
  | .pushPbb | .popPbb => pure .drop

/-- `Action::decode`: an action and the bytes it takes. -/
def Action.decode (data : Bytes) : Result (Action × Nat) :=
  if data.length < 4 then parseError "action too short"
  else do
    let actionType ← beAt 16 data 0
    let length ← beAt 16 data 2
    if data.length < length.toNat then parseError "action truncated"
    else do
      let actionType ← ActionType.ofU16 actionType
      let action ← Action.decodeBody data length.toNat actionType
      pure (action, length.toNat)

/-- The head of the loops over actions and over instructions: `none` where the loop
    breaks off, for want of a header or at zero padding. -/
def listHeader (data : Bytes) : Result (Option Nat) :=
  if 0 < data.length then
    if data.length < 4 then pure none
    else do
      let length ← beAt 16 data 2
      if length.toNat = 0 then pure none else pure (some length.toNat)
  else pure none

/-- One pass of the loop in `ActionList::decode`. -/
def actionListPass (s : List Action × Bytes) :
    Result (Outcome.Pass (List Action × Bytes) (List Action)) := do
  let (actions, data) := s
  match ← listHeader data with
  | none => pure (.leave actions)
  | some _ => do
      let (action, consumed) ← Action.decode data
      -- a drop is the placeholder for an unsupported type
      let actions := if action = .drop then actions else actions ++ [action]
      pure (.again (actions, data.drop consumed))

def ActionList.decode (data : Bytes) : Result ActionList := do
  let actions ← Outcome.loop actionListPass (data.length + 1) ([], data)
  pure ⟨actions⟩

end Rovs.OpenFlow

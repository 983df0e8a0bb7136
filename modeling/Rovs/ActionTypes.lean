import Rovs.MatchFields
import Rovs.TypedElements

/-!
# Actions as data (`rovs-openflow/src/action/types.rs` and the types of `action`)

The actions a flow can carry: the standard ones, and the Nicira extensions with
their configurations.  Wire numbers stand beside the enumerations they belong to.
-/

namespace Rovs.OpenFlow

/-! ### Wire numbers -/

inductive ActionType where
  | output | copyTtlOut | copyTtlIn | setMplsTtl | decMplsTtl | pushVlan | popVlan | pushMpls
  | popMpls | setQueue | group | setNwTtl | decNwTtl | setField | pushPbb | popPbb | experimenter
deriving DecidableEq, Repr

def ActionType.toU16 : ActionType → U16
  | .output => 0
  | .copyTtlOut => 11
  | .copyTtlIn => 12
  | .setMplsTtl => 15
  | .decMplsTtl => 16
  | .pushVlan => 17
  | .popVlan => 18
  | .pushMpls => 19
  | .popMpls => 20
  | .setQueue => 21
  | .group => 22
  | .setNwTtl => 23
  | .decNwTtl => 24
  | .setField => 25
  | .pushPbb => 26
  | .popPbb => 27
  | .experimenter => 0xffff

def ActionType.ofU16 (v : U16) : Result ActionType :=
  match v.toNat with
  | 0 => pure .output
  | 11 => pure .copyTtlOut
  | 12 => pure .copyTtlIn
  | 15 => pure .setMplsTtl
  | 16 => pure .decMplsTtl
  | 17 => pure .pushVlan
  | 18 => pure .popVlan
  | 19 => pure .pushMpls
  | 20 => pure .popMpls
  | 21 => pure .setQueue
  | 22 => pure .group
  | 23 => pure .setNwTtl
  | 24 => pure .decNwTtl
  | 25 => pure .setField
  | 26 => pure .pushPbb
  | 27 => pure .popPbb
  | 0xffff => pure .experimenter
  | _ => parseError s!"unknown action type: {v.toNat}"

theorem ActionType.typeWords : TypeWords ActionType.toU16 ActionType.ofU16 where
  read t := by cases t <;> rfl
  known_or_err v := by
    unfold ActionType.ofU16
    split
    case h_18 => exact .inr ⟨_, rfl⟩
    all_goals next h => exact .inl ⟨_, rfl, BitVec.eq_of_toNat_eq h⟩

/-- `NICIRA_VENDOR_ID`. -/
def niciraVendorId : U32 := 0x00002320

inductive NxActionSubtype where
  | resubmit | resubmitTable | move | regLoad | ct | nat | learn | regLoad2
deriving DecidableEq, Repr

def NxActionSubtype.toU16 : NxActionSubtype → U16
  | .resubmit => 1
  | .resubmitTable => 14
  | .move => 6
  | .regLoad => 7
  | .ct => 35
  | .nat => 36
  | .learn => 16
  | .regLoad2 => 33

/-! ### Ports -/

/-- `port::IN_PORT` and the other reserved OpenFlow port numbers. -/
def portInPort : U32 := 0xfffffff8
def portNormal : U32 := 0xfffffffa
def portFlood : U32 := 0xfffffffb
def portAll : U32 := 0xfffffffc
def portController : U32 := 0xfffffffd
def portLocal : U32 := 0xfffffffe
def portNone : U32 := 0xffffffff

inductive OutputPort where
  | port (p : U32)
  | controller
  | flood
  | all
  | inPort
  | local
  | normal
  | none
deriving DecidableEq, Repr

def OutputPort.toWirePort : OutputPort → U32
  | .port p => p
  | .controller => portController
  | .flood => portFlood
  | .all => portAll
  | .inPort => portInPort
  | .local => portLocal
  | .normal => portNormal
  | .none => portNone

def OutputPort.fromWire (portNum : U32) : OutputPort :=
  if portNum = portController then .controller
  else if portNum = portFlood then .flood
  else if portNum = portAll then .all
  else if portNum = portInPort then .inPort
  else if portNum = portLocal then .local
  else if portNum = portNormal then .normal
  else if portNum = portNone then .none
  else .port portNum

/-! ### Connection tracking and learning -/

/-- `ct_flags::COMMIT`. -/
def ctFlagsCommit : U16 := 1 <<< 0

structure NatConfig where
  flags : U16
  ipv4Min : Option Ipv4Addr
  ipv4Max : Option Ipv4Addr
  ipv6Min : Option Ipv6Addr
  ipv6Max : Option Ipv6Addr
  portMin : Option U16
  portMax : Option U16
deriving DecidableEq, Repr

/-- `NatConfig::range_present`: a bit for each optional field that is there, by the
    numbers of `nat_range`. -/
def NatConfig.rangePresent (nat : NatConfig) : U16 :=
  (if nat.ipv4Min.isSome then 1 <<< 0 else 0)
    ||| (if nat.ipv4Max.isSome then 1 <<< 1 else 0)
    ||| (if nat.ipv6Min.isSome then 1 <<< 2 else 0)
    ||| (if nat.ipv6Max.isSome then 1 <<< 3 else 0)
    ||| (if nat.portMin.isSome then 1 <<< 4 else 0)
    ||| (if nat.portMax.isSome then 1 <<< 5 else 0)

/-- A single learn specification: what to match on or to do in a learned flow. -/
inductive LearnSpec where
  | matchField (srcField dstField : U32) (nBits : U16)
  | matchImmediate (dstField : U32) (value : Bytes) (nBits : U16)
  | loadField (srcField dstField : U32) (nBits : U16)
  | loadImmediate (dstField : U32) (value : Bytes) (nBits : U16)
  | outputField (srcField : U32) (nBits : U16)
deriving DecidableEq, Repr

/-- The learn action: it creates flows from packet content. -/
structure NxLearn where
  idleTimeout : U16 := 0
  hardTimeout : U16 := 0
  priority : U16 := 0
  cookie : U64 := 0
  flags : U16 := 0
  tableId : U8 := 0
  finIdleTimeout : U16 := 0
  finHardTimeout : U16 := 0
  specs : List LearnSpec := []
deriving DecidableEq, Repr

/-! ### Actions -/

inductive Action where
  | output (port : OutputPort)
  | drop
  | controller (maxLen : U16)
  | setEthSrc (mac : MacAddr)
  | setEthDst (mac : MacAddr)
  | setVlanVid (vid : U16)
  | pushVlan (ethertype : U16)
  | popVlan
  | setIpv4Src (addr : Ipv4Addr)
  | setIpv4Dst (addr : Ipv4Addr)
  | setTpSrc (port : U16)
  | setTpDst (port : U16)
  | setTtl (ttl : U8)
  | decTtl
  | gotoTable (table : U8)
  | writeMetadata (metadata mask : U64)
  | meter (meterId : U32)
  | group (groupId : U32)
  | setTunnelId (tunId : U64)
  | nxResubmit (port : Option U16) (table : Option U8)
  | nxLearn (learn : NxLearn)
  | nxCt (flags zone : U16) (table : Option U8)
  | nxCtNat (flags zone : U16) (table : Option U8) (nat : NatConfig)
  | nxMove (srcField dstField : U32) (nBits srcOfs dstOfs : U16)
  | nxRegLoad (dstField : U32) (dstOfs nBits : U16) (value : U64)
deriving DecidableEq, Repr

structure ActionList where
  actions : List Action := []
deriving DecidableEq, Repr

end Rovs.OpenFlow

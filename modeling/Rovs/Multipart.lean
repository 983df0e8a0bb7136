import Rovs.MatchFields
import Rovs.TypedElements

/-!
# Multipart messages (`rovs-openflow/src/multipart.rs`)

A flow dump is answered by multipart replies: a header with a type and a "more"
flag, then flow statistics entries one after the other.  An entry gives its own
length, and the length of the match inside it, in its bytes; what is left of it
behind the padded match are its instructions, kept as bytes.
-/

namespace Rovs.OpenFlow

inductive MultipartType where
  | desc | flow | aggregate | table | portStats | queue | group | groupDesc | groupFeatures
  | meter | meterConfig | meterFeatures | tableFeatures | portDesc | experimenter
deriving DecidableEq, Repr

def MultipartType.toU16 : MultipartType → U16
  | .desc => 0
  | .flow => 1
  | .aggregate => 2
  | .table => 3
  | .portStats => 4
  | .queue => 5
  | .group => 6
  | .groupDesc => 7
  | .groupFeatures => 8
  | .meter => 9
  | .meterConfig => 10
  | .meterFeatures => 11
  | .tableFeatures => 12
  | .portDesc => 13
  | .experimenter => 0xffff

def MultipartType.ofU16 (v : U16) : Result MultipartType :=
  match v.toNat with
  | 0 => pure .desc
  | 1 => pure .flow
  | 2 => pure .aggregate
  | 3 => pure .table
  | 4 => pure .portStats
  | 5 => pure .queue
  | 6 => pure .group
  | 7 => pure .groupDesc
  | 8 => pure .groupFeatures
  | 9 => pure .meter
  | 10 => pure .meterConfig
  | 11 => pure .meterFeatures
  | 12 => pure .tableFeatures
  | 13 => pure .portDesc
  | 0xffff => pure .experimenter
  | _ => parseError s!"unknown multipart type: {v.toNat}"

theorem MultipartType.typeWords : TypeWords MultipartType.toU16 MultipartType.ofU16 where
  read t := by cases t <;> rfl
  known_or_err v := by
    unfold MultipartType.ofU16
    split
    case h_16 => exact .inr ⟨_, rfl⟩
    all_goals next h => exact .inl ⟨_, rfl, BitVec.eq_of_toNat_eq h⟩

/-- The derived `Debug` of a multipart type. -/
def MultipartType.debug : MultipartType → String
  | .desc => "Desc"
  | .flow => "Flow"
  | .aggregate => "Aggregate"
  | .table => "Table"
  | .portStats => "PortStats"
  | .queue => "Queue"
  | .group => "Group"
  | .groupDesc => "GroupDesc"
  | .groupFeatures => "GroupFeatures"
  | .meter => "Meter"
  | .meterConfig => "MeterConfig"
  | .meterFeatures => "MeterFeatures"
  | .tableFeatures => "TableFeatures"
  | .portDesc => "PortDesc"
  | .experimenter => "Experimenter"

/-- `multipart_flags::MORE`: more replies follow. -/
def multipartFlagsMore : U16 := 1

structure MultipartHeader where
  mpType : MultipartType
  flags : U16
deriving DecidableEq, Repr

/-- `MultipartHeader::SIZE`. -/
def MultipartHeader.size : Nat := 8

def MultipartHeader.encode (h : MultipartHeader) : Bytes :=
  be h.mpType.toU16 ++ be h.flags ++ zeros 4

def MultipartHeader.decode (data : Bytes) : Result MultipartHeader :=
  if data.length < MultipartHeader.size then parseError "multipart header too short"
  else do
    let mpType ← beAt 16 data 0
    let flags ← beAt 16 data 2
    let mpType ← MultipartType.ofU16 mpType
    pure ⟨mpType, flags⟩

def MultipartHeader.hasMore (h : MultipartHeader) : Bool := h.flags &&& multipartFlagsMore != 0

/-- Individual flow statistics from a flow stats reply. -/
structure FlowStatsEntry where
  tableId : U8
  durationSec : U32
  durationNsec : U32
  priority : U16
  idleTimeout : U16
  hardTimeout : U16
  flags : U16
  cookie : U64
  packetCount : U64
  byteCount : U64
  matchFields : Match
  instructions : Bytes
deriving DecidableEq, Repr

/-- `FlowStatsEntry::FIXED_SIZE`: the bytes before the match. -/
def FlowStatsEntry.fixedSize : Nat := 48

/-- `FlowStatsEntry::decode`: one entry and its length. -/
def FlowStatsEntry.decode (data : Bytes) : Result (FlowStatsEntry × Nat) :=
  if data.length < FlowStatsEntry.fixedSize then parseError "flow stats entry too short"
  else do
    let length ← beAt 16 data 0
    if data.length < length.toNat then parseError "flow stats entry truncated"
    else do
      let tableId ← beAt 8 data 2
      let durationSec ← beAt 32 data 4
      let durationNsec ← beAt 32 data 8
      let priority ← beAt 16 data 12
      let idleTimeout ← beAt 16 data 14
      let hardTimeout ← beAt 16 data 16
      let flags ← beAt 16 data 18
      let cookie ← beAt 64 data 24
      let packetCount ← beAt 64 data 32
      let byteCount ← beAt 64 data 40
      let matchData ← sliceFrom data FlowStatsEntry.fixedSize
      let (matchFields, matchLen) ← Match.decode matchData
      -- the instructions follow the match
      let instructionsStart := FlowStatsEntry.fixedSize + matchLen
      let instructions ← slice data instructionsStart length.toNat
      pure
        (⟨tableId, durationSec, durationNsec, priority, idleTimeout, hardTimeout, flags, cookie,
          packetCount, byteCount, matchFields, instructions⟩, length.toNat)

/-- One pass of the entry loop: the entries so far and the bytes still unread. -/
def flowStatsPass (s : List FlowStatsEntry × Bytes) :
    Result (Outcome.Pass (List FlowStatsEntry × Bytes) (List FlowStatsEntry)) :=
  let (entries, remaining) := s
  if 0 < remaining.length then
    if remaining.length < 4 then pure (.leave entries)
    else do
      let (entry, consumed) ← FlowStatsEntry.decode remaining
      pure (.again (entries ++ [entry], remaining.drop consumed))
  else pure (.leave entries)

/-- `parse_flow_stats_reply`: the entries of a multipart reply body, and whether
    more replies follow. -/
def parseFlowStatsReply (body : Bytes) : Result (List FlowStatsEntry × Bool) :=
  if body.length < MultipartHeader.size then parseError "multipart reply too short"
  else do
    let header ← MultipartHeader.decode body
    if header.mpType ≠ .flow then
      parseError s!"expected Flow multipart type, got {header.mpType.debug}"
    else do
      let entries ←
        Outcome.loop flowStatsPass (body.length + 1) ([], body.drop MultipartHeader.size)
      pure (entries, header.hasMore)

end Rovs.OpenFlow

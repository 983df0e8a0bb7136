import Rovs.ActionTypes
import Rovs.MatchRoundTrip
import Rovs.Multipart
import Rovs.ReplyStream

/-!
# Flow monitors (`rovs-openflow/src/flow_monitor.rs`, `rovs-openflow/src/vconn.rs`)

A flow monitor is a multipart request of the Nicira vendor.  The switch answers with the
flows that there are, and goes on to send replies when flows change.  Each reply holds
updates one after the other, which give their own lengths.  `monitor_flows` collects the
first series; `recv_flow_updates` returns the next reply that holds anything.
-/

namespace Rovs.OpenFlow

open Outcome

def nxstFlowMonitor : U32 := 2

/-! ### The request -/

structure FlowMonitorRequest where
  id : U32
  flags : U16
  outPort : U16
  tableId : U8
  matchFields : Match

def FlowMonitorRequest.encodeBody (r : FlowMonitorRequest) : Result Bytes := do
  let matchBytes ← r.matchFields.encodeOxmFields
  let matchLen : U16 := BitVec.ofNat 16 matchBytes.length
  pure (be r.id ++ be r.flags ++ be r.outPort ++ be matchLen ++ be r.tableId ++ zeros 1
    ++ matchBytes)

def FlowMonitorRequest.toMessage (r : FlowMonitorRequest) (version : Version) (xid : U32) :
    Result Message := do
  let body ← r.encodeBody
  pure (Message.new version .multipartRequest xid
    ((MultipartHeader.mk .experimenter 0).encode ++ be niciraVendorId ++ be nxstFlowMonitor
      ++ body))

/-- The message that `FlowMonitorRequest::to_message` always comes to. -/
def FlowMonitorRequest.message (r : FlowMonitorRequest) (version : Version) (xid : U32) :
    Message :=
  Message.new version .multipartRequest xid
    ((MultipartHeader.mk .experimenter 0).encode ++ be niciraVendorId ++ be nxstFlowMonitor
      ++ (be r.id ++ be r.flags ++ be r.outPort
        ++ be (BitVec.ofNat 16 r.matchFields.oxmFields.length) ++ be r.tableId ++ zeros 1
        ++ r.matchFields.oxmFields))

theorem FlowMonitorRequest.toMessage_ok (r : FlowMonitorRequest) (version : Version)
    (xid : U32) : r.toMessage version xid = .ok (r.message version xid) := by
  rw [toMessage, encodeBody, Match.encodeOxmFields_eq]
  rfl

/-! ### Updates -/

inductive FlowUpdateEvent where
  | added
  | deleted
  | modified
deriving DecidableEq, Repr

def FlowUpdateEvent.toU16 : FlowUpdateEvent → U16
  | .added => 0
  | .deleted => 1
  | .modified => 2

def FlowUpdateEvent.ofU16 (v : U16) : Result FlowUpdateEvent :=
  match v.toNat with
  | 0 => pure .added
  | 1 => pure .deleted
  | 2 => pure .modified
  | _ => parseError s!"unknown flow update event: {v.toNat}"

/-- Full flow update entry; the actions are kept as bytes. -/
structure FlowUpdateFull where
  event : FlowUpdateEvent
  reason : U16
  priority : U16
  idleTimeout : U16
  hardTimeout : U16
  tableId : U8
  cookie : U64
  matchFields : Match
  actions : Bytes
deriving DecidableEq, Repr

inductive FlowUpdate where
  | full (update : FlowUpdateFull)
  | abbrev_ (xid : U32)
deriving DecidableEq, Repr

/-- The bytes of a full update before its match. -/
def flowUpdateFixedSize : Nat := 24

/-- `parse_flow_update_full`, on the bytes of one update. -/
def parseFlowUpdateFull (data : Bytes) (eventCode : U16) : Result FlowUpdate :=
  if data.length < flowUpdateFixedSize then parseError "flow update entry too short"
  else do
    let entryLen ← beAt 16 data 0
    let event ← FlowUpdateEvent.ofU16 eventCode
    let reason ← beAt 16 data 4
    let priority ← beAt 16 data 6
    let idleTimeout ← beAt 16 data 8
    let hardTimeout ← beAt 16 data 10
    let matchLen ← beAt 16 data 12
    let tableId ← beAt 8 data 14
    let cookie ← beAt 64 data 16
    let matchEnd := flowUpdateFixedSize + matchLen.toNat
    if matchEnd > entryLen.toNat then parseError "flow update match truncated"
    else do
      let oxmData ← slice data flowUpdateFixedSize matchEnd
      let matchFields ← Match.decodeOxm oxmData
      let actions ← (if matchEnd < entryLen.toNat then slice data matchEnd entryLen.toNat
        else pure [] : Result Bytes)
      pure (.full ⟨event, reason, priority, idleTimeout, hardTimeout, tableId, cookie,
        matchFields, actions⟩)

/-- The update at the head of the bytes that are still unread. -/
def parseFlowUpdate (data : Bytes) (entryLen : Nat) (eventCode : U16) : Result FlowUpdate :=
  if eventCode = 3 then
    if entryLen < 8 then parseError "flow update abbrev too short"
    else do
      let xid ← beAt 32 data 4
      pure (.abbrev_ xid)
  else do
    let entry ← slice data 0 entryLen
    parseFlowUpdateFull entry eventCode

/-- One pass of the update loop: the updates so far and the bytes still unread. -/
def flowMonitorPass (s : List FlowUpdate × Bytes) :
    Result (Pass (List FlowUpdate × Bytes) (List FlowUpdate)) :=
  let (updates, data) := s
  if 4 ≤ data.length then do
    let entryLen ← beAt 16 data 0
    let eventCode ← beAt 16 data 2
    if entryLen.toNat < 4 ∨ data.length < entryLen.toNat then pure (.leave updates)
    else do
      let update ← parseFlowUpdate data entryLen.toNat eventCode
      pure (.again (updates ++ [update], data.drop entryLen.toNat))
  else pure (.leave updates)

/-- `0x{:08x}`: eight hexadecimal digits at least. -/
def hex8 (n : Nat) : String := "0x" ++ String.ofList ((Nat.toDigits 16 n).leftpad 8 '0')

/-- `parse_flow_monitor_reply`: the updates of a multipart reply body, and whether more
    replies follow. -/
def parseFlowMonitorReply (body : Bytes) : Result (List FlowUpdate × Bool) :=
  if body.length < MultipartHeader.size + 8 then parseError "flow monitor reply too short"
  else do
    let mpHeader ← MultipartHeader.decode body
    if mpHeader.mpType ≠ .experimenter then
      parseError s!"expected Experimenter multipart type, got {mpHeader.mpType.debug}"
    else do
      let vendor ← beAt 32 body MultipartHeader.size
      let subtype ← beAt 32 body (MultipartHeader.size + 4)
      if vendor ≠ niciraVendorId then
        parseError
          s!"expected Nicira vendor ID {hex8 niciraVendorId.toNat}, got {hex8 vendor.toNat}"
      else if subtype ≠ nxstFlowMonitor then
        parseError
          s!"expected NXST_FLOW_MONITOR subtype {nxstFlowMonitor.toNat}, got {subtype.toNat}"
      else do
        let updates ←
          Outcome.loop flowMonitorPass (body.length + 1) ([], body.drop (MultipartHeader.size + 8))
        pure (updates, mpHeader.hasMore)

/-! ### The calls -/

/-- What `VConn::monitor_flows` writes. -/
def VConn.monitorFlows (conn : VConn) (request : FlowMonitorRequest) :
    Result (Message × VConn) := do
  let msg ← request.toMessage conn.version conn.nextXid.1
  pure (msg, conn.nextXid.2)

/-- The loop body of `recv_flow_updates`. -/
def VConn.awaitUpdates (conn : VConn) (_ : Unit) (msg : Message) :
    Result (Pass (Unit × List Message) (List FlowUpdate)) := do
  checkError msg
  if msg.header.msgType = .echoRequest then pure (.again ((), [conn.echoReply msg]))
  else if msg.header.msgType = .multipartReply then do
    let (updates, _) ← parseFlowMonitorReply msg.body
    if updates.isEmpty then pure (.again ((), []))
    else pure (.leave updates)
  else pure (.again ((), []))

namespace SwitchLink

def monitorFlows (request : FlowMonitorRequest) : Program SwitchLink Error (List FlowUpdate) := do
  let (msg, conn) ← Program.read fun link => link.conn.monitorFlows request
  Program.modify fun link => { link with conn := conn }
  sendMessage msg
  awaitReply (awaitSeries parseFlowMonitorReply) []

def recvFlowUpdates : Program SwitchLink Error (List FlowUpdate) :=
  awaitReply VConn.awaitUpdates ()

end SwitchLink

end Rovs.OpenFlow

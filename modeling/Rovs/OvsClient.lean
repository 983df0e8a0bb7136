import Rovs.Client
import Rovs.TopologyBuilders

/-!
# The high-level client and the topologies on a client

The methods of `OvsClient` (`rovs-client/src/client.rs`) build a transaction, commit it on an OVSDB
client, and report how that ended, and so do `create` and `delete` of the topologies
(`rovs-ext/src/topology`) with the transactions of `BridgePair` and `VlanTrunk`.  None of them
looks at whether the server has accepted the transaction.
-/

namespace Rovs

open Json Outcome
open Ovsdb (BridgePair Formats Row RowRef Transaction VlanTrunk)

/-! ### Rows (`rovs-ovsdb/src/row.rs`) -/

namespace Ovsdb.Row

def getString (row : Row) (column : String) : Option String := (row.get column).bind Value.asStr

def getBool (row : Row) (column : String) : Option Bool :=
  match row.get column with
  | some (.bool b) => some b
  | _ => none

end Ovsdb.Row

/-! ### The high-level client -/

namespace Ovs

inductive Error where
  | ovsdb (error : Ovsdb.Error)
  | bridgeNotFound (name : String)
deriving DecidableEq, Repr

structure Bridge where
  uuid : Uuid
  name : String
  datapathId : Option String
  datapathType : String
  ports : List Uuid
  failMode : Option String
  stpEnable : Bool
  controller : List String
deriving DecidableEq, Repr

structure Port where
  uuid : Uuid
  name : String
  interfaces : List Uuid
  tag : Option U16
  trunks : List U16
  vlanMode : Option String
  bondMode : Option String
  lacp : Option String
deriving DecidableEq, Repr

def Port.new (name : String) : Port where
  uuid := 0
  name := name
  interfaces := []
  tag := none
  trunks := []
  vlanMode := none
  bondMode := none
  lacp := none

/-- A row of the Bridge table. -/
def Bridge.ofRow (row : Row) : Bridge where
  uuid := row.uuid
  name := (row.getString "name").getD ""
  datapathId := row.getString "datapath_id"
  datapathType := (row.getString "datapath_type").getD ""
  ports := []
  failMode := row.getString "fail_mode"
  stpEnable := (row.getBool "stp_enable").getD false
  controller := []

structure OvsClient where
  ovsdb : Ovsdb.Client

namespace OvsClient

variable (fmt : Formats)

abbrev Method := Program OvsClient Error

def onOvsdb {α : Type} (p : Program Ovsdb.Client Ovsdb.Error α) : Method α :=
  .focus OvsClient.ovsdb (fun ovsdb client => { client with ovsdb := ovsdb }) .ovsdb p

def listBridges (client : OvsClient) : List Bridge :=
  (client.ovsdb.idl.rows "Bridge").map Bridge.ofRow

def findBridge (client : OvsClient) (name : String) : Option Bridge :=
  client.listBridges.find? fun bridge => bridge.name = name

def getBridge (name : String) : Method Bridge :=
  .read fun client => (client.findBridge name).elim (.err (.bridgeNotFound name)) .ok

def createBridge (name : String) : Method Bridge := do
  let txn := .assemble "Open_vSwitch" (Transaction.createBridge fmt.uuid name)
  let _ ← onOvsdb (Ovsdb.Client.commit fmt txn)
  getBridge name

def deleteBridge (name : String) : Method Unit := do
  let txn := .assemble "Open_vSwitch" (Transaction.deleteBridge name)
  let _ ← onOvsdb (Ovsdb.Client.commit fmt txn)
  return ()

def addPort (bridge port : String) : Method Port := do
  let txn := .assemble "Open_vSwitch" (Transaction.addInternalPort fmt.uuid bridge port)
  let _ ← onOvsdb (Ovsdb.Client.commit fmt txn)
  return Port.new port

def deletePort (bridge port : String) : Method Unit := do
  let txn := .assemble "Open_vSwitch" (Transaction.deletePort bridge port)
  let _ ← onOvsdb (Ovsdb.Client.commit fmt txn)
  return ()

end OvsClient

end Ovs

/-! ### The topologies -/

namespace Ext

inductive Error where
  | ovsdb (error : Ovsdb.Error)
deriving DecidableEq, Repr

/-- Commits a transaction on an OVSDB client. -/
def commitOn (fmt : Formats) (txn : Transaction) : Program Ovsdb.Client Error Unit := do
  let _ ← Program.focus id (fun client _ => client) Error.ovsdb (Ovsdb.Client.commit fmt txn)
  return ()

/-- `BridgePair::create` and `BridgePair::delete`. -/
def createPair (fmt : Formats) (pair : BridgePair) : Program Ovsdb.Client Error Unit :=
  commitOn fmt (pair.buildTransaction fmt.uuid)

def deletePair (fmt : Formats) (pair : BridgePair) : Program Ovsdb.Client Error Unit :=
  commitOn fmt pair.buildDeleteTransaction

/-- `VlanTrunk::create` and `VlanTrunk::delete`. -/
def createTrunk (fmt : Formats) (trunk : VlanTrunk) : Program Ovsdb.Client Error Unit :=
  commitOn fmt (trunk.buildTransaction fmt.uuid)

def deleteTrunk (fmt : Formats) (trunk : VlanTrunk) : Program Ovsdb.Client Error Unit :=
  commitOn fmt trunk.buildDeleteTransaction

end Ext

end Rovs

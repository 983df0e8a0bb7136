import Rovs.Json
import Rovs.Maps
import Rovs.Uuid

/-!
# OVSDB transactions (`rovs-ovsdb/src/transaction.rs`)

A transaction is a list of operations that its methods append to.  An insert names the
new row with a temporary name from a counter, and the server's reply has one result for
each operation.  `processResult` fills the map from the temporary names to the UUIDs
that the server chose.
-/

namespace Rovs.Ovsdb

open Json

inductive TransactionStatus where
  | uncommitted
  | unchanged
  | incomplete
  | aborted
  | success
  | tryAgain
  | notLocked
  | error
deriving DecidableEq, Repr

/-- An existing row, or a row that the transaction inserts. -/
inductive RowRef where
  | uuid (u : Uuid)
  | named (name : String)
deriving DecidableEq, Repr

def uuidJson (fmt : UuidFormat) (u : Uuid) : Value :=
  .array [.string "uuid", .string (fmt.display u)]

def RowRef.toJson (fmt : UuidFormat) : RowRef → Value
  | .uuid u => uuidJson fmt u
  | .named name => .array [.string "named-uuid", .string name]

structure Transaction where
  dbName : String
  operations : List Value
  status : TransactionStatus
  uuidMap : HashMap String Uuid
  uuidCounter : U32

namespace Transaction

def new (dbName : String) : Transaction where
  dbName := dbName
  operations := []
  status := .uncommitted
  uuidMap := ∅
  uuidCounter := 0

def isEmpty (txn : Transaction) : Bool := txn.operations.isEmpty

/-- The parameters of the `transact` request. -/
def build (txn : Transaction) : Value := .array (.string txn.dbName :: txn.operations)

def getUuid (txn : Transaction) (name : String) : Option Uuid := txn.uuidMap.lookup name

/-! ### The operations -/

/-- A method that changes the transaction. -/
abbrev Build := StateM Transaction

def push (operation : Value) : Build Unit :=
  modify fun txn => { txn with operations := txn.operations ++ [operation] }

def rowName (n : Nat) : String := "row" ++ toString n

/-- The next temporary name; the counter wraps around. -/
def nextTempUuid : Build String :=
  modifyGet fun txn =>
    (rowName txn.uuidCounter.toNat, { txn with uuidCounter := txn.uuidCounter + 1 })

def insert (table : String) (row : Value) : Build RowRef := do
  let uuidName ← nextTempUuid
  push (.object [("op", .string "insert"), ("table", .string table), ("row", row),
    ("uuid-name", .string uuidName)])
  return .named uuidName

def insertRaw (table : String) (row : HashMap String Value) : Build RowRef :=
  insert table (.object row.toList)

/-- The condition that a column equals a value. -/
def columnEq (column : String) (value : Value) : Value :=
  .array [.array [.string column, .string "==", value]]

def updateRows (table : String) (condition columns : Value) : Build Unit :=
  push (.object [("op", .string "update"), ("table", .string table), ("where", condition),
    ("row", columns)])

def update (fmt : UuidFormat) (table : String) (uuid : Uuid) (columns : Value) : Build Unit :=
  updateRows table (columnEq "_uuid" (uuidJson fmt uuid)) columns

def updateByName (table name : String) (columns : Value) : Build Unit :=
  updateRows table (columnEq "name" (.string name)) columns

def mutateWhere (table : String) (condition : Value) (mutations : List Value) : Build Unit :=
  push (.object [("op", .string "mutate"), ("table", .string table), ("where", condition),
    ("mutations", .array mutations)])

def mutate (fmt : UuidFormat) (table : String) (uuid : Uuid) (mutations : List Value) :
    Build Unit :=
  mutateWhere table (columnEq "_uuid" (uuidJson fmt uuid)) mutations

def mutateByName (table name : String) (mutations : List Value) : Build Unit :=
  mutateWhere table (columnEq "name" (.string name)) mutations

def deleteWhere (table : String) (condition : Value) : Build Unit :=
  push (.object [("op", .string "delete"), ("table", .string table), ("where", condition)])

def delete (fmt : UuidFormat) (table : String) (uuid : Uuid) : Build Unit :=
  deleteWhere table (columnEq "_uuid" (uuidJson fmt uuid))

def deleteByName (table name : String) : Build Unit :=
  deleteWhere table (columnEq "name" (.string name))

def wait (table : String) (columns : List String) (condition expected : Value) : Build Unit :=
  push (.object [("op", .string "wait"), ("table", .string table),
    ("columns", .array (columns.map .string)), ("where", condition), ("rows", expected),
    ("until", .string "=="), ("timeout", .number (.int 0))])

def comment (text : String) : Build Unit :=
  push (.object [("op", .string "comment"), ("comment", .string text)])

def setStatus (status : TransactionStatus) : Build Unit :=
  modify fun txn => { txn with status := status }

def setSuccess : Build Unit := setStatus .success
def setError : Build Unit := setStatus .error
def setTryAgain : Build Unit := setStatus .tryAgain
def abort : Build Unit := setStatus .aborted

/-! ### The topology operations -/

section Topology

variable (fmt : UuidFormat)

/-- The mutation that adds a row to a set column. -/
def addRef (column : String) (row : RowRef) : Value :=
  .array [.string column, .string "insert", row.toJson fmt]

/-- The mutation that takes a row out of a set column. -/
def removeRef (column : String) (uuid : Uuid) : Value :=
  .array [.string column, .string "delete",
    .array [.string "set", .array [uuidJson fmt uuid]]]

/-- An interface and a port for it; `ifaceExtra` and `portExtra` are the further columns. -/
def insertPort (name ifaceType : String) (ifaceExtra portExtra : List (String × Value)) :
    Build (RowRef × RowRef) := do
  let ifaceRef ← insert "Interface"
    (.object ([("name", .string name), ("type", .string ifaceType)] ++ ifaceExtra))
  let portRef ← insert "Port"
    (.object ([("name", .string name), ("interfaces", ifaceRef.toJson fmt)] ++ portExtra))
  return (portRef, ifaceRef)

/-- An interface and a port for it that is added to a bridge. -/
def attachPort (bridgeName portName ifaceType : String)
    (ifaceExtra portExtra : List (String × Value)) : Build (RowRef × RowRef) := do
  let (portRef, ifaceRef) ← insertPort fmt portName ifaceType ifaceExtra portExtra
  mutateByName "Bridge" bridgeName [addRef fmt "ports" portRef]
  return (portRef, ifaceRef)

def createBridge (name : String) : Build (RowRef × RowRef × RowRef) := do
  let (portRef, ifaceRef) ← insertPort fmt name "internal" [] []
  let bridgeRef ← insert "Bridge"
    (.object [("name", .string name), ("ports", portRef.toJson fmt)])
  mutateWhere "Open_vSwitch" (.array []) [addRef fmt "bridges" bridgeRef]
  return (bridgeRef, portRef, ifaceRef)

def deleteBridgeUuid (bridgeUuid : Uuid) (portUuids ifaceUuids : List Uuid) : Build Unit := do
  mutateWhere "Open_vSwitch" (.array []) [removeRef fmt "bridges" bridgeUuid]
  ifaceUuids.forM (delete fmt "Interface")
  portUuids.forM (delete fmt "Port")
  delete fmt "Bridge" bridgeUuid

def deleteBridge (name : String) : Build Unit := do
  deleteByName "Interface" name
  deleteByName "Port" name
  deleteByName "Bridge" name

def addPort (bridgeName portName ifaceType : String) : Build (RowRef × RowRef) :=
  attachPort fmt bridgeName portName ifaceType [] []

def addInternalPort (bridgeName portName : String) : Build (RowRef × RowRef) :=
  addPort fmt bridgeName portName "internal"

def addSystemPort (bridgeName portName : String) : Build (RowRef × RowRef) :=
  addPort fmt bridgeName portName "system"

def vlanJson (vlan : U16) : Value := .number (.int vlan.toNat)

def addVlanPort (bridgeName portName : String) (vlanId : U16) : Build (RowRef × RowRef) :=
  attachPort fmt bridgeName portName "internal" [] [("tag", vlanJson vlanId)]

/-- Two patch ports that are each other's peer; `portExtra` are further columns of both
    ports. -/
def insertPatchPorts (bridge1 bridge2 : String) (port1Name port2Name : Option String)
    (portExtra : List (String × Value)) : Build (RowRef × RowRef × RowRef × RowRef) := do
  let p1Name := port1Name.getD ("patch-" ++ bridge1 ++ "-to-" ++ bridge2)
  let p2Name := port2Name.getD ("patch-" ++ bridge2 ++ "-to-" ++ bridge1)
  let (port1Ref, iface1Ref) ←
    attachPort fmt bridge1 p1Name "patch" [("options", peer p2Name)] portExtra
  let (port2Ref, iface2Ref) ←
    attachPort fmt bridge2 p2Name "patch" [("options", peer p1Name)] portExtra
  return (port1Ref, iface1Ref, port2Ref, iface2Ref)
where
  peer (name : String) : Value :=
    .array [.string "map", .array [.array [.string "peer", .string name]]]

def addPatchPorts (bridge1 bridge2 : String) (port1Name port2Name : Option String) :
    Build (RowRef × RowRef × RowRef × RowRef) :=
  insertPatchPorts fmt bridge1 bridge2 port1Name port2Name []

/-- One VLAN stands for itself, several are a set. -/
def vlanSet : List U16 → Value
  | [vlan] => vlanJson vlan
  | vlans => .array [.string "set", .array (vlans.map vlanJson)]

def addTrunkPatchPorts (bridge1 bridge2 : String) (vlans : List U16)
    (port1Name port2Name : Option String) : Build (RowRef × RowRef × RowRef × RowRef) :=
  insertPatchPorts fmt bridge1 bridge2 port1Name port2Name
    [("vlan_mode", .string "trunk"), ("trunks", vlanSet vlans)]

def deletePortUuid (bridgeUuid portUuid ifaceUuid : Uuid) : Build Unit := do
  mutate fmt "Bridge" bridgeUuid [removeRef fmt "ports" portUuid]
  delete fmt "Interface" ifaceUuid
  delete fmt "Port" portUuid

/-- The bridge's name is not used. -/
def deletePort (_bridgeName portName : String) : Build Unit := do
  deleteByName "Interface" portName
  deleteByName "Port" portName

def setController (bridgeName target : String) : Build RowRef := do
  let controllerRef ← insert "Controller" (.object [("target", .string target)])
  updateByName "Bridge" bridgeName (.object [("controller", controllerRef.toJson fmt)])
  return controllerRef

end Topology

/-! ### The reply -/

/-- A result with an `error` that is not null. -/
def hasError (opResult : Value) : Bool :=
  match opResult.get "error" with
  | some error => !error.isNull
  | none => false

/-- The UUID of an insert's result, `["uuid", u]` under `uuid`. -/
def insertedUuid (fmt : UuidFormat) (opResult : Value) : Option Uuid := do
  let uuidObj ← opResult.get "uuid"
  match ← uuidObj.asArray with
  | [tag, uuid] => if tag.asStr = some "uuid" then uuid.asStr.bind fmt.parse else none
  | _ => none

/-- Maps the name of the result's position to its UUID, if it has one. -/
def recordUuid (fmt : UuidFormat) (txn : Transaction) (i : Nat) (opResult : Value) :
    Transaction :=
  match insertedUuid fmt opResult with
  | some uuid => { txn with uuidMap := txn.uuidMap.insert (rowName i) uuid }
  | none => txn

/-- The results from number `i` on; the loop ends at the first error. -/
def processResults (fmt : UuidFormat) (txn : Transaction) :
    Nat → List Value → Transaction × Bool
  | _, [] => ({ txn with status := .success }, true)
  | i, opResult :: rest =>
    if hasError opResult then ({ txn with status := .error }, false)
    else (txn.recordUuid fmt i opResult).processResults fmt (i + 1) rest

def processResult (fmt : UuidFormat) (txn : Transaction) (result : Value) :
    Transaction × Bool :=
  match result.asArray with
  | some results => txn.processResults fmt 0 results
  | none => ({ txn with status := .error }, false)

/-! ### Built transactions -/

/-- A call of a method that changes the transaction. -/
inductive Method where
  | insert (table : String) (row : Value)
  | insertRaw (table : String) (row : HashMap String Value)
  | update (table : String) (uuid : Uuid) (columns : Value)
  | updateByName (table name : String) (columns : Value)
  | mutate (table : String) (uuid : Uuid) (mutations : List Value)
  | mutateByName (table name : String) (mutations : List Value)
  | mutateWhere (table : String) (condition : Value) (mutations : List Value)
  | delete (table : String) (uuid : Uuid)
  | deleteByName (table name : String)
  | deleteWhere (table : String) (condition : Value)
  | wait (table : String) (columns : List String) (condition expected : Value)
  | comment (text : String)
  | setSuccess
  | setError
  | setTryAgain
  | abort
  | createBridge (name : String)
  | deleteBridgeUuid (bridgeUuid : Uuid) (portUuids ifaceUuids : List Uuid)
  | deleteBridge (name : String)
  | addPort (bridgeName portName ifaceType : String)
  | addInternalPort (bridgeName portName : String)
  | addSystemPort (bridgeName portName : String)
  | addVlanPort (bridgeName portName : String) (vlanId : U16)
  | addPatchPorts (bridge1 bridge2 : String) (port1Name port2Name : Option String)
  | addTrunkPatchPorts (bridge1 bridge2 : String) (vlans : List U16)
      (port1Name port2Name : Option String)
  | deletePortUuid (bridgeUuid portUuid ifaceUuid : Uuid)
  | deletePort (bridgeName portName : String)
  | setController (bridgeName target : String)

/-- The call, without the references that it returns. -/
def Method.call (fmt : UuidFormat) : Method → Build Unit
  | .insert table row => discard (Transaction.insert table row)
  | .insertRaw table row => discard (Transaction.insertRaw table row)
  | .update table uuid columns => Transaction.update fmt table uuid columns
  | .updateByName table name columns => Transaction.updateByName table name columns
  | .mutate table uuid mutations => Transaction.mutate fmt table uuid mutations
  | .mutateByName table name mutations => Transaction.mutateByName table name mutations
  | .mutateWhere table condition mutations => Transaction.mutateWhere table condition mutations
  | .delete table uuid => Transaction.delete fmt table uuid
  | .deleteByName table name => Transaction.deleteByName table name
  | .deleteWhere table condition => Transaction.deleteWhere table condition
  | .wait table columns condition expected =>
      Transaction.wait table columns condition expected
  | .comment text => Transaction.comment text
  | .setSuccess => Transaction.setSuccess
  | .setError => Transaction.setError
  | .setTryAgain => Transaction.setTryAgain
  | .abort => Transaction.abort
  | .createBridge name => discard (Transaction.createBridge fmt name)
  | .deleteBridgeUuid bridgeUuid portUuids ifaceUuids =>
      Transaction.deleteBridgeUuid fmt bridgeUuid portUuids ifaceUuids
  | .deleteBridge name => Transaction.deleteBridge name
  | .addPort bridgeName portName ifaceType =>
      discard (Transaction.addPort fmt bridgeName portName ifaceType)
  | .addInternalPort bridgeName portName =>
      discard (Transaction.addInternalPort fmt bridgeName portName)
  | .addSystemPort bridgeName portName =>
      discard (Transaction.addSystemPort fmt bridgeName portName)
  | .addVlanPort bridgeName portName vlanId =>
      discard (Transaction.addVlanPort fmt bridgeName portName vlanId)
  | .addPatchPorts bridge1 bridge2 port1Name port2Name =>
      discard (Transaction.addPatchPorts fmt bridge1 bridge2 port1Name port2Name)
  | .addTrunkPatchPorts bridge1 bridge2 vlans port1Name port2Name =>
      discard (Transaction.addTrunkPatchPorts fmt bridge1 bridge2 vlans port1Name port2Name)
  | .deletePortUuid bridgeUuid portUuid ifaceUuid =>
      Transaction.deletePortUuid fmt bridgeUuid portUuid ifaceUuid
  | .deletePort bridgeName portName => Transaction.deletePort bridgeName portName
  | .setController bridgeName target =>
      discard (Transaction.setController fmt bridgeName target)

/-- The transaction that a sequence of calls builds. -/
def built (fmt : UuidFormat) (dbName : String) (methods : List Method) : Transaction :=
  ((methods.forM (Method.call fmt)).run (new dbName)).2

end Transaction

end Rovs.Ovsdb

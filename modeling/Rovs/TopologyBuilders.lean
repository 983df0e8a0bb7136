import Rovs.Transaction

/-!
# Topology builders (`rovs-ext/src/topology`)

A bridge pair is two bridges with patch ports between them, a VLAN trunk is a bridge with access
ports and trunk ports.  Each builds the transaction that creates it and one that deletes it.
-/

namespace Rovs.Ovsdb

open Json Transaction

/-- The transaction that a program builds, from an empty one. -/
def Transaction.assemble {α : Type} (dbName : String) (program : Build α) : Transaction :=
  (program.run (Transaction.new dbName)).2

/-- `fail_mode` of a bridge is set to secure. -/
def Transaction.setSecure (bridge : String) : Build Unit :=
  updateByName "Bridge" bridge (.object [("fail_mode", .string "secure")])

/-! ### Bridge pairs -/

structure BridgePairConfig where
  bridge1 : String
  bridge2 : String
  patch1Name : Option String := none
  patch2Name : Option String := none
  vlans : Option (List U16) := none
  secureFailMode : Bool := false

structure BridgePair where
  config : BridgePairConfig

namespace BridgePair

variable (fmt : UuidFormat) (pair : BridgePair)

def new (bridge1 bridge2 : String) : BridgePair := ⟨{ bridge1 := bridge1, bridge2 := bridge2 }⟩

/-- The patch ports of `build_transaction`, which carry VLANs when there are some. -/
def addPatches : Build (RowRef × RowRef × RowRef × RowRef) :=
  match pair.config.vlans with
  | some vlans => addTrunkPatchPorts fmt pair.config.bridge1 pair.config.bridge2 vlans
      pair.config.patch1Name pair.config.patch2Name
  | none => addPatchPorts fmt pair.config.bridge1 pair.config.bridge2
      pair.config.patch1Name pair.config.patch2Name

/-- The calls of `build_transaction`. -/
def create : Build Unit := do
  let _ ← createBridge fmt pair.config.bridge1
  let _ ← createBridge fmt pair.config.bridge2
  discard (pair.addPatches fmt)
  if pair.config.secureFailMode then
    setSecure pair.config.bridge1
    setSecure pair.config.bridge2

def buildTransaction : Transaction := assemble "Open_vSwitch" (pair.create fmt)

def buildDeleteTransaction : Transaction :=
  assemble "Open_vSwitch" do
    let patch1 := pair.config.patch1Name.getD
      ("patch-" ++ pair.config.bridge1 ++ "-to-" ++ pair.config.bridge2)
    let patch2 := pair.config.patch2Name.getD
      ("patch-" ++ pair.config.bridge2 ++ "-to-" ++ pair.config.bridge1)
    deletePort pair.config.bridge1 patch1
    deletePort pair.config.bridge2 patch2
    deleteBridge pair.config.bridge1
    deleteBridge pair.config.bridge2

end BridgePair

/-! ### VLAN trunks -/

structure AccessPortConfig where
  name : String
  vlanId : U16
  ifaceType : String := "internal"

/-- No allowed VLANs are all VLANs. -/
structure TrunkPortConfig where
  name : String
  allowedVlans : List U16 := []
  ifaceType : String := "internal"

structure VlanTrunkConfig where
  bridge : String
  createBridge : Bool := true
  accessPorts : List AccessPortConfig := []
  trunkPorts : List TrunkPortConfig := []
  secureFailMode : Bool := false

structure VlanTrunk where
  config : VlanTrunkConfig

namespace VlanTrunk

variable (fmt : UuidFormat) (trunk : VlanTrunk)

def addAccessPort (port : AccessPortConfig) : Build Unit :=
  discard (attachPort fmt trunk.config.bridge port.name port.ifaceType []
    [("tag", vlanJson port.vlanId)])

def addTrunkPort (port : TrunkPortConfig) : Build Unit :=
  discard (attachPort fmt trunk.config.bridge port.name port.ifaceType []
    (if port.allowedVlans.isEmpty then [("vlan_mode", .string "trunk")]
    else [("vlan_mode", .string "trunk"), ("trunks", vlanSet port.allowedVlans)]))

/-- The calls of `build_transaction`. -/
def create : Build Unit := do
  if trunk.config.createBridge then
    discard (createBridge fmt trunk.config.bridge)
  trunk.config.accessPorts.forM (trunk.addAccessPort fmt)
  trunk.config.trunkPorts.forM (trunk.addTrunkPort fmt)
  if trunk.config.secureFailMode then
    setSecure trunk.config.bridge

def buildTransaction : Transaction := assemble "Open_vSwitch" (trunk.create fmt)

def buildDeleteTransaction : Transaction :=
  assemble "Open_vSwitch" do
    trunk.config.accessPorts.forM fun port => deletePort trunk.config.bridge port.name
    trunk.config.trunkPorts.forM fun port => deletePort trunk.config.bridge port.name
    if trunk.config.createBridge then
      deleteBridge trunk.config.bridge

end VlanTrunk

end Rovs.Ovsdb

import Rovs.References
import Rovs.TopologyBuilders

/-!
# Referential integrity of generated transactions

Every topology method appends a chain: an interface, the port on it, the bridge or the mutation
that takes the port.  A chain refers to nothing outside, so any calls in any order build a
transaction with referential integrity.

`Writes` says what a program appends and composes along its steps; `generated_integrity` is the
main result, for all methods and for both topology builders.
-/

namespace Rovs.Ovsdb.Transaction

open Json

/-! ### What a method appends -/

/-- The program appends a block, with the names that the counter gives. -/
def Writes {α : Type} (program : Build α) (peers : List (String × String)) : Prop :=
  ∀ txn, ∃ ops, (program.run txn).2 =
      { txn with
        operations := txn.operations ++ ops
        uuidCounter := txn.uuidCounter + BitVec.ofNat 32 (ops.countP isInsert) } ∧
    (txn.uuidCounter.toNat + ops.countP isInsert < 2 ^ 32 →
      Block txn.uuidCounter.toNat none peers ops)

section Writes

variable {α β : Type} {program : Build α} {peers peers' : List (String × String)}

theorem writes_pure (a : α) : Writes (pure a : Build α) [] := by
  intro txn
  refine ⟨[], ?_, fun _ => block_nil _⟩
  simp [StateT.run]
  rfl

/-- Programs that run one after the other append their blocks one after the other, and the counter
    goes on. -/
theorem Writes.bind {next : α → Build β} (h : Writes program peers)
    (hnext : ∀ a, Writes (next a) peers') : Writes (program >>= next) (peers ++ peers') := by
  intro txn
  rcases h txn with ⟨ops, hrun, hblock⟩
  rcases hnext (program.run txn).1 (program.run txn).2 with ⟨ops', hrun', hblock'⟩
  refine ⟨ops ++ ops', ?_, ?_⟩
  · have hbind : ((program >>= next).run txn).2 =
        ((next (program.run txn).1).run (program.run txn).2).2 := rfl
    rw [hbind, hrun', hrun]
    simp [List.countP_append, BitVec.ofNat_add, BitVec.add_assoc]
  · intro hbound
    rw [List.countP_append] at hbound
    have hcounter : (program.run txn).2.uuidCounter.toNat =
        txn.uuidCounter.toNat + ops.countP isInsert := by
      rw [hrun, BitVec.toNat_add, BitVec.toNat_ofNat]
      omega
    rw [hcounter] at hblock'
    exact (hblock (by omega)).append (hblock' (by omega))

theorem Writes.discard (h : Writes program peers) : Writes (Functor.discard program) peers := h

theorem writes_forM {program : α → Build Unit} {peers : α → List (String × String)} {as : List α}
    (h : ∀ a ∈ as, Writes (program a) (peers a)) : Writes (as.forM program) (as.flatMap peers) := by
  induction as with
  | nil => exact writes_pure ()
  | cons a as ih =>
    exact (h a List.mem_cons_self).bind fun _ => ih fun a ha => h a (List.mem_cons_of_mem _ ha)

/-- **A program that appends a block builds a transaction with referential integrity**, as long as
    the counter of names does not wrap around. -/
theorem Writes.integrity {program : Build Unit} {pairs : List (String × String)}
    (h : Writes program (pairs.flatMap eachOther)) (dbName : String)
    (hbound : (assemble dbName program).operations.countP isInsert < 2 ^ 32) :
    Integrity (assemble dbName program).operations pairs := by
  rcases h (new dbName) with ⟨ops, hrun, hblock⟩
  have hops : (assemble dbName program).operations = ops := by
    rw [assemble, hrun]
    rfl
  have hzero : (new dbName).uuidCounter.toNat = 0 := rfl
  rw [hzero, Nat.zero_add] at hblock
  rw [hops] at hbound ⊢
  exact (hblock hbound).integrity

end Writes

/-! ### The methods -/

section Methods

variable (fmt : UuidFormat)

/-- A counter that does not wrap counts on. -/
theorem toNat_succ {counter : U32} (h : counter.toNat + 1 < 2 ^ 32) :
    (counter + 1).toNat = counter.toNat + 1 := by
  rw [BitVec.toNat_add]
  have hone : (1 : U32).toNat = 1 := rfl
  omega

/-! #### A port -/

def ifaceRow (portName ifaceType : String) (extra : List (String × Value)) :
    List (String × Value) :=
  [("name", .string portName), ("type", .string ifaceType)] ++ extra

def portRow (portName iface : String) (extra : List (String × Value)) : List (String × Value) :=
  [("name", .string portName)] ++ ("interfaces", (RowRef.named iface).toJson fmt) :: extra

def addPortOp (bridgeName port : String) : Value :=
  mutateOp "Bridge" (columnEq "name" (.string bridgeName)) [addRef fmt "ports" (.named port)]

section Port

variable (bridgeName portName ifaceType : String) {ifaceExtra portExtra : List (String × Value)}

theorem reads_iface (name : String) (h : namedUuidsOf ifaceExtra = []) :
    Reads (insertOp "Interface" (ifaceRow portName ifaceType ifaceExtra) name) "insert"
      "Interface" (some ("Interface", name)) [] := by
  apply reads_insertPlain
  simp [ifaceRow, namedUuidsOf, namedUuids, h]

theorem reads_port (iface name : String) (h : namedUuidsOf portExtra = []) :
    Reads (insertOp "Port" (portRow fmt portName iface portExtra) name) "insert" "Port"
      (some ("Port", name)) [("Interface", iface)] := by
  apply reads_insertRef
  apply oneRef fmt iface (by rfl) _ h
  simp [namedUuidsOf, namedUuids]

theorem reads_addPortOp (port : String) :
    Reads (addPortOp fmt bridgeName port) "mutate" "Bridge" none [("Port", port)] := by
  apply reads_mutateOp fmt (by rfl)
  simp [columnEq, namedUuids, namedUuidsIn, namedPair]

/-- The interface, and the port that refers to it, before what refers to the port. -/
theorem block_port {c : Nat} {peers : List (String × String)} {ops : List Value}
    (hiface : namedUuidsOf ifaceExtra = []) (hport : namedUuidsOf portExtra = [])
    (hrest : Block (c + 2) (some ("Port", rowName (c + 1))) peers ops) :
    Block c none (((peerOf ifaceExtra).map fun peer => (portName, peer)).toList ++ peers)
      (insertOp "Interface" (ifaceRow portName ifaceType ifaceExtra) (rowName c) ::
        insertOp "Port" (portRow fmt portName (rowName c) portExtra) (rowName (c + 1)) :: ops) := by
  have hlast := Block.insert (some ("Interface", rowName c))
    (reads_port fmt portName (rowName c) (rowName (c + 1)) hport) (by simp; rfl) hrest
  rw [patchPeer_other (by decide), Option.toList_none, List.nil_append] at hlast
  have hfirst := Block.insert none
    (reads_iface portName ifaceType (rowName c) hiface) (by simp) hlast
  rwa [ifaceRow, patchPeer_interface] at hfirst

/-- An interface, a port that refers to it, and the mutation of the bridge, which takes the port. -/
theorem writes_attachPort (hiface : namedUuidsOf ifaceExtra = [])
    (hport : namedUuidsOf portExtra = []) :
    Writes (attachPort fmt bridgeName portName ifaceType ifaceExtra portExtra)
      ((peerOf ifaceExtra).map fun peer => (portName, peer)).toList := by
  intro txn
  let c := txn.uuidCounter
  refine ⟨[insertOp "Interface" (ifaceRow portName ifaceType ifaceExtra) (rowName c.toNat),
    insertOp "Port" (portRow fmt portName (rowName c.toNat) portExtra) (rowName (c + 1).toNat),
    addPortOp fmt bridgeName (rowName (c + 1).toNat)], ?_, ?_⟩
  · change { txn with
      operations := txn.operations ++ [_] ++ [_] ++ [_]
      uuidCounter := c + 1 + 1 } = _
    rw [List.append_assoc, List.append_assoc, BitVec.add_assoc]
    rfl
  · intro hbound
    change c.toNat + 2 < 2 ^ 32 at hbound
    have hsucc : (c + 1).toNat = c.toNat + 1 := toNat_succ (by omega)
    have hlast := Block.other (some ("Port", rowName (c.toNat + 1)))
      (reads_addPortOp fmt bridgeName (rowName (c.toNat + 1))) (by decide) (by simp; rfl)
      (block_nil (c.toNat + 2))
    have hblock := block_port fmt portName ifaceType hiface hport hlast
    rw [List.append_nil] at hblock
    rw [hsucc]
    exact hblock

end Port

/-! #### The other methods -/

/-- The same chain with the bridge as a row of its own, which the switch takes. -/
theorem writes_createBridge (name : String) : Writes (createBridge fmt name) [] := by
  intro txn
  let c := txn.uuidCounter
  let bridgeRow := [("name", Value.string name)] ++
    [("ports", (RowRef.named (rowName (c + 1).toNat)).toJson fmt)]
  let addBridge := mutateOp "Open_vSwitch" (.array [])
    [addRef fmt "bridges" (.named (rowName (c + 1 + 1).toNat))]
  refine ⟨[insertOp "Interface" (ifaceRow name "internal" []) (rowName c.toNat),
    insertOp "Port" (portRow fmt name (rowName c.toNat) []) (rowName (c + 1).toNat),
    insertOp "Bridge" bridgeRow (rowName (c + 1 + 1).toNat), addBridge], ?_, ?_⟩
  · change { txn with
      operations := txn.operations ++ [_] ++ [_] ++ [_] ++ [_]
      uuidCounter := c + 1 + 1 + 1 } = _
    have hcounter : c + 1 + 1 + 1 = c + 3 := by
      rw [BitVec.add_assoc, BitVec.add_assoc]
      rfl
    rw [List.append_assoc, List.append_assoc, List.append_assoc, hcounter]
    rfl
  · intro hbound
    change c.toNat + 3 < 2 ^ 32 at hbound
    have hsucc : (c + 1).toNat = c.toNat + 1 := toNat_succ (by omega)
    have hsucc' : (c + 1 + 1).toNat = c.toNat + 2 := by
      rw [toNat_succ (by omega), hsucc]
    have hbridge : Reads (insertOp "Bridge" bridgeRow (rowName (c.toNat + 2))) "insert" "Bridge"
        (some ("Bridge", rowName (c.toNat + 2))) [("Port", rowName (c.toNat + 1))] := by
      apply reads_insertRef
      rw [← hsucc]
      exact oneRef fmt _ (by rfl) (by simp [namedUuidsOf, namedUuids]) (by rfl)
    have hadd : Reads addBridge "mutate" "Open_vSwitch" none
        [("Bridge", rowName (c.toNat + 2))] := by
      rw [← hsucc']
      exact reads_mutateOp fmt (by rfl) (by simp [namedUuids, namedUuidsIn, namedPair])
    have hlast := Block.other (some ("Bridge", rowName (c.toNat + 2))) hadd (by decide)
      (by simp; rfl) (block_nil (c.toNat + 2 + 1))
    have hthird := Block.insert (some ("Port", rowName (c.toNat + 1))) hbridge
      (by simp; rfl) hlast
    rw [patchPeer_other (by decide), Option.toList_none, List.nil_append] at hthird
    have hnone : namedUuidsOf [] = [] := rfl
    have hblock := block_port fmt name "internal" hnone hnone hthird
    rw [hsucc, hsucc']
    exact hblock

theorem writes_setController (bridgeName target : String) :
    Writes (setController fmt bridgeName target) [] := by
  intro txn
  let c := txn.uuidCounter
  let update := updateOp "Bridge" (columnEq "name" (.string bridgeName))
    ([] ++ [("controller", (RowRef.named (rowName c.toNat)).toJson fmt)])
  refine ⟨[insertOp "Controller" [("target", .string target)] (rowName c.toNat), update], ?_, ?_⟩
  · change { txn with
      operations := txn.operations ++ [_] ++ [_]
      uuidCounter := c + 1 } = _
    rw [List.append_assoc]
    rfl
  · intro _
    have hupdate : Reads update "update" "Bridge" none [("Controller", rowName c.toNat)] := by
      have href : OneRef "Bridge"
          ([] ++ [("controller", (RowRef.named (rowName c.toNat)).toJson fmt)]) "Controller"
          (rowName c.toNat) :=
        oneRef fmt _ (by rfl) (by rfl) (by rfl)
      have hreads := reads_updateOp bridgeName href.placed
      rwa [href.columnRefs_eq] at hreads
    have hcontroller : Reads (insertOp "Controller" [("target", .string target)]
        (rowName c.toNat)) "insert" "Controller" (some ("Controller", rowName c.toNat)) [] :=
      reads_insertPlain _ (by simp [namedUuidsOf, namedUuids])
    have hlast := Block.other (some ("Controller", rowName c.toNat)) hupdate (by decide)
      (by simp; rfl) (block_nil (c.toNat + 1))
    have hfirst := Block.insert none hcontroller (by simp) hlast
    rwa [patchPeer_other (by decide)] at hfirst

theorem writes_setSecure (bridge : String) : Writes (setSecure bridge) [] := by
  intro txn
  let update := updateOp "Bridge" (columnEq "name" (.string bridge))
    [("fail_mode", .string "secure")]
  refine ⟨[update], ?_, fun _ => ?_⟩
  · have hcounter : txn.uuidCounter =
        txn.uuidCounter + BitVec.ofNat 32 ([update].countP isInsert) :=
      (BitVec.add_zero _).symm
    rw [← hcounter]
    rfl
  · have hplain : namedUuidsOf [("fail_mode", Value.string "secure")] = [] := by
      simp [namedUuidsOf, namedUuids]
    have hreads := reads_updateOp bridge (placed_plain "Bridge" hplain)
    rw [columnRefs_plain "Bridge" hplain] at hreads
    exact Block.other none hreads (by decide) (by simp) (block_nil _)

theorem namedUuidsIn_vlans (vlans : List U16) : namedUuidsIn (vlans.map vlanJson) = [] := by
  induction vlans with
  | nil => rfl
  | cons vlan vlans ih => simp [namedUuidsIn, namedUuids, vlanJson, ih]

theorem namedPair_vlans (vlans : List U16) : namedPair (vlans.map vlanJson) = none := by
  rcases vlans with _ | ⟨vlan, _ | ⟨vlan', _ | _⟩⟩
  · rfl
  · rfl
  · rfl
  · rfl

theorem namedUuids_vlanSet (vlans : List U16) : namedUuids (vlanSet vlans) = [] := by
  unfold vlanSet
  split
  · rfl
  · have hset : namedUuids (.array (vlans.map vlanJson)) = [] := by
      rw [namedUuids, namedPair_vlans]
      exact namedUuidsIn_vlans vlans
    change namedUuidsIn [.string "set", .array (vlans.map vlanJson)] = []
    rw [namedUuidsIn, namedUuidsIn, hset]
    rfl

/-- The names of the two ends of a patch. -/
def patchNames (bridge1 bridge2 : String) (port1Name port2Name : Option String) :
    String × String :=
  (port1Name.getD ("patch-" ++ bridge1 ++ "-to-" ++ bridge2),
    port2Name.getD ("patch-" ++ bridge2 ++ "-to-" ++ bridge1))

theorem writes_insertPatchPorts (bridge1 bridge2 : String) (port1Name port2Name : Option String)
    {portExtra : List (String × Value)} (h : namedUuidsOf portExtra = []) :
    Writes (insertPatchPorts fmt bridge1 bridge2 port1Name port2Name portExtra)
      (eachOther (patchNames bridge1 bridge2 port1Name port2Name)) := by
  have hpeer : ∀ name, namedUuidsOf [("options", insertPatchPorts.peer name)] = [] := by
    intro name
    simp [insertPatchPorts.peer, namedUuidsOf, namedUuids, namedUuidsIn, namedPair, Value.asStr]
  have hfirst := writes_attachPort fmt bridge1 (patchNames bridge1 bridge2 port1Name port2Name).1
    "patch" (hpeer (patchNames bridge1 bridge2 port1Name port2Name).2) h
  have hsecond := writes_attachPort fmt bridge2 (patchNames bridge1 bridge2 port1Name port2Name).2
    "patch" (hpeer (patchNames bridge1 bridge2 port1Name port2Name).1) h
  exact hfirst.bind fun _ => hsecond.bind fun _ => writes_pure _

/-! ### Sequences of calls -/

/-- The methods that create topology. -/
def Method.isTopology : Method → Bool
  | .createBridge _ | .addPort .. | .addInternalPort .. | .addSystemPort .. | .addVlanPort ..
  | .addPatchPorts .. | .addTrunkPatchPorts .. | .setController .. => true
  | _ => false

/-- The names of the patch ports that a call creates. -/
def Method.patchPair : Method → Option (String × String)
  | .addPatchPorts bridge1 bridge2 port1Name port2Name
  | .addTrunkPatchPorts bridge1 bridge2 _ port1Name port2Name =>
      some (patchNames bridge1 bridge2 port1Name port2Name)
  | _ => none

theorem namedUuidsOf_trunk (vlans : List U16) : namedUuidsOf
    [("vlan_mode", .string "trunk"), ("trunks", vlanSet vlans)] = [] := by
  simp [namedUuidsOf, namedUuids, namedUuids_vlanSet]

/-- Every method that creates topology appends such a block; patch ports come in pairs that name
    each other. -/
theorem writes_call (method : Method) (h : method.isTopology = true) :
    Writes (method.call fmt) (method.patchPair.toList.flatMap eachOther) := by
  cases method with
  | createBridge name => exact (writes_createBridge fmt name).discard
  | addPort bridgeName portName ifaceType =>
    exact (writes_attachPort fmt bridgeName portName ifaceType (by rfl) (by rfl)).discard
  | addInternalPort bridgeName portName =>
    exact (writes_attachPort fmt bridgeName portName "internal" (by rfl) (by rfl)).discard
  | addSystemPort bridgeName portName =>
    exact (writes_attachPort fmt bridgeName portName "system" (by rfl) (by rfl)).discard
  | addVlanPort bridgeName portName vlanId =>
    exact (writes_attachPort fmt bridgeName portName "internal" (by rfl) (by rfl)).discard
  | addPatchPorts bridge1 bridge2 port1Name port2Name =>
    exact (writes_insertPatchPorts fmt bridge1 bridge2 port1Name port2Name (by rfl)).discard
  | addTrunkPatchPorts bridge1 bridge2 vlans port1Name port2Name =>
    exact (writes_insertPatchPorts fmt bridge1 bridge2 port1Name port2Name
      (namedUuidsOf_trunk vlans)).discard
  | setController bridgeName target => exact (writes_setController fmt bridgeName target).discard
  | _ => cases h

theorem writes_calls {methods : List Method} (h : ∀ m ∈ methods, m.isTopology = true) :
    Writes (methods.forM (Method.call fmt))
      ((methods.filterMap Method.patchPair).flatMap eachOther) := by
  have hwrites := writes_forM fun m hm => writes_call fmt m (h m hm)
  rwa [← List.flatMap_assoc, ← List.filterMap_eq_flatMap_toList] at hwrites

end Methods

/-! ### Topology builders -/

section Builders

variable (fmt : UuidFormat)

/-- The names of the patch ports of a pair. -/
def pairNames (pair : BridgePair) : String × String :=
  patchNames pair.config.bridge1 pair.config.bridge2 pair.config.patch1Name pair.config.patch2Name

theorem writes_createPair (pair : BridgePair) :
    Writes (pair.create fmt) (eachOther (pairNames pair)) := by
  have hpatch : Writes (pair.addPatches fmt) (eachOther (pairNames pair)) := by
    unfold BridgePair.addPatches
    split
    · exact writes_insertPatchPorts fmt _ _ _ _ (namedUuidsOf_trunk _)
    · exact writes_insertPatchPorts fmt _ _ _ _ (by rfl)
  have hsecure : Writes (if pair.config.secureFailMode then do
        setSecure pair.config.bridge1
        setSecure pair.config.bridge2
      else pure ()) [] := by
    split
    · exact (writes_setSecure _).bind fun _ => writes_setSecure _
    · exact writes_pure ()
  apply (writes_createBridge fmt _).bind
  intro _
  apply (writes_createBridge fmt _).bind
  intro _
  exact hpatch.discard.bind fun _ => hsecure

/-- A loop over ports of which none has a peer. -/
theorem writes_ports {α : Type} {program : α → Build Unit} (h : ∀ a, Writes (program a) [])
    (as : List α) : Writes (as.forM program) [] := by
  have hloop : Writes (as.forM program) (as.flatMap fun _ => []) := writes_forM fun a _ => h a
  rwa [List.flatMap_eq_nil_iff.mpr fun _ _ => rfl] at hloop

theorem writes_createTrunk (trunk : VlanTrunk) : Writes (trunk.create fmt) [] := by
  have haccess : ∀ port, Writes (trunk.addAccessPort fmt port) [] := fun port =>
    (writes_attachPort fmt _ _ _ (by rfl) (by rfl)).discard
  have htrunk : ∀ port, Writes (trunk.addTrunkPort fmt port) [] := by
    intro port
    apply (writes_attachPort fmt _ _ _ (by rfl) _).discard
    split
    · rfl
    · exact namedUuidsOf_trunk _
  have hsecure : Writes (if trunk.config.secureFailMode then setSecure trunk.config.bridge
      else pure ()) [] := by
    split
    · exact writes_setSecure _
    · exact writes_pure ()
  have hports : Writes (do
      trunk.config.accessPorts.forM (trunk.addAccessPort fmt)
      trunk.config.trunkPorts.forM (trunk.addTrunkPort fmt)
      if trunk.config.secureFailMode then setSecure trunk.config.bridge) [] :=
    (writes_ports haccess _).bind fun _ => (writes_ports htrunk _).bind fun _ => hsecure
  by_cases hcreate : trunk.config.createBridge = true
  · rw [VlanTrunk.create, if_pos hcreate]
    exact (writes_createBridge fmt _).discard.bind fun _ => hports
  · rw [VlanTrunk.create, if_neg hcreate]
    exact hports

/-! ### Deleting a pair -/

/-- The rows that are inserted: the table of each and its name. -/
def insertedRows (operations : List Value) : List (Option String × Option String) :=
  (operations.filter isInsert).map fun op =>
    (tableOf op, (op.get "row").bind fun row => (row.get "name").bind Value.asStr)

/-- The names of the rows that are inserted in a table. -/
def insertedNames (table : String) (operations : List Value) : List (Option String) :=
  ((insertedRows operations).filter fun row => row.1 == some table).map Prod.snd

/-- The name in the condition `name == ..`. -/
def nameCondition (condition : Value) : Option String :=
  match condition.asArray with
  | some [clause] =>
    match clause.asArray with
    | some [column, operator, name] =>
      if column.asStr = some "name" ∧ operator.asStr = some "==" then name.asStr else none
    | _ => none
  | _ => none

/-- The names of the rows of a table that are deleted, or that something else is done with. -/
def deletedNames (table : String) (operations : List Value) : List (Option String) :=
  (operations.filter fun op => tableOf op == some table).map fun op =>
    if kindOf op = some "delete" then (op.get "where").bind nameCondition else none

/-- The program inserts these rows. -/
def Adds {α : Type} (program : Build α) (rows : List (Option String × Option String)) : Prop :=
  ∀ txn, insertedRows (program.run txn).2.operations = insertedRows txn.operations ++ rows

section Adds

variable {α β : Type} {program : Build α} {rows rows' : List (Option String × Option String)}

theorem insertedRows_append (ops ops' : List Value) :
    insertedRows (ops ++ ops') = insertedRows ops ++ insertedRows ops' := by
  rw [insertedRows, List.filter_append, List.map_append]
  rfl

theorem insertedRows_length (ops : List Value) :
    (insertedRows ops).length = ops.countP isInsert := by
  rw [insertedRows, List.length_map, List.countP_eq_length_filter]

theorem adds_pure (a : α) : Adds (pure a : Build α) [] := fun _ => (List.append_nil _).symm

theorem Adds.bind {next : α → Build β} (h : Adds program rows)
    (hnext : ∀ a, Adds (next a) rows') : Adds (program >>= next) (rows ++ rows') := by
  intro txn
  have hbind : ((program >>= next).run txn).2 =
      ((next (program.run txn).1).run (program.run txn).2).2 := rfl
  rw [hbind, hnext, h, List.append_assoc]

theorem Adds.discard (h : Adds program rows) : Adds (Functor.discard program) rows := h

theorem adds_insert (table : String) (row : Value) :
    Adds (insert table row) [(some table, (row.get "name").bind Value.asStr)] := fun txn =>
  insertedRows_append txn.operations [_]

theorem adds_mutateWhere (table : String) (condition : Value) (mutations : List Value) :
    Adds (mutateWhere table condition mutations) [] := fun txn =>
  insertedRows_append txn.operations [mutateOp table condition mutations]

theorem adds_updateRows (table : String) (condition columns : Value) :
    Adds (updateRows table condition columns) [] := fun txn =>
  insertedRows_append txn.operations [_]

/-- An interface and a port of the same name. -/
def portRows (name : String) : List (Option String × Option String) :=
  [(some "Interface", some name), (some "Port", some name)]

theorem adds_insertPort (name ifaceType : String) (ifaceExtra portExtra : List (String × Value)) :
    Adds (insertPort fmt name ifaceType ifaceExtra portExtra) (portRows name) := by
  apply (adds_insert _ _).bind
  intro ifaceRef
  apply (adds_insert _ _).bind
  intro portRef
  exact adds_pure _

theorem adds_attachPort (bridgeName portName ifaceType : String)
    (ifaceExtra portExtra : List (String × Value)) :
    Adds (attachPort fmt bridgeName portName ifaceType ifaceExtra portExtra)
      (portRows portName) := by
  apply (adds_insertPort fmt _ _ _ _).bind
  rintro ⟨portRef, ifaceRef⟩
  apply (adds_mutateWhere _ _ _).bind
  intro _
  exact adds_pure _

theorem adds_createBridge (name : String) :
    Adds (createBridge fmt name) (portRows name ++ [(some "Bridge", some name)]) := by
  apply (adds_insertPort fmt _ _ _ _).bind
  rintro ⟨portRef, ifaceRef⟩
  apply (adds_insert _ _).bind
  intro bridgeRef
  apply (adds_mutateWhere _ _ _).bind
  intro _
  exact adds_pure _

theorem adds_insertPatchPorts (bridge1 bridge2 : String) (port1Name port2Name : Option String)
    (portExtra : List (String × Value)) :
    Adds (insertPatchPorts fmt bridge1 bridge2 port1Name port2Name portExtra)
      (portRows (patchNames bridge1 bridge2 port1Name port2Name).1 ++
        portRows (patchNames bridge1 bridge2 port1Name port2Name).2) :=
  (adds_attachPort fmt _ _ _ _ _).bind fun _ =>
    (adds_attachPort fmt _ _ _ _ _).bind fun _ => adds_pure _

end Adds

/-- The rows of a pair. -/
def pairRows (pair : BridgePair) : List (Option String × Option String) :=
  portRows pair.config.bridge1 ++ [(some "Bridge", some pair.config.bridge1)] ++
    (portRows pair.config.bridge2 ++ [(some "Bridge", some pair.config.bridge2)] ++
      (portRows (pairNames pair).1 ++ portRows (pairNames pair).2))

theorem insertedRows_pair (pair : BridgePair) :
    insertedRows (pair.buildTransaction fmt).operations = pairRows pair := by
  have hpatches : Adds (pair.addPatches fmt)
      (portRows (pairNames pair).1 ++ portRows (pairNames pair).2) := by
    unfold BridgePair.addPatches
    split
    · exact adds_insertPatchPorts fmt _ _ _ _ _
    · exact adds_insertPatchPorts fmt _ _ _ _ _
  have hsecure : Adds (if pair.config.secureFailMode then do
        setSecure pair.config.bridge1
        setSecure pair.config.bridge2
      else pure ()) [] := by
    split
    · exact (adds_updateRows _ _ _).bind fun _ => adds_updateRows _ _ _
    · exact adds_pure ()
  have hcreate : Adds (pair.create fmt) (pairRows pair) := by
    apply (adds_createBridge fmt _).bind
    intro _
    apply (adds_createBridge fmt _).bind
    intro _
    exact hpatches.discard.bind fun _ => hsecure
  exact hcreate (new "Open_vSwitch")

theorem insertedNames_pair (pair : BridgePair) :
    ∀ table ∈ ["Interface", "Port"],
      insertedNames table (pair.buildTransaction fmt).operations =
        [pair.config.bridge1, pair.config.bridge2, (pairNames pair).1, (pairNames pair).2].map
          some := by
  intro table htable
  rw [insertedNames, insertedRows_pair]
  simp only [List.mem_cons, List.not_mem_nil, or_false] at htable
  rcases htable with rfl | rfl
  · rfl
  · rfl

theorem deletedNames_pair (pair : BridgePair) :
    ∀ table ∈ ["Interface", "Port"],
      deletedNames table pair.buildDeleteTransaction.operations =
        [(pairNames pair).1, (pairNames pair).2, pair.config.bridge1, pair.config.bridge2].map
          some := by
  intro table htable
  simp only [List.mem_cons, List.not_mem_nil, or_false] at htable
  rcases htable with rfl | rfl
  · rfl
  · rfl

/-! ### Generated transactions -/

/-- **Every transaction that is generated with fewer than 2^32 inserts has referential integrity,
    and the transaction that deletes a bridge pair deletes the interfaces and ports that the pair
    was created with.** -/
theorem generated_integrity :
    (∀ dbName methods, (∀ m ∈ methods, m.isTopology = true) →
      (built fmt dbName methods).operations.countP isInsert < 2 ^ 32 →
      Integrity (built fmt dbName methods).operations (methods.filterMap Method.patchPair)) ∧
    (∀ pair : BridgePair,
      Integrity (pair.buildTransaction fmt).operations [pairNames pair] ∧
      ∀ table ∈ ["Interface", "Port"],
        insertedNames table (pair.buildTransaction fmt).operations =
          [pair.config.bridge1, pair.config.bridge2, (pairNames pair).1, (pairNames pair).2].map
            some ∧
        deletedNames table pair.buildDeleteTransaction.operations =
          [(pairNames pair).1, (pairNames pair).2, pair.config.bridge1, pair.config.bridge2].map
            some) ∧
    (∀ trunk : VlanTrunk, (trunk.buildTransaction fmt).operations.countP isInsert < 2 ^ 32 →
      Integrity (trunk.buildTransaction fmt).operations []) := by
  refine ⟨?_, ?_, ?_⟩
  · intro dbName methods hmethods hbound
    exact (writes_calls fmt hmethods).integrity dbName hbound
  · intro pair
    constructor
    · apply Writes.integrity (writes_createPair fmt pair)
      change (pair.buildTransaction fmt).operations.countP isInsert < 2 ^ 32
      have hlength : (pairRows pair).length = 10 := rfl
      rw [← insertedRows_length, insertedRows_pair, hlength]
      decide
    · intro table htable
      exact ⟨insertedNames_pair fmt pair table htable, deletedNames_pair pair table htable⟩
  · intro trunk hbound
    exact (writes_createTrunk fmt trunk).integrity _ hbound

/-- A controller for a bridge and a patch to another one. -/
def siteMethods : List Method :=
  [.setController "br-int" "ptcp:6653",
    .addPatchPorts "br-int" "br-ext" (some "to-ext") (some "to-int")]

def siteTrunk : VlanTrunk :=
  ⟨{ bridge := "br-vlan"
     accessPorts := [⟨"vm1", 100, "internal"⟩]
     trunkPorts := [⟨"uplink", [100, 200], "system"⟩] }⟩

theorem generated_integrity_site :
    Integrity (built hyphenated "Open_vSwitch" siteMethods).operations [("to-ext", "to-int")] ∧
    Integrity (siteTrunk.buildTransaction hyphenated).operations [] := by
  have hmethods :
      (built hyphenated "Open_vSwitch" siteMethods).operations.countP isInsert = 5 := by
    decide +kernel
  have htrunk : (siteTrunk.buildTransaction hyphenated).operations.countP isInsert = 7 := by
    decide +kernel
  constructor
  · apply (generated_integrity hyphenated).1 "Open_vSwitch" siteMethods (by decide)
    rw [hmethods]
    decide
  · apply (generated_integrity hyphenated).2.2 siteTrunk
    rw [htrunk]
    decide

end Builders

end Rovs.Ovsdb.Transaction

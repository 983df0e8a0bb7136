import Rovs.RowServer

/-!
# Deleting by name

`delete_bridge` and `delete_port` delete rows by their names and leave the references to them.  A
bridge, a port or an interface that is in a database is there because something refers to it, so
the server refuses every such transaction that finds a row, and one that finds none does nothing.

The calls and the delete transactions of the topology builders all append a list of `deleteOp`s, one
for each table and name (`Pushes`), so one theorem about such lists, `deleteOps_nothing`, serves
them all.  `nameDeletes_nothing` is the main result.  It needs only that the three tables keep no
row by themselves, whatever other rows refer to bridges, ports and interfaces.
-/

namespace Rovs.Ovsdb.Server

open Json Transaction

/-! ### What is deleted -/

/-- A table and a name in it. -/
abbrev Target := String × String

def deleteOp (target : Target) : Value :=
  deleteRowsOp target.1 (columnEq "name" (.string target.2))

def portTargets (portName : String) : List Target :=
  [("Interface", portName), ("Port", portName)]

def bridgeTargets (name : String) : List Target := portTargets name ++ [("Bridge", name)]

/-- What a call deletes by name. -/
def nameTargets : Method → List Target
  | .deletePort _ portName => portTargets portName
  | .deleteBridge name => bridgeTargets name
  | _ => []

def isNameDelete : Method → Bool
  | .deletePort .. | .deleteBridge _ => true
  | _ => false

def pairTargets (pair : BridgePair) : List Target :=
  portTargets (pairNames pair).1 ++ (portTargets (pairNames pair).2 ++
    (bridgeTargets pair.config.bridge1 ++ bridgeTargets pair.config.bridge2))

def trunkTargets (trunk : VlanTrunk) : List Target :=
  (trunk.config.accessPorts.flatMap fun port => portTargets port.name) ++
    ((trunk.config.trunkPorts.flatMap fun port => portTargets port.name) ++
      if trunk.config.createBridge then bridgeTargets trunk.config.bridge else [])

/-- The database has a row of the name in the table. -/
def Holds (db : Rows) (target : Target) : Prop :=
  ∃ u row, db target.1 u = some row ∧ row "name" = {text target.2}

/-- The operations are refused if the database has one of the rows, and do nothing if not. -/
structure DeletesNothing (server : Server) (newRow : Nat → Uuid) (db : Rows)
    (targets : List Target) (operations : List Value) : Prop where
  refused : (∃ target ∈ targets, Holds db target) → server.commit newRow db operations = none
  idle : (¬ ∃ target ∈ targets, Holds db target) → server.commit newRow db operations = some db

/-! ### What a program appends -/

/-- The program appends these operations. -/
def Pushes {α : Type} (program : Build α) (operations : List Value) : Prop :=
  ∀ txn, (program.run txn).2.operations = txn.operations ++ operations

section Pushes

variable {α β : Type} {program : Build α} {ops ops' : List Value}

theorem pushes_pure (a : α) : Pushes (pure a : Build α) [] := fun _ => (List.append_nil _).symm

theorem Pushes.bind {next : α → Build β} (h : Pushes program ops)
    (hnext : ∀ a, Pushes (next a) ops') : Pushes (program >>= next) (ops ++ ops') := by
  intro txn
  have hbind : ((program >>= next).run txn).2 =
      ((next (program.run txn).1).run (program.run txn).2).2 := rfl
  rw [hbind, hnext, h, List.append_assoc]

theorem pushes_forM {program : α → Build Unit} {ops : α → List Value}
    {as : List α} (h : ∀ a ∈ as, Pushes (program a) (ops a)) :
    Pushes (as.forM program) (as.flatMap ops) := by
  induction as with
  | nil => exact pushes_pure ()
  | cons a as ih =>
    rcases List.forall_mem_cons.mp h with ⟨ha, has⟩
    rw [List.flatMap_cons]
    exact ha.bind fun _ => ih has

theorem pushes_deleteByName (table name : String) :
    Pushes (deleteByName table name) [deleteOp (table, name)] := fun _ => rfl

theorem pushes_deletePort (bridgeName portName : String) :
    Pushes (deletePort bridgeName portName) ((portTargets portName).map deleteOp) :=
  (pushes_deleteByName "Interface" portName).bind fun _ => pushes_deleteByName "Port" portName

theorem pushes_deleteBridge (name : String) :
    Pushes (deleteBridge name) ((bridgeTargets name).map deleteOp) :=
  (pushes_deleteByName "Interface" name).bind fun _ =>
    (pushes_deleteByName "Port" name).bind fun _ => pushes_deleteByName "Bridge" name

theorem pushes_nameDelete (fmt : UuidFormat) (method : Method) (h : isNameDelete method = true) :
    Pushes (method.call fmt) ((nameTargets method).map deleteOp) := by
  cases method with
  | deletePort bridgeName portName => exact pushes_deletePort bridgeName portName
  | deleteBridge name => exact pushes_deleteBridge name
  | _ => cases h

theorem pushes_nameDeletes (fmt : UuidFormat) {methods : List Method}
    (h : ∀ m ∈ methods, isNameDelete m = true) :
    Pushes (methods.forM (Method.call fmt)) ((methods.flatMap nameTargets).map deleteOp) := by
  rw [List.map_flatMap]
  exact pushes_forM fun m hm => pushes_nameDelete fmt m (h m hm)

end Pushes

/-! ### Removing rows by name -/

/-- The rows without those that are named. -/
noncomputable def removeNamed (db : Rows) (target : Target) : Rows :=
  db.remove target.1 (Named target.2)

section Remove

variable {db : Rows} {targets : List Target}

/-- **Each deletion takes the rows of a name away.** -/
theorem executeAll_deleteOps {server : Server} {fmt : UuidFormat} (h : server.CarriesOut fmt)
    (names : String → Option Uuid) (newRow : Nat → Uuid) (i : Nat) (db : Rows)
    {targets : List Target} (htables : ∀ target ∈ targets, target.1 ∈ namedTables) :
    server.executeAll names newRow i db (targets.map deleteOp) =
      some (targets.foldl removeNamed db) := by
  induction targets generalizing i db with
  | nil => rfl
  | cons target targets ih =>
    rcases List.forall_mem_cons.mp htables with ⟨htable, htables⟩
    have hstep := h.delete names (newRow i) db _ _ target.1 htable (.named target.2 htable)
    rw [List.map_cons, executeAll, deleteOp, hstep, Option.bind_some, ih _ _ htables,
      List.foldl_cons]
    rfl

theorem foldl_within (db : Rows) (targets : List Target) :
    (targets.foldl removeNamed db).Within db := by
  induction targets generalizing db with
  | nil => exact .refl db
  | cons target targets ih =>
    rw [List.foldl_cons]
    exact (ih _).trans (Store.remove_within db _ _)

/-- Rows of other tables are kept. -/
theorem foldl_kept {table : String} (h : ∀ target ∈ targets, target.1 ≠ table) {u : Uuid}
    {row : Row} (hrow : db table u = some row) :
    targets.foldl removeNamed db table u = some row := by
  induction targets generalizing db with
  | nil => exact hrow
  | cons target targets ih =>
    rcases List.forall_mem_cons.mp h with ⟨hne, h⟩
    refine ih h (Store.remove_eq_some.mpr ⟨hrow, ?_⟩)
    exact fun heq => hne heq.1.symm

/-- A row that is named is gone. -/
theorem foldl_gone {target : Target} (h : target ∈ targets) {u : Uuid} {row : Row}
    (hname : row "name" = {text target.2}) :
    targets.foldl removeNamed db target.1 u ≠ some row := by
  induction targets generalizing db with
  | nil => exact absurd h List.not_mem_nil
  | cons first targets ih =>
    rcases List.mem_cons.mp h with rfl | h
    · intro hrow
      have hstep := foldl_within (removeNamed db target) targets _ _ _ hrow
      exact (Store.remove_eq_some.mp hstep).2 ⟨rfl, hname⟩
    · exact ih h

/-- Where no row is named nothing changes. -/
theorem foldl_idle (h : ∀ target ∈ targets, ¬ Holds db target) :
    targets.foldl removeNamed db = db := by
  induction targets with
  | nil => rfl
  | cons target targets ih =>
    rcases List.forall_mem_cons.mp h with ⟨hnone, h⟩
    have hsame : removeNamed db target = db :=
      Store.remove_eq_self fun u row hrow hname => hnone ⟨u, row, hrow, hname⟩
    rw [List.foldl_cons, hsame]
    exact ih h

end Remove

/-! ### Committing the deletions -/

/-- Deletions insert no rows, so they have no temporary names. -/
theorem uuidName_deleteOps (targets : List Target) :
    (targets.map deleteOp).filterMap uuidName = [] := by
  simp only [List.filterMap_eq_nil_iff, List.mem_map]
  rintro op ⟨target, -, rfl⟩
  rfl

/-- Deletions in the three tables. -/
theorem deleteOps_nothing {server : Server} {fmt : UuidFormat} (h : server.Documented fmt)
    {newRow : Nat → Uuid} {db : Rows} (hdb : server.Consistent db) {targets : List Target}
    (htables : ∀ target ∈ targets, target.1 ∈ namedTables) :
    DeletesNothing server newRow db targets (targets.map deleteOp) := by
  have hperformed : server.performed newRow db (targets.map deleteOp) =
      some (targets.foldl removeNamed db) := executeAll_deleteOps h.operations _ _ _ _ htables
  constructor
  case refused =>
    rintro ⟨target, hmem, u, row, hrow, hname⟩
    apply commit_within h.transactions hdb hperformed (foldl_within db targets)
    · intro table u row hroot hrow
      apply foldl_kept _ hrow
      intro target hmem heq
      exact h.schema.not_root target.1 (htables target hmem) (heq ▸ hroot)
    · intro hsame
      exact foldl_gone hmem hname ((congrFun (congrFun hsame _) _).trans hrow)
  case idle =>
    intro hnone
    have hsame := foldl_idle fun target hmem hholds => hnone ⟨target, hmem, hholds⟩
    rw [hsame] at hperformed
    apply commit_unchanged h.transactions hdb _ hperformed
    rw [uuidName_deleteOps]
    exact List.nodup_nil

theorem portTargets_tables (name : String) :
    ∀ target ∈ portTargets name, target.1 ∈ namedTables := by
  intro target hmem
  simp only [portTargets, List.mem_cons, List.not_mem_nil, or_false] at hmem
  rcases hmem with rfl | rfl <;> simp [namedTables]

theorem bridgeTargets_tables (name : String) :
    ∀ target ∈ bridgeTargets name, target.1 ∈ namedTables := by
  intro target hmem
  rcases List.mem_append.mp hmem with hport | hbridge
  · exact portTargets_tables name target hport
  · rw [List.mem_singleton.mp hbridge]
    simp [namedTables]

theorem nameTargets_tables (method : Method) :
    ∀ target ∈ nameTargets method, target.1 ∈ namedTables := by
  intro target hmem
  cases method with
  | deletePort bridgeName portName => exact portTargets_tables portName target hmem
  | deleteBridge name => exact bridgeTargets_tables name target hmem
  | _ => exact absurd hmem List.not_mem_nil

theorem pairTargets_tables (pair : BridgePair) :
    ∀ target ∈ pairTargets pair, target.1 ∈ namedTables := by
  intro target hmem
  simp only [pairTargets, List.mem_append] at hmem
  rcases hmem with h | h | h | h
  · exact portTargets_tables _ target h
  · exact portTargets_tables _ target h
  · exact bridgeTargets_tables _ target h
  · exact bridgeTargets_tables _ target h

theorem trunkTargets_tables (trunk : VlanTrunk) :
    ∀ target ∈ trunkTargets trunk, target.1 ∈ namedTables := by
  intro target hmem
  simp only [trunkTargets, List.mem_append, List.mem_flatMap] at hmem
  rcases hmem with ⟨port, -, h⟩ | ⟨port, -, h⟩ | h
  · exact portTargets_tables _ target h
  · exact portTargets_tables _ target h
  · split at h
    · exact bridgeTargets_tables _ target h
    · exact absurd h List.not_mem_nil

theorem trunk_operations (trunk : VlanTrunk) :
    trunk.buildDeleteTransaction.operations = (trunkTargets trunk).map deleteOp := by
  have hbridge : Pushes (if trunk.config.createBridge then deleteBridge trunk.config.bridge
      else pure ()) ((if trunk.config.createBridge then bridgeTargets trunk.config.bridge
        else []).map deleteOp) := by
    split
    · exact pushes_deleteBridge _
    · exact pushes_pure ()
  have haccess := pushes_forM fun (port : AccessPortConfig) (_ : port ∈ trunk.config.accessPorts) =>
    pushes_deletePort trunk.config.bridge port.name
  have htrunk := pushes_forM fun (port : TrunkPortConfig) (_ : port ∈ trunk.config.trunkPorts) =>
    pushes_deletePort trunk.config.bridge port.name
  have hall := (haccess.bind fun _ => htrunk.bind fun _ => hbridge) (Transaction.new "Open_vSwitch")
  rw [trunkTargets, List.map_append, List.map_append, List.map_flatMap, List.map_flatMap]
  exact hall

/-- **Deleting by name deletes nothing**: on a consistent database of a server that does what is
    documented, every transaction of `delete_bridge` and `delete_port` calls, and what a bridge pair
    and a VLAN trunk build to delete themselves, is refused if it names a row that is there, and
    does nothing otherwise. -/
theorem nameDeletes_nothing {server : Server} {fmt : UuidFormat} (h : server.Documented fmt)
    (newRow : Nat → Uuid) {db : Rows} (hdb : server.Consistent db) :
    (∀ methods, (∀ m ∈ methods, isNameDelete m = true) →
      DeletesNothing server newRow db (methods.flatMap nameTargets)
        (built fmt "Open_vSwitch" methods).operations) ∧
    (∀ pair : BridgePair, DeletesNothing server newRow db (pairTargets pair)
      pair.buildDeleteTransaction.operations) ∧
    (∀ trunk : VlanTrunk, DeletesNothing server newRow db (trunkTargets trunk)
      trunk.buildDeleteTransaction.operations) := by
  refine ⟨?_, ?_, ?_⟩
  · intro methods hmethods
    have hoperations : (built fmt "Open_vSwitch" methods).operations =
        (methods.flatMap nameTargets).map deleteOp :=
      pushes_nameDeletes fmt hmethods (Transaction.new "Open_vSwitch")
    rw [hoperations]
    apply deleteOps_nothing h hdb
    intro target hmem
    rcases List.mem_flatMap.mp hmem with ⟨method, -, hmem⟩
    exact nameTargets_tables method target hmem
  · intro pair
    have hoperations : pair.buildDeleteTransaction.operations =
        (pairTargets pair).map deleteOp := rfl
    rw [hoperations]
    exact deleteOps_nothing h hdb (pairTargets_tables pair)
  · intro trunk
    rw [trunk_operations]
    exact deleteOps_nothing h hdb (trunkTargets_tables trunk)

/-- The bridge of a database is not deleted, and no more is a port that it does not have. -/
theorem nameDeletes_nothing_bridge :
    (RowServer.rowServer hyphenated).commit (BitVec.ofNat 128) RowServer.bridgeDatabase
      (built hyphenated "Open_vSwitch" [.deleteBridge "br0"]).operations = none ∧
    (RowServer.rowServer hyphenated).commit (BitVec.ofNat 128) RowServer.bridgeDatabase
      (built hyphenated "Open_vSwitch" [.deletePort "br0" "eth0"]).operations =
        some RowServer.bridgeDatabase := by
  have hnothing := (nameDeletes_nothing (RowServer.rowServer_documented hyphenated)
    (BitVec.ofNat 128) (RowServer.bridgeDatabase_consistent hyphenated)).1
  constructor
  · apply (hnothing [.deleteBridge "br0"] (by decide)).refused
    exact ⟨("Bridge", "br0"), by decide, 2, RowServer.bridgeRow "ports" 3, rfl, rfl⟩
  · apply (hnothing [.deletePort "br0" "eth0"] (by decide)).idle
    rintro ⟨target, hmem, u, row, hrow, hname⟩
    rw [(RowServer.bridgeDatabase_row hrow).2] at hname
    simp only [nameTargets, portTargets, List.flatMap_cons, List.flatMap_nil, List.append_nil,
      List.mem_cons, List.not_mem_nil, or_false] at hmem
    rcases hmem with rfl | rfl <;> simp [text] at hname

end Rovs.Ovsdb.Server

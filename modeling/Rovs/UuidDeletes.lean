import Rovs.NameDeletes
import Rovs.TopologyView

/-!
# Deleting by UUID

`delete_bridge_uuid` and `delete_port_uuid` take the reference to a row away before they delete the
row.  The server accepts that exactly if nothing that stays refers to the rows that are deleted, and
the topology is then without the bridge or the port, whatever rows were not listed.

`Unshared` is the condition.  It is about all references that the server knows, not only about
those of the library: a collector of flow samples that refers to the bridge keeps it from being
deleted.  `uuidDeletes_remove` is the main result.
-/

namespace Rovs.Ovsdb.Server

open Json Transaction

/-! ### Rows that are deleted together -/

/-- Rows of a table. -/
def rowsOf (table : String) (uuids : List Uuid) : Set (String × Uuid) :=
  {r | r.1 = table ∧ r.2 ∈ uuids}

/-- The deletion of a row of a table by its UUID. -/
def deleteUuidOp (fmt : UuidFormat) (table : String) (u : Uuid) : Value :=
  deleteRowsOp table (columnEq "_uuid" (uuidJson fmt u))

section Execute

variable {server : Server} {fmt : UuidFormat} {names : String → Option Uuid}

theorem rowsOf_nil (table : String) : rowsOf table [] = ∅ := by
  ext r
  simp [rowsOf]

theorem rowsOf_cons (table : String) (u : Uuid) (uuids : List Uuid) :
    rowsOf table (u :: uuids) = {(table, u)} ∪ rowsOf table uuids := by
  ext ⟨t, v⟩
  simp only [rowsOf, Set.mem_ofPred_eq, List.mem_cons, Set.mem_union, Set.mem_singleton_iff,
    Prod.mk.injEq]
  tauto

/-- **Deletions by UUID take the rows away.** -/
theorem executeAll_deleteUuidOps (h : server.CarriesOut fmt) (newRow : Nat → Uuid) (i : Nat)
    (db : Rows) {table : String} (htable : table ∈ namedTables) (uuids : List Uuid) :
    server.executeAll names newRow i db (uuids.map (deleteUuidOp fmt table)) =
      some (db.without (rowsOf table uuids)) := by
  induction uuids generalizing i db with
  | nil => simp [executeAll, rowsOf_nil]
  | cons u uuids ih =>
    have hstep : server.execute names (newRow i) db (deleteUuidOp fmt table u) =
        some (db.without {(table, u)}) := by
      rw [deleteUuidOp, h.delete names (newRow i) db _ _ table htable (.uuid u), Store.remove_key]
    rw [List.map_cons, executeAll, hstep, Option.bind_some, ih, Store.without_without, rowsOf_cons]

/-- The rows of several tables that a call lists. -/
def listedRows (deletes : List (String × List Uuid)) : Set (String × Uuid) :=
  {r | ∃ d ∈ deletes, r ∈ rowsOf d.1 d.2}

def deleteListedOps (fmt : UuidFormat) (deletes : List (String × List Uuid)) : List Value :=
  deletes.flatMap fun d => d.2.map (deleteUuidOp fmt d.1)

theorem listedRows_cons (d : String × List Uuid) (deletes : List (String × List Uuid)) :
    listedRows (d :: deletes) = rowsOf d.1 d.2 ∪ listedRows deletes := by
  ext r
  simp [listedRows]

/-- The lists are deleted table by table. -/
theorem executeAll_deleteListedOps (h : server.CarriesOut fmt) (newRow : Nat → Uuid) (i : Nat)
    (db : Rows) {deletes : List (String × List Uuid)}
    (htables : ∀ d ∈ deletes, d.1 ∈ namedTables) :
    server.executeAll names newRow i db (deleteListedOps fmt deletes) =
      some (db.without (listedRows deletes)) := by
  induction deletes generalizing i db with
  | nil =>
    have hnone : listedRows [] = ∅ := by simp [listedRows]
    rw [hnone, Store.without_empty]
    rfl
  | cons d deletes ih =>
    rcases List.forall_mem_cons.mp htables with ⟨htable, htables⟩
    have hops : deleteListedOps fmt (d :: deletes) =
        d.2.map (deleteUuidOp fmt d.1) ++ deleteListedOps fmt deletes := List.flatMap_cons
    rw [hops, executeAll_append, executeAll_deleteUuidOps h newRow i db htable, Option.bind_some,
      ih _ _ htables, Store.without_without, listedRows_cons]

theorem uuidName_deleteListedOps (deletes : List (String × List Uuid)) :
    (deleteListedOps fmt deletes).filterMap uuidName = [] := by
  simp only [List.filterMap_eq_nil_iff, deleteListedOps, List.mem_flatMap, List.mem_map]
  rintro op ⟨d, -, u, -, rfl⟩
  rfl

end Execute

/-! ### References that are taken away -/

section Unlink

variable {server : Server} {db : Rows} {table column target : String}
  {matching : Uuid → Row → Prop} {u : Uuid}

theorem unlinked_subset (row : Row) (c : String) : unlinked column u row c ⊆ row c := by
  intro e he
  rw [unlinked] at he
  split at he
  · exact he.1
  · exact he

theorem unlinked_other {c : String} (row : Row) (h : c ≠ column) :
    unlinked column u row c = row c := if_neg h

theorem change_unlinked {t : String} {k : Uuid} {row' : Row}
    (h : db.change table matching (unlinked column u) t k = some row') :
    ∃ row, db t k = some row ∧ (∀ c, row' c ⊆ row c) ∧ ∀ c, c ≠ column → row' c = row c := by
  rcases Store.change_eq_some.mp h with ⟨row, hrow, ⟨-, rfl⟩ | ⟨-, rfl⟩⟩
  · exact ⟨row, hrow, unlinked_subset row, fun c hne => unlinked_other row hne⟩
  · exact ⟨row', hrow, fun c => Set.Subset.refl _, fun _ _ => rfl⟩

theorem intact_unlinked (h : server.scheme.Intact db) :
    server.scheme.Intact (db.change table matching (unlinked column u)) := by
  apply h.change
  rintro k row - - r ⟨c, e, hmem, href⟩
  exact .inl ⟨c, e, unlinked_subset row c hmem, href⟩

theorem indexed_unlinked (h : Indexed db) (hname : column ≠ "name") :
    Indexed (db.change table matching (unlinked column u)) := by
  apply h.of_names
  intro t _ k row' hrow'
  rcases change_unlinked hrow' with ⟨row, hrow, -, hother⟩
  exact ⟨row, hrow, (hother "name" hname.symm).symm⟩

/-- A reference that is not there. -/
theorem change_unlinked_self (h : ∀ k row, db table k = some row → ref u ∉ row column) :
    db.change table matching (unlinked column u) = db := by
  have hself : ∀ row, ref u ∉ row column → unlinked column u row = row := by
    intro row hnot
    funext c
    by_cases hc : c = column
    case pos =>
      rw [unlinked, if_pos hc, hc]
      exact Set.ext fun e => ⟨And.left, fun he => ⟨he, fun heq => hnot (heq ▸ he)⟩⟩
    case neg => exact unlinked_other row hc
  funext t k
  apply Option.ext
  intro row
  rw [Store.change_eq_some]
  constructor
  case mp =>
    rintro ⟨row', hrow, ⟨⟨rfl, -⟩, rfl⟩ | ⟨-, rfl⟩⟩
    · rwa [hself row' (h k row' hrow)]
    · exact hrow
  case mpr =>
    intro hrow
    refine ⟨row, hrow, ?_⟩
    by_cases hmatch : t = table ∧ matching k row
    · exact .inl ⟨hmatch, (hself row (h k row (hmatch.1 ▸ hrow))).symm⟩
    · exact .inr ⟨hmatch, rfl⟩

/-- A port is taken from the one bridge that has it. -/
theorem view_removePort (hindexed : Indexed db) {bridge port : Uuid} {row : Row}
    (hrow : db "Port" port = some row)
    (hown : ∀ u row, db "Bridge" u = some row → u ≠ bridge → ref port ∉ row "ports") :
    view (db.change "Bridge" (fun v _ => v = bridge) (unlinked "ports" port)) =
      (view db).removePort (row "name") := by
  have hother : ∀ row c, c ≠ "ports" → unlinked "ports" port row c = row c :=
    fun row c hne => unlinked_other row hne
  have hname : ∀ row, unlinked "ports" port row "name" = row "name" :=
    fun row => hother row "name" (by decide)
  have hports : ∀ u row', Listed db u row' → ∀ p iface,
      HasPort db (changed (fun v _ => v = bridge) (unlinked "ports" port) u row') p iface ↔
        HasPort db row' p iface ∧ p "name" ≠ row "name" := by
    rintro u row' ⟨-, -, -, -, hrow'⟩ p iface
    constructor
    case mp =>
      rintro ⟨v, w, hv, hp, hw, hiface⟩
      have hmem : ref v ∈ row' "ports" ∧ v ≠ port := by
        by_cases hu : u = bridge
        case pos =>
          rw [changed_pos hu, unlinked, if_pos rfl] at hv
          refine ⟨hv.1, ?_⟩
          rintro rfl
          exact hv.2 rfl
        case neg =>
          rw [changed_neg hu] at hv
          refine ⟨hv, ?_⟩
          rintro rfl
          exact hown u row' hrow' hu hv
      refine ⟨⟨v, w, hmem.1, hp, hw, hiface⟩, fun hsame => hmem.2 ?_⟩
      exact hindexed "Port" (by decide) v port p row hp hrow hsame
    case mpr =>
      rintro ⟨⟨v, w, hv, hp, hw, hiface⟩, hne⟩
      have hport : v ≠ port := by
        rintro rfl
        exact hne (congrFun (Option.some.inj (hp.symm.trans hrow)) "name")
      refine ⟨v, w, ?_, hp, hw, hiface⟩
      by_cases hu : u = bridge
      case pos =>
        rw [changed_pos hu, unlinked, if_pos rfl]
        exact ⟨hv, fun hmem => hport (ref_inj hmem)⟩
      case neg => rwa [changed_neg hu]
  refine Topology.ext ?_ (Set.ext fun q => ?_) ?_
  · apply bridges_change_ref
    intro row column hnone
    apply hother
    rintro rfl
    cases hnone
  · rw [mem_ports_change]
    constructor
    case mp =>
      rintro ⟨u, row', p, iface, hlisted, hport, rfl⟩
      rcases (hports u row' hlisted p iface).mp hport with ⟨hport, hne⟩
      refine ⟨⟨u, row', p, iface, hlisted, hport, ?_⟩, ?_⟩
      · rw [changed_column hname]
      · change plain "Port" p "name" ≠ row "name"
        rwa [plain_name]
    case mpr =>
      rintro ⟨⟨u, row', p, iface, hlisted, hport, rfl⟩, hne⟩
      change plain "Port" p "name" ≠ row "name" at hne
      rw [plain_name] at hne
      refine ⟨u, row', p, iface, hlisted, (hports u row' hlisted p iface).mpr ⟨hport, hne⟩, ?_⟩
      rw [changed_column hname]
  · exact controllers_change_other hname fun row => hother row "controller" (by decide)

end Unlink

/-! ### Rows that are not shared -/

/-- A reference that a call takes away: from a column of some rows of a table. -/
structure Taken where
  table : String
  rows : Uuid → Prop
  column : String
  target : String × Uuid

/-- The rows without the reference. -/
noncomputable def Taken.unlink (taken : Taken) (db : Rows) : Rows :=
  db.change taken.table (fun v _ => taken.rows v) (unlinked taken.column taken.target.2)

/-- No row that stays refers to one of these rows, but by the reference that is taken away. -/
def Unshared (server : Server) (db : Rows) (gone : Set (String × Uuid)) (taken : Taken) : Prop :=
  ∀ table u row, db table u = some row → (table, u) ∉ gone → ∀ column, ∀ e ∈ row column,
    ∀ r ∈ server.refersTo table column e, r ∈ gone →
      table = taken.table ∧ taken.rows u ∧ column = taken.column ∧ r = taken.target

section Unshared

variable {server : Server} {fmt : UuidFormat} {db : Rows} {gone : Set (String × Uuid)}
  {taken : Taken}

/-- **What is left is intact when nothing that is left refers to what is gone.** -/
theorem intact_unlink (h : server.HasSchema) (hintact : server.scheme.Intact db)
    (htarget : refTable taken.table taken.column = some taken.target.1) :
    server.scheme.Intact ((taken.unlink db).without gone) ↔ Unshared server db gone taken := by
  have hrefers : ∀ e r, r ∈ server.refersTo taken.table taken.column e ↔
      r.1 = taken.target.1 ∧ e = ref r.2 := h.refers _ _ _ htarget
  have hunlinked : server.scheme.Intact (taken.unlink db) := intact_unlinked hintact
  rw [hunlinked.without_iff]
  constructor
  case mp =>
    intro hrefs t k row hrow hstays c e hmem r href hgone
    by_contra hnot
    by_cases hmatch : t = taken.table ∧ taken.rows k
    case neg =>
      have hsame : taken.unlink db t k = some row :=
        Store.change_eq_some.mpr ⟨row, hrow, .inr ⟨hmatch, rfl⟩⟩
      exact hrefs t k row hsame hstays r ⟨c, e, hmem, href⟩ hgone
    case pos =>
      have hchanged : taken.unlink db t k = some (unlinked taken.column taken.target.2 row) :=
        Store.change_eq_some.mpr ⟨row, hrow, .inl ⟨hmatch, rfl⟩⟩
      have hkept : e ∈ unlinked taken.column taken.target.2 row c := by
        rw [unlinked]
        split
        case isFalse => exact hmem
        case isTrue hcolumn =>
          refine ⟨hmem, ?_⟩
          rintro rfl
          rw [hmatch.1, hcolumn, hrefers] at href
          have hsame : r = taken.target := Prod.ext href.1 (ref_inj (href.2 ▸ rfl)).symm
          exact hnot ⟨hmatch.1, hmatch.2, hcolumn, hsame⟩
      exact hrefs t k _ hchanged hstays r ⟨c, e, hkept, href⟩ hgone
  case mpr =>
    rintro hunshared t k row' hrow' hstays r ⟨c, e, hmem, href⟩ hgone
    rcases Store.change_eq_some.mp hrow' with ⟨row, hrow, ⟨hmatch, rfl⟩ | ⟨hnot, rfl⟩⟩
    · have hmem' := unlinked_subset row c hmem
      rcases hunshared t k row hrow hstays c e hmem' r href hgone with ⟨ht, -, rfl, rfl⟩
      rw [ht, hrefers] at href
      rw [unlinked, if_pos rfl, href.2] at hmem
      exact hmem.2 rfl
    · rcases hunshared t k row' hrow hstays c e hmem r href hgone with ⟨ht, hrows, -⟩
      exact hnot ⟨ht, hrows⟩

/-- The operations are accepted exactly on a condition, and this is what is left then. -/
structure Removes (server : Server) (newRow : Nat → Uuid) (db : Rows) (owned : Prop)
    (operations : List Value) (topology : Topology) : Prop where
  accepted : owned → ∃ db', server.commit newRow db operations = some db' ∧
    server.Consistent db' ∧ view db' = topology
  refused : ¬ owned → server.commit newRow db operations = none

/-- What the two methods build: one reference is taken away, and rows are deleted. -/
def unlinkOps (fmt : UuidFormat) (taken : Taken) (condition : Value)
    (deletes : List (String × List Uuid)) : List Value :=
  mutateOp taken.table condition [removeRef fmt taken.column taken.target.2] ::
    deleteListedOps fmt deletes

/-- **What a server does with them.** -/
theorem removes_unlinkOps (h : server.Documented fmt) (newRow : Nat → Uuid)
    (hdb : server.Consistent db) {condition : Value} {deletes : List (String × List Uuid)}
    (hcolumn : (taken.table, taken.column) ∈ [("Open_vSwitch", "bridges"), ("Bridge", "ports")])
    (htarget : refTable taken.table taken.column = some taken.target.1)
    (hcondition : Condition fmt taken.table condition fun v _ => taken.rows v)
    (htables : ∀ d ∈ deletes, d.1 ∈ namedTables) :
    Removes server newRow db (Unshared server db (listedRows deletes) taken)
      (unlinkOps fmt taken condition deletes) (view (taken.unlink db)) := by
  have hperformed : server.performed newRow db (unlinkOps fmt taken condition deletes) =
      some ((taken.unlink db).without (listedRows deletes)) := by
    rw [performed, unlinkOps, executeAll, h.operations.removeRef _ _ _ _ _ _ _ _ hcolumn hcondition,
      Option.bind_some, executeAll_deleteListedOps h.operations _ _ _ htables]
    rfl
  have hnames : ((unlinkOps fmt taken condition deletes).filterMap uuidName).Nodup := by
    have hnil : (unlinkOps fmt taken condition deletes).filterMap uuidName = [] :=
      uuidName_deleteListedOps deletes
    rw [hnil]
    exact List.nodup_nil
  have hunlinked : Elsewhere db (taken.unlink db) := by
    apply elsewhere_change
    simp only [List.mem_cons, Prod.mk.injEq, List.not_mem_nil, or_false] at hcolumn
    rcases hcolumn with ⟨-, heq⟩ | ⟨heq, -⟩
    · right
      intro row c hne
      apply unlinked_other
      rwa [heq]
    · left
      simp [heq, topologyTables]
  have hname : taken.column ≠ "name" := by
    intro heq
    rw [heq] at htarget
    simp [refTable] at htarget
  have hwithin := Store.without_within (taken.unlink db) (listedRows deletes)
  have hintact : server.scheme.Intact ((taken.unlink db).without (listedRows deletes)) ↔
      Unshared server db (listedRows deletes) taken :=
    intact_unlink h.schema hdb.intact htarget
  constructor
  case accepted =>
    intro hunshared
    have hleft := hintact.mpr hunshared
    have hindexed : Indexed ((taken.unlink db).without (listedRows deletes)) := by
      apply (indexed_unlinked hdb.indexed hname).of_names
      intro t _ u row hrow
      exact ⟨row, hwithin _ _ _ hrow, rfl⟩
    have helse : Elsewhere db ((taken.unlink db).without (listedRows deletes)) :=
      hunlinked.trans fun t _ u row hrow =>
        ⟨row, hwithin _ _ _ hrow, fun _ _ => rfl⟩
    have hcommit := commit_accepts h.transactions hdb hnames hperformed hleft hindexed helse
    refine ⟨_, hcommit, consistent_commit h.transactions hdb hcommit, ?_⟩
    have hview : view (taken.unlink db) =
        view ((taken.unlink db).without (listedRows deletes)) := by
      apply view_within (h.schema.resolved hleft) fun t _ => hwithin t
      intro o
      apply Option.ext
      intro row
      rw [Store.without_eq_some, iff_self_and]
      rintro - ⟨d, hd, htable, -⟩
      have hswitch := htables d hd
      rw [← htable] at hswitch
      simp [namedTables] at hswitch
    rw [h.view_settle hleft, hview]
  case refused =>
    intro hshared
    exact commit_refuses h.transactions hdb hperformed fun hleft => hshared (hintact.mp hleft)

end Unshared

/-! ### The two methods -/

/-- What `delete_bridge_uuid` deletes. -/
def bridgeDeletes (bridge : Uuid) (ports ifaces : List Uuid) : List (String × List Uuid) :=
  [("Interface", ifaces), ("Port", ports), ("Bridge", [bridge])]

/-- The switches list the bridge. -/
def listedBridge (bridge : Uuid) : Taken where
  table := "Open_vSwitch"
  rows _ := True
  column := "bridges"
  target := ("Bridge", bridge)

/-- What `delete_port_uuid` deletes. -/
def portDeletes (port iface : Uuid) : List (String × List Uuid) :=
  [("Interface", [iface]), ("Port", [port])]

/-- The bridge has the port. -/
def portOf (bridge port : Uuid) : Taken where
  table := "Bridge"
  rows u := u = bridge
  column := "ports"
  target := ("Port", port)

/-- The topology without the bridge of a UUID, if there is one. -/
def withoutBridge (db : Rows) (bridge : Uuid) : Topology :=
  (db "Bridge" bridge).elim (view db) fun row => (view db).removeBridge (row "name")

def withoutPort (db : Rows) (port : Uuid) : Topology :=
  (db "Port" port).elim (view db) fun row => (view db).removePort (row "name")

section Methods

variable {server : Server} {fmt : UuidFormat} {db : Rows}

theorem pushes_deletes (fmt : UuidFormat) (table : String) (uuids : List Uuid) :
    Pushes (uuids.forM (delete fmt table)) (uuids.map (deleteUuidOp fmt table)) := by
  rw [List.map_eq_flatMap]
  exact pushes_forM fun u _ txn => rfl

/-- One call builds what it appends. -/
theorem built_operations {method : Method} {ops : List Value}
    (h : Pushes (method.call fmt) ops) :
    (built fmt "Open_vSwitch" [method]).operations = ops := by
  have hone := (h.bind fun _ => pushes_pure ()) (Transaction.new "Open_vSwitch")
  rwa [List.append_nil] at hone

theorem view_listedBridge (hdb : server.Consistent db) (h : server.HasSchema) (bridge : Uuid) :
    view ((listedBridge bridge).unlink db) = withoutBridge db bridge := by
  rw [withoutBridge]
  cases hrow : db "Bridge" bridge with
  | some row => exact view_removeBridge hdb.indexed hrow
  | none =>
    have hsame : (listedBridge bridge).unlink db = db := by
      apply change_unlinked_self
      intro o switch ho hmem
      have hthere : ∃ row, db "Bridge" bridge = some row :=
        (h.resolved hdb.intact).exists_row rfl ho hmem
      rw [hrow] at hthere
      rcases hthere with ⟨row, hthere⟩
      cases hthere
    rw [hsame]
    rfl

theorem view_portOf (hdb : server.Consistent db) (h : server.HasSchema) {bridge port iface : Uuid}
    (hunshared : Unshared server db (listedRows (portDeletes port iface)) (portOf bridge port)) :
    view ((portOf bridge port).unlink db) = withoutPort db port := by
  rw [withoutPort]
  cases hrow : db "Port" port with
  | some row =>
    apply view_removePort hdb.indexed hrow
    intro u row' hrow' hne hmem
    have hstays : ("Bridge", u) ∉ listedRows (portDeletes port iface) := by
      simp [listedRows, portDeletes, rowsOf]
    have hrefers : ("Port", port) ∈ server.refersTo "Bridge" "ports" (ref port) :=
      (h.refers _ _ _ rfl _ _).mpr ⟨rfl, rfl⟩
    have hgone : ("Port", port) ∈ listedRows (portDeletes port iface) := by
      simp [listedRows, portDeletes, rowsOf]
    exact hne (hunshared "Bridge" u row' hrow' hstays "ports" _ hmem _ hrefers hgone).2.1
  | none =>
    have hsame : (portOf bridge port).unlink db = db := by
      apply change_unlinked_self
      intro u row hbridge hmem
      have hthere : ∃ row, db "Port" port = some row :=
        (h.resolved hdb.intact).exists_row rfl hbridge hmem
      rw [hrow] at hthere
      rcases hthere with ⟨row, hthere⟩
      cases hthere
    rw [hsame]
    rfl

theorem deleteBridgeUuid_operations (fmt : UuidFormat) (bridge : Uuid)
    (ports ifaces : List Uuid) :
    (built fmt "Open_vSwitch" [.deleteBridgeUuid bridge ports ifaces]).operations =
      unlinkOps fmt (listedBridge bridge) (.array []) (bridgeDeletes bridge ports ifaces) := by
  have hmutate : Pushes (mutateWhere "Open_vSwitch" (.array []) [removeRef fmt "bridges" bridge])
      [mutateOp "Open_vSwitch" (.array []) [removeRef fmt "bridges" bridge]] := fun _ => rfl
  have hbridge : Pushes (delete fmt "Bridge" bridge)
      ([bridge].map (deleteUuidOp fmt "Bridge")) := fun _ => rfl
  exact built_operations (hmutate.bind fun _ => (pushes_deletes fmt "Interface" ifaces).bind
    fun _ => (pushes_deletes fmt "Port" ports).bind fun _ => hbridge)

/-- **Deleting by UUID removes the bridge or the port, and all that only it has**: a server that
    does what is documented accepts the calls exactly if no row that stays refers to a row that is
    listed, but by the reference that is taken away.  The rows that are not listed are collected, so
    the topology does not depend on the list. -/
theorem uuidDeletes_remove (h : server.Documented fmt) (newRow : Nat → Uuid)
    (hdb : server.Consistent db) :
    (∀ bridge ports ifaces, Removes server newRow db
      (Unshared server db (listedRows (bridgeDeletes bridge ports ifaces)) (listedBridge bridge))
      (built fmt "Open_vSwitch" [.deleteBridgeUuid bridge ports ifaces]).operations
      (withoutBridge db bridge)) ∧
    ∀ bridge port iface, Removes server newRow db
      (Unshared server db (listedRows (portDeletes port iface)) (portOf bridge port))
      (built fmt "Open_vSwitch" [.deletePortUuid bridge port iface]).operations
      (withoutPort db port) := by
  constructor
  · intro bridge ports ifaces
    rw [deleteBridgeUuid_operations, ← view_listedBridge hdb h.schema]
    apply removes_unlinkOps h newRow hdb (by simp [listedBridge]) rfl .every
    simp [bridgeDeletes, namedTables]
  · intro bridge port iface
    have hops : (built fmt "Open_vSwitch" [.deletePortUuid bridge port iface]).operations =
        unlinkOps fmt (portOf bridge port) (columnEq "_uuid" (uuidJson fmt bridge))
          (portDeletes port iface) := rfl
    have hremoves : Removes server newRow db
        (Unshared server db (listedRows (portDeletes port iface)) (portOf bridge port))
        (unlinkOps fmt (portOf bridge port) (columnEq "_uuid" (uuidJson fmt bridge))
          (portDeletes port iface)) (view ((portOf bridge port).unlink db)) := by
      apply removes_unlinkOps h newRow hdb (by simp [portOf]) rfl (.uuid bridge)
      simp [portDeletes, namedTables]
    rw [hops]
    refine ⟨fun hunshared => ?_, hremoves.refused⟩
    rw [← view_portOf hdb h.schema hunshared]
    exact hremoves.accepted hunshared

end Methods

/-- The bridge of a database is deleted without its port and interface being listed. -/
theorem uuidDeletes_remove_bridge : ∃ db', (RowServer.rowServer hyphenated).commit
      (BitVec.ofNat 128) RowServer.bridgeDatabase
      (built hyphenated "Open_vSwitch" [.deleteBridgeUuid 2 [] []]).operations = some db' ∧
    (RowServer.rowServer hyphenated).Consistent db' ∧
    view db' = (view RowServer.bridgeDatabase).removeBridge {text "br0"} := by
  have hremoves := (uuidDeletes_remove (RowServer.rowServer_documented hyphenated)
    (BitVec.ofNat 128) (RowServer.bridgeDatabase_consistent hyphenated)).1 2 [] []
  apply hremoves.accepted
  rintro table u row hrow - column e - r ⟨htable, rfl⟩ ⟨d, hd, hmem⟩
  have hbridge : r = ("Bridge", 2) := by
    simp only [bridgeDeletes, List.mem_cons, List.not_mem_nil, or_false] at hd
    rcases hd with rfl | rfl | rfl
    · exact absurd hmem.2 List.not_mem_nil
    · exact absurd hmem.2 List.not_mem_nil
    · exact Prod.ext hmem.1 (List.mem_singleton.mp hmem.2)
  obtain rfl := hbridge
  have hrows := (RowServer.bridgeDatabase_row hrow).1
  rw [RowServer.strongTable] at htable
  split at htable
  case isTrue hcollector =>
    rw [hcollector.1] at hrows
    simp at hrows
  case isFalse =>
    unfold refTable at htable
    split_ifs at htable with hcolumn
    · exact ⟨hcolumn.1, trivial, hcolumn.2, rfl⟩
    all_goals simp at htable

end Rovs.Ovsdb.Server

import Rovs.NewRows

/-!
# What the topology methods do to a topology

Each method that creates topology has a meaning: a bridge or a port more, another controller.  A
server that carries out a transaction of such calls, or of a bridge pair or a VLAN trunk, changes
the topology by their meanings in order.

The columns of a new row that a method does not give are the server's defaults, so a meaning is
stated for a server (`columnsRow`).  `performs_call` is the case of one method, and
`topology_created` is the main result.
-/

namespace Rovs.Ovsdb.Server

open Json Transaction

/-! ### The meanings of the methods -/

section Meanings

variable (server : Server)

def portMeaning (bridgeName portName ifaceType : String)
    (ifaceExtra portExtra : List (String × Value)) (t : Topology) : Topology :=
  t.addPort bridgeName (columnsRow server "Port" ([("name", .string portName)] ++ portExtra))
    (columnsRow server "Interface" (ifaceRow portName ifaceType ifaceExtra))

def bridgeMeaning (name : String) (t : Topology) : Topology :=
  t.addBridge (columnsRow server "Bridge" [("name", .string name)])
    (columnsRow server "Port" [("name", .string name)])
    (columnsRow server "Interface" (ifaceRow name "internal" []))

/-- Two ports that are each other's peer. -/
def patchMeaning (bridge1 bridge2 : String) (ports : String × String)
    (portExtra : List (String × Value)) : Topology → Topology :=
  portMeaning server bridge2 ports.2 "patch" [("options", insertPatchPorts.peer ports.1)]
      portExtra ∘
    portMeaning server bridge1 ports.1 "patch" [("options", insertPatchPorts.peer ports.2)]
      portExtra

def trunkColumns (vlans : List U16) : List (String × Value) :=
  [("vlan_mode", .string "trunk"), ("trunks", vlanSet vlans)]

def meaningOf : Method → Topology → Topology
  | .createBridge name => bridgeMeaning server name
  | .addPort bridgeName portName ifaceType =>
      portMeaning server bridgeName portName ifaceType [] []
  | .addInternalPort bridgeName portName => portMeaning server bridgeName portName "internal" [] []
  | .addSystemPort bridgeName portName => portMeaning server bridgeName portName "system" [] []
  | .addVlanPort bridgeName portName vlanId =>
      portMeaning server bridgeName portName "internal" [] [("tag", vlanJson vlanId)]
  | .addPatchPorts bridge1 bridge2 port1Name port2Name =>
      patchMeaning server bridge1 bridge2 (patchNames bridge1 bridge2 port1Name port2Name) []
  | .addTrunkPatchPorts bridge1 bridge2 vlans port1Name port2Name =>
      patchMeaning server bridge1 bridge2 (patchNames bridge1 bridge2 port1Name port2Name)
        (trunkColumns vlans)
  | .setController bridgeName target =>
      fun t => t.setController bridgeName
        (columnsRow server "Controller" [("target", .string target)])
  | _ => id

/-- The names that a call adds. -/
def newTargets : Method → List Target
  | .createBridge name => bridgeTargets name
  | .addPort _ portName _ | .addInternalPort _ portName | .addSystemPort _ portName
  | .addVlanPort _ portName _ => portTargets portName
  | .addPatchPorts bridge1 bridge2 port1Name port2Name
  | .addTrunkPatchPorts bridge1 bridge2 _ port1Name port2Name =>
      portTargets (patchNames bridge1 bridge2 port1Name port2Name).1 ++
        portTargets (patchNames bridge1 bridge2 port1Name port2Name).2
  | _ => []

end Meanings

/-! ### A port -/

theorem refTable_interface (column : String) : refTable "Interface" column = none := by
  simp [refTable]

theorem refTable_port {column : String} : (refTable "Port" column).isSome ↔
    column = "interfaces" := by
  simp [refTable]

theorem refTable_bridge {column : String} (h : (refTable "Bridge" column).isSome) :
    column = "ports" ∨ column = "controller" := by
  simp only [refTable] at h
  by_contra hne
  rw [not_or] at hne
  simp [hne.1, hne.2] at h

/-- Further columns of a new interface or port. -/
structure Further (extra : List (String × Value)) : Prop where
  unnamed : namedUuidsOf extra = []
  plain : ∀ m ∈ extra, m.1 ∈ plainColumns
  nodup : ("name" :: "type" :: extra.map Prod.fst).Nodup

theorem further_nil : Further [] := ⟨rfl, by simp, by simp⟩

theorem further_peer (name : String) : Further [("options", insertPatchPorts.peer name)] where
  unnamed := by
    simp [insertPatchPorts.peer, namedUuidsOf, namedUuids, namedUuidsIn, namedPair, Value.asStr]
  plain := by simp [plainColumns]
  nodup := by simp

theorem further_tag (vlan : U16) : Further [("tag", vlanJson vlan)] where
  unnamed := by simp [namedUuidsOf, vlanJson, namedUuids]
  plain := by simp [plainColumns]
  nodup := by simp

theorem further_mode : Further [("vlan_mode", .string "trunk")] where
  unnamed := by simp [namedUuidsOf, namedUuids]
  plain := by simp [plainColumns]
  nodup := by simp

theorem further_trunk (vlans : List U16) : Further (trunkColumns vlans) where
  unnamed := namedUuidsOf_trunk vlans
  plain := by simp [trunkColumns, plainColumns]
  nodup := by simp [trunkColumns]

section Port

variable {server : Server} {fmt : UuidFormat} {names : String → Option Uuid}
  {newRow : Nat → Uuid} {n i : Nat} {db : Rows}

theorem ifaceRow_plain (portName ifaceType : String) {extra : List (String × Value)}
    (h : Further extra) : ∀ m ∈ ifaceRow portName ifaceType extra, m.1 ∈ plainColumns := by
  intro m hm
  simp only [ifaceRow, List.mem_append, List.mem_cons, List.not_mem_nil, or_false] at hm
  rcases hm with (rfl | rfl) | hm
  · simp [plainColumns]
  · simp [plainColumns]
  · exact h.plain m hm

theorem portRow_columns (portName iface : String) {extra : List (String × Value)}
    (h : Further extra) : ∀ m ∈ portRow fmt portName iface extra,
      m.1 ∈ plainColumns ∨ (refTable "Port" m.1).isSome := by
  intro m hm
  simp only [portRow, List.singleton_append, List.mem_cons] at hm
  rcases hm with rfl | rfl | hm
  · simp [plainColumns]
  · simp [refTable]
  · exact .inl (h.plain m hm)

theorem portRow_nodup (portName iface : String) {extra : List (String × Value)}
    (h : Further extra) : ((portRow fmt portName iface extra).map Prod.fst).Nodup := by
  have hinterfaces : "interfaces" ∉ extra.map Prod.fst := by
    intro hmem
    rcases List.mem_map.mp hmem with ⟨m, hm, heq⟩
    have hplain := h.plain m hm
    rw [heq] at hplain
    simp [plainColumns] at hplain
  have hnodup := h.nodup
  simp only [List.nodup_cons, List.mem_cons, not_or] at hnodup
  simp only [portRow, List.singleton_append, List.map_cons, List.nodup_cons, List.mem_cons, not_or]
  exact ⟨⟨by decide, hnodup.1.2⟩, hinterfaces, hnodup.2.2⟩

theorem newRowOf_interfaces (h : server.CarriesOut fmt) (portName : String) {iface : String}
    {u : Uuid} (extra : List (String × Value)) (hname : names iface = some u) :
    newRowOf server names "Port" (portRow fmt portName iface extra) "interfaces" = {ref u} := by
  have hlookup : (portRow fmt portName iface extra).lookup "interfaces" =
      some ((RowRef.named iface).toJson fmt) := by
    simp [portRow, List.lookup_cons]
  rw [newRowOf_some hlookup]
  exact h.contents_named _ _ _ _ _ _ rfl hname

/-- The rows with a new port and its interface. -/
def withPort (newRow : Nat → Uuid) (i : Nat) (db : Rows) (irow prow : Row) : Rows :=
  (db.insert "Interface" (newRow i) irow).insert "Port" (newRow (i + 1)) prow

theorem withPort_port (irow prow : Row) :
    withPort newRow i db irow prow "Port" (newRow (i + 1)) = some prow :=
  Store.insert_eq_some.mpr (.inl ⟨⟨rfl, rfl⟩, rfl⟩)

theorem withPort_interface (irow prow : Row) :
    withPort newRow i db irow prow "Interface" (newRow i) = some irow :=
  Store.insert_eq_some.mpr (.inr ⟨fun heq => absurd heq.1 (by decide),
    Store.insert_eq_some.mpr (.inl ⟨⟨rfl, rfl⟩, rfl⟩)⟩)

/-- The new port is not yet in the topology. -/
theorem becomes_port (h : server.Documented fmt) (portName ifaceType iface : String)
    {ifaceExtra portExtra : List (String × Value)} (hiface : Further ifaceExtra)
    (hport : Further portExtra) (hn : i + 1 < n) (hready : Ready server newRow n i db)
    (hname : names iface = some (newRow i)) :
    Becomes server newRow n (i + 2) (portTargets portName) id db (withPort newRow i db
      (newRowOf server names "Interface" (ifaceRow portName ifaceType ifaceExtra))
      (newRowOf server names "Port" (portRow fmt portName iface portExtra))) := by
  have hmiddle : Ready server newRow n (i + 1) (db.insert "Interface" (newRow i)
      (newRowOf server names "Interface" (ifaceRow portName ifaceType ifaceExtra))) := by
    apply hready.insert (by omega)
    intro r hr
    exact absurd hr (h.schema.refs_empty (by decide) refTable_interface
      (ifaceRow_plain portName ifaceType hiface) r)
  constructor
  case ready =>
    apply hmiddle.insert hn
    rintro ⟨table, u⟩ hr
    have hlookup : ((portRow fmt portName iface portExtra).lookup "interfaces").isSome := by
      simp [portRow, List.lookup_cons]
    rcases h.schema.refs_newRowOf (by decide) (portRow_columns portName iface hport)
      (fun _ => hlookup) hr with ⟨column, -, htable, hmem⟩
    have hsome : (refTable "Port" column).isSome := by
      rw [htable]
      rfl
    obtain rfl := refTable_port.mp hsome
    cases htable
    rw [newRowOf_interfaces h.operations portName portExtra hname] at hmem
    obtain rfl : u = newRow i := ref_inj hmem
    exact ⟨_, Store.insert_eq_some.mpr (.inl ⟨⟨rfl, rfl⟩, rfl⟩)⟩
  case names =>
    have hifaceName : newRowOf server names "Interface"
        (ifaceRow portName ifaceType ifaceExtra) "name" = {text portName} :=
      newRowOf_name h.operations (by simp [ifaceRow])
    have hportName : newRowOf server names "Port"
        (portRow fmt portName iface portExtra) "name" = {text portName} :=
      newRowOf_name h.operations (by simp [portRow])
    exact (extends_insert (by decide) hifaceName).trans (extends_insert (by decide) hportName)
  case elsewhere => exact (elsewhere_insert (by decide)).trans (elsewhere_insert (by decide))
  case topology =>
    exact (view_insert h.schema hmiddle hn (by decide) _).trans
      (view_insert h.schema hready (by omega) (by decide) _)

theorem plain_portRow (h : server.CarriesOut fmt) (portName iface : String)
    {extra : List (String × Value)} (hextra : Further extra) :
    plain "Port" (newRowOf server names "Port" (portRow fmt portName iface extra)) =
      columnsRow server "Port" ([("name", .string portName)] ++ extra) := by
  apply plain_newRowOf h
  · intro c hnone
    have hne : (c == "interfaces") = false := by
      rw [beq_eq_false_iff_ne]
      rintro rfl
      simp [refTable] at hnone
    simp [portRow, List.lookup_cons, hne]
  · simp [namedUuidsOf, namedUuids, hextra.unnamed]

theorem plain_ifaceRow (h : server.CarriesOut fmt) (portName ifaceType : String)
    {extra : List (String × Value)} (hextra : Further extra) :
    plain "Interface" (newRowOf server names "Interface" (ifaceRow portName ifaceType extra)) =
      columnsRow server "Interface" (ifaceRow portName ifaceType extra) := by
  apply plain_newRowOf h fun _ _ => rfl
  simp [ifaceRow, namedUuidsOf, namedUuids, hextra.unnamed]

/-- The interface and the port are inserted. -/
theorem steps_port (h : server.CarriesOut fmt) (portName ifaceType : String) (k l : Nat)
    {ifaceExtra portExtra : List (String × Value)} (hiface : Further ifaceExtra)
    (hport : Further portExtra) {ops : List Value} {after : Rows}
    (hrest : Runs server names newRow (i + 2) (withPort newRow i db
      (newRowOf server names "Interface" (ifaceRow portName ifaceType ifaceExtra))
      (newRowOf server names "Port" (portRow fmt portName (rowName k) portExtra))) ops after) :
    Runs server names newRow i db
      (insertOp "Interface" (ifaceRow portName ifaceType ifaceExtra) (rowName k) ::
        insertOp "Port" (portRow fmt portName (rowName k) portExtra) (rowName l) :: ops) after := by
  have hkeys : ((ifaceRow portName ifaceType ifaceExtra).map Prod.fst).Nodup := hiface.nodup
  exact .cons (steps_insertOp h (by decide) hkeys k)
    (.cons (steps_insertOp h (by decide) (portRow_nodup portName (rowName k) hport) l) hrest)

/-- **A port that is added to a bridge.** -/
theorem performs_attachPort (h : server.Documented fmt) (bridgeName portName ifaceType : String)
    {ifaceExtra portExtra : List (String × Value)} (hiface : Further ifaceExtra)
    (hport : Further portExtra) :
    Performs server (attachPort fmt bridgeName portName ifaceType ifaceExtra portExtra)
      (portTargets portName)
      (portMeaning server bridgeName portName ifaceType ifaceExtra portExtra) := by
  intro txn
  let k := txn.uuidCounter.toNat
  let l := (txn.uuidCounter + 1).toNat
  refine ⟨[insertOp "Interface" (ifaceRow portName ifaceType ifaceExtra) (rowName k),
    insertOp "Port" (portRow fmt portName (rowName k) portExtra) (rowName l),
    addPortOp fmt bridgeName (rowName l)], ?_, ?_⟩
  · change txn.operations ++ [_] ++ [_] ++ [_] = _
    rw [List.append_assoc, List.append_assoc]
    rfl
  · rintro names newRow n i db hn hready ⟨hi, hp, -⟩
    have hn : i + 3 ≤ n := hn
    have hi : names (rowName k) = some (newRow i) := hi _ rfl
    have hp : names (rowName l) = some (newRow (i + 1)) := hp _ rfl
    let irow := newRowOf server names "Interface" (ifaceRow portName ifaceType ifaceExtra)
    let prow := newRowOf server names "Port" (portRow fmt portName (rowName k) portExtra)
    have hbecomes : Becomes server newRow n (i + 2) (portTargets portName) id db
        (withPort newRow i db irow prow) :=
      becomes_port h portName ifaceType (rowName k) hiface hport (by omega) hready hi
    have hadd : Steps server names (newRow (i + 2)) (withPort newRow i db irow prow)
        (addPortOp fmt bridgeName (rowName l))
        ((withPort newRow i db irow prow).change "Bridge" (Named bridgeName)
          (linked "ports" (newRow (i + 1)))) :=
      steps_addRef h.operations (by decide) (.named bridgeName (by decide)) hp
    refine ⟨_, steps_port h.operations portName ifaceType k l hiface hport (.cons hadd runs_nil),
      ?_⟩
    constructor
    case ready => exact hbecomes.ready.linked h.schema rfl (withPort_port irow prow)
    case names => exact hbecomes.names.change fun _ => rfl
    case elsewhere => exact hbecomes.elsewhere.trans (elsewhere_change (.inl (by decide)))
    case topology =>
      rw [view_addPort (withPort_port irow prow)
        (newRowOf_interfaces h.operations portName portExtra hi) (withPort_interface irow prow),
        hbecomes.topology, plain_portRow h.operations portName (rowName k) hport,
        plain_ifaceRow h.operations portName ifaceType hiface]
      rfl

end Port

/-! ### The other methods -/

section Methods

variable {server : Server} {fmt : UuidFormat} {newRow : Nat → Uuid}

theorem plain_bridgeRow (h : server.CarriesOut fmt) (names : String → Option Uuid) (name : String)
    (v : Value) :
    plain "Bridge" (newRowOf server names "Bridge" [("name", .string name), ("ports", v)]) =
      columnsRow server "Bridge" [("name", .string name)] := by
  apply plain_newRowOf h
  · intro c hnone
    have hne : (c == "ports") = false := by
      rw [beq_eq_false_iff_ne]
      rintro rfl
      simp [refTable] at hnone
    simp [List.lookup_cons, hne]
  · rfl

/-- **A bridge with its own port.** -/
theorem performs_createBridge (h : server.Documented fmt) (name : String) :
    Performs server (createBridge fmt name) (bridgeTargets name) (bridgeMeaning server name) := by
  intro txn
  let k := txn.uuidCounter.toNat
  let l := (txn.uuidCounter + 1).toNat
  let m := (txn.uuidCounter + 1 + 1).toNat
  let members := [("name", Value.string name), ("ports", (RowRef.named (rowName l)).toJson fmt)]
  let addBridge := mutateOp "Open_vSwitch" (.array []) [addRef fmt "bridges" (.named (rowName m))]
  refine ⟨[insertOp "Interface" (ifaceRow name "internal" []) (rowName k),
    insertOp "Port" (portRow fmt name (rowName k) []) (rowName l),
    insertOp "Bridge" members (rowName m), addBridge], ?_, ?_⟩
  · change txn.operations ++ [_] ++ [_] ++ [_] ++ [_] = _
    rw [List.append_assoc, List.append_assoc, List.append_assoc]
    rfl
  · rintro names newRow n i db hn hready ⟨hi, hp, hb, -⟩
    have hn : i + 4 ≤ n := hn
    have hi : names (rowName k) = some (newRow i) := hi _ rfl
    have hp : names (rowName l) = some (newRow (i + 1)) := hp _ rfl
    have hb : names (rowName m) = some (newRow (i + 2)) := hb _ rfl
    let irow := newRowOf server names "Interface" (ifaceRow name "internal" [])
    let prow := newRowOf server names "Port" (portRow fmt name (rowName k) [])
    let brow := newRowOf server names "Bridge" members
    let ported := withPort newRow i db irow prow
    let bridged := ported.insert "Bridge" (newRow (i + 2)) brow
    have hinterfaces : prow "interfaces" = {ref (newRow i)} :=
      newRowOf_interfaces h.operations name [] hi
    have hports : brow "ports" = {ref (newRow (i + 1))} := by
      have hlookup : members.lookup "ports" = some ((RowRef.named (rowName l)).toJson fmt) := rfl
      exact (newRowOf_some hlookup).trans (h.operations.contents_named _ _ _ _ _ _ rfl hp)
    have hname : brow "name" = {text name} := newRowOf_name h.operations rfl
    have hrefs : ∀ r ∈ server.scheme.refs "Bridge" brow, r = ("Port", newRow (i + 1)) := by
      rintro ⟨table, u⟩ hr
      have hmembers : ∀ x ∈ members, x.1 ∈ plainColumns ∨ (refTable "Bridge" x.1).isSome := by
        simp [members, plainColumns, refTable]
      rcases h.schema.refs_newRowOf (by decide) hmembers (by simp) hr with
        ⟨column, hgiven, htable, hmem⟩
      have hsome : (refTable "Bridge" column).isSome := by
        rw [htable]
        rfl
      rcases refTable_bridge hsome with rfl | rfl
      · cases htable
        change ref u ∈ brow "ports" at hmem
        rw [hports] at hmem
        rw [ref_inj hmem]
      · simp [members, List.lookup_cons] at hgiven
    have hcontroller : ∀ v, ref v ∉ brow "controller" := by
      intro v hmem
      have htables := congrArg Prod.fst (hrefs _ (h.schema.mem_refs rfl hmem))
      simp at htables
    have hport : Becomes server newRow n (i + 2) (portTargets name) id db ported :=
      becomes_port h name "internal" (rowName k) further_nil further_nil (by omega) hready hi
    have hbridge : Ready server newRow n (i + 3) bridged := by
      apply hport.ready.insert (by omega)
      intro r hr
      rw [hrefs r hr]
      exact ⟨prow, withPort_port irow prow⟩
    have hfound : ∀ {t u row}, ported t u = some row → bridged t u = some row :=
      Store.within_insert (hport.ready.fresh _ le_rfl (by omega) _) _ _ _
    have hrow : bridged "Bridge" (newRow (i + 2)) = some brow :=
      Store.insert_eq_some.mpr (.inl ⟨⟨rfl, rfl⟩, rfl⟩)
    have hinsert : Steps server names (newRow (i + 2)) ported
        (insertOp "Bridge" members (rowName m)) bridged :=
      steps_insertOp h.operations (by decide) (by simp [members]) m
    have hadd : Steps server names (newRow (i + 3)) bridged addBridge
        (bridged.change "Open_vSwitch" Every (linked "bridges" (newRow (i + 2)))) :=
      steps_addRef h.operations (by decide) .every hb
    refine ⟨_, steps_port h.operations name "internal" k l further_nil further_nil
      (.cons hinsert (.cons hadd runs_nil)), ?_⟩
    constructor
    case ready => exact hbridge.linked h.schema rfl hrow
    case names => exact (hport.names.trans (extends_insert (by decide) hname)).change fun _ => rfl
    case elsewhere =>
      have hinserted : Elsewhere db bridged :=
        hport.elsewhere.trans (elsewhere_insert (by decide))
      exact hinserted.trans (elsewhere_change (.inr fun row c hne => if_neg hne))
    case topology =>
      rw [view_addBridge hbridge.switch hrow hports hcontroller
        (hfound (withPort_port irow prow)) hinterfaces (hfound (withPort_interface irow prow)),
        view_insert h.schema hport.ready (by omega) (by decide), hport.topology,
        plain_portRow h.operations name (rowName k) further_nil,
        plain_ifaceRow h.operations name "internal" further_nil]
      rw [plain_bridgeRow h.operations]
      rfl

/-- **Another controller.** -/
theorem performs_setController (h : server.Documented fmt) (bridgeName target : String) :
    Performs server (setController fmt bridgeName target) []
      fun t => t.setController bridgeName
        (columnsRow server "Controller" [("target", .string target)]) := by
  intro txn
  let k := txn.uuidCounter.toNat
  let members := [("target", Value.string target)]
  refine ⟨[insertOp "Controller" members (rowName k),
    updateOp "Bridge" (columnEq "name" (.string bridgeName))
      [("controller", (RowRef.named (rowName k)).toJson fmt)]], ?_, ?_⟩
  · change txn.operations ++ [_] ++ [_] = _
    rw [List.append_assoc]
    rfl
  · rintro names newRow n i db hn hready ⟨hc, -⟩
    have hn : i + 2 ≤ n := hn
    have hc : names (rowName k) = some (newRow i) := hc _ rfl
    have hnone : ∀ column, refTable "Controller" column = none := by simp [refTable]
    let crow := newRowOf server names "Controller" members
    let controlled := db.insert "Controller" (newRow i) crow
    have hcontroller : Ready server newRow n (i + 1) controlled := by
      apply hready.insert (by omega)
      intro r hr
      have hplain : ∀ x ∈ members, x.1 ∈ plainColumns := by simp [members, plainColumns]
      exact absurd hr (h.schema.refs_empty (by decide) hnone hplain r)
    have hrow : controlled "Controller" (newRow i) = some crow :=
      Store.insert_eq_some.mpr (.inl ⟨⟨rfl, rfl⟩, rfl⟩)
    have hinsert : Steps server names (newRow i) db (insertOp "Controller" members (rowName k))
        controlled := steps_insertOp h.operations (by decide) (by simp [members]) k
    have hupdate : Steps server names (newRow (i + 1)) controlled
        (updateOp "Bridge" (columnEq "name" (.string bridgeName))
          [("controller", (RowRef.named (rowName k)).toJson fmt)])
        (controlled.change "Bridge" (Named bridgeName) (put "controller" {ref (newRow i)})) := by
      rw [← h.operations.contents_named names "Bridge" "controller" _ _ _ rfl hc]
      exact steps_updateOp h.operations bridgeName (by decide) _
    refine ⟨_, .cons hinsert (.cons hupdate runs_nil), ?_⟩
    constructor
    case ready =>
      apply hcontroller.put
      rintro e rfl r hr
      rcases r with ⟨t, u⟩
      rcases (h.schema.refers "Bridge" "controller" _ rfl _ _).mp hr with ⟨rfl, heq⟩
      rw [ref_inj (heq ▸ rfl : ref u ∈ ({ref (newRow i)} : Set Element))]
      exact ⟨crow, hrow⟩
    case names =>
      exact (extends_unnamed (by decide)).change fun row => put_other _ row (by decide)
    case elsewhere =>
      exact (elsewhere_insert (by decide)).trans (elsewhere_change (.inl (by decide)))
    case topology =>
      rw [view_setController hrow, view_insert h.schema hready (by omega) (by decide),
        plain_newRowOf h.operations (fun _ _ => rfl) rfl]

theorem performs_setSecure (h : server.Documented fmt) (bridge : String) :
    Performs server (setSecure bridge) []
      fun t => t.setColumn bridge "fail_mode" {text "secure"} := by
  intro txn
  refine ⟨[updateOp "Bridge" (columnEq "name" (.string bridge))
    [("fail_mode", .string "secure")]], rfl, ?_⟩
  rintro names newRow n i db - hready -
  have hupdate : Steps server names (newRow i) db
      (updateOp "Bridge" (columnEq "name" (.string bridge)) [("fail_mode", .string "secure")])
      (db.change "Bridge" (Named bridge) (put "fail_mode" {text "secure"})) := by
    rw [← h.operations.contents_text names "Bridge" "secure" "fail_mode" (by decide)]
    exact steps_updateOp h.operations bridge (by decide) _
  refine ⟨_, .cons hupdate runs_nil, ?_⟩
  constructor
  case ready =>
    apply hready.put
    intro e _ r hr
    rw [h.schema.refers_plain _ _ _ (by decide)] at hr
    exact absurd hr (Set.notMem_empty _)
  case names => exact (Extends.refl db).change fun row => put_other _ row (by decide)
  case elsewhere => exact elsewhere_change (.inl (by decide))
  case topology => exact view_setColumn (by decide) rfl

theorem performs_insertPatchPorts (h : server.Documented fmt) (bridge1 bridge2 : String)
    (port1Name port2Name : Option String) {portExtra : List (String × Value)}
    (hport : Further portExtra) :
    Performs server (insertPatchPorts fmt bridge1 bridge2 port1Name port2Name portExtra)
      (portTargets (patchNames bridge1 bridge2 port1Name port2Name).1 ++
        portTargets (patchNames bridge1 bridge2 port1Name port2Name).2)
      (patchMeaning server bridge1 bridge2 (patchNames bridge1 bridge2 port1Name port2Name)
        portExtra) := by
  have hfirst := performs_attachPort h bridge1
    (patchNames bridge1 bridge2 port1Name port2Name).1 "patch"
    (further_peer (patchNames bridge1 bridge2 port1Name port2Name).2) hport
  have hsecond := performs_attachPort h bridge2
    (patchNames bridge1 bridge2 port1Name port2Name).2 "patch"
    (further_peer (patchNames bridge1 bridge2 port1Name port2Name).1) hport
  have hboth : Performs server (insertPatchPorts fmt bridge1 bridge2 port1Name port2Name portExtra)
      (portTargets (patchNames bridge1 bridge2 port1Name port2Name).1 ++
        (portTargets (patchNames bridge1 bridge2 port1Name port2Name).2 ++ []))
      (patchMeaning server bridge1 bridge2 (patchNames bridge1 bridge2 port1Name port2Name)
        portExtra) :=
    hfirst.bind fun _ => hsecond.bind fun _ => performs_pure _
  rwa [List.append_nil] at hboth

/-- Every method that creates topology. -/
theorem performs_call (h : server.Documented fmt) (method : Method)
    (htopology : method.isTopology = true) :
    Performs server (method.call fmt) (newTargets method) (meaningOf server method) := by
  cases method with
  | createBridge name => exact (performs_createBridge h name).discard
  | addPort bridgeName portName ifaceType =>
    exact (performs_attachPort h bridgeName portName ifaceType further_nil further_nil).discard
  | addInternalPort bridgeName portName =>
    exact (performs_attachPort h bridgeName portName "internal" further_nil further_nil).discard
  | addSystemPort bridgeName portName =>
    exact (performs_attachPort h bridgeName portName "system" further_nil further_nil).discard
  | addVlanPort bridgeName portName vlanId =>
    exact (performs_attachPort h bridgeName portName "internal" further_nil
      (further_tag vlanId)).discard
  | addPatchPorts bridge1 bridge2 port1Name port2Name =>
    exact (performs_insertPatchPorts h bridge1 bridge2 port1Name port2Name further_nil).discard
  | addTrunkPatchPorts bridge1 bridge2 vlans port1Name port2Name =>
    exact (performs_insertPatchPorts h bridge1 bridge2 port1Name port2Name
      (further_trunk vlans)).discard
  | setController bridgeName target => exact (performs_setController h bridgeName target).discard
  | _ => cases htopology

end Methods

/-! ### Topology builders -/

section Builders

variable (server : Server) {fmt : UuidFormat}

/-- Secure mode for these bridges, if it is asked for. -/
noncomputable def secureMeaning (secure : Bool) (bridges : List String) (t : Topology) : Topology :=
  if secure then
    bridges.foldl (fun t bridge => t.setColumn bridge "fail_mode" {text "secure"}) t
  else t

/-- What a bridge pair is: two bridges, and a patch between them with the VLANs that it carries. -/
noncomputable def pairMeaning (pair : BridgePair) : Topology → Topology :=
  secureMeaning pair.config.secureFailMode [pair.config.bridge1, pair.config.bridge2] ∘
    patchMeaning server pair.config.bridge1 pair.config.bridge2 (pairNames pair)
      (pair.config.vlans.elim [] trunkColumns) ∘
    bridgeMeaning server pair.config.bridge2 ∘ bridgeMeaning server pair.config.bridge1

def accessMeaning (bridge : String) (port : AccessPortConfig) : Topology → Topology :=
  portMeaning server bridge port.name port.ifaceType [] [("tag", vlanJson port.vlanId)]

/-- A trunk port carries all VLANs or some. -/
def trunkPortMeaning (bridge : String) (port : TrunkPortConfig) : Topology → Topology :=
  portMeaning server bridge port.name port.ifaceType []
    (if port.allowedVlans.isEmpty then [("vlan_mode", .string "trunk")]
    else trunkColumns port.allowedVlans)

noncomputable def trunkMeaning (trunk : VlanTrunk) (t : Topology) : Topology :=
  let bridge := trunk.config.bridge
  let t := if trunk.config.createBridge then bridgeMeaning server bridge t else t
  let t := trunk.config.accessPorts.foldl (fun t port => accessMeaning server bridge port t) t
  let t := trunk.config.trunkPorts.foldl (fun t port => trunkPortMeaning server bridge port t) t
  secureMeaning trunk.config.secureFailMode [bridge] t

/-- The names that a pair adds. -/
def pairNewTargets (pair : BridgePair) : List Target :=
  bridgeTargets pair.config.bridge1 ++ (bridgeTargets pair.config.bridge2 ++
    (portTargets (pairNames pair).1 ++ portTargets (pairNames pair).2))

def trunkNewTargets (trunk : VlanTrunk) : List Target :=
  (if trunk.config.createBridge then bridgeTargets trunk.config.bridge else []) ++
    ((trunk.config.accessPorts.flatMap fun port => portTargets port.name) ++
      trunk.config.trunkPorts.flatMap fun port => portTargets port.name)

variable {server}

theorem performs_secure (h : server.Documented fmt) (secure : Bool) (bridges : List String) :
    Performs server (if secure = true then bridges.forM setSecure else pure ()) []
      (secureMeaning secure bridges) := by
  cases secure with
  | false => exact performs_pure ()
  | true =>
    have hloop : Performs server (bridges.forM setSecure) (bridges.flatMap fun _ => [])
        (secureMeaning true bridges) := performs_forM fun bridge _ => performs_setSecure h bridge
    rwa [List.flatMap_eq_nil_iff.mpr fun _ _ => rfl] at hloop

theorem performs_createPair (h : server.Documented fmt) (pair : BridgePair) :
    Performs server (pair.create fmt) (pairNewTargets pair) (pairMeaning server pair) := by
  have hpatch : Performs server (pair.addPatches fmt)
      (portTargets (pairNames pair).1 ++ portTargets (pairNames pair).2)
      (patchMeaning server pair.config.bridge1 pair.config.bridge2 (pairNames pair)
        (pair.config.vlans.elim [] trunkColumns)) := by
    unfold BridgePair.addPatches
    cases pair.config.vlans with
    | some vlans =>
      exact performs_insertPatchPorts h _ _ _ _ (further_trunk vlans)
    | none => exact performs_insertPatchPorts h _ _ _ _ further_nil
  have hsecure := performs_secure h pair.config.secureFailMode
    [pair.config.bridge1, pair.config.bridge2]
  have hall := (performs_createBridge h pair.config.bridge1).bind fun _ =>
    (performs_createBridge h pair.config.bridge2).bind fun _ =>
      hpatch.discard.bind fun _ => hsecure
  rw [List.append_nil] at hall
  exact hall

theorem performs_addAccessPort (h : server.Documented fmt) (trunk : VlanTrunk)
    (port : AccessPortConfig) :
    Performs server (trunk.addAccessPort fmt port) (portTargets port.name)
      (accessMeaning server trunk.config.bridge port) :=
  (performs_attachPort h trunk.config.bridge port.name port.ifaceType further_nil
    (further_tag port.vlanId)).discard

theorem performs_addTrunkPort (h : server.Documented fmt) (trunk : VlanTrunk)
    (port : TrunkPortConfig) :
    Performs server (trunk.addTrunkPort fmt port) (portTargets port.name)
      (trunkPortMeaning server trunk.config.bridge port) := by
  apply (performs_attachPort h trunk.config.bridge port.name port.ifaceType further_nil _).discard
  split
  · exact further_mode
  · exact further_trunk _

theorem performs_createTrunk (h : server.Documented fmt) (trunk : VlanTrunk) :
    Performs server (trunk.create fmt) (trunkNewTargets trunk) (trunkMeaning server trunk) := by
  have haccess : Performs server (trunk.config.accessPorts.forM (trunk.addAccessPort fmt))
      (trunk.config.accessPorts.flatMap fun port => portTargets port.name) fun t =>
        trunk.config.accessPorts.foldl
          (fun t port => accessMeaning server trunk.config.bridge port t) t :=
    performs_forM fun port _ => performs_addAccessPort h trunk port
  have htrunk : Performs server (trunk.config.trunkPorts.forM (trunk.addTrunkPort fmt))
      (trunk.config.trunkPorts.flatMap fun port => portTargets port.name) fun t =>
        trunk.config.trunkPorts.foldl
          (fun t port => trunkPortMeaning server trunk.config.bridge port t) t :=
    performs_forM fun port _ => performs_addTrunkPort h trunk port
  have hsecure := performs_secure h trunk.config.secureFailMode [trunk.config.bridge]
  have hports := haccess.bind fun _ => htrunk.bind fun _ => hsecure
  rw [List.append_nil] at hports
  unfold trunkNewTargets trunkMeaning VlanTrunk.create
  by_cases hcreate : trunk.config.createBridge = true
  case pos =>
    rw [if_pos hcreate]
    simp only [if_pos hcreate]
    exact (performs_createBridge h _).discard.bind fun _ => hports
  case neg =>
    rw [if_neg hcreate]
    simp only [if_neg hcreate]
    exact hports

end Builders

/-! ### Transactions that create topology -/

/-- The names of a transaction stand for the rows that it inserts. -/
theorem resolves_resolved {newRow : Nat → Uuid} {ops : List Value}
    (h : (ops.filterMap uuidName).Nodup) : Resolves (resolved newRow ops) newRow 0 ops := by
  have hsuffix : ∀ before after, ops = before ++ after →
      Resolves (resolved newRow ops) newRow before.length after := by
    intro before after
    induction after generalizing before with
    | nil => exact fun _ => trivial
    | cons op after ih =>
      intro hops
      constructor
      · intro name hname
        have hfirst : ∀ x ∈ before, decide (uuidName x = some name) = false := by
          intro x hx
          rw [decide_eq_false_iff_not]
          intro hsame
          rw [hops, List.filterMap_append, List.filterMap_cons_some hname] at h
          exact (List.nodup_append.mp h).2.2 name (List.mem_filterMap.mpr ⟨x, hx, hsame⟩) name
            List.mem_cons_self rfl
        rw [resolved, hops, List.findIdx?_append, List.findIdx?_eq_none_iff.mpr hfirst,
          List.findIdx?_cons, decide_eq_true hname]
        simp
      · have hrest := ih (before ++ [op]) (by simp [hops])
        rwa [List.length_append] at hrest
  exact hsuffix [] ops rfl

/-- The UUIDs that the server gives to new rows of `n` operations. -/
structure Fresh (newRow : Nat → Uuid) (n : Nat) (db : Rows) : Prop where
  distinct : ∀ i j, i < n → j < n → newRow i = newRow j → i = j
  unused : ∀ i, i < n → ∀ table, db table (newRow i) = none

/-- The operations are accepted if what they write is legal and the names are new, they are refused
    if something is not legal, and whenever they are accepted this is what there is then. -/
structure Creates (server : Server) (newRow : Nat → Uuid) (db : Rows) (targets : List Target)
    (operations : List Value) (topology : Topology) : Prop where
  accepted : operations.countP isInsert < 2 ^ 32 → server.Lawful operations → targets.Nodup →
    (∀ target ∈ targets, ¬ Holds db target) →
    ∃ db', server.commit newRow db operations = some db'
  refused : ¬ server.Lawful operations → server.commit newRow db operations = none
  result : ∀ db', server.commit newRow db operations = some db' →
    server.Consistent db' ∧ view db' = topology

section Commit

variable {server : Server} {fmt : UuidFormat} {newRow : Nat → Uuid} {db : Rows}

/-- **What a program performs is what its transaction creates.** -/
theorem creates (h : server.Documented fmt) (hdb : server.Consistent db)
    (hswitch : ∃ o row, db "Open_vSwitch" o = some row) {program : Build Unit}
    {targets : List Target} {meaning : Topology → Topology} {pairs : List (String × String)}
    (hperforms : Performs server program targets meaning)
    (hwrites : Writes program (pairs.flatMap eachOther))
    (hfresh : Fresh newRow (assemble "Open_vSwitch" program).operations.length db) :
    Creates server newRow db targets (assemble "Open_vSwitch" program).operations
      (meaning (view db)) := by
  rcases hperforms (Transaction.new "Open_vSwitch") with ⟨ops, hrun, hmeans⟩
  have hops : (assemble "Open_vSwitch" program).operations = ops := hrun
  have hdistinct : ops.countP isInsert < 2 ^ 32 → (ops.filterMap uuidName).Nodup := by
    intro hbound
    rw [← hops] at hbound ⊢
    exact (hwrites.integrity "Open_vSwitch" hbound).distinct
  rw [hops] at hfresh ⊢
  have hready : Ready server newRow ops.length 0 db :=
    ⟨hdb.intact, hswitch, hfresh.distinct, fun j _ => hfresh.unused j⟩
  -- with different names the transaction runs to a state that the program's meaning describes
  have hruns : (ops.filterMap uuidName).Nodup → ∃ after,
      (∀ rows, server.performed newRow db ops = some rows ↔ server.Lawful ops ∧ rows = after) ∧
      Becomes server newRow ops.length (0 + ops.length) targets meaning db after :=
    fun hnodup => hmeans _ newRow _ 0 db (by omega) hready (resolves_resolved hnodup)
  constructor
  case accepted =>
    intro hbound hlawful hnodup hnew
    rcases hruns (hdistinct hbound) with ⟨after, hafter, hbecomes⟩
    exact ⟨_, commit_accepts h.transactions hdb (hdistinct hbound)
      ((hafter after).mpr ⟨hlawful, rfl⟩) hbecomes.ready.intact
      (hbecomes.names.indexed hdb.indexed hnodup hnew) hbecomes.elsewhere⟩
  case refused =>
    intro hillegal
    rw [Option.eq_none_iff_forall_ne_some]
    intro db' hcommit
    rcases (h.transactions.commit_iff newRow db ops db' hdb).mp hcommit with
      ⟨hnodup, rows, hperformed, -⟩
    rcases hruns hnodup with ⟨after, hafter, -⟩
    exact hillegal ((hafter rows).mp hperformed).1
  case result =>
    intro db' hcommit
    refine ⟨consistent_commit h.transactions hdb hcommit, ?_⟩
    rcases (h.transactions.commit_iff newRow db ops db' hdb).mp hcommit with
      ⟨hnodup, rows, hperformed, hintact, -, -, rfl⟩
    rcases hruns hnodup with ⟨after, hafter, hbecomes⟩
    obtain rfl := ((hafter rows).mp hperformed).2
    rw [h.view_settle hintact]
    exact hbecomes.topology

end Commit

/-- **The topology methods do what they are for**: on a consistent database with a switch, a server
    that does what is documented accepts a transaction of calls, of a bridge pair or of a VLAN trunk
    if the values that it writes are legal and the names that it adds are new, and the topology is
    then what the calls make of the one before. -/
theorem topology_created {server : Server} {fmt : UuidFormat} (h : server.Documented fmt)
    (newRow : Nat → Uuid) {db : Rows} (hdb : server.Consistent db)
    (hswitch : ∃ o row, db "Open_vSwitch" o = some row) :
    (∀ methods, (∀ m ∈ methods, m.isTopology = true) →
      Fresh newRow (built fmt "Open_vSwitch" methods).operations.length db →
      Creates server newRow db (methods.flatMap newTargets)
        (built fmt "Open_vSwitch" methods).operations
        (methods.foldl (fun t m => meaningOf server m t) (view db))) ∧
    (∀ pair : BridgePair, Fresh newRow (pair.buildTransaction fmt).operations.length db →
      Creates server newRow db (pairNewTargets pair) (pair.buildTransaction fmt).operations
        (pairMeaning server pair (view db))) ∧
    (∀ trunk : VlanTrunk, Fresh newRow (trunk.buildTransaction fmt).operations.length db →
      Creates server newRow db (trunkNewTargets trunk) (trunk.buildTransaction fmt).operations
        (trunkMeaning server trunk (view db))) := by
  refine ⟨?_, ?_, ?_⟩
  · intro methods hmethods hfresh
    have hperforms : Performs server (methods.forM (Method.call fmt)) (methods.flatMap newTargets)
        fun t => methods.foldl (fun t m => meaningOf server m t) t :=
      performs_forM fun m hm => performs_call h m (hmethods m hm)
    exact creates h hdb hswitch hperforms (writes_calls fmt hmethods) hfresh
  · intro pair hfresh
    have hwrites : Writes (pair.create fmt) ([pairNames pair].flatMap eachOther) :=
      writes_createPair fmt pair
    exact creates h hdb hswitch (performs_createPair h pair) hwrites hfresh
  · intro trunk hfresh
    have hwrites : Writes (trunk.create fmt) (List.flatMap eachOther []) :=
      writes_createTrunk fmt trunk
    exact creates h hdb hswitch (performs_createTrunk h trunk) hwrites hfresh

/-! ### Next to one bridge -/

/-- The UUIDs after those of the rows that are there. -/
def laterRow (i : Nat) : Uuid := BitVec.ofNat 128 (i + 5)

theorem bridgeDatabase_fresh {n : Nat} (h : n < 2 ^ 32) :
    Fresh laterRow n RowServer.bridgeDatabase := by
  have htoNat : ∀ i, i < n → (laterRow i).toNat = i + 5 := by
    intro i hi
    rw [laterRow, BitVec.toNat_ofNat]
    omega
  constructor
  case distinct =>
    intro i j hi hj heq
    have hsame := congrArg BitVec.toNat heq
    rw [htoNat i hi, htoNat j hj] at hsame
    omega
  case unused =>
    intro i hi table
    cases hrow : RowServer.bridgeDatabase table (laterRow i) with
    | none => rfl
    | some row =>
      have hsmall : ∀ p ∈ [("Open_vSwitch", 1), ("Bridge", 2), ("Port", 3),
          ("Interface", (4 : Uuid))], p.2.toNat < 5 := by decide
      have hlt := hsmall _ (RowServer.bridgeDatabase_row hrow).1
      rw [htoNat i hi] at hlt
      omega

/-- A port for the bridge is accepted; a pair of bridges. -/
theorem topology_created_bridge :
    (∃ db', (RowServer.rowServer hyphenated).commit laterRow RowServer.bridgeDatabase
        (built hyphenated "Open_vSwitch" [.addSystemPort "br0" "eth0"]).operations = some db' ∧
      view db' = portMeaning (RowServer.rowServer hyphenated) "br0" "eth0" "system" [] []
        (view RowServer.bridgeDatabase)) ∧
    Creates (RowServer.rowServer hyphenated) laterRow RowServer.bridgeDatabase
      (pairNewTargets (.new "br1" "br2"))
      ((BridgePair.new "br1" "br2").buildTransaction hyphenated).operations
      (pairMeaning (RowServer.rowServer hyphenated) (.new "br1" "br2")
        (view RowServer.bridgeDatabase)) := by
  have hcreated := topology_created (RowServer.rowServer_documented hyphenated) laterRow
    (RowServer.bridgeDatabase_consistent hyphenated)
    ⟨1, RowServer.bridgeRow "bridges" 2, rfl⟩
  constructor
  · have hport := hcreated.1 [.addSystemPort "br0" "eth0"] (by decide)
      (bridgeDatabase_fresh (by decide +kernel))
    have hlawful : (RowServer.rowServer hyphenated).Lawful
        (built hyphenated "Open_vSwitch" [.addSystemPort "br0" "eth0"]).operations := by
      have huntagged : ∀ op ∈ (built hyphenated "Open_vSwitch"
          [.addSystemPort "br0" "eth0"]).operations, ∀ m ∈ rowOf op, m.1 ≠ "tag" := by
        decide +kernel
      exact fun op hop _ _ m hm htag => absurd htag (huntagged op hop m hm)
    have hnew : ∀ target ∈ portTargets "eth0", ¬ Holds RowServer.bridgeDatabase target := by
      rintro target hmem ⟨u, row, hrow, hname⟩
      have htarget : target.2 = "eth0" := by
        simp only [portTargets, List.mem_cons, List.not_mem_nil, or_false] at hmem
        rcases hmem with rfl | rfl <;> rfl
      rw [(RowServer.bridgeDatabase_row hrow).2, htarget] at hname
      simp [text] at hname
    rcases hport.accepted (by decide +kernel) hlawful (by decide) hnew with ⟨db', hcommit⟩
    exact ⟨db', hcommit, (hport.result db' hcommit).2⟩
  · exact hcreated.2.1 (.new "br1" "br2") (bridgeDatabase_fresh (by decide +kernel))

end Rovs.Ovsdb.Server

import Rovs.Server

/-!
# The topology in a database

What the rows of a database say: which bridges there are, which ports each has with which
interfaces, and the controllers.  Only rows count that a switch leads to, and of the UUIDs nothing
is left.  The topology is what the library's methods are for, so each has its meaning here.

A `Topology` is made of sets of rows, so two bridges with the same columns are one; in a database
whose names are `Indexed` there are none.  `view` reads the topology off the rows.  The main results
say how changes to the rows show in it:

* `view_within`: rows that no switch leads to do not show,
* `Documented.view_settle`: neither does what a server collects,
* `view_addBridge`, `view_addPort`, `view_setController`, `view_setColumn` and `view_removeBridge`:
  a reference that is added, replaced or taken away is the change to the topology that it is meant
  to be.
-/

namespace Rovs.Ovsdb.Server

open Json Transaction

/-! ### Topologies -/

/-- A port of the bridges of a name, with the columns of the port and of an interface. -/
structure PortOn where
  bridge : Set Element
  port : Row
  iface : Row

/-- A controller of the bridges of a name. -/
structure ControllerOf where
  bridge : Set Element
  controller : Row

/-- Bridges, ports and controllers, without the references that lead from one to the next. -/
@[ext] structure Topology where
  bridges : Set Row
  ports : Set PortOn
  controllers : Set ControllerOf

namespace Topology

variable (t : Topology)

def HasBridge (bridge : String) : Prop := ∃ row ∈ t.bridges, row "name" = {text bridge}

def addBridge (row port iface : Row) : Topology where
  bridges := insert row t.bridges
  ports := insert ⟨row "name", port, iface⟩ t.ports
  controllers := t.controllers

/-- Without a bridge of the name nothing is added. -/
def addPort (bridge : String) (port iface : Row) : Topology :=
  { t with ports := t.ports ∪ {p | t.HasBridge bridge ∧ p = ⟨{text bridge}, port, iface⟩} }

/-- The controller takes the place of those that the bridge had. -/
def setController (bridge : String) (controller : Row) : Topology :=
  { t with controllers := {c | c ∈ t.controllers ∧ c.bridge ≠ {text bridge}} ∪
      {c | t.HasBridge bridge ∧ c = ⟨{text bridge}, controller⟩} }

open Classical in
noncomputable def setColumn (bridge column : String) (value : Set Element) : Topology :=
  { t with bridges := {b | ∃ row ∈ t.bridges, b =
      if row "name" = {text bridge} then put column value row else row} }

def removeBridge (name : Set Element) : Topology where
  bridges := {row | row ∈ t.bridges ∧ row "name" ≠ name}
  ports := {p | p ∈ t.ports ∧ p.bridge ≠ name}
  controllers := {c | c ∈ t.controllers ∧ c.bridge ≠ name}

def removePort (name : Set Element) : Topology :=
  { t with ports := {p | p ∈ t.ports ∧ p.port "name" ≠ name} }

end Topology

/-! ### What is in the rows -/

/-- The columns of a row but for those that lead to other rows of the topology. -/
def plain (table : String) (row : Row) : Row := fun column =>
  if (refTable table column).isSome then ∅ else row column

section View

variable (db : Rows)

/-- A switch has the bridge. -/
def Listed (u : Uuid) (row : Row) : Prop :=
  ∃ o switch, db "Open_vSwitch" o = some switch ∧ ref u ∈ switch "bridges" ∧
    db "Bridge" u = some row

/-- A bridge has the port with the interface. -/
def HasPort (row port iface : Row) : Prop :=
  ∃ v w, ref v ∈ row "ports" ∧ db "Port" v = some port ∧ ref w ∈ port "interfaces" ∧
    db "Interface" w = some iface

def HasController (row controller : Row) : Prop :=
  ∃ v, ref v ∈ row "controller" ∧ db "Controller" v = some controller

def view : Topology where
  bridges := {b | ∃ u row, Listed db u row ∧ b = plain "Bridge" row}
  ports := {p | ∃ u row port iface, Listed db u row ∧ HasPort db row port iface ∧
    p = ⟨row "name", plain "Port" port, plain "Interface" iface⟩}
  controllers := {c | ∃ u row controller, Listed db u row ∧ HasController db row controller ∧
    c = ⟨row "name", plain "Controller" controller⟩}

end View

@[simp] theorem plain_name {table : String} (row : Row) : plain table row "name" = row "name" := by
  have hnone : refTable table "name" = none := by simp [refTable]
  rw [plain, hnone]
  rfl

theorem view_hasBridge {db : Rows} {bridge : String} : (view db).HasBridge bridge ↔
    ∃ u row, Listed db u row ∧ row "name" = {text bridge} := by
  constructor
  case mp =>
    rintro ⟨b, ⟨u, row, hlisted, rfl⟩, hname⟩
    rw [plain_name] at hname
    exact ⟨u, row, hlisted, hname⟩
  case mpr =>
    rintro ⟨u, row, hlisted, hname⟩
    exact ⟨plain "Bridge" row, ⟨u, row, hlisted, rfl⟩, (plain_name row).trans hname⟩

/-! ### References that are resolved -/

section Intact

variable {db db' : Rows} {table column target : String} {u : Uuid} {row : Row}

/-- The references of the topology are to rows that are there. -/
def Resolved (db : Rows) : Prop :=
  ∀ table column target, refTable table column = some target → ∀ u row, db table u = some row →
    ∀ v, ref v ∈ row column → ∃ row', db target v = some row'

theorem HasSchema.resolved {server : Server} (h : server.HasSchema)
    (hintact : server.scheme.Intact db) : Resolved db :=
  fun table _ _ htarget u row hrow _ hmem =>
    hintact table u row hrow _ (h.mem_refs htarget hmem)

theorem Resolved.exists_row (h : Resolved db) (htarget : refTable table column = some target)
    (hrow : db table u = some row) {v : Uuid} (hmem : ref v ∈ row column) :
    ∃ row', db target v = some row' :=
  h table column target htarget u row hrow v hmem

/-- **Following references from the switches leads to the same rows where more are there.** -/
theorem view_within (h : Resolved db)
    (hwithin : ∀ t ∈ topologyTables, ∀ v row, db t v = some row → db' t v = some row)
    (hswitch : ∀ o, db' "Open_vSwitch" o = db "Open_vSwitch" o) : view db' = view db := by
  have hback : ∀ {t v row row'}, t ∈ topologyTables → db t v = some row → db' t v = some row' →
      row' = row :=
    fun ht hrow hrow' => Option.some.inj (hrow'.symm.trans (hwithin _ ht _ _ hrow))
  have htables : "Bridge" ∈ topologyTables ∧ "Port" ∈ topologyTables ∧
      "Interface" ∈ topologyTables ∧ "Controller" ∈ topologyTables := by decide
  rcases htables with ⟨hbridges, hports, hifaces, hcontrollers⟩
  have hlisted : ∀ u row, Listed db' u row ↔ Listed db u row := by
    intro u row
    constructor
    case mp =>
      rintro ⟨o, switch, ho, hmem, hrow⟩
      rw [hswitch] at ho
      rcases h.exists_row rfl ho hmem with ⟨row', hrow'⟩
      rw [hback hbridges hrow' hrow]
      exact ⟨o, switch, ho, hmem, hrow'⟩
    case mpr =>
      rintro ⟨o, switch, ho, hmem, hrow⟩
      exact ⟨o, switch, (hswitch o).trans ho, hmem, hwithin _ hbridges _ _ hrow⟩
  have hport : ∀ u row, Listed db u row → ∀ port iface,
      HasPort db' row port iface ↔ HasPort db row port iface := by
    rintro u row ⟨-, -, -, -, hrow⟩ port iface
    constructor
    case mp =>
      rintro ⟨v, w, hv, hport, hw, hiface⟩
      rcases h.exists_row rfl hrow hv with ⟨port', hport'⟩
      obtain rfl := hback hports hport' hport
      rcases h.exists_row rfl hport' hw with ⟨iface', hiface'⟩
      obtain rfl := hback hifaces hiface' hiface
      exact ⟨v, w, hv, hport', hw, hiface'⟩
    case mpr =>
      rintro ⟨v, w, hv, hport, hw, hiface⟩
      exact ⟨v, w, hv, hwithin _ hports _ _ hport, hw, hwithin _ hifaces _ _ hiface⟩
  have hcontroller : ∀ u row, Listed db u row → ∀ controller,
      HasController db' row controller ↔ HasController db row controller := by
    rintro u row ⟨-, -, -, -, hrow⟩ controller
    constructor
    case mp =>
      rintro ⟨v, hv, hcontroller⟩
      rcases h.exists_row rfl hrow hv with ⟨controller', hcontroller'⟩
      obtain rfl := hback hcontrollers hcontroller' hcontroller
      exact ⟨v, hv, hcontroller'⟩
    case mpr =>
      rintro ⟨v, hv, hcontroller⟩
      exact ⟨v, hv, hwithin _ hcontrollers _ _ hcontroller⟩
  refine Topology.ext (Set.ext fun b => ?_) (Set.ext fun p => ?_) (Set.ext fun c => ?_)
  · simp only [view, hlisted]
  · constructor
    case mp =>
      rintro ⟨u, row, port, iface, hl, hp, rfl⟩
      have hl := (hlisted u row).mp hl
      exact ⟨u, row, port, iface, hl, (hport u row hl port iface).mp hp, rfl⟩
    case mpr =>
      rintro ⟨u, row, port, iface, hl, hp, rfl⟩
      exact ⟨u, row, port, iface, (hlisted u row).mpr hl, (hport u row hl port iface).mpr hp, rfl⟩
  · constructor
    case mp =>
      rintro ⟨u, row, controller, hl, hc, rfl⟩
      have hl := (hlisted u row).mp hl
      exact ⟨u, row, controller, hl, (hcontroller u row hl controller).mp hc, rfl⟩
    case mpr =>
      rintro ⟨u, row, controller, hl, hc, rfl⟩
      exact ⟨u, row, controller, (hlisted u row).mpr hl, (hcontroller u row hl controller).mpr hc,
        rfl⟩

/-- Settling leaves the topology. -/
theorem Documented.view_settle {server : Server} {fmt : UuidFormat} (h : server.Documented fmt)
    (hintact : server.scheme.Intact db) : view (server.settle db) = view db := by
  have hsettled : Resolved (server.settle db) :=
    h.schema.resolved (h.transactions.intact_settle hintact)
  refine (view_within hsettled ?_ ?_).symm
  · intro t ht v row hrow
    exact ((h.transactions.settle_eq_some (List.mem_cons_of_mem _ ht)).mp hrow).2
  · intro o
    apply Option.ext
    intro row
    rw [h.transactions.settle_eq_some List.mem_cons_self]
    exact ⟨fun hrow => ⟨.kept h.schema.root_switch, hrow⟩, And.right⟩

end Intact

/-! ### Bridges that are changed -/

section Change

variable {db : Rows} {matching : Uuid → Row → Prop} {f : Row → Row} {bridge : String}

open Classical in
/-- A row of a bridge, changed if it matches. -/
noncomputable def changed (matching : Uuid → Row → Prop) (f : Row → Row) (u : Uuid) (row : Row) :
    Row :=
  if matching u row then f row else row

theorem listed_change {u : Uuid} {row' : Row} : Listed (db.change "Bridge" matching f) u row' ↔
    ∃ row, Listed db u row ∧ row' = changed matching f u row := by
  have hswitch : ∀ o, db.change "Bridge" matching f "Open_vSwitch" o = db "Open_vSwitch" o :=
    fun _ => Store.change_other (by decide)
  constructor
  case mp =>
    rintro ⟨o, switch, ho, hmem, hrow'⟩
    rw [hswitch] at ho
    rcases Store.change_eq_some.mp hrow' with ⟨row, hrow, ⟨⟨-, hmatch⟩, heq⟩ | ⟨hnot, heq⟩⟩
    · exact ⟨row, ⟨o, switch, ho, hmem, hrow⟩, heq.trans (if_pos hmatch).symm⟩
    · have hnot : ¬ matching u row := fun h => hnot ⟨rfl, h⟩
      exact ⟨row, ⟨o, switch, ho, hmem, hrow⟩, heq.trans (if_neg hnot).symm⟩
  case mpr =>
    rintro ⟨row, ⟨o, switch, ho, hmem, hrow⟩, rfl⟩
    refine ⟨o, switch, (hswitch o).trans ho, hmem, Store.change_eq_some.mpr ⟨row, hrow, ?_⟩⟩
    by_cases hmatch : matching u row
    · exact .inl ⟨⟨rfl, hmatch⟩, if_pos hmatch⟩
    · exact .inr ⟨fun h => hmatch h.2, if_neg hmatch⟩

/-- Which ports a bridge has depends on its row and two tables. -/
theorem hasPort_change {table : String} (hport : "Port" ≠ table) (hiface : "Interface" ≠ table)
    {row port iface : Row} :
    HasPort (db.change table matching f) row port iface ↔ HasPort db row port iface := by
  have hother : ∀ t, t ≠ table → ∀ v, db.change table matching f t v = db t v :=
    fun _ hne _ => Store.change_other hne
  simp only [HasPort, hother _ hport, hother _ hiface]

theorem hasController_change {table : String} (hne : "Controller" ≠ table)
    {row controller : Row} :
    HasController (db.change table matching f) row controller ↔
      HasController db row controller := by
  have hother : ∀ v, db.change table matching f "Controller" v = db "Controller" v :=
    fun _ => Store.change_other hne
  simp only [HasController, hother]

theorem mem_bridges_change {b : Row} :
    b ∈ (view (db.change "Bridge" matching f)).bridges ↔
      ∃ u row, Listed db u row ∧ b = plain "Bridge" (changed matching f u row) := by
  constructor
  case mp =>
    rintro ⟨u, row', hchanged, rfl⟩
    rcases listed_change.mp hchanged with ⟨row, hlisted, rfl⟩
    exact ⟨u, row, hlisted, rfl⟩
  case mpr =>
    rintro ⟨u, row, hlisted, rfl⟩
    exact ⟨u, changed matching f u row, listed_change.mpr ⟨row, hlisted, rfl⟩, rfl⟩

theorem mem_ports_change {p : PortOn} :
    p ∈ (view (db.change "Bridge" matching f)).ports ↔
      ∃ u row port iface, Listed db u row ∧ HasPort db (changed matching f u row) port iface ∧
        p = ⟨changed matching f u row "name", plain "Port" port, plain "Interface" iface⟩ := by
  constructor
  case mp =>
    rintro ⟨u, row', port, iface, hchanged, hport, rfl⟩
    rcases listed_change.mp hchanged with ⟨row, hlisted, rfl⟩
    exact ⟨u, row, port, iface, hlisted, (hasPort_change (by decide) (by decide)).mp hport, rfl⟩
  case mpr =>
    rintro ⟨u, row, port, iface, hlisted, hport, rfl⟩
    exact ⟨u, changed matching f u row, port, iface, listed_change.mpr ⟨row, hlisted, rfl⟩,
      (hasPort_change (by decide) (by decide)).mpr hport, rfl⟩

theorem mem_controllers_change {c : ControllerOf} :
    c ∈ (view (db.change "Bridge" matching f)).controllers ↔
      ∃ u row controller, Listed db u row ∧
        HasController db (changed matching f u row) controller ∧
        c = ⟨changed matching f u row "name", plain "Controller" controller⟩ := by
  constructor
  case mp =>
    rintro ⟨u, row', controller, hchanged, hcontroller, rfl⟩
    rcases listed_change.mp hchanged with ⟨row, hlisted, rfl⟩
    exact ⟨u, row, controller, hlisted, (hasController_change (by decide)).mp hcontroller, rfl⟩
  case mpr =>
    rintro ⟨u, row, controller, hlisted, hcontroller, rfl⟩
    exact ⟨u, changed matching f u row, controller, listed_change.mpr ⟨row, hlisted, rfl⟩,
      (hasController_change (by decide)).mpr hcontroller, rfl⟩

theorem changed_pos {u : Uuid} {row : Row} (h : matching u row) :
    changed matching f u row = f row := if_pos h

theorem changed_neg {u : Uuid} {row : Row} (h : ¬ matching u row) :
    changed matching f u row = row := if_neg h

/-- Columns other than the changed ones. -/
theorem changed_column {column : String} (h : ∀ row, f row column = row column) (u : Uuid)
    (row : Row) : changed matching f u row column = row column := by
  rw [changed]
  split
  · exact h row
  · rfl

/-- Bridges whose changed column is a reference. -/
theorem bridges_change_ref (h : ∀ row column, refTable "Bridge" column = none →
      f row column = row column) :
    (view (db.change "Bridge" matching f)).bridges = (view db).bridges := by
  have hplain : ∀ u row, plain "Bridge" (changed matching f u row) = plain "Bridge" row := by
    intro u row
    funext column
    cases href : refTable "Bridge" column with
    | some target => simp [plain, href]
    | none =>
      simp only [plain, href]
      exact changed_column (fun row => h row column href) u row
  ext b
  simp only [mem_bridges_change, hplain]
  rfl

/-- Ports, where neither names nor references to ports change. -/
theorem ports_change_other (hname : ∀ row, f row "name" = row "name")
    (hports : ∀ row, f row "ports" = row "ports") :
    (view (db.change "Bridge" matching f)).ports = (view db).ports := by
  ext p
  simp only [mem_ports_change, HasPort, changed_column hname, changed_column hports]
  rfl

theorem controllers_change_other (hname : ∀ row, f row "name" = row "name")
    (hcontroller : ∀ row, f row "controller" = row "controller") :
    (view (db.change "Bridge" matching f)).controllers = (view db).controllers := by
  ext c
  simp only [mem_controllers_change, HasController, changed_column hname,
    changed_column hcontroller]
  rfl

/-- A port is added to the bridges of a name. -/
theorem view_addPort {p i : Uuid} {port iface : Row} (hport : db "Port" p = some port)
    (hifaces : port "interfaces" = {ref i}) (hiface : db "Interface" i = some iface) :
    view (db.change "Bridge" (Named bridge) (linked "ports" p)) =
      (view db).addPort bridge (plain "Port" port) (plain "Interface" iface) := by
  have hlinked : ∀ row column, column ≠ "ports" → linked "ports" p row column = row column :=
    fun row column hne => if_neg hne
  refine Topology.ext ?_ ?_ ?_
  · apply bridges_change_ref
    intro row column hnone
    apply hlinked
    rintro rfl
    cases hnone
  · ext q
    rw [mem_ports_change]
    constructor
    case mp =>
      rintro ⟨u, row, port', iface', hlisted, ⟨v, w, hv, hv', hw, hw'⟩, rfl⟩
      rw [changed_column fun row => hlinked row "name" (by decide)]
      by_cases hname : Named bridge u row
      case neg =>
        rw [changed_neg hname] at hv
        exact .inl ⟨u, row, port', iface', hlisted, ⟨v, w, hv, hv', hw, hw'⟩, rfl⟩
      case pos =>
        rw [changed_pos hname, linked, if_pos rfl] at hv
        rcases hv with hv | hv
        · exact .inl ⟨u, row, port', iface', hlisted, ⟨v, w, hv, hv', hw, hw'⟩, rfl⟩
        · obtain rfl : v = p := ref_inj hv
          obtain rfl : port = port' := Option.some.inj (hport.symm.trans hv')
          rw [hifaces] at hw
          obtain rfl : w = i := ref_inj hw
          obtain rfl : iface = iface' := Option.some.inj (hiface.symm.trans hw')
          have hsame : row "name" = {text bridge} := hname
          exact .inr ⟨view_hasBridge.mpr ⟨u, row, hlisted, hname⟩, by rw [hsame]⟩
    case mpr =>
      rintro (⟨u, row, port', iface', hlisted, ⟨v, w, hv, hv', hw, hw'⟩, rfl⟩ | ⟨hbridge, rfl⟩)
      · refine ⟨u, row, port', iface', hlisted, ⟨v, w, ?_, hv', hw, hw'⟩, ?_⟩
        · rw [changed]
          split
          · rw [linked, if_pos rfl]
            exact .inl hv
          · exact hv
        · rw [changed_column fun row => hlinked row "name" (by decide)]
      · rcases view_hasBridge.mp hbridge with ⟨u, row, hlisted, hname⟩
        have hnamed : Named bridge u row := hname
        refine ⟨u, row, port, iface, hlisted, ⟨p, i, ?_, hport, ?_, hiface⟩, ?_⟩
        · rw [changed_pos hnamed, linked, if_pos rfl]
          exact .inr rfl
        · rw [hifaces]
          rfl
        · rw [changed_column fun row => hlinked row "name" (by decide), hname]
  · exact controllers_change_other (fun row => hlinked row _ (by decide))
      fun row => hlinked row _ (by decide)

/-- The controller of the bridges of a name is replaced. -/
theorem view_setController {v : Uuid} {controller : Row}
    (hcontroller : db "Controller" v = some controller) :
    view (db.change "Bridge" (Named bridge) (put "controller" {ref v})) =
      (view db).setController bridge (plain "Controller" controller) := by
  have hother : ∀ row column, column ≠ "controller" →
      put "controller" {ref v} row column = row column := fun row _ hne => put_other _ row hne
  have hname : ∀ row, put "controller" {ref v} row "name" = row "name" :=
    fun row => hother row "name" (by decide)
  refine Topology.ext ?_ ?_ ?_
  · apply bridges_change_ref
    intro row column hnone
    apply hother
    rintro rfl
    cases hnone
  · exact ports_change_other hname fun row => hother row "ports" (by decide)
  · ext c
    rw [mem_controllers_change]
    constructor
    case mp =>
      rintro ⟨u, row, controller', hlisted, ⟨w, hw, hw'⟩, rfl⟩
      rw [changed_column hname]
      by_cases hnamed : Named bridge u row
      case neg =>
        rw [changed_neg hnamed] at hw
        exact .inl ⟨⟨u, row, controller', hlisted, ⟨w, hw, hw'⟩, rfl⟩, hnamed⟩
      case pos =>
        rw [changed_pos hnamed, put_self] at hw
        obtain rfl : w = v := ref_inj hw
        obtain rfl : controller = controller' := Option.some.inj (hcontroller.symm.trans hw')
        have hsame : row "name" = {text bridge} := hnamed
        exact .inr ⟨view_hasBridge.mpr ⟨u, row, hlisted, hnamed⟩, by rw [hsame]⟩
    case mpr =>
      rintro (⟨⟨u, row, controller', hlisted, hhas, rfl⟩, hne⟩ | ⟨hbridge, rfl⟩)
      · have hsame : changed (Named bridge) (put "controller" {ref v}) u row = row :=
          changed_neg hne
        refine ⟨u, row, controller', hlisted, ?_, ?_⟩
        · rw [hsame]
          exact hhas
        · rw [hsame]
      · rcases view_hasBridge.mp hbridge with ⟨u, row, hlisted, hname'⟩
        have hnamed : Named bridge u row := hname'
        refine ⟨u, row, controller, hlisted, ⟨v, ?_, hcontroller⟩, ?_⟩
        · rw [changed_pos hnamed, put_self]
          rfl
        · rw [changed_column hname, hname']

/-- A column of the bridges of a name is written. -/
theorem view_setColumn {column : String} {value : Set Element} (hname : column ≠ "name")
    (hplain : refTable "Bridge" column = none) :
    view (db.change "Bridge" (Named bridge) (put column value)) =
      (view db).setColumn bridge column value := by
  have hother : ∀ row c, c ≠ column → put column value row c = row c :=
    fun row c hne => put_other value row hne
  have hrefs : ∀ c, (refTable "Bridge" c).isSome → c ≠ column := by
    rintro c hsome rfl
    rw [hplain] at hsome
    cases hsome
  have hupdated : ∀ u row, plain "Bridge" (changed (Named bridge) (put column value) u row) =
      if plain "Bridge" row "name" = {text bridge} then put column value (plain "Bridge" row)
      else plain "Bridge" row := by
    intro u row
    rw [plain_name, changed, Named]
    split
    · funext c
      by_cases hc : c = column
      case pos =>
        rw [hc, put_self, plain, hplain, put_self]
        rfl
      case neg => rw [hother _ _ hc, plain, hother _ _ hc, plain]
    · rfl
  refine Topology.ext ?_ ?_ ?_
  · ext b
    rw [mem_bridges_change]
    constructor
    case mp =>
      rintro ⟨u, row, hlisted, rfl⟩
      exact ⟨plain "Bridge" row, ⟨u, row, hlisted, rfl⟩, hupdated u row⟩
    case mpr =>
      rintro ⟨-, ⟨u, row, hlisted, rfl⟩, rfl⟩
      exact ⟨u, row, hlisted, (hupdated u row).symm⟩
  · exact ports_change_other (fun row => hother row _ hname.symm)
      fun row => hother row _ (hrefs _ rfl)
  · exact controllers_change_other (fun row => hother row _ hname.symm)
      fun row => hother row _ (hrefs _ rfl)

/-! ### Switches that are changed -/

theorem listed_switch {u : Uuid} {row : Row} :
    Listed (db.change "Open_vSwitch" Every f) u row ↔ ∃ o switch,
      db "Open_vSwitch" o = some switch ∧ ref u ∈ f switch "bridges" ∧
      db "Bridge" u = some row := by
  have hbridge : ∀ v, db.change "Open_vSwitch" Every f "Bridge" v = db "Bridge" v :=
    fun _ => Store.change_other (by decide)
  constructor
  case mp =>
    rintro ⟨o, switch', hchanged, hmem, hrow⟩
    rw [hbridge] at hrow
    rcases Store.change_eq_some.mp hchanged with ⟨switch, ho, ⟨-, rfl⟩ | ⟨hnot, -⟩⟩
    · exact ⟨o, switch, ho, hmem, hrow⟩
    · exact absurd ⟨rfl, trivial⟩ hnot
  case mpr =>
    rintro ⟨o, switch, ho, hmem, hrow⟩
    exact ⟨o, f switch, Store.change_eq_some.mpr ⟨switch, ho, .inl ⟨⟨rfl, trivial⟩, rfl⟩⟩, hmem,
      (hbridge u).trans hrow⟩

/-- A bridge with one port is added to the switches. -/
theorem view_addBridge {u p i : Uuid} {row port iface : Row}
    (hswitch : ∃ o switch, db "Open_vSwitch" o = some switch) (hrow : db "Bridge" u = some row)
    (hports : row "ports" = {ref p}) (hnone : ∀ v, ref v ∉ row "controller")
    (hport : db "Port" p = some port) (hifaces : port "interfaces" = {ref i})
    (hiface : db "Interface" i = some iface) :
    view (db.change "Open_vSwitch" Every (linked "bridges" u)) =
      (view db).addBridge (plain "Bridge" row) (plain "Port" port) (plain "Interface" iface) := by
  have hlisted : ∀ v row', Listed (db.change "Open_vSwitch" Every (linked "bridges" u)) v row' ↔
      Listed db v row' ∨ v = u ∧ row' = row := by
    intro v row'
    rw [listed_switch]
    constructor
    case mp =>
      rintro ⟨o, switch, ho, hmem, hrow'⟩
      rw [linked, if_pos rfl] at hmem
      rcases hmem with hmem | hmem
      · exact .inl ⟨o, switch, ho, hmem, hrow'⟩
      · obtain rfl : v = u := ref_inj hmem
        exact .inr ⟨rfl, Option.some.inj (hrow'.symm.trans hrow)⟩
    case mpr =>
      rintro (⟨o, switch, ho, hmem, hrow'⟩ | ⟨rfl, rfl⟩)
      · refine ⟨o, switch, ho, ?_, hrow'⟩
        rw [linked, if_pos rfl]
        exact .inl hmem
      · rcases hswitch with ⟨o, switch, ho⟩
        refine ⟨o, switch, ho, ?_, hrow⟩
        rw [linked, if_pos rfl]
        exact .inr rfl
  refine Topology.ext (Set.ext fun b => ?_) (Set.ext fun q => ?_) (Set.ext fun c => ?_)
  · constructor
    case mp =>
      rintro ⟨v, row', hl, rfl⟩
      rcases (hlisted v row').mp hl with hl | ⟨-, rfl⟩
      · exact .inr ⟨v, row', hl, rfl⟩
      · exact .inl rfl
    case mpr =>
      rintro (rfl | ⟨v, row', hl, rfl⟩)
      · exact ⟨u, row, (hlisted u row).mpr (.inr ⟨rfl, rfl⟩), rfl⟩
      · exact ⟨v, row', (hlisted v row').mpr (.inl hl), rfl⟩
  · have hhas : ∀ row' port' iface', HasPort (db.change "Open_vSwitch" Every (linked "bridges" u))
        row' port' iface' ↔ HasPort db row' port' iface' :=
      fun _ _ _ => hasPort_change (by decide) (by decide)
    constructor
    case mp =>
      rintro ⟨v, row', port', iface', hl, hp, rfl⟩
      rw [hhas] at hp
      rcases (hlisted v row').mp hl with hl | ⟨-, rfl⟩
      · exact .inr ⟨v, row', port', iface', hl, hp, rfl⟩
      · rcases hp with ⟨w, j, hw, hw', hj, hj'⟩
        rw [hports] at hw
        obtain rfl : w = p := ref_inj hw
        obtain rfl : port = port' := Option.some.inj (hport.symm.trans hw')
        rw [hifaces] at hj
        obtain rfl : j = i := ref_inj hj
        obtain rfl : iface = iface' := Option.some.inj (hiface.symm.trans hj')
        left
        rw [plain_name]
    case mpr =>
      rintro (rfl | ⟨v, row', port', iface', hl, hp, rfl⟩)
      · refine ⟨u, row, port, iface, (hlisted u row).mpr (.inr ⟨rfl, rfl⟩),
          (hhas _ _ _).mpr ⟨p, i, ?_, hport, ?_, hiface⟩, by rw [plain_name]⟩
        · rw [hports]
          rfl
        · rw [hifaces]
          rfl
      · exact ⟨v, row', port', iface', (hlisted v row').mpr (.inl hl), (hhas _ _ _).mpr hp, rfl⟩
  · have hhas : ∀ row' controller, HasController
        (db.change "Open_vSwitch" Every (linked "bridges" u)) row' controller ↔
          HasController db row' controller := fun _ _ => hasController_change (by decide)
    constructor
    case mp =>
      rintro ⟨v, row', controller, hl, hc, rfl⟩
      rw [hhas] at hc
      rcases (hlisted v row').mp hl with hl | ⟨-, rfl⟩
      · exact ⟨v, row', controller, hl, hc, rfl⟩
      · rcases hc with ⟨w, hw, -⟩
        exact absurd hw (hnone w)
    case mpr =>
      rintro ⟨v, row', controller, hl, hc, rfl⟩
      exact ⟨v, row', controller, (hlisted v row').mpr (.inl hl), (hhas _ _).mpr hc, rfl⟩

/-- A bridge is taken from the switches. -/
theorem view_removeBridge (hindexed : Indexed db) {u : Uuid} {row : Row}
    (hrow : db "Bridge" u = some row) :
    view (db.change "Open_vSwitch" Every (unlinked "bridges" u)) =
      (view db).removeBridge (row "name") := by
  have hlisted : ∀ v row', Listed (db.change "Open_vSwitch" Every (unlinked "bridges" u)) v row' ↔
      Listed db v row' ∧ row' "name" ≠ row "name" := by
    intro v row'
    rw [listed_switch]
    constructor
    case mp =>
      rintro ⟨o, switch, ho, hmem, hrow'⟩
      rw [unlinked, if_pos rfl] at hmem
      refine ⟨⟨o, switch, ho, hmem.1, hrow'⟩, fun hname => hmem.2 ?_⟩
      rw [hindexed "Bridge" (.head _) v u row' row hrow' hrow hname]
      rfl
    case mpr =>
      rintro ⟨⟨o, switch, ho, hmem, hrow'⟩, hne⟩
      refine ⟨o, switch, ho, ?_, hrow'⟩
      rw [unlinked, if_pos rfl]
      refine ⟨hmem, fun hu => hne ?_⟩
      obtain rfl : v = u := ref_inj hu
      rw [Option.some.inj (hrow'.symm.trans hrow)]
  have hport : ∀ row' port iface, HasPort (db.change "Open_vSwitch" Every (unlinked "bridges" u))
      row' port iface ↔ HasPort db row' port iface :=
    fun _ _ _ => hasPort_change (by decide) (by decide)
  have hcontroller : ∀ row' controller, HasController
      (db.change "Open_vSwitch" Every (unlinked "bridges" u)) row' controller ↔
        HasController db row' controller := fun _ _ => hasController_change (by decide)
  refine Topology.ext (Set.ext fun b => ?_) (Set.ext fun q => ?_) (Set.ext fun c => ?_)
  · constructor
    case mp =>
      rintro ⟨v, row', hl, rfl⟩
      rcases (hlisted v row').mp hl with ⟨hl, hne⟩
      exact ⟨⟨v, row', hl, rfl⟩, by rwa [plain_name]⟩
    case mpr =>
      rintro ⟨⟨v, row', hl, rfl⟩, hne⟩
      rw [plain_name] at hne
      exact ⟨v, row', (hlisted v row').mpr ⟨hl, hne⟩, rfl⟩
  · constructor
    case mp =>
      rintro ⟨v, row', port, iface, hl, hp, rfl⟩
      rcases (hlisted v row').mp hl with ⟨hl, hne⟩
      exact ⟨⟨v, row', port, iface, hl, (hport _ _ _).mp hp, rfl⟩, hne⟩
    case mpr =>
      rintro ⟨⟨v, row', port, iface, hl, hp, rfl⟩, hne⟩
      exact ⟨v, row', port, iface, (hlisted v row').mpr ⟨hl, hne⟩, (hport _ _ _).mpr hp, rfl⟩
  · constructor
    case mp =>
      rintro ⟨v, row', controller, hl, hc, rfl⟩
      rcases (hlisted v row').mp hl with ⟨hl, hne⟩
      exact ⟨⟨v, row', controller, hl, (hcontroller _ _).mp hc, rfl⟩, hne⟩
    case mpr =>
      rintro ⟨⟨v, row', controller, hl, hc, rfl⟩, hne⟩
      exact ⟨v, row', controller, (hlisted v row').mpr ⟨hl, hne⟩, (hcontroller _ _).mpr hc, rfl⟩

end Change

end Rovs.Ovsdb.Server

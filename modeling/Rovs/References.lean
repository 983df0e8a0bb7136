import Rovs.NamedLog
import Rovs.NamedUuid

/-!
# References between the rows of a transaction

An insert gives its row a temporary name, and the columns of other rows refer to it by
`["named-uuid", name]`.  A list of operations has referential integrity when its names are
distinct, every reference is to an earlier insert of the table that its column refers to, every
row is referenced once by the operations that keep it alive, and patch interfaces come in pairs.
-/

namespace Rovs.Ovsdb.Transaction

open Json

/-! ### Reading an operation -/

/-- The name in `["named-uuid", name]`. -/
def namedPair : List Value → Option String
  | [tag, name] => if tag.asStr = some "named-uuid" then name.asStr else none
  | _ => none

mutual

/-- The temporary names that occur anywhere in a value. -/
def namedUuids : Value → List String
  | .array elements =>
    match namedPair elements with
    | some name => [name]
    | none => namedUuidsIn elements
  | .object members => namedUuidsOf members
  | _ => []

def namedUuidsIn : List Value → List String
  | [] => []
  | v :: vs => namedUuids v ++ namedUuidsIn vs

def namedUuidsOf : List (String × Value) → List String
  | [] => []
  | (_, v) :: members => namedUuids v ++ namedUuidsOf members

end

def tableOf (operation : Value) : Option String := (operation.get "table").bind Value.asStr

def kindOf (operation : Value) : Option String := (operation.get "op").bind Value.asStr

/-- The column of a mutation and its argument. -/
def mutation (v : Value) : Option (String × Value) :=
  match v.asArray with
  | some [column, _, argument] => column.asStr.map fun column => (column, argument)
  | _ => none

/-- The columns that an operation writes, with what it writes. -/
def columns (operation : Value) : List (String × Value) :=
  ((operation.get "row").bind Value.asObject).getD [] ++
    (((operation.get "mutations").bind Value.asArray).getD []).filterMap mutation

/-- The table whose rows a column refers to. -/
def refTable (table column : String) : Option String :=
  if table = "Open_vSwitch" ∧ column = "bridges" then some "Bridge"
  else if table = "Bridge" ∧ column = "ports" then some "Port"
  else if table = "Bridge" ∧ column = "controller" then some "Controller"
  else if table = "Port" ∧ column = "interfaces" then some "Interface"
  else none

/-- The table and the name of an inserted row. -/
def insertedRow (operation : Value) : Option (String × String) :=
  if isInsert operation then do
    let table ← tableOf operation
    let name ← uuidName operation
    pure (table, name)
  else none

/-- The names in the columns of a table that refer to a table, with the latter. -/
def columnRefs (table : String) (members : List (String × Value)) : List (String × String) :=
  members.flatMap fun (column, v) =>
    match refTable table column with
    | some target => (namedUuids v).map fun name => (target, name)
    | none => []

def references (operation : Value) : List (String × String) :=
  match tableOf operation with
  | some table => columnRefs table (columns operation)
  | none => []

/-- The operations that have to refer to the rows of a table. -/
def refersTo (table : String) (operation : Value) : Bool :=
  table = "Interface" ∧ tableOf operation = some "Port" ∧ kindOf operation = some "insert" ∨
  table = "Port" ∧ tableOf operation = some "Bridge" ∧
    (kindOf operation = some "insert" ∨ kindOf operation = some "mutate") ∨
  table = "Bridge" ∧ tableOf operation = some "Open_vSwitch" ∧ kindOf operation = some "mutate" ∨
  table = "Controller" ∧ tableOf operation = some "Bridge" ∧ kindOf operation = some "update"

def rowNaming : Naming Value String String where
  defines := insertedRow
  uses := references
  user := refersTo

/-- The value of a key in `["map", [[key, value], ..]]`. -/
def mapGet (key : String) (v : Value) : Option Value :=
  match v.asArray with
  | some [tag, entries] =>
    if tag.asStr = some "map" then
      (entries.asArray.getD []).findSome? fun entry =>
        match entry.asArray with
        | some [k, x] => if k.asStr = some key then some x else none
        | _ => none
    else none
  | _ => none

/-- The peer that the columns of an interface name. -/
def peerOf (members : List (String × Value)) : Option String := do
  let options ← members.lookup "options"
  let peer ← mapGet "peer" options
  peer.asStr

/-- The name and the peer of an inserted interface that has one. -/
def patchPeer (operation : Value) : Option (String × String) := do
  let (table, _) ← insertedRow operation
  let row ← operation.get "row"
  let members ← row.asObject
  let name ← (members.lookup "name").bind Value.asStr
  let peer ← peerOf members
  if table = "Interface" then some (name, peer) else none

/-- Each of two ends with the other as its peer. -/
def eachOther (pair : String × String) : List (String × String) := [pair, (pair.2, pair.1)]

/-! ### Integrity -/

structure Integrity (operations : List Value) (pairs : List (String × String)) : Prop where
  /-- The temporary names are distinct. -/
  distinct : (operations.filterMap uuidName).Nodup
  /-- A reference stands nowhere but in a column that refers to a table. -/
  placed : ∀ operation ∈ operations,
    namedUuids operation = (references operation).map Prod.snd
  /-- It is to an earlier insert of that table, and every row is referenced once. -/
  closed : rowNaming.Closed operations
  /-- The patch interfaces are those of the pairs, and the two of a pair are each other's peer. -/
  peers : operations.filterMap patchPeer = pairs.flatMap eachOther

/-! ### The operations that the methods append -/

def insertOp (table : String) (row : List (String × Value)) (name : String) : Value :=
  .object [("op", .string "insert"), ("table", .string table), ("row", .object row),
    ("uuid-name", .string name)]

def updateOp (table : String) (condition : Value) (row : List (String × Value)) : Value :=
  .object [("op", .string "update"), ("table", .string table), ("where", condition),
    ("row", .object row)]

def mutateOp (table : String) (condition : Value) (mutations : List Value) : Value :=
  .object [("op", .string "mutate"), ("table", .string table), ("where", condition),
    ("mutations", .array mutations)]

/-- What an operation inserts and refers to. -/
structure Reads (operation : Value) (kind table : String) (row : Option (String × String))
    (refs : List (String × String)) : Prop where
  kind_eq : kindOf operation = some kind
  table_eq : tableOf operation = some table
  named : uuidName operation = row.map Prod.snd
  insertedRow_eq : insertedRow operation = row
  references_eq : references operation = refs
  placed : namedUuids operation = refs.map Prod.snd

/-- The columns hold no references but in columns that refer to a table. -/
def Placed (table : String) (members : List (String × Value)) : Prop :=
  namedUuidsOf members = (columnRefs table members).map Prod.snd

theorem namedUuidsOf_append (ms ms' : List (String × Value)) :
    namedUuidsOf (ms ++ ms') = namedUuidsOf ms ++ namedUuidsOf ms' := by
  induction ms with
  | nil => rfl
  | cons m ms ih => rw [List.cons_append, namedUuidsOf, ih, namedUuidsOf, List.append_assoc]

theorem columnRefs_append (table : String) (ms ms' : List (String × Value)) :
    columnRefs table (ms ++ ms') = columnRefs table ms ++ columnRefs table ms' :=
  List.flatMap_append

theorem reads_insertOp (name : String) {table : String} {row : List (String × Value)}
    (h : Placed table row) :
    Reads (insertOp table row name) "insert" table (some (table, name)) (columnRefs table row) where
  kind_eq := rfl
  table_eq := rfl
  named := rfl
  insertedRow_eq := rfl
  references_eq := congrArg (columnRefs table) (List.append_nil row)
  placed := by
    rw [← h]
    simp [insertOp, namedUuids, namedUuidsOf]

/-- An update that finds its rows by name. -/
theorem reads_updateOp (name : String) {table : String} {row : List (String × Value)}
    (h : Placed table row) :
    Reads (updateOp table (columnEq "name" (.string name)) row) "update" table none
      (columnRefs table row) where
  kind_eq := rfl
  table_eq := rfl
  named := rfl
  insertedRow_eq := rfl
  references_eq := congrArg (columnRefs table) (List.append_nil row)
  placed := by
    rw [← h]
    simp [updateOp, columnEq, namedUuids, namedUuidsOf, namedUuidsIn, namedPair]

/-- A mutation that adds a row to a column. -/
theorem reads_mutateOp (fmt : UuidFormat) {table column target name : String} {condition : Value}
    (htarget : refTable table column = some target) (hcondition : namedUuids condition = []) :
    Reads (mutateOp table condition [addRef fmt column (.named name)]) "mutate" table none
      [(target, name)] where
  kind_eq := rfl
  table_eq := rfl
  named := rfl
  insertedRow_eq := rfl
  references_eq := by
    have hcolumns : columns (mutateOp table condition [addRef fmt column (.named name)]) =
        [(column, (RowRef.named name).toJson fmt)] := rfl
    have htable : tableOf (mutateOp table condition [addRef fmt column (.named name)]) =
        some table := rfl
    rw [references, htable, hcolumns]
    simp [columnRefs, htarget, RowRef.toJson, namedUuids, namedPair, Value.asStr]
  placed := by
    simp [mutateOp, addRef, hcondition, RowRef.toJson, namedUuids, namedUuidsOf, namedUuidsIn,
      namedPair, Value.asStr]

/-- Columns without references. -/
theorem columnRefs_plain (table : String) {members : List (String × Value)}
    (h : namedUuidsOf members = []) : columnRefs table members = [] := by
  induction members with
  | nil => rfl
  | cons m members ih =>
    rw [namedUuidsOf, List.append_eq_nil_iff] at h
    rw [columnRefs, List.flatMap_cons, ← columnRefs, ih h.2, List.append_nil]
    cases htarget : refTable table m.1 with
    | none => simp [htarget]
    | some target => simp [htarget, h.1]

theorem placed_plain (table : String) {members : List (String × Value)}
    (h : namedUuidsOf members = []) : Placed table members := by
  rw [Placed, h, columnRefs_plain table h]
  rfl

theorem Placed.append {table : String} {members members' : List (String × Value)}
    (h : Placed table members) (h' : Placed table members') :
    Placed table (members ++ members') := by
  rw [Placed] at h h' ⊢
  rw [namedUuidsOf_append, columnRefs_append, List.map_append, h, h']

/-- Columns of which one refers to a row. -/
structure OneRef (table : String) (members : List (String × Value)) (target name : String) :
    Prop where
  placed : Placed table members
  columnRefs_eq : columnRefs table members = [(target, name)]

theorem oneRef (fmt : UuidFormat) {table column target : String} (name : String)
    (htarget : refTable table column = some target) {before after : List (String × Value)}
    (hbefore : namedUuidsOf before = []) (hafter : namedUuidsOf after = []) :
    OneRef table (before ++ (column, (RowRef.named name).toJson fmt) :: after) target name := by
  have hrefs : columnRefs table [(column, (RowRef.named name).toJson fmt)] = [(target, name)] := by
    simp [columnRefs, htarget, RowRef.toJson, namedUuids, namedPair, Value.asStr]
  have hplaced : Placed table [(column, (RowRef.named name).toJson fmt)] := by
    rw [Placed, hrefs]
    simp [RowRef.toJson, namedUuids, namedUuidsOf, namedPair, Value.asStr]
  constructor
  case placed =>
    exact (placed_plain table hbefore).append (hplaced.append (placed_plain table hafter))
  case columnRefs_eq =>
    rw [← List.singleton_append, columnRefs_append, columnRefs_append, hrefs,
      columnRefs_plain table hbefore, columnRefs_plain table hafter]
    rfl

/-- An insert of a row that refers to no row. -/
theorem reads_insertPlain {table : String} (name : String) {row : List (String × Value)}
    (h : namedUuidsOf row = []) :
    Reads (insertOp table row name) "insert" table (some (table, name)) [] := by
  have hreads := reads_insertOp name (placed_plain table h)
  rwa [columnRefs_plain table h] at hreads

/-- An insert of a row that refers to one row. -/
theorem reads_insertRef {table target name : String} (rowName : String)
    {row : List (String × Value)} (h : OneRef table row target name) :
    Reads (insertOp table row rowName) "insert" table (some (table, rowName))
      [(target, name)] := by
  have hreads := reads_insertOp rowName h.placed
  rwa [h.columnRefs_eq] at hreads

/-- The peer of an inserted interface. -/
theorem patchPeer_interface (portName ifaceType name : String) (extra : List (String × Value)) :
    patchPeer (insertOp "Interface"
      ([("name", .string portName), ("type", .string ifaceType)] ++ extra) name) =
    (peerOf extra).map fun peer => (portName, peer) := by
  have hread : patchPeer (insertOp "Interface"
      ([("name", .string portName), ("type", .string ifaceType)] ++ extra) name) =
      (peerOf extra).bind fun peer => some (portName, peer) := rfl
  rw [hread, Option.map_eq_bind]
  rfl

theorem patchPeer_other {table : String} (h : table ≠ "Interface") (row : List (String × Value))
    (name : String) : patchPeer (insertOp table row name) = none := by
  have hrow : insertedRow (insertOp table row name) = some (table, name) := rfl
  rw [patchPeer, hrow]
  simp [h]

/-! ### Blocks of operations -/

/-- A run of operations that refer to nothing before them but the pending row, whose names are
    numbered from `c` on. -/
structure Block (c : Nat) (pending : Option (String × String)) (peers : List (String × String))
    (operations : List Value) : Prop where
  named : ∀ operation ∈ operations,
    uuidName operation = (insertedRow operation).map Prod.snd
  placed : ∀ operation ∈ operations,
    namedUuids operation = (references operation).map Prod.snd
  numbered : (rowNaming.defined operations).map Prod.snd =
    (List.range' c (operations.countP isInsert)).map rowName
  chain : rowNaming.Chain pending operations
  peers_eq : operations.filterMap patchPeer = peers

section Block

variable {c : Nat} {pending : Option (String × String)} {peers peers' : List (String × String)}
  {operation : Value} {ops ops' : List Value}

theorem block_nil (c : Nat) : Block c none [] [] where
  named op hop := by simp at hop
  placed op hop := by simp at hop
  numbered := rfl
  chain := .nil
  peers_eq := rfl

theorem Block.append (h : Block c pending peers ops)
    (h' : Block (c + ops.countP isInsert) none peers' ops') :
    Block c pending (peers ++ peers') (ops ++ ops') where
  named op hop := (List.mem_append.mp hop).elim (h.named op) (h'.named op)
  placed op hop := (List.mem_append.mp hop).elim (h.placed op) (h'.placed op)
  numbered := by
    rw [Naming.defined_append, List.map_append, h.numbered, h'.numbered, ← List.map_append,
      List.range'_append_1, List.countP_append]
  chain := h.chain.append h'.chain
  peers_eq := by rw [List.filterMap_append, h.peers_eq, h'.peers_eq]

/-- The insert of a row that refers to the pending one. -/
theorem Block.insert (pending : Option (String × String)) {table : String}
    (h : Reads operation "insert" table (some (table, rowName c)) pending.toList)
    (huser : ∀ row ∈ pending, refersTo row.1 operation = true)
    (hrest : Block (c + 1) (some (table, rowName c)) peers ops) :
    Block c pending ((patchPeer operation).toList ++ peers) (operation :: ops) where
  named := List.forall_mem_cons.mpr ⟨by rw [h.named, h.insertedRow_eq], hrest.named⟩
  placed := List.forall_mem_cons.mpr ⟨by rw [h.placed, h.references_eq], hrest.placed⟩
  numbered := by
    have hinsert : isInsert operation = true := beq_iff_eq.mpr h.kind_eq
    rw [Naming.defined_cons, List.map_append, hrest.numbered, List.countP_cons_of_pos hinsert,
      List.range'_succ]
    simp [rowNaming, h.insertedRow_eq]
  chain := by
    apply Naming.Chain.cons h.references_eq huser
    have hdefines : rowNaming.defines operation = some (table, rowName c) := h.insertedRow_eq
    rw [hdefines]
    exact hrest.chain
  peers_eq := by
    rw [← hrest.peers_eq]
    cases hpeer : patchPeer operation with
    | none => rw [List.filterMap_cons_none hpeer, Option.toList_none, List.nil_append]
    | some peer => rw [List.filterMap_cons_some hpeer, Option.toList_some, List.singleton_append]

/-- An operation on a row that is there, which refers to the pending one. -/
theorem Block.other (pending : Option (String × String)) {kind table : String}
    (h : Reads operation kind table none pending.toList)
    (hkind : kind ≠ "insert") (huser : ∀ row ∈ pending, refersTo row.1 operation = true)
    (hrest : Block c none peers ops) : Block c pending peers (operation :: ops) where
  named := List.forall_mem_cons.mpr ⟨by rw [h.named, h.insertedRow_eq], hrest.named⟩
  placed := List.forall_mem_cons.mpr ⟨by rw [h.placed, h.references_eq], hrest.placed⟩
  numbered := by
    have hinsert : ¬ isInsert operation = true := by
      rw [isInsert, beq_iff_eq]
      intro hkind'
      exact hkind (Option.some.inj (h.kind_eq.symm.trans hkind'))
    rw [Naming.defined_cons, List.map_append, hrest.numbered, List.countP_cons_of_neg hinsert]
    simp [rowNaming, h.insertedRow_eq]
  chain := by
    apply Naming.Chain.cons h.references_eq huser
    have hdefines : rowNaming.defines operation = none := h.insertedRow_eq
    rw [hdefines]
    exact hrest.chain
  peers_eq := by
    have hpeer : patchPeer operation = none := by
      rw [patchPeer, h.insertedRow_eq]
      rfl
    rw [List.filterMap_cons_none hpeer, hrest.peers_eq]

theorem Block.integrity {pairs : List (String × String)}
    (h : Block c none (pairs.flatMap eachOther) ops) :
    Integrity ops pairs := by
  have hnames : ops.filterMap uuidName = (rowNaming.defined ops).map Prod.snd := by
    rw [Naming.defined, List.map_filterMap]
    exact List.filterMap_congr h.named
  have hdistinct : ((rowNaming.defined ops).map Prod.snd).Nodup := by
    rw [h.numbered]
    apply (List.nodup_range' ..).map
    intro i j heq
    exact rowName_inj heq
  constructor
  case distinct =>
    rw [hnames]
    exact hdistinct
  case placed => exact h.placed
  case closed => exact h.chain.closed hdistinct
  case peers => exact h.peers_eq

end Block

end Rovs.Ovsdb.Transaction

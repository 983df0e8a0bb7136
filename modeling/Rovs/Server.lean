import Rovs.ReferentialIntegrity
import Rovs.RowStore

/-!
# The database server

The library sends its transactions to a database server that is no part of it.  The server is
therefore a parameter: a `Server` is a schema together with what a server does, and
`Server.Documented` says what RFC 7047 and the Open_vSwitch schema promise of it.  The promises are
of three kinds:

* `Server.HasSchema`: which of the columns that the library writes refer to rows,
* `Server.CarriesOut`: what the operations that the library writes do to the rows,
* `Server.Commits`: when the rows after all operations become the database.

Of other tables, columns, operations and values nothing is said, and rows may hold references of
which the library knows nothing.  What a server holds between transactions is `Server.Consistent`;
`Server.consistent_commit` says that every accepted transaction leaves such a database.
-/

namespace Rovs.Ovsdb

open Json Transaction

namespace Server

/-! ### Rows -/

inductive Atom where
  | uuid (u : Uuid)
  | plain (v : Value)

/-- What is in a column: an atom, or a pair of a map. -/
inductive Element where
  | one (a : Atom)
  | pair (k v : Atom)

/-- The columns of a row, each a set; an optional value is a set of at most one element. -/
abbrev Row := String → Set Element

abbrev Rows := Store String Uuid Row

/-- The reference to a row. -/
def ref (u : Uuid) : Element := .one (.uuid u)

def text (s : String) : Element := .one (.plain (.string s))

theorem ref_inj {u v : Uuid} (h : ref u ∈ ({ref v} : Set Element)) : u = v := by
  cases h
  rfl

/-- A row with a column written. -/
def put (column : String) (value : Set Element) (row : Row) : Row :=
  Function.update row column value

@[simp] theorem put_self (column : String) (value : Set Element) (row : Row) :
    put column value row column = value :=
  Function.update_self ..

theorem put_other {column c : String} (value : Set Element) (row : Row) (h : c ≠ column) :
    put column value row c = row c :=
  Function.update_of_ne h ..

/-- A row with a reference added. -/
def linked (column : String) (u : Uuid) (row : Row) : Row := fun c =>
  if c = column then row c ∪ {ref u} else row c

/-- A row with a reference taken away. -/
def unlinked (column : String) (u : Uuid) (row : Row) : Row := fun c =>
  if c = column then row c \ {ref u} else row c

/-! ### Tables and conditions -/

/-- The tables that the library inserts rows into. -/
def topologyTables : List String := ["Bridge", "Port", "Interface", "Controller"]

/-- The tables whose rows have names. -/
def namedTables : List String := ["Bridge", "Port", "Interface"]

/-- The columns that the library writes and that are no references. -/
def plainColumns : List String :=
  ["name", "type", "options", "tag", "vlan_mode", "trunks", "target", "fail_mode"]

/-- The names of bridges, ports and interfaces are different. -/
def Indexed (db : Rows) : Prop :=
  ∀ table ∈ namedTables, ∀ u u' row row',
    db table u = some row → db table u' = some row' → row "name" = row' "name" → u = u'

/-- In the tables that the library inserts nothing into there is no row more, and of the rows that
    are left at most the list of bridges has changed. -/
def Elsewhere (db db' : Rows) : Prop :=
  ∀ table ∉ topologyTables, ∀ u row', db' table u = some row' →
    ∃ row, db table u = some row ∧ ∀ column, column ≠ "bridges" → row' column = row column

/-- Every row. -/
def Every (_ : Uuid) (_ : Row) : Prop := True

/-- The rows of a name. -/
def Named (name : String) (_ : Uuid) (row : Row) : Prop := row "name" = {text name}

/-- The conditions that the library writes, and which rows they find in a table. -/
inductive Condition (fmt : UuidFormat) (table : String) : Value → (Uuid → Row → Prop) → Prop where
  | every : Condition fmt table (.array []) Every
  | named (name : String) (htable : table ∈ namedTables) :
      Condition fmt table (columnEq "name" (.string name)) (Named name)
  | uuid (u : Uuid) : Condition fmt table (columnEq "_uuid" (uuidJson fmt u)) fun v _ => v = u

def rowOf (operation : Value) : List (String × Value) :=
  ((operation.get "row").bind Value.asObject).getD []

/-- A deletion of the rows that a condition finds. -/
def deleteRowsOp (table : String) (condition : Value) : Value :=
  .object [("op", .string "delete"), ("table", .string table), ("where", condition)]

/-- The rows that the temporary names stand for. -/
def resolved (newRow : Nat → Uuid) (operations : List Value) (name : String) : Option Uuid :=
  (operations.findIdx? fun operation => decide (uuidName operation = some name)).map newRow

end Server

/-! ### Servers -/

/-- A database server with its schema. -/
structure Server where
  /-- The rows that an element of a column of a table has to find there: its strong references. -/
  refersTo : String → String → Server.Element → Set (String × Uuid)
  /-- The tables whose rows stay although nothing refers to them. -/
  root : String → Prop
  /-- The columns of a new row that are not given. -/
  defaults : String → Server.Row
  /-- What a value says in a column of a table, if names stand for rows. -/
  contents : (String → Option Uuid) → String → String → Value → Set Server.Element
  /-- The values that a column of a table may be given. -/
  Legal : String → String → Value → Prop
  /-- The rows after an operation, with the UUID that a row which it inserts is given; an operation
      may fail. -/
  execute : (String → Option Uuid) → Uuid → Server.Rows → Value → Option Server.Rows
  /-- What is left of the rows when those are collected that nothing keeps. -/
  settle : Server.Rows → Server.Rows
  /-- The rows meet what the schema demands besides references and the names of `Indexed`. -/
  Valid : Server.Rows → Prop
  /-- The database after a transaction, if it is accepted, with the UUIDs of new rows. -/
  commit : (Nat → Uuid) → Server.Rows → List Value → Option Server.Rows

namespace Server

variable (server : Server)

/-- The references of whole rows. -/
def scheme : RefScheme String Uuid Row where
  refs table row := {r | ∃ column, ∃ e ∈ row column, r ∈ server.refersTo table column e}
  keeps := server.root

/-- A row with some columns written. -/
def written (names : String → Option Uuid) (table : String) (members : List (String × Value))
    (row : Row) : Row := fun column =>
  (members.lookup column).elim (row column) (server.contents names table column)

/-- A table may be given these columns. -/
def LegalRow (table : String) (members : List (String × Value)) : Prop :=
  ∀ member ∈ members, server.Legal table member.1 member.2

/-- Every value that the operations write is one that its column may be given. -/
def Lawful (operations : List Value) : Prop :=
  ∀ operation ∈ operations, ∀ table, tableOf operation = some table →
    server.LegalRow table (rowOf operation)

/-- Operations in order, from number `i` on; all fail if one does. -/
def executeAll (names : String → Option Uuid) (newRow : Nat → Uuid) :
    Nat → Rows → List Value → Option Rows
  | _, db, [] => some db
  | i, db, operation :: operations =>
    (server.execute names (newRow i) db operation).bind fun db' =>
      executeAll names newRow (i + 1) db' operations

/-- The rows after all operations. -/
def performed (newRow : Nat → Uuid) (db : Rows) (operations : List Value) : Option Rows :=
  server.executeAll (resolved newRow operations) newRow 0 db operations

/-- What a server holds between transactions: references are resolved, nothing is left to collect,
    and the schema is met. -/
structure Consistent (db : Rows) : Prop where
  intact : server.scheme.Intact db
  settled : server.settle db = db
  indexed : Indexed db
  valid : server.Valid db

/-! ### What is documented -/

/-- The columns that the library writes in the schema of Open_vSwitch. -/
structure HasSchema : Prop where
  /-- Four columns are sets of strong references. -/
  refers : ∀ table column target, refTable table column = some target → ∀ e r,
    r ∈ server.refersTo table column e ↔ r.1 = target ∧ e = ref r.2
  /-- The other columns that the library writes are not references. -/
  refers_plain : ∀ table e, ∀ column ∈ plainColumns, server.refersTo table column e = ∅
  /-- A new row refers to nothing by itself, but a port must be given an interface. -/
  refers_default : ∀ table ∈ topologyTables, ∀ column, (table, column) ≠ ("Port", "interfaces") →
    ∀ e ∈ server.defaults table column, server.refersTo table column e = ∅
  root_switch : server.root "Open_vSwitch"
  not_root : ∀ table ∈ namedTables, ¬ server.root table

/-- What the operations that the library writes do. -/
structure CarriesOut (fmt : UuidFormat) : Prop where
  contents_text : ∀ names table s, ∀ column ∈ ["name", "fail_mode"],
    server.contents names table column (.string s) = {text s}
  /-- A temporary name stands for its row. -/
  contents_named : ∀ names table column target name u, refTable table column = some target →
    names name = some u →
    server.contents names table column ((RowRef.named name).toJson fmt) = {ref u}
  /-- Other values do not depend on temporary names. -/
  contents_plain : ∀ names names' table column v, namedUuids v = [] →
    server.contents names table column v = server.contents names' table column v
  insert : ∀ names new db db' members k, ∀ table ∈ topologyTables, (members.map Prod.fst).Nodup →
    (server.execute names new db (insertOp table members (rowName k)) = some db' ↔
      server.LegalRow table members ∧
        db' = db.insert table new (server.written names table members (server.defaults table)))
  update : ∀ names new db db' name v, ∀ column ∈ ["controller", "fail_mode"],
    (server.execute names new db
        (updateOp "Bridge" (columnEq "name" (.string name)) [(column, v)]) = some db' ↔
      server.Legal "Bridge" column v ∧
        db' = db.change "Bridge" (Named name)
          (put column (server.contents names "Bridge" column v)))
  /-- Adding a reference to a set of any size. -/
  addRef : ∀ names new db table column condition matching name u,
    (table, column) ∈ [("Open_vSwitch", "bridges"), ("Bridge", "ports")] →
    Condition fmt table condition matching → names name = some u →
    server.execute names new db (mutateOp table condition [addRef fmt column (.named name)]) =
      some (db.change table matching (linked column u))
  /-- Taking a reference from a set that may be empty. -/
  removeRef : ∀ names new db table column condition matching u,
    (table, column) ∈ [("Open_vSwitch", "bridges"), ("Bridge", "ports")] →
    Condition fmt table condition matching →
    server.execute names new db (mutateOp table condition [removeRef fmt column u]) =
      some (db.change table matching (unlinked column u))
  delete : ∀ names new db condition matching, ∀ table ∈ namedTables,
    Condition fmt table condition matching →
    server.execute names new db (deleteRowsOp table condition) = some (db.remove table matching)

/-- How a transaction ends.  Rows that nothing keeps are collected; of the others, those outside the
    topology may lose weak references to rows that are gone. -/
structure Commits : Prop where
  settle_row : ∀ rows table u row', server.settle rows table u = some row' →
    ∃ row, rows table u = some row ∧ server.scheme.Live rows table u ∧
      server.scheme.refs table row' = server.scheme.refs table row
  settle_live : ∀ rows table u row, server.scheme.Live rows table u → rows table u = some row →
    ∃ row', server.settle rows table u = some row'
  settle_topology : ∀ rows u row, ∀ table ∈ "Open_vSwitch" :: topologyTables,
    server.scheme.Live rows table u → rows table u = some row →
    server.settle rows table u = some row
  settle_settle : ∀ rows, server.settle (server.settle rows) = server.settle rows
  /-- Besides the names, the schema indexes and limits nothing that the library changes. -/
  valid_settle : ∀ db rows, server.Valid db → Elsewhere db rows → server.Valid (server.settle rows)
  /-- A transaction is accepted if its temporary names are different, no operation fails and the
      constraints hold afterwards. -/
  commit_iff : ∀ newRow db operations db', server.Consistent db →
    (server.commit newRow db operations = some db' ↔
      (operations.filterMap uuidName).Nodup ∧
      ∃ rows, server.performed newRow db operations = some rows ∧ server.scheme.Intact rows ∧
        Indexed (server.settle rows) ∧ server.Valid (server.settle rows) ∧
        server.settle rows = db')

/-- **A server that does what is documented.**  Each result about transactions has this as a
    hypothesis. -/
structure Documented (fmt : UuidFormat) : Prop where
  schema : server.HasSchema
  operations : server.CarriesOut fmt
  transactions : server.Commits

/-! ### Settled rows -/

variable {server}

section Schema

variable {table column target : String} {row : Row} {u : Uuid}

theorem HasSchema.mem_refs (h : server.HasSchema) (htarget : refTable table column = some target)
    (hmem : ref u ∈ row column) : (target, u) ∈ server.scheme.refs table row :=
  ⟨column, ref u, hmem, (h.refers table column target htarget _ _).mpr ⟨rfl, rfl⟩⟩

theorem Elsewhere.refl (db : Rows) : Elsewhere db db :=
  fun _ _ _ row hrow => ⟨row, hrow, fun _ _ => rfl⟩

theorem Elsewhere.trans {db db' db'' : Rows} (h : Elsewhere db db') (h' : Elsewhere db' db'') :
    Elsewhere db db'' := by
  intro t ht v row'' hrow''
  rcases h' t ht v row'' hrow'' with ⟨row', hrow', hsame'⟩
  rcases h t ht v row' hrow' with ⟨row, hrow, hsame⟩
  exact ⟨row, hrow, fun c hc => (hsame' c hc).trans (hsame c hc)⟩

theorem elsewhere_insert {db : Rows} {u : Uuid} {row : Row} (htable : table ∈ topologyTables) :
    Elsewhere db (db.insert table u row) := by
  intro t ht v row' hrow'
  rcases Store.insert_eq_some.mp hrow' with ⟨⟨rfl, -⟩, -⟩ | ⟨-, hrow⟩
  · exact absurd htable ht
  · exact ⟨row', hrow, fun _ _ => rfl⟩

theorem elsewhere_change {db : Rows} {matching : Uuid → Row → Prop} {f : Row → Row}
    (h : table ∈ topologyTables ∨ ∀ row column, column ≠ "bridges" → f row column = row column) :
    Elsewhere db (db.change table matching f) := by
  intro t ht v row' hrow'
  rcases Store.change_eq_some.mp hrow' with ⟨row, hrow, ⟨⟨rfl, -⟩, rfl⟩ | ⟨-, rfl⟩⟩
  · rcases h with hmem | hsame
    · exact absurd hmem ht
    · exact ⟨row, hrow, hsame row⟩
  · exact ⟨row', hrow, fun _ _ => rfl⟩

/-- Rows that keep their names. -/
theorem Indexed.of_names {db db' : Rows} (h : Indexed db)
    (hnames : ∀ table ∈ namedTables, ∀ u row', db' table u = some row' →
      ∃ row, db table u = some row ∧ row "name" = row' "name") : Indexed db' := by
  intro table htable u u' row row' hrow hrow' hname
  rcases hnames table htable u row hrow with ⟨first, hfirst, hfirstName⟩
  rcases hnames table htable u' row' hrow' with ⟨second, hsecond, hsecondName⟩
  apply h table htable u u' first second hfirst hsecond
  rw [hfirstName, hname, hsecondName]

theorem mem_topologyTables (h : table ∈ namedTables) :
    table ∈ "Open_vSwitch" :: topologyTables := by
  simp only [namedTables, topologyTables, List.mem_cons, List.not_mem_nil, or_false] at h ⊢
  tauto

end Schema

section Settle

variable {rows : Rows} {table : String} {u : Uuid} {row : Row}

/-- The rows of the topology are left as they are, if something keeps them. -/
theorem Commits.settle_eq_some (h : server.Commits)
    (htable : table ∈ "Open_vSwitch" :: topologyTables) :
    server.settle rows table u = some row ↔
      server.scheme.Live rows table u ∧ rows table u = some row := by
  constructor
  case mp =>
    intro hrow
    rcases h.settle_row rows table u row hrow with ⟨row', hrow', hlive, -⟩
    have hsame := h.settle_topology rows u row' table htable hlive hrow'
    rw [hsame] at hrow
    exact ⟨hlive, hrow ▸ hrow'⟩
  case mpr => exact fun ⟨hlive, hrow⟩ => h.settle_topology rows u row table htable hlive hrow

/-- **Collecting rows leaves no reference unresolved.** -/
theorem Commits.intact_settle (h : server.Commits) (hintact : server.scheme.Intact rows) :
    server.scheme.Intact (server.settle rows) := by
  intro t k row' hrow' r hr
  rcases h.settle_row rows t k row' hrow' with ⟨row, hrow, hlive, hrefs⟩
  rw [hrefs] at hr
  rcases hintact t k row hrow r hr with ⟨row'', hrow''⟩
  exact h.settle_live rows r.1 r.2 row'' (.referred hlive hrow hr) hrow''

theorem Commits.indexed_settle (h : server.Commits) (hindexed : Indexed rows) :
    Indexed (server.settle rows) := by
  apply hindexed.of_names
  intro t ht k row' hrow'
  exact ⟨row', ((h.settle_eq_some (mem_topologyTables ht)).mp hrow').2, rfl⟩

theorem Consistent.sound (h : server.Commits) (hdb : server.Consistent rows) :
    server.scheme.Sound rows where
  intact := hdb.intact
  live t k row hrow := by
    rw [← hdb.settled] at hrow
    rcases h.settle_row rows t k row hrow with ⟨-, -, hlive, -⟩
    exact hlive

end Settle

/-! ### Committing -/

section Commit

variable {newRow : Nat → Uuid} {db rows : Rows} {operations : List Value}

/-- **A transaction leaves a consistent database or none.** -/
theorem consistent_commit (h : server.Commits) (hdb : server.Consistent db) {db' : Rows}
    (hcommit : server.commit newRow db operations = some db') : server.Consistent db' := by
  rcases (h.commit_iff newRow db operations db' hdb).mp hcommit with
    ⟨-, rows, -, hintact, hindexed, hvalid, rfl⟩
  exact ⟨h.intact_settle hintact, h.settle_settle rows, hindexed, hvalid⟩

/-- What is asked of the rows after operations that do not insert into other tables. -/
theorem commit_accepts (h : server.Commits) (hdb : server.Consistent db)
    (hnodup : (operations.filterMap uuidName).Nodup)
    (hperformed : server.performed newRow db operations = some rows)
    (hintact : server.scheme.Intact rows) (hindexed : Indexed rows) (helse : Elsewhere db rows) :
    server.commit newRow db operations = some (server.settle rows) :=
  (h.commit_iff newRow db operations _ hdb).mpr ⟨hnodup, rows, hperformed, hintact,
    h.indexed_settle hindexed, h.valid_settle db rows hdb.valid helse, rfl⟩

/-- References that are not resolved. -/
theorem commit_refuses (h : server.Commits) (hdb : server.Consistent db)
    (hperformed : server.performed newRow db operations = some rows)
    (hintact : ¬ server.scheme.Intact rows) : server.commit newRow db operations = none := by
  rw [Option.eq_none_iff_forall_ne_some]
  intro db' hcommit
  rcases (h.commit_iff newRow db operations db' hdb).mp hcommit with
    ⟨-, rows', hperformed', hintact', -⟩
  rw [hperformed] at hperformed'
  exact hintact (Option.some.inj hperformed' ▸ hintact')

/-- Operations that change nothing. -/
theorem commit_unchanged (h : server.Commits) (hdb : server.Consistent db)
    (hnodup : (operations.filterMap uuidName).Nodup)
    (hsame : server.performed newRow db operations = some db) :
    server.commit newRow db operations = some db := by
  have haccept := commit_accepts h hdb hnodup hsame hdb.intact hdb.indexed (.refl db)
  rwa [hdb.settled] at haccept

/-- Operations that only take rows away, and not all of them in vain. -/
theorem commit_within (h : server.Commits) (hdb : server.Consistent db)
    (hperformed : server.performed newRow db operations = some rows) (hwithin : rows.Within db)
    (hkept : ∀ table u row, server.root table → db table u = some row →
      rows table u = some row)
    (hne : rows ≠ db) : server.commit newRow db operations = none :=
  commit_refuses h hdb hperformed fun hintact =>
    hne ((hdb.sound h).eq_of_within hwithin hkept hintact)

theorem executeAll_append (names : String → Option Uuid) (newRow : Nat → Uuid) (i : Nat)
    (db : Rows) (ops ops' : List Value) :
    server.executeAll names newRow i db (ops ++ ops') =
      (server.executeAll names newRow i db ops).bind fun db' =>
        server.executeAll names newRow (i + ops.length) db' ops' := by
  induction ops generalizing i db with
  | nil => rfl
  | cons op ops ih =>
    simp only [List.cons_append, executeAll, ih, List.length_cons, Option.bind_assoc,
      Nat.add_right_comm, Nat.add_assoc]

end Commit

end Server

end Rovs.Ovsdb

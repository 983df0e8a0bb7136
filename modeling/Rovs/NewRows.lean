import Rovs.NameDeletes
import Rovs.TopologyView

/-!
# Transactions that insert rows

A transaction inserts rows under temporary names and refers to them by these names.  While its
operations are carried out all references stay resolved, and what one operation does to the topology
composes with what the next one does, whichever UUIDs the new rows are given.

The invariant between operations is `Ready`.  `Performs` says of a program that its operations fail
exactly if they write a value that is not legal, and that they keep the invariant, add rows of
certain names and change the topology in a certain way otherwise.  Such programs compose
(`Performs.bind`, `performs_forM`), so a method only has to be looked at by itself.
-/

namespace Rovs.Ovsdb.Server

open Json Transaction

/-! ### New rows -/

section Rows

variable {server : Server} {fmt : UuidFormat} {names names' : String → Option Uuid}
  {table : String}

theorem namedUuids_lookup {members : List (String × Value)} (h : namedUuidsOf members = [])
    {column : String} {v : Value} (hlookup : members.lookup column = some v) :
    namedUuids v = [] := by
  induction members with
  | nil => cases hlookup
  | cons member members ih =>
    rcases member with ⟨name, x⟩
    rw [namedUuidsOf, List.append_eq_nil_iff] at h
    rw [List.lookup_cons] at hlookup
    split at hlookup
    · cases hlookup
      exact h.1
    · exact ih h.2 hlookup

/-- Columns without temporary names. -/
theorem CarriesOut.written_plain (h : server.CarriesOut fmt) {members : List (String × Value)}
    (hplain : namedUuidsOf members = []) (table : String) (row : Row) :
    server.written names table members row = server.written names' table members row := by
  funext column
  rw [written, written]
  cases hlookup : members.lookup column with
  | none => rfl
  | some v => exact h.contents_plain _ _ _ _ _ (namedUuids_lookup hplain hlookup)

/-- What an insert writes. -/
def newRowOf (server : Server) (names : String → Option Uuid) (table : String)
    (members : List (String × Value)) : Row :=
  server.written names table members (server.defaults table)

/-- A new row as the topology has it, of columns without temporary names. -/
def columnsRow (server : Server) (table : String) (members : List (String × Value)) : Row :=
  plain table (newRowOf server (fun _ => none) table members)

theorem newRowOf_some {members : List (String × Value)} {column : String} {v : Value}
    (h : members.lookup column = some v) :
    newRowOf server names table members column = server.contents names table column v := by
  rw [newRowOf, written, h]
  rfl

theorem newRowOf_name (h : server.CarriesOut fmt) {members : List (String × Value)} {name : String}
    (hname : members.lookup "name" = some (.string name)) :
    newRowOf server names table members "name" = {text name} := by
  rw [newRowOf_some hname]
  exact h.contents_text _ _ _ _ List.mem_cons_self

/-- A new row refers to what its columns refer to. -/
theorem HasSchema.refs_newRowOf (h : server.HasSchema) (htable : table ∈ topologyTables)
    {members : List (String × Value)}
    (hmembers : ∀ m ∈ members, m.1 ∈ plainColumns ∨ (refTable table m.1).isSome)
    (hport : table = "Port" → (members.lookup "interfaces").isSome) {r : String × Uuid}
    (hr : r ∈ server.scheme.refs table (newRowOf server names table members)) :
    ∃ column, (members.lookup column).isSome ∧ refTable table column = some r.1 ∧
      ref r.2 ∈ newRowOf server names table members column := by
  rcases hr with ⟨column, e, hmem, href⟩
  cases hlookup : members.lookup column with
  | none =>
    have hdefault : e ∈ server.defaults table column := by
      rw [newRowOf, written, hlookup] at hmem
      exact hmem
    have hne : (table, column) ≠ ("Port", "interfaces") := by
      intro heq
      cases heq
      rw [hlookup] at hport
      cases hport rfl
    rw [h.refers_default table htable column hne e hdefault] at href
    exact absurd href (Set.notMem_empty _)
  | some v =>
    have hmember : (column, v) ∈ members := by
      rcases List.lookup_eq_some_iff.mp hlookup with ⟨before, after, rfl, -⟩
      simp
    rcases hmembers _ hmember with hplain | hsome
    · rw [h.refers_plain table e column hplain] at href
      exact absurd href (Set.notMem_empty _)
    · rcases Option.isSome_iff_exists.mp hsome with ⟨target, htarget⟩
      rcases (h.refers table column target htarget e r).mp href with ⟨rfl, rfl⟩
      exact ⟨column, by simp [hlookup], htarget, hmem⟩

/-- Interfaces and controllers refer to nothing. -/
theorem HasSchema.refs_empty (h : server.HasSchema) (htable : table ∈ topologyTables)
    (hnone : ∀ column, refTable table column = none) {members : List (String × Value)}
    (hmembers : ∀ m ∈ members, m.1 ∈ plainColumns) (r : String × Uuid) :
    r ∉ server.scheme.refs table (newRowOf server names table members) := by
  intro hr
  have hport : table = "Port" → (members.lookup "interfaces").isSome := by
    rintro rfl
    have hinterfaces := hnone "interfaces"
    simp [refTable] at hinterfaces
  rcases h.refs_newRowOf htable (fun m hm => .inl (hmembers m hm)) hport hr with
    ⟨column, -, hsome, -⟩
  rw [hnone] at hsome
  cases hsome

/-- Rows that differ in references only are the same for the topology. -/
theorem plain_newRowOf (h : server.CarriesOut fmt) {members members' : List (String × Value)}
    (hlookup : ∀ c, refTable table c = none → members.lookup c = members'.lookup c)
    (hplain : namedUuidsOf members' = []) :
    plain table (newRowOf server names table members) = columnsRow server table members' := by
  funext c
  cases href : refTable table c with
  | some target => simp [columnsRow, plain, href]
  | none =>
    have hwritten : server.written names table members' (server.defaults table) =
        server.written (fun _ => none) table members' (server.defaults table) :=
      h.written_plain hplain table _
    simp only [columnsRow, plain, href, newRowOf]
    rw [← hwritten, written, written, hlookup c href]

end Rows

/-! ### Databases that take new rows -/

section Ready

variable {server : Server} {newRow : Nat → Uuid} {n i : Nat} {db : Rows}

/-- What holds before number `i` of `n` operations: the UUIDs to come are different and not used. -/
structure Ready (server : Server) (newRow : Nat → Uuid) (n i : Nat) (db : Rows) : Prop where
  intact : server.scheme.Intact db
  switch : ∃ o row, db "Open_vSwitch" o = some row
  distinct : ∀ j k, j < n → k < n → newRow j = newRow k → j = k
  fresh : ∀ j, i ≤ j → j < n → ∀ table, db table (newRow j) = none

theorem Ready.insert (h : Ready server newRow n i db) (hi : i < n) {table : String}
    {row : Row}
    (hrefs : ∀ target ∈ server.scheme.refs table row, ∃ r, db target.1 target.2 = some r) :
    Ready server newRow n (i + 1) (db.insert table (newRow i) row) where
  intact := h.intact.insert (h.fresh i le_rfl hi table) hrefs
  switch := by
    rcases h.switch with ⟨o, switch, ho⟩
    exact ⟨o, switch, Store.within_insert (h.fresh i le_rfl hi table) _ _ _ ho⟩
  distinct := h.distinct
  fresh j hj hn t := by
    have hne : ¬ (t = table ∧ newRow j = newRow i) := by
      rintro ⟨-, heq⟩
      have hji := h.distinct j i hn hi heq
      omega
    rw [Store.insert, if_neg hne]
    exact h.fresh j (by omega) hn t

/-- A row that no switch leads to is not in the topology. -/
theorem view_insert (hschema : server.HasSchema) (h : Ready server newRow n i db) (hi : i < n)
    {table : String} (hne : table ≠ "Open_vSwitch") (row : Row) :
    view (db.insert table (newRow i) row) = view db := by
  have hwithin : db.Within (db.insert table (newRow i) row) :=
    Store.within_insert (h.fresh i le_rfl hi table)
  apply view_within (hschema.resolved h.intact) fun t _ => hwithin t
  intro o
  rw [Store.insert, if_neg fun heq => hne heq.1.symm]

theorem Ready.change (h : Ready server newRow n i db) {table : String}
    {matching : Uuid → Row → Prop} {f : Row → Row}
    (hrefs : ∀ k row, db table k = some row → matching k row →
      ∀ target ∈ server.scheme.refs table (f row),
        target ∈ server.scheme.refs table row ∨ ∃ r, db target.1 target.2 = some r) :
    Ready server newRow n (i + 1) (db.change table matching f) where
  intact := h.intact.change hrefs
  switch := by
    rcases h.switch with ⟨o, switch, ho⟩
    by_cases hmatch : "Open_vSwitch" = table ∧ matching o switch
    · exact ⟨o, f switch, Store.change_eq_some.mpr ⟨switch, ho, .inl ⟨hmatch, rfl⟩⟩⟩
    · exact ⟨o, switch, Store.change_eq_some.mpr ⟨switch, ho, .inr ⟨hmatch, rfl⟩⟩⟩
  distinct := h.distinct
  fresh j hj hn t := by
    rw [Store.change, h.fresh j (by omega) hn t]
    rfl

/-- A reference to a row that is there is added. -/
theorem Ready.linked (hschema : server.HasSchema) (h : Ready server newRow n i db)
    {table column target : String} {u : Uuid} {matching : Uuid → Row → Prop} {r : Row}
    (htarget : refTable table column = some target) (hthere : db target u = some r) :
    Ready server newRow n (i + 1) (db.change table matching (linked column u)) := by
  apply h.change
  rintro k row - - t ⟨c, e, hmem, href⟩
  rw [Server.linked] at hmem
  split at hmem
  case isFalse => exact .inl ⟨c, e, hmem, href⟩
  case isTrue hcolumn =>
    rcases hmem with hmem | hmem
    · exact .inl ⟨c, e, hmem, href⟩
    · rw [hcolumn, hschema.refers table column target htarget] at href
      rcases t with ⟨t, v⟩
      rcases href with ⟨rfl, rfl⟩
      rw [ref_inj hmem]
      exact .inr ⟨r, hthere⟩

/-- A column is written that holds no references but to rows that are there. -/
theorem Ready.put (h : Ready server newRow n i db) {table column : String} {value : Set Element}
    {matching : Uuid → Row → Prop}
    (hvalue : ∀ e ∈ value, ∀ target ∈ server.refersTo table column e,
      ∃ r, db target.1 target.2 = some r) :
    Ready server newRow n (i + 1) (db.change table matching (put column value)) := by
  apply h.change
  rintro k row - - target ⟨c, e, hmem, href⟩
  by_cases hc : c = column
  case pos =>
    rw [hc, put_self] at hmem
    exact .inr (hvalue e hmem target (hc ▸ href))
  case neg =>
    rw [put_other _ _ hc] at hmem
    exact .inl ⟨c, e, hmem, href⟩

end Ready

/-! ### Names that are added -/

/-- Rows of these names, and no others, are added. -/
structure Extends (targets : List Target) (db db' : Rows) : Prop where
  tables : ∀ target ∈ targets, target.1 ∈ namedTables
  holds : ∀ target, target.1 ∈ namedTables → Holds db' target → Holds db target ∨ target ∈ targets
  indexed : Indexed db → targets.Nodup → (∀ target ∈ targets, ¬ Holds db target) → Indexed db'

section Extends

variable {db db' db'' : Rows} {targets targets' : List Target}

theorem Extends.refl (db : Rows) : Extends [] db db where
  tables _ h := absurd h List.not_mem_nil
  holds _ _ h := .inl h
  indexed h _ _ := h

theorem Extends.trans (h : Extends targets db db') (h' : Extends targets' db' db'') :
    Extends (targets ++ targets') db db'' where
  tables := List.forall_mem_append.mpr ⟨h.tables, h'.tables⟩
  holds target htable hholds := by
    rcases h'.holds target htable hholds with hholds | hmem
    · rcases h.holds target htable hholds with hholds | hmem
      · exact .inl hholds
      · exact .inr (List.mem_append_left _ hmem)
    · exact .inr (List.mem_append_right _ hmem)
  indexed hindexed hnodup hnew := by
    rcases List.nodup_append.mp hnodup with ⟨hfirst, hsecond, hdisjoint⟩
    apply h'.indexed _ hsecond
    · intro target hmem hholds
      rcases h.holds target (h'.tables target hmem) hholds with hholds | hmem'
      · exact hnew target (List.mem_append_right _ hmem) hholds
      · exact hdisjoint target hmem' target hmem rfl
    · exact h.indexed hindexed hfirst fun target hmem => hnew target (List.mem_append_left _ hmem)

/-- Rows whose names do not change. -/
theorem extends_change {table : String} {matching : Uuid → Row → Prop} {f : Row → Row}
    (hname : ∀ row, f row "name" = row "name") : Extends [] db (db.change table matching f) := by
  have hold : ∀ {t u row}, db.change table matching f t u = some row →
      ∃ row', db t u = some row' ∧ row' "name" = row "name" := by
    intro t u row hrow
    rcases Store.change_eq_some.mp hrow with ⟨row', hrow', ⟨-, rfl⟩ | ⟨-, rfl⟩⟩
    · exact ⟨row', hrow', (hname row').symm⟩
    · exact ⟨row, hrow', rfl⟩
  constructor
  case tables => exact fun target hmem => absurd hmem List.not_mem_nil
  case holds =>
    rintro target - ⟨u, row, hrow, htext⟩
    rcases hold hrow with ⟨row', hrow', hsame⟩
    exact .inl ⟨u, row', hrow', hsame.trans htext⟩
  case indexed => exact fun hindexed _ _ => hindexed.of_names fun table _ u row hrow => hold hrow

theorem Extends.change (h : Extends targets db db') {table : String}
    {matching : Uuid → Row → Prop} {f : Row → Row} (hname : ∀ row, f row "name" = row "name") :
    Extends targets db (db'.change table matching f) := by
  have hboth : Extends (targets ++ []) db (db'.change table matching f) :=
    h.trans (extends_change hname)
  rwa [List.append_nil] at hboth

theorem extends_insert {table name : String} {u : Uuid} {row : Row} (htable : table ∈ namedTables)
    (hname : row "name" = {text name}) : Extends [(table, name)] db (db.insert table u row) where
  tables target hmem := by
    rw [List.mem_singleton.mp hmem]
    exact htable
  holds target _ hholds := by
    rcases hholds with ⟨v, row', hrow', htext⟩
    rcases Store.insert_eq_some.mp hrow' with ⟨⟨htarget, -⟩, rfl⟩ | ⟨-, hrow'⟩
    · rw [hname] at htext
      have hmem : text name ∈ ({text target.2} : Set Element) := htext ▸ rfl
      cases hmem
      exact .inr (by rw [← htarget]; exact List.mem_cons_self)
    · exact .inl ⟨v, row', hrow', htext⟩
  indexed hindexed _ hnew := by
    have hnew := hnew _ List.mem_cons_self
    intro t ht v v' row₁ row₂ h₁ h₂ hsame
    rcases Store.insert_eq_some.mp h₁ with ⟨⟨ht₁, hv⟩, rfl⟩ | ⟨-, h₁⟩
    · rcases Store.insert_eq_some.mp h₂ with ⟨⟨-, hv'⟩, -⟩ | ⟨-, h₂⟩
      · exact hv.trans hv'.symm
      · exact absurd ⟨v', row₂, ht₁ ▸ h₂, hsame.symm.trans hname⟩ hnew
    · rcases Store.insert_eq_some.mp h₂ with ⟨⟨ht₂, -⟩, rfl⟩ | ⟨-, h₂⟩
      · exact absurd ⟨v, row₁, ht₂ ▸ h₁, hsame.trans hname⟩ hnew
      · exact hindexed t ht v v' row₁ row₂ h₁ h₂ hsame

/-- A row of a table in which names may be the same. -/
theorem extends_unnamed {table : String} {u : Uuid} {row : Row} (htable : table ∉ namedTables) :
    Extends [] db (db.insert table u row) := by
  have hold : ∀ {t v row'}, t ∈ namedTables → db.insert table u row t v = some row' →
      db t v = some row' := by
    intro t v row' ht hrow'
    rcases Store.insert_eq_some.mp hrow' with ⟨⟨rfl, -⟩, -⟩ | ⟨-, hrow'⟩
    · exact absurd ht htable
    · exact hrow'
  constructor
  case tables => exact fun target hmem => absurd hmem List.not_mem_nil
  case holds =>
    rintro target ht ⟨v, row', hrow', htext⟩
    exact .inl ⟨v, row', hold ht hrow', htext⟩
  case indexed =>
    exact fun hindexed _ _ => hindexed.of_names fun t ht v row' hrow' =>
      ⟨row', hold ht hrow', rfl⟩

end Extends

/-! ### Operations that are carried out -/

section Runs

variable {server : Server} {fmt : UuidFormat} {names : String → Option Uuid}
  {newRow : Nat → Uuid} {i : Nat} {new : Uuid} {db after after' : Rows} {op : Value}
  {ops ops' : List Value}

theorem lawful_append : server.Lawful (ops ++ ops') ↔ server.Lawful ops ∧ server.Lawful ops' :=
  List.forall_mem_append

theorem lawful_cons : server.Lawful (op :: ops) ↔ server.Lawful [op] ∧ server.Lawful ops := by
  rw [← List.singleton_append, lawful_append]

theorem lawful_singleton {table : String} (htable : tableOf op = some table) :
    server.Lawful [op] ↔ server.LegalRow table (rowOf op) := by
  simp only [Lawful, List.forall_mem_singleton, htable, Option.some.injEq, forall_eq']

/-- The operation leaves these rows, if what it writes is legal, and fails otherwise. -/
def Steps (server : Server) (names : String → Option Uuid) (new : Uuid) (db : Rows) (op : Value)
    (after : Rows) : Prop :=
  ∀ db', server.execute names new db op = some db' ↔ server.Lawful [op] ∧ db' = after

/-- So do operations in order, from number `i` on. -/
def Runs (server : Server) (names : String → Option Uuid) (newRow : Nat → Uuid) (i : Nat)
    (db : Rows) (ops : List Value) (after : Rows) : Prop :=
  ∀ db', server.executeAll names newRow i db ops = some db' ↔ server.Lawful ops ∧ db' = after

theorem runs_nil : Runs server names newRow i db [] db := by
  intro db'
  have hlawful : server.Lawful [] := fun op hop => absurd hop List.not_mem_nil
  simp [executeAll, hlawful, eq_comm]

theorem Runs.cons (h : Steps server names (newRow i) db op after)
    (h' : Runs server names newRow (i + 1) after ops after') :
    Runs server names newRow i db (op :: ops) after' := by
  intro db'
  rw [executeAll, Option.bind_eq_some_iff, lawful_cons, and_assoc, ← h' db']
  constructor
  case mp =>
    rintro ⟨middle, hstep, hrest⟩
    rcases (h middle).mp hstep with ⟨hlawful, rfl⟩
    exact ⟨hlawful, hrest⟩
  case mpr =>
    rintro ⟨hlawful, hrest⟩
    exact ⟨after, (h after).mpr ⟨hlawful, rfl⟩, hrest⟩

theorem Runs.append (h : Runs server names newRow i db ops after)
    (h' : Runs server names newRow (i + ops.length) after ops' after') :
    Runs server names newRow i db (ops ++ ops') after' := by
  intro db'
  rw [executeAll_append, Option.bind_eq_some_iff, lawful_append, and_assoc, ← h' db']
  constructor
  case mp =>
    rintro ⟨middle, hfirst, hrest⟩
    rcases (h middle).mp hfirst with ⟨hlawful, rfl⟩
    exact ⟨hlawful, hrest⟩
  case mpr =>
    rintro ⟨hlawful, hrest⟩
    exact ⟨after, (h after).mpr ⟨hlawful, rfl⟩, hrest⟩

theorem steps_insertOp (h : server.CarriesOut fmt) {table : String}
    (htable : table ∈ topologyTables) {members : List (String × Value)}
    (hnodup : (members.map Prod.fst).Nodup) (k : Nat) :
    Steps server names new db (insertOp table members (rowName k))
      (db.insert table new (newRowOf server names table members)) := by
  intro db'
  have hlawful : server.Lawful [insertOp table members (rowName k)] ↔
      server.LegalRow table members := lawful_singleton rfl
  rw [h.insert names new db db' members k table htable hnodup, hlawful]
  rfl

theorem steps_updateOp (h : server.CarriesOut fmt) (name : String) {column : String}
    (hcolumn : column ∈ ["controller", "fail_mode"]) (v : Value) :
    Steps server names new db (updateOp "Bridge" (columnEq "name" (.string name)) [(column, v)])
      (db.change "Bridge" (Named name) (put column (server.contents names "Bridge" column v))) := by
  intro db'
  have hlawful : server.Lawful
      [updateOp "Bridge" (columnEq "name" (.string name)) [(column, v)]] ↔
        server.LegalRow "Bridge" [(column, v)] := lawful_singleton rfl
  rw [h.update names new db db' name v column hcolumn, hlawful, LegalRow,
    List.forall_mem_singleton]

theorem steps_addRef (h : server.CarriesOut fmt) {table column name : String} {condition : Value}
    {matching : Uuid → Row → Prop} {u : Uuid}
    (hcolumn : (table, column) ∈ [("Open_vSwitch", "bridges"), ("Bridge", "ports")])
    (hcondition : Condition fmt table condition matching) (hname : names name = some u) :
    Steps server names new db (mutateOp table condition [addRef fmt column (.named name)])
      (db.change table matching (linked column u)) := by
  intro db'
  have hlawful : server.Lawful [mutateOp table condition [addRef fmt column (.named name)]] :=
    (lawful_singleton rfl).mpr fun m hm => absurd hm List.not_mem_nil
  rw [h.addRef names new db table column condition matching name u hcolumn hcondition hname]
  simp [hlawful, eq_comm]

end Runs

/-! ### Operations that have a meaning -/

/-- The names of the inserts stand for the new rows. -/
def Resolves (names : String → Option Uuid) (newRow : Nat → Uuid) : Nat → List Value → Prop
  | _, [] => True
  | i, op :: ops =>
    (∀ name, uuidName op = some name → names name = some (newRow i)) ∧
      Resolves names newRow (i + 1) ops

theorem resolves_append {names : String → Option Uuid} {newRow : Nat → Uuid} {i : Nat}
    {ops ops' : List Value} : Resolves names newRow i (ops ++ ops') ↔
      Resolves names newRow i ops ∧ Resolves names newRow (i + ops.length) ops' := by
  induction ops generalizing i with
  | nil => simp [Resolves]
  | cons op ops ih =>
    rw [List.cons_append, Resolves, Resolves, ih, List.length_cons, and_assoc,
      Nat.add_assoc, Nat.add_comm 1]

/-- A database has become another one, of this topology. -/
structure Becomes (server : Server) (newRow : Nat → Uuid) (n i : Nat) (targets : List Target)
    (meaning : Topology → Topology) (db db' : Rows) : Prop where
  ready : Ready server newRow n i db'
  names : Extends targets db db'
  elsewhere : Elsewhere db db'
  topology : view db' = meaning (view db)

/-- Carrying out the operations adds rows of these names and changes the topology so, unless a value
    that they write is not legal. -/
def Means (server : Server) (ops : List Value) (targets : List Target)
    (meaning : Topology → Topology) : Prop :=
  ∀ names newRow n i db, i + ops.length ≤ n → Ready server newRow n i db →
    Resolves names newRow i ops → ∃ after, Runs server names newRow i db ops after ∧
      Becomes server newRow n (i + ops.length) targets meaning db after

/-- So do the operations that the program appends. -/
def Performs {α : Type} (server : Server) (program : Build α) (targets : List Target)
    (meaning : Topology → Topology) : Prop :=
  ∀ txn, ∃ ops, (program.run txn).2.operations = txn.operations ++ ops ∧
    Means server ops targets meaning

section Performs

variable {server : Server} {α β : Type} {program : Build α} {targets targets' : List Target}
  {meaning meaning' : Topology → Topology}

theorem performs_pure (a : α) : Performs server (pure a : Build α) [] id :=
  fun _ => ⟨[], (List.append_nil _).symm, fun _ _ _ _ db _ hready _ =>
    ⟨db, runs_nil, hready, .refl db, .refl db, rfl⟩⟩

/-- **Programs that run one after the other** add what both add, and the meanings compose. -/
theorem Performs.bind {next : α → Build β} (h : Performs server program targets meaning)
    (hnext : ∀ a, Performs server (next a) targets' meaning') :
    Performs server (program >>= next) (targets ++ targets') (meaning' ∘ meaning) := by
  intro txn
  rcases h txn with ⟨ops, hrun, hmeans⟩
  rcases hnext (program.run txn).1 (program.run txn).2 with ⟨ops', hrun', hmeans'⟩
  refine ⟨ops ++ ops', ?_, ?_⟩
  · have hbind : ((program >>= next).run txn).2 =
        ((next (program.run txn).1).run (program.run txn).2).2 := rfl
    rw [hbind, hrun', hrun, List.append_assoc]
  · intro names newRow n i db hn hready hresolves
    rcases resolves_append.mp hresolves with ⟨hfirst, hsecond⟩
    rw [List.length_append] at hn
    rcases hmeans names newRow n i db (by omega) hready hfirst with ⟨after, hruns, hbecomes⟩
    rcases hmeans' names newRow n _ after (by omega) hbecomes.ready hsecond with
      ⟨after', hruns', hbecomes'⟩
    refine ⟨after', hruns.append hruns', ?_⟩
    rw [List.length_append, ← Nat.add_assoc]
    constructor
    case ready => exact hbecomes'.ready
    case names => exact hbecomes.names.trans hbecomes'.names
    case elsewhere => exact hbecomes.elsewhere.trans hbecomes'.elsewhere
    case topology => rw [hbecomes'.topology, hbecomes.topology, Function.comp_apply]

theorem Performs.discard (h : Performs server program targets meaning) :
    Performs server (Functor.discard program) targets meaning := h

/-- Calls in order have their meanings in order. -/
theorem performs_forM {program : α → Build Unit} {targets : α → List Target}
    {meaning : α → Topology → Topology} {as : List α}
    (h : ∀ a ∈ as, Performs server (program a) (targets a) (meaning a)) :
    Performs server (as.forM program) (as.flatMap targets)
      fun t => as.foldl (fun t a => meaning a t) t := by
  induction as with
  | nil => exact performs_pure ()
  | cons a as ih =>
    rcases List.forall_mem_cons.mp h with ⟨ha, has⟩
    exact ha.bind fun _ => ih has

end Performs

end Rovs.Ovsdb.Server

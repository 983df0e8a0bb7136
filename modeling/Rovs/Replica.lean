import Rovs.Idl

/-!
# The IDL is a replica

The server holds a database, of which the client monitors some tables and columns.  It
reports the initial contents and then every change: an inserted row with `new`, a
modified row with the changed columns under `old` and all columns under `new`, and a
deleted row with `old`.  After the initial report and any number of changes the IDL
holds the rows and the column values of the server.

`idl_replicates` is the main result.  `Replicates` is the simulation relation, and each
report of a change is one step of it.
-/

namespace Rovs.Ovsdb

open Json

/-! ### The server's database -/

/-- The contents of a row: the values of its monitored columns. -/
abbrev RowContents := String → Option Value

/-- The request asks for a column of a table. -/
def Monitors (requests : HashMap String Value) (table column : String) : Prop :=
  ∃ request columns, requests.lookup table = some request ∧
    request.get "columns" = some (.array columns) ∧ .string column ∈ columns

/-- What the server holds of the tables and columns that the request asks for; every
    row has a value for each monitored column. -/
structure Database (requests : HashMap String Value) where
  row : String → Uuid → Option RowContents
  monitored : ∀ {table uuid contents}, row table uuid = some contents →
    (requests.lookup table).isSome = true
  complete : ∀ {table uuid contents}, row table uuid = some contents →
    ∀ column, (contents column).isSome = true ↔ Monitors requests table column

def Database.empty (requests : HashMap String Value) : Database requests where
  row _ _ := none
  monitored h := by cases h
  complete h := by cases h

/-! ### Reports -/

/-- The JSON object of some columns and their values. -/
def Encodes (json : Value) (columns : RowContents) : Prop :=
  ∃ members, json = .object members ∧ DistinctKeys members ∧
    ∀ column, members.lookup column = columns column

/-- The columns that a modification changes, with their values before it. -/
def ChangedColumns (before after changed : RowContents) : Prop :=
  ∀ column value, changed column = some value ↔
    before column = some value ∧ after column ≠ some value

/-- The report of an inserted, modified or deleted row. -/
inductive RowReport : Option RowContents → Option RowContents → List (String × Value) → Prop
  | insert {after members new} (hold : members.lookup "old" = none)
      (hnew : members.lookup "new" = some new) (hafter : Encodes new after) :
      RowReport none (some after) members
  | modify {before after changed members old new} (hold : members.lookup "old" = some old)
      (hchanged : ChangedColumns before after changed) (hbefore : Encodes old changed)
      (hnew : members.lookup "new" = some new) (hafter : Encodes new after) :
      RowReport (some before) (some after) members
  | delete {before members old} (hold : members.lookup "old" = some old)
      (hbefore : Encodes old before) (hnew : members.lookup "new" = none) :
      RowReport (some before) none members

/-- The report of a table: the rows that changed, in any order. -/
def TableReport (fmt : UuidFormat) (before after : Uuid → Option RowContents)
    (tableUpdate : Value) : Prop :=
  ∃ members, tableUpdate = .object members ∧ DistinctKeys members ∧
    (∀ member ∈ members, ∃ uuid, member.1 = fmt.display uuid) ∧
    ∀ uuid, (members.lookup (fmt.display uuid)).elim (before uuid = after uuid) fun rowUpdate =>
      ∃ rowMembers, rowUpdate = .object rowMembers ∧
        RowReport (before uuid) (after uuid) rowMembers

/-- The report of a change of the database: the tables that changed, in any order. -/
def Reports {requests : HashMap String Value} (fmt : UuidFormat)
    (before after : Database requests) (update : Value) : Prop :=
  ∃ members, update = .object members ∧ DistinctKeys members ∧
    ∀ table, (members.lookup table).elim (before.row table = after.row table)
      (TableReport fmt (before.row table) (after.row table))

/-- A history of changes with its reports. -/
inductive History {requests : HashMap String Value} (fmt : UuidFormat) :
    Database requests → List Value → Database requests → Prop
  | nil (database) : History fmt database [] database
  | cons {before next after update updates} (hreport : Reports fmt before next update)
      (hrest : History fmt next updates after) : History fmt before (update :: updates) after

/-! ### One row -/

/-- The client's row has the UUID and the column values of the server's row. -/
def RowMatches (uuid : Uuid) (row : Option Row) (contents : Option RowContents) : Prop :=
  row.map (fun row => (row.uuid, row.get)) = contents.map (uuid, ·)

theorem rowMatches_none {uuid : Uuid} {row : Option Row} :
    RowMatches uuid row none ↔ row = none := by
  rw [RowMatches, Option.map_none, Option.map_eq_none_iff]

theorem rowMatches_some {uuid : Uuid} {row : Option Row} {contents : RowContents} :
    RowMatches uuid row (some contents) ↔ ∃ r, row = some r ∧ r.uuid = uuid ∧ r.get = contents := by
  rw [RowMatches, Option.map_some, Option.map_eq_some_iff]
  simp only [Prod.mk.injEq]

theorem Row.uuid_updateFrom (row : Row) (new : Value) : (row.updateFrom new).uuid = row.uuid := by
  rw [updateFrom]
  split <;> rfl

theorem Row.get_updateFrom (row : Row) {new : Value} {contents : RowContents}
    (hnew : Encodes new contents) (column : String) :
    (row.updateFrom new).get column = (contents column).or (row.get column) := by
  obtain ⟨members, rfl, hdistinct, hlookup⟩ := hnew
  have hupdate := row.get_update (HashMap.ofList members) column
  rw [HashMap.lookup_ofList hdistinct, hlookup] at hupdate
  exact hupdate

/-- A report leads from the row before the change to the row after it, provided that the
    columns of a modified row are the same before and after. -/
theorem updatedRow_matches {uuid : Uuid} {row : Option Row} {before after : Option RowContents}
    {members : List (String × Value)} (hreport : RowReport before after members)
    (hcolumns : ∀ b a, before = some b → after = some a →
      ∀ column, (b column).isSome = true → (a column).isSome = true)
    (hrow : RowMatches uuid row before) :
    RowMatches uuid (Idl.updatedRow uuid (.object members) row) after := by
  cases hreport with
  | @insert contents _ new hold hnew hafter =>
    rw [rowMatches_none] at hrow
    subst hrow
    rw [rowMatches_some]
    refine ⟨(Row.new uuid).updateFrom new, ?_, ?_, ?_⟩
    · simp only [Idl.updatedRow, Value.asObject, hold, hnew, Option.getD_none]
      rfl
    · exact (Row.new uuid).uuid_updateFrom new
    · funext column
      rw [Row.get_updateFrom _ hafter, Row.get_new, Option.or_none]
  | @modify b a changed _ old new hold hchanged hbefore hnew hafter =>
    obtain ⟨r, rfl, huuid, hget⟩ := rowMatches_some.mp hrow
    rw [rowMatches_some]
    refine ⟨r.updateFrom new, ?_, ?_, ?_⟩
    · simp only [Idl.updatedRow, Value.asObject, hold, hnew, Option.getD_some]
      rfl
    · rw [r.uuid_updateFrom, huuid]
    · funext column
      rw [r.get_updateFrom hafter, hget]
      cases ha : a column with
      | some value => rfl
      | none =>
        have hcolumn := hcolumns b a rfl rfl column
        cases hb : b column with
        | none => rfl
        | some value =>
          rw [ha, hb] at hcolumn
          cases hcolumn rfl
  | delete hold hbefore hnew =>
    rw [rowMatches_none]
    simp only [Idl.updatedRow, Value.asObject, hold, hnew]
    rfl

/-! ### The whole database -/

/-- The rows of the IDL and their column values are those of the database. -/
def Replicates {requests : HashMap String Value} (idl : Idl) (database : Database requests) :
    Prop :=
  ∀ table uuid, RowMatches uuid (idl.row table uuid) (database.row table uuid)

section Replica

variable {fmt : UuidFormat} {requests : HashMap String Value}

theorem row_of_tableReport {before after : Uuid → Option RowContents} {tableUpdate : Value}
    (hreport : TableReport fmt before after tableUpdate) (idl : Idl) (table : String)
    (uuid : Uuid) :
    (idl.processTableUpdate fmt table tableUpdate).row table uuid =
      (tableUpdate.get (fmt.display uuid)).elim (idl.row table uuid)
        fun update => Idl.updatedRow uuid update (idl.row table uuid) := by
  obtain ⟨members, rfl, hdistinct, hkeys, -⟩ := hreport
  exact idl.row_processTableUpdate fmt table uuid hdistinct hkeys

theorem Database.same_columns (before after : Database requests) {table : String} {uuid : Uuid}
    {b a : RowContents} (hbefore : before.row table uuid = some b)
    (hafter : after.row table uuid = some a) (column : String)
    (h : (b column).isSome = true) : (a column).isSome = true :=
  (after.complete hafter column).mpr ((before.complete hbefore column).mp h)

theorem Replicates.processUpdate {idl : Idl} {before after : Database requests} {update : Value}
    (h : Replicates idl before) (hreport : Reports fmt before after update) :
    Replicates (idl.processUpdate fmt update) after := by
  obtain ⟨tables, rfl, hdistinct, htables⟩ := hreport
  intro table uuid
  have hmatches := h table uuid
  have htable : ∀ (idl : Idl) tableUpdate, (table, tableUpdate) ∈ tables →
      (idl.processTableUpdate fmt table tableUpdate).row table uuid =
        (tableUpdate.get (fmt.display uuid)).elim (idl.row table uuid)
          fun update => Idl.updatedRow uuid update (idl.row table uuid) := by
    intro idl tableUpdate hmem
    have hreport := htables table
    rw [hdistinct.lookup_of_mem hmem] at hreport
    exact row_of_tableReport hreport idl table uuid
  have hchange := htables table
  rw [idl.row_processUpdate fmt table uuid (fun tableUpdate row =>
    (tableUpdate.get (fmt.display uuid)).elim row fun update => Idl.updatedRow uuid update row)
    hdistinct htable]
  cases htable' : tables.lookup table with
  | none =>
    rw [htable'] at hchange
    rw [← congrFun hchange uuid]
    exact hmatches
  | some tableUpdate =>
    rw [htable'] at hchange
    obtain ⟨members, rfl, -, -, hrows⟩ := hchange
    have hrow := hrows uuid
    cases hrow' : members.lookup (fmt.display uuid) with
    | none =>
      rw [hrow'] at hrow
      simp only [Option.elim_some, Value.get, hrow', Option.elim_none]
      rw [← hrow]
      exact hmatches
    | some rowUpdate =>
      rw [hrow'] at hrow
      obtain ⟨rowMembers, rfl, hreport⟩ := hrow
      simp only [Option.elim_some, Value.get, hrow']
      exact updatedRow_matches hreport
        (fun b a hb ha column => before.same_columns after hb ha column) hmatches

/-- The rows that the IDL lists are rows of the server. -/
theorem Replicates.row_of_mem_rows {idl : Idl} {database : Database requests}
    (h : Replicates idl database) {table : String} {r : Row} (hr : r ∈ idl.rows table) :
    database.row table r.uuid = some r.get := by
  obtain ⟨uuid, hrow⟩ := Idl.mem_rows.mp hr
  have hmatches := h table uuid
  rw [hrow, RowMatches, Option.map_some, eq_comm, Option.map_eq_some_iff] at hmatches
  obtain ⟨contents, hcontents, heq⟩ := hmatches
  cases heq
  exact hcontents

theorem Replicates.foldl_processUpdate {idl : Idl} {before after : Database requests}
    {updates : List Value} (h : Replicates idl before)
    (hhistory : History fmt before updates after) :
    Replicates (updates.foldl (Idl.processUpdate fmt) idl) after := by
  induction hhistory generalizing idl with
  | nil => exact h
  | cons hreport _ ih => exact ih (h.processUpdate hreport)

theorem changeSeqno_foldl (fmt : UuidFormat) (updates : List Value) (idl : Idl) :
    (updates.foldl (Idl.processUpdate fmt) idl).changeSeqno =
      idl.changeSeqno + BitVec.ofNat 64 updates.length := by
  induction updates generalizing idl with
  | nil => exact (BitVec.add_zero _).symm
  | cons update updates ih =>
    rw [List.foldl_cons, ih, Idl.changeSeqno_processUpdate, List.length_cons, BitVec.add_assoc,
      Nat.add_comm, BitVec.ofNat_add]
    rfl

theorem replicates_setSchema (schema : DbSchema) (requests : HashMap String Value) :
    Replicates (Idl.new.setSchema schema) (Database.empty requests) := by
  intro table uuid
  rw [Idl.row_setSchema_new]
  rfl

end Replica

/-- **After the initial reply and any history of changes the IDL holds exactly the rows and
    the column values of the server, and the sequence number counts the updates.** -/
theorem idl_replicates (fmt : UuidFormat) (schema : DbSchema) (tables : Option (List String))
    (initial current : Database (monitorRequests tables schema)) (reply : Value)
    (updates : List Value) (hreply : Reports fmt (Database.empty _) initial reply)
    (hupdates : History fmt initial updates current) :
    Replicates (updates.foldl (Idl.processUpdate fmt) (Idl.start fmt .v1 schema reply)) current ∧
      (updates.foldl (Idl.processUpdate fmt) (Idl.start fmt .v1 schema reply)).changeSeqno =
        BitVec.ofNat 64 (updates.length + 1) := by
  have hempty := replicates_setSchema schema (monitorRequests tables schema)
  have hinitial : Replicates (Idl.start fmt .v1 schema reply) initial :=
    hempty.processUpdate hreply
  have hseqno : (Idl.start fmt .v1 schema reply).changeSeqno = 1 :=
    Idl.changeSeqno_processUpdate fmt (Idl.new.setSchema schema) reply
  refine ⟨hinitial.foldl_processUpdate hupdates, ?_⟩
  rw [changeSeqno_foldl, hseqno, Nat.add_comm, BitVec.ofNat_add]
  rfl

/-! ### A bridge that is deleted and inserted again -/

def bridgeSchema : DbSchema where
  name := "Open_vSwitch"
  version := "8.3.0"
  tables := AList.singleton "Bridge" ⟨["name"]⟩

abbrev bridgeRequests : HashMap String Value := monitorRequests none bridgeSchema

theorem monitors_bridge {table column : String} :
    Monitors bridgeRequests table column ↔ table = "Bridge" ∧ column = "name" := by
  constructor
  · rintro ⟨request, columns, hrequest, hcolumns, hmem⟩
    have hmem' := mem_of_lookup ((HashMap.lookup_toList bridgeRequests table).trans hrequest)
    rcases List.mem_singleton.mp hmem' with heq
    cases heq
    cases hcolumns
    rcases List.mem_singleton.mp hmem with heq
    cases heq
    exact ⟨rfl, rfl⟩
  · rintro ⟨rfl, rfl⟩
    exact ⟨_, _, rfl, rfl, List.mem_singleton.mpr rfl⟩

def bridgeNamed (name : String) : RowContents := fun column =>
  if column = "name" then some (.string name) else none

def bridgeJson (name : String) : Value := .object [("name", .string name)]

def oneBridge (name : String) : Database bridgeRequests where
  row table uuid :=
    if table = "Bridge" ∧ uuid = 1 then some (bridgeNamed name) else none
  monitored := by
    intro table uuid contents h
    split at h
    · rename_i hbridge
      rw [hbridge.1]
      rfl
    · cases h
  complete := by
    intro table uuid contents h column
    split at h
    · rename_i hbridge
      cases h
      rw [monitors_bridge]
      by_cases hcolumn : column = "name" <;> simp [bridgeNamed, hbridge.1, hcolumn]
    · cases h

def bridgeUpdate (fmt : UuidFormat) (rowMembers : List (String × Value)) : Value :=
  .object [("Bridge", .object [(fmt.display 1, .object rowMembers)])]

theorem bridgeUpdate_reports (fmt : UuidFormat) {before after : Database bridgeRequests}
    {rowMembers : List (String × Value)}
    (hreport : RowReport (before.row "Bridge" 1) (after.row "Bridge" 1) rowMembers)
    (hother : ∀ table uuid, ¬ (table = "Bridge" ∧ uuid = 1) →
      before.row table uuid = after.row table uuid) :
    Reports fmt before after (bridgeUpdate fmt rowMembers) := by
  refine ⟨_, rfl, distinctKeys_singleton _, ?_⟩
  intro table
  by_cases htable : table = "Bridge"
  · subst htable
    rw [List.lookup_cons_self]
    refine ⟨_, rfl, distinctKeys_singleton _, ?_, ?_⟩
    · intro member hmem
      rcases List.mem_singleton.mp hmem with rfl
      exact ⟨1, rfl⟩
    · intro uuid
      by_cases huuid : uuid = 1
      · subst huuid
        rw [List.lookup_cons_self]
        exact ⟨rowMembers, rfl, hreport⟩
      · have hkey : fmt.display uuid ≠ fmt.display 1 := fun heq => huuid (fmt.display_inj heq)
        rw [List.lookup_cons, beq_eq_false_iff_ne.mpr hkey]
        exact hother "Bridge" uuid fun h => huuid h.2
  · rw [List.lookup_cons, beq_eq_false_iff_ne.mpr htable]
    funext uuid
    exact hother table uuid fun h => htable h.1

theorem bridgeJson_encodes (name : String) : Encodes (bridgeJson name) (bridgeNamed name) := by
  refine ⟨_, rfl, distinctKeys_singleton _, ?_⟩
  intro column
  by_cases hcolumn : column = "name"
  · subst hcolumn
    rfl
  · rw [List.lookup_cons, beq_eq_false_iff_ne.mpr hcolumn]
    exact (if_neg hcolumn).symm

theorem oneBridge_row_ne (name : String) {table : String} {uuid : Uuid}
    (h : ¬ (table = "Bridge" ∧ uuid = 1)) : (oneBridge name).row table uuid = none := if_neg h

theorem insertBridge_reports (name : String) :
    Reports hyphenated (Database.empty bridgeRequests) (oneBridge name)
      (bridgeUpdate hyphenated [("new", bridgeJson name)]) := by
  refine bridgeUpdate_reports hyphenated (.insert rfl rfl (bridgeJson_encodes name)) ?_
  intro table uuid h
  exact (oneBridge_row_ne name h).symm

theorem deleteBridge_reports (name : String) :
    Reports hyphenated (oneBridge name) (Database.empty bridgeRequests)
      (bridgeUpdate hyphenated [("old", bridgeJson name)]) := by
  refine bridgeUpdate_reports hyphenated (.delete rfl (bridgeJson_encodes name) rfl) ?_
  intro table uuid h
  exact oneBridge_row_ne name h

theorem renameBridge_reports {name newName : String} (hne : name ≠ newName) :
    Reports hyphenated (oneBridge name) (oneBridge newName)
      (bridgeUpdate hyphenated [("old", bridgeJson name),
        ("new", bridgeJson newName)]) := by
  have hchanged : ChangedColumns (bridgeNamed name) (bridgeNamed newName) (bridgeNamed name) := by
    intro column value
    by_cases hcolumn : column = "name"
    · simp only [bridgeNamed, if_pos hcolumn]
      refine ⟨?_, And.left⟩
      rintro ⟨⟩
      refine ⟨rfl, ?_⟩
      intro heq
      cases heq
      exact hne rfl
    · simp [bridgeNamed, hcolumn]
  refine bridgeUpdate_reports hyphenated
    (.modify rfl hchanged (bridgeJson_encodes name) rfl (bridgeJson_encodes newName)) ?_
  intro table uuid h
  rw [oneBridge_row_ne name h, oneBridge_row_ne newName h]

/-- The bridge is renamed, deleted and inserted again under its UUID. -/
def bridgeUpdates : List Value :=
  [bridgeUpdate hyphenated [("old", bridgeJson "br0"), ("new", bridgeJson "br1")],
    bridgeUpdate hyphenated [("old", bridgeJson "br1")],
    bridgeUpdate hyphenated [("new", bridgeJson "br2")]]

theorem bridgeUpdates_history :
    History hyphenated (oneBridge "br0") bridgeUpdates (oneBridge "br2") :=
  .cons (renameBridge_reports (by decide)) (.cons (deleteBridge_reports "br1")
    (.cons (insertBridge_reports "br2") (.nil _)))

theorem idl_replicates_bridge :
    let idl := bridgeUpdates.foldl (Idl.processUpdate hyphenated)
      (Idl.start hyphenated .v1 bridgeSchema (bridgeUpdate hyphenated [("new", bridgeJson "br0")]))
    Replicates idl (oneBridge "br2") ∧ idl.changeSeqno = BitVec.ofNat 64 4 :=
  idl_replicates hyphenated bridgeSchema none (oneBridge "br0") (oneBridge "br2") _ bridgeUpdates
    (insertBridge_reports "br0") bridgeUpdates_history

end Rovs.Ovsdb

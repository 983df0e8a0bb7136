import Rovs.Json
import Rovs.Maps
import Rovs.Uuid

/-!
# The IDL (`rovs-ovsdb/src/idl.rs`)

The client's copy of a database: for each table a map from UUIDs to rows (`row.rs`), and
for each row a map from columns to values.  The client (`client.rs`) asks the server to
monitor tables of the schema (`schema.rs`), and `processUpdate` takes the server's updates
into the copy.
-/

namespace Rovs.Ovsdb

open Json

/-! ### Rows -/

structure Row where
  uuid : Uuid
  columns : HashMap String Value
  modified : Bool

namespace Row

def new (uuid : Uuid) : Row where
  uuid := uuid
  columns := ∅
  modified := false

def get (row : Row) (column : String) : Option Value := row.columns.lookup column

/-- Columns that are not named keep their values. -/
def update (row : Row) (values : HashMap String Value) : Row :=
  { row with
    columns := row.columns.extend values.toList
    modified := true }

/-- Takes over the columns of a JSON object; other values change nothing. -/
def updateFrom (row : Row) (new : Value) : Row :=
  match new.asObject with
  | some newObj => row.update (HashMap.ofList newObj)
  | none => row

theorem get_new (uuid : Uuid) (column : String) : (new uuid).get column = none := rfl

/-- An update of a row shows in the columns that it has, and in no others. -/
theorem get_update (row : Row) (values : HashMap String Value) (column : String) :
    (row.update values).get column = (values.lookup column).or (row.get column) := by
  rw [get, update, HashMap.lookup_extend values.toList_distinct, HashMap.lookup_toList]
  rfl

end Row

/-! ### The schema and the monitor request -/

/-- A table of the schema, by the names of its columns. -/
structure TableSchema where
  columns : List String
deriving DecidableEq, Repr

structure DbSchema where
  name : String
  version : String
  tables : HashMap String TableSchema

/-- What the request says about a table: all of its columns. -/
def TableSchema.monitorRequest (table : TableSchema) : Value :=
  .object [("columns", .array (table.columns.map .string))]

/-- The request for the configured tables, or for all tables; names that are not in the
    schema are left out. -/
def monitorRequests (tables : Option (List String)) (schema : DbSchema) : HashMap String Value :=
  (tables.getD schema.tables.keys).foldl request ∅
where
  request (requests : HashMap String Value) (name : String) : HashMap String Value :=
    match schema.tables.lookup name with
    | some table => requests.insert name table.monitorRequest
    | none => requests

inductive MonitorVersion where
  | v1
  | v2
  | v3
deriving DecidableEq, Repr

/-! ### The IDL -/

inductive IdlState where
  | initial
  | schemaRequested
  | monitorRequested
  | monitoring
deriving DecidableEq, Repr

structure Idl where
  state : IdlState
  schema : Option DbSchema
  tables : HashMap String (HashMap Uuid Row)
  changeSeqno : U64

namespace Idl

def new : Idl where
  state := .initial
  schema := none
  tables := ∅
  changeSeqno := 0

def row (idl : Idl) (table : String) (uuid : Uuid) : Option Row :=
  (idl.tables.lookup table).bind fun rows => rows.lookup uuid

def rows (idl : Idl) (table : String) : List Row :=
  match idl.tables.lookup table with
  | some rows => rows.toList.map Prod.snd
  | none => []

def setSchema (idl : Idl) (schema : DbSchema) : Idl :=
  { idl with
    tables := schema.tables.keys.foldl (fun tables name => tables.insert name ∅) idl.tables
    schema := some schema
    state := .monitorRequested }

/-- The rows of a table after an update of one row.  `old` without `new` deletes the row;
    `new` inserts or changes it. -/
def updateRows (rows : HashMap Uuid Row) (uuid : Uuid) (update : Value) : HashMap Uuid Row :=
  match update.asObject with
  | some obj =>
    if (obj.lookup "old").isSome && (obj.lookup "new").isNone then rows.erase uuid
    else match obj.lookup "new" with
      | some new =>
        rows.insert uuid (((rows.lookup uuid).getD (Row.new uuid)).updateFrom new)
      | none => rows
  | none => rows

/-- A table that is not there yet is created. -/
def processRowUpdate (idl : Idl) (tableName : String) (uuid : Uuid) (update : Value) : Idl :=
  let rows := (idl.tables.lookup tableName).getD ∅
  { idl with tables := idl.tables.insert tableName (updateRows rows uuid update) }

/-- Keys that are no UUID are passed over. -/
def processTableUpdate (fmt : UuidFormat) (idl : Idl) (tableName : String) (update : Value) :
    Idl :=
  match update.asObject with
  | some obj => obj.foldl step idl
  | none => idl
where
  step (idl : Idl) (member : String × Value) : Idl :=
    match fmt.parse member.1 with
    | some uuid => idl.processRowUpdate tableName uuid member.2
    | none => idl

def processUpdate (fmt : UuidFormat) (idl : Idl) (update : Value) : Idl :=
  let updated := match update.asObject with
    | some obj => obj.foldl
        (fun (idl : Idl) (member : String × Value) =>
          idl.processTableUpdate fmt member.1 member.2) idl
    | none => idl
  { updated with changeSeqno := updated.changeSeqno + 1 }

def setMonitoring (idl : Idl) : Idl := { idl with state := .monitoring }

/-- The initial contents; version 3 sends them as the third element of an array. -/
def processMonitorReply (fmt : UuidFormat) (version : MonitorVersion) (idl : Idl)
    (reply : Value) : Idl :=
  match version with
  | .v1 => idl.processUpdate fmt reply
  | .v2 | .v3 =>
    match reply.asArray with
    | some (_ :: _ :: updates :: _) => idl.processUpdate fmt updates
    | _ => idl.processUpdate fmt reply

/-- The client's start: the schema, the reply to the monitor request and the change to
    the monitoring state. -/
def start (fmt : UuidFormat) (version : MonitorVersion) (schema : DbSchema) (reply : Value) :
    Idl :=
  ((new.setSchema schema).processMonitorReply fmt version reply).setMonitoring

theorem mem_rows {idl : Idl} {table : String} {r : Row} :
    r ∈ idl.rows table ↔ ∃ uuid, idl.row table uuid = some r := by
  rw [rows]
  cases h : idl.tables.lookup table with
  | none => simp [row, h]
  | some rows => simp [row, h, HashMap.mem_toList]

/-! ### What a step does to a row -/

theorem row_setSchema_new (schema : DbSchema) (table : String) (uuid : Uuid) :
    (new.setSchema schema).row table uuid = none := by
  have hnone : ∀ (names : List String) (tables : HashMap String (HashMap Uuid Row)),
      (tables.lookup table).bind (·.lookup uuid) = none →
      ((names.foldl (fun tables name => tables.insert name ∅) tables).lookup table).bind
        (·.lookup uuid) = none := by
    intro names
    induction names with
    | nil => exact fun _ h => h
    | cons name names ih =>
      intro tables h
      apply ih
      by_cases hname : table = name
      · subst hname
        rw [AList.lookup_insert]
        rfl
      · rw [AList.lookup_insert_ne hname]
        exact h
  exact hnone _ ∅ rfl

/-- The row with the given UUID after an update of it. -/
def updatedRow (uuid : Uuid) (update : Value) (row : Option Row) : Option Row :=
  match update.asObject with
  | some obj =>
    if (obj.lookup "old").isSome && (obj.lookup "new").isNone then none
    else match obj.lookup "new" with
      | some new => some ((row.getD (Row.new uuid)).updateFrom new)
      | none => row
  | none => row

theorem lookup_updateRows (rows : HashMap Uuid Row) (uuid : Uuid) (update : Value) :
    (updateRows rows uuid update).lookup uuid = updatedRow uuid update (rows.lookup uuid) := by
  rw [updateRows, updatedRow]
  split
  · split
    · exact AList.lookup_erase _ _
    · split
      · exact AList.lookup_insert _
      · rfl
  · rfl

theorem lookup_updateRows_ne (rows : HashMap Uuid Row) {uuid other : Uuid} (h : uuid ≠ other)
    (update : Value) : (updateRows rows other update).lookup uuid = rows.lookup uuid := by
  rw [updateRows]
  split
  · split
    · exact AList.lookup_erase_ne h
    · split
      · exact AList.lookup_insert_ne h
      · rfl
  · rfl

/-- A row update changes the row of its UUID by `updatedRow`, which is all that can be seen of it.
    -/
theorem row_processRowUpdate (idl : Idl) (table : String) (uuid : Uuid) (update : Value) :
    (idl.processRowUpdate table uuid update).row table uuid =
      updatedRow uuid update (idl.row table uuid) := by
  rw [row, processRowUpdate, AList.lookup_insert, Option.bind_some, lookup_updateRows, row]
  cases idl.tables.lookup table <;> rfl

theorem row_processRowUpdate_ne_uuid (idl : Idl) (table : String) {uuid other : Uuid}
    (h : uuid ≠ other) (update : Value) :
    (idl.processRowUpdate table other update).row table uuid = idl.row table uuid := by
  rw [row, processRowUpdate, AList.lookup_insert, Option.bind_some, lookup_updateRows_ne _ h, row]
  cases idl.tables.lookup table <;> rfl

theorem row_processRowUpdate_ne_table (idl : Idl) {table other : String} (h : table ≠ other)
    (uuid otherUuid : Uuid) (update : Value) :
    (idl.processRowUpdate other otherUuid update).row table uuid = idl.row table uuid := by
  rw [row, processRowUpdate, AList.lookup_insert_ne h, row]

theorem row_processTableUpdate_ne (fmt : UuidFormat) (idl : Idl) {table other : String}
    (h : table ≠ other) (uuid : Uuid) (update : Value) :
    (idl.processTableUpdate fmt other update).row table uuid = idl.row table uuid := by
  rw [processTableUpdate]
  split
  · refine foldl_untouched (fun idl : Idl => idl.row table uuid) ?_ idl
    intro idl member _
    rw [processTableUpdate.step]
    split
    · exact row_processRowUpdate_ne_table idl h uuid _ _
    · rfl
  · rfl

theorem row_processTableUpdate (fmt : UuidFormat) (idl : Idl) (table : String) (uuid : Uuid)
    {members : List (String × Value)} (hdistinct : DistinctKeys members)
    (hkeys : ∀ member ∈ members, ∃ u, member.1 = fmt.display u) :
    (idl.processTableUpdate fmt table (.object members)).row table uuid =
      (members.lookup (fmt.display uuid)).elim (idl.row table uuid)
        fun update => updatedRow uuid update (idl.row table uuid) := by
  refine foldl_lookup (fun idl : Idl => idl.row table uuid) (updatedRow uuid) hdistinct ?_ ?_ idl
  · intro idl update _
    rw [processTableUpdate.step, fmt.parse_display]
    exact row_processRowUpdate idl table uuid update
  · rintro idl ⟨key, update⟩ hmem hne
    obtain ⟨other, rfl⟩ := hkeys _ hmem
    rw [processTableUpdate.step, fmt.parse_display]
    refine row_processRowUpdate_ne_uuid idl table ?_ update
    rintro rfl
    exact hne rfl

theorem changeSeqno_processTableUpdate (fmt : UuidFormat) (idl : Idl) (table : String)
    (update : Value) : (idl.processTableUpdate fmt table update).changeSeqno = idl.changeSeqno := by
  rw [processTableUpdate]
  split
  · refine foldl_untouched changeSeqno ?_ idl
    intro idl member _
    rw [processTableUpdate.step]
    split <;> rfl
  · rfl

theorem changeSeqno_processUpdate (fmt : UuidFormat) (idl : Idl) (update : Value) :
    (idl.processUpdate fmt update).changeSeqno = idl.changeSeqno + 1 := by
  rw [processUpdate]
  split
  · refine congrArg (· + 1) (foldl_untouched changeSeqno ?_ idl)
    intro idl member _
    exact changeSeqno_processTableUpdate fmt idl member.1 member.2
  · rfl

/-- An update changes the rows and the sequence number only. -/
theorem state_processUpdate (fmt : UuidFormat) (idl : Idl) (update : Value) :
    (idl.processUpdate fmt update).state = idl.state := by
  rw [processUpdate]
  split
  · refine foldl_untouched state ?_ idl
    intro idl member _
    rw [processTableUpdate]
    split
    · refine foldl_untouched state ?_ idl
      intro idl member _
      rw [processTableUpdate.step]
      split <;> rfl
    · rfl
  · rfl

/-- **The effect of an update on one row**, if the tables in it are different: the row of the table
    and the UUID changes as the report on its table says. -/
theorem row_processUpdate (fmt : UuidFormat) (idl : Idl) (table : String) (uuid : Uuid)
    (upd : Value → Option Row → Option Row) {members : List (String × Value)}
    (hdistinct : DistinctKeys members)
    (htable : ∀ (idl : Idl) tableUpdate, (table, tableUpdate) ∈ members →
      (idl.processTableUpdate fmt table tableUpdate).row table uuid =
        upd tableUpdate (idl.row table uuid)) :
    (idl.processUpdate fmt (.object members)).row table uuid =
      (members.lookup table).elim (idl.row table uuid)
        fun tableUpdate => upd tableUpdate (idl.row table uuid) :=
  foldl_lookup (fun idl : Idl => idl.row table uuid) upd hdistinct htable
    (fun idl member _ hne => row_processTableUpdate_ne fmt idl (Ne.symm hne) uuid member.2) idl

end Idl

end Rovs.Ovsdb

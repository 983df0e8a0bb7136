import Rovs.ClientRuns

/-!
# The IDL under `monitor_cond` and `monitor_cond_since`

For these two monitors the server reports a row under `initial`, `insert`, `modify` or
`delete`, and the second one puts a transaction id before the updates.  The client reads
neither form: a row update without `old` and `new` changes nothing, and the transaction id is
taken for the updates.  So the IDL never holds a row, and it is a replica only of a database
without rows.

`cond_replicates_iff` is the main result, over every history of the database and every run of
a client.
-/

namespace Rovs.Ovsdb

open Json
open JsonRpc (Message Request)

/-! ### Reports -/

/-- A value that is an atom. -/
def IsScalar : Value → Prop
  | .bool _ => True
  | .number _ => True
  | .string _ => True
  | .array [.string tag, .string _] => tag = "uuid"
  | _ => False

/-- The columns that a modification changes, with their values after it. -/
def ChangedTo (before after changed : RowContents) : Prop :=
  ∀ column value, changed column = some value ↔
    after column = some value ∧ before column ≠ some value

/-- The report of a row: of the initial contents, inserted, modified in scalar columns, or
    deleted. -/
inductive CondRowReport : Option RowContents → Option RowContents → Value → Prop
  | initial {after columns} (hafter : Encodes columns after) :
      CondRowReport none (some after) (.object [("initial", columns)])
  | insert {after columns} (hafter : Encodes columns after) :
      CondRowReport none (some after) (.object [("insert", columns)])
  | modify {before after changed columns} (hchanged : ChangedTo before after changed)
      (hscalar : ∀ column value, changed column = some value → IsScalar value)
      (hcolumns : Encodes columns changed) :
      CondRowReport (some before) (some after) (.object [("modify", columns)])
  | delete {before} : CondRowReport (some before) none (.object [("delete", .null)])

/-- The report of a table: the rows that changed, in any order. -/
def CondTableReport (fmt : UuidFormat) (before after : Uuid → Option RowContents)
    (tableUpdate : Value) : Prop :=
  ∃ members, tableUpdate = .object members ∧ DistinctKeys members ∧
    (∀ member ∈ members, ∃ uuid, member = (fmt.display uuid, member.2) ∧
      CondRowReport (before uuid) (after uuid) member.2) ∧
    ∀ uuid, members.lookup (fmt.display uuid) = none → before uuid = after uuid

/-- The report of a change of the database: the tables that changed, in any order. -/
def CondReports {requests : HashMap String Value} (fmt : UuidFormat)
    (before after : Database requests) (update : Value) : Prop :=
  ∃ members, update = .object members ∧ DistinctKeys members ∧
    (∀ member ∈ members,
      CondTableReport fmt (before.row member.1) (after.row member.1) member.2) ∧
    ∀ table, members.lookup table = none → before.row table = after.row table

/-- A history of changes with its reports. -/
inductive CondHistory {requests : HashMap String Value} (fmt : UuidFormat) :
    Database requests → List Value → Database requests → Prop
  | nil (database) : CondHistory fmt database [] database
  | cons {before next after update updates} (hreport : CondReports fmt before next update)
      (hrest : CondHistory fmt next updates after) :
      CondHistory fmt before (update :: updates) after

/-! ### Replies and notifications -/

/-- The reply to the monitor request with the initial updates. -/
def IsMonitorReply (version : MonitorVersion) (reply updates : Value) : Prop :=
  match version with
  | .v1 => reply = updates
  | .v2 => reply = updates
  | .v3 => ∃ found txnId, reply = .array [.bool found, .string txnId, updates]

/-- The notification of updates. -/
def Notifies (version : MonitorVersion) (req : Request) (updates : Value) : Prop :=
  match version with
  | .v1 => req.method = "update" ∧ ∃ monitorId, req.params = .array [monitorId, updates]
  | .v2 => req.method = "update2" ∧ ∃ monitorId, req.params = .array [monitorId, updates]
  | .v3 => req.method = "update3" ∧
      ∃ monitorId txnId, req.params = .array [monitorId, .string txnId, updates]

/-! ### Updates that change no row -/

section Inert

variable {fmt : UuidFormat} {requests : HashMap String Value}

/-- The update changes no row of any IDL. -/
def Inert (fmt : UuidFormat) (update : Value) : Prop :=
  ∀ (idl : Idl) (table : String) (uuid : Uuid),
    (idl.processUpdate fmt update).row table uuid = idl.row table uuid

theorem updatedRow_of_no_old_new {update : Value} (hold : update.get "old" = none)
    (hnew : update.get "new" = none) (uuid : Uuid) (row : Option Row) :
    Idl.updatedRow uuid update row = row := by
  cases update with
  | object members =>
    rw [Value.get] at hold hnew
    simp only [Idl.updatedRow, Value.asObject, hold, hnew]
    rfl
  | _ => rfl

/-- A row update without `old` and `new` changes no row. -/
theorem row_processRowUpdate_of_no_old_new {update : Value} (hold : update.get "old" = none)
    (hnew : update.get "new" = none) (idl : Idl) (table other : String) (uuid otherUuid : Uuid) :
    (idl.processRowUpdate other otherUuid update).row table uuid = idl.row table uuid := by
  by_cases htable : table = other
  · subst htable
    by_cases huuid : uuid = otherUuid
    · subst huuid
      rw [Idl.row_processRowUpdate, updatedRow_of_no_old_new hold hnew]
    · exact Idl.row_processRowUpdate_ne_uuid idl table huuid update
  · exact Idl.row_processRowUpdate_ne_table idl htable uuid otherUuid update

theorem CondRowReport.no_old_new {before after : Option RowContents} {update : Value}
    (h : CondRowReport before after update) :
    update.get "old" = none ∧ update.get "new" = none := by
  cases h <;> exact ⟨rfl, rfl⟩

theorem CondTableReport.row_processTableUpdate {before after : Uuid → Option RowContents}
    {tableUpdate : Value} (h : CondTableReport fmt before after tableUpdate) (idl : Idl)
    (table other : String) (uuid : Uuid) :
    (idl.processTableUpdate fmt other tableUpdate).row table uuid = idl.row table uuid := by
  rcases h with ⟨members, rfl, -, hmembers, -⟩
  refine foldl_untouched (fun idl : Idl => idl.row table uuid) ?_ idl
  intro idl member hmem
  rcases hmembers member hmem with ⟨otherUuid, -, hreport⟩
  rcases hreport.no_old_new with ⟨hold, hnew⟩
  rw [Idl.processTableUpdate.step]
  cases fmt.parse member.1 with
  | some parsed => exact row_processRowUpdate_of_no_old_new hold hnew idl table other uuid parsed
  | none => rfl

theorem CondReports.inert {before after : Database requests} {update : Value}
    (h : CondReports fmt before after update) : Inert fmt update := by
  rcases h with ⟨members, rfl, -, htables, -⟩
  intro idl table uuid
  refine foldl_untouched (fun idl : Idl => idl.row table uuid) ?_ idl
  intro idl member hmem
  exact (htables member hmem).row_processTableUpdate idl table member.1 uuid

theorem inert_string (fmt : UuidFormat) (s : String) : Inert fmt (.string s) :=
  fun _ _ _ => rfl

theorem CondHistory.inert {before after : Database requests} {updates : List Value}
    (h : CondHistory fmt before updates after) : ∀ update ∈ updates, Inert fmt update := by
  induction h with
  | nil =>
    intro update hmem
    cases hmem
  | cons hreport _ ih =>
    intro update hmem
    rcases List.mem_cons.mp hmem with rfl | hmem
    · exact hreport.inert
    · exact ih update hmem

theorem row_foldl_inert {updates : List Value} (h : ∀ update ∈ updates, Inert fmt update)
    (idl : Idl) (table : String) (uuid : Uuid) :
    (updates.foldl (Idl.processUpdate fmt) idl).row table uuid = idl.row table uuid := by
  induction updates generalizing idl with
  | nil => rfl
  | cons update updates ih =>
    rw [List.foldl_cons, ih fun u hu => h u (List.mem_cons_of_mem _ hu)]
    exact h update (List.mem_cons_self ..) idl table uuid

/-- What the client takes from a notification changes no row: the updates of `monitor_cond`
    do not, and `monitor_cond_since` has the transaction id in their place. -/
theorem Notifies.inert {version : MonitorVersion} (hversion : version ≠ .v1) {req : Request}
    {updates taken : Value} (h : Notifies version req updates) (hupdates : Inert fmt updates)
    (htaken : updateOf req = some taken) : Inert fmt taken := by
  rw [updateOf_eq, Option.ite_none_right_eq_some] at htaken
  have hparam := htaken.2
  cases version with
  | v1 => exact absurd rfl hversion
  | v2 =>
    rcases h with ⟨-, monitorId, hparams⟩
    rw [secondParam, hparams] at hparam
    rw [← Option.some.inj hparam]
    exact hupdates
  | v3 =>
    rcases h with ⟨-, monitorId, txnId, hparams⟩
    rw [secondParam, hparams] at hparam
    rw [← Option.some.inj hparam]
    exact inert_string fmt txnId

theorem row_processMonitorReply {version : MonitorVersion} (hversion : version ≠ .v1)
    {reply updates : Value} (h : IsMonitorReply version reply updates)
    (hreports : ∃ before after : Database requests, CondReports fmt before after updates)
    (idl : Idl) (table : String) (uuid : Uuid) :
    (idl.processMonitorReply fmt version reply).row table uuid = idl.row table uuid := by
  rcases hreports with ⟨before, after, hreports⟩
  cases version with
  | v1 => exact absurd rfl hversion
  | v2 =>
    have hinert := hreports.inert idl table uuid
    rcases hreports with ⟨members, hobject, -⟩
    rw [← show reply = updates from h] at hinert hobject
    rw [hobject] at hinert ⊢
    exact hinert
  | v3 =>
    rcases h with ⟨found, txnId, rfl⟩
    exact hreports.inert idl table uuid

end Inert

/-! ### The replica -/

theorem replicates_iff_of_no_rows {requests : HashMap String Value} {idl : Idl}
    (h : ∀ table uuid, idl.row table uuid = none) (database : Database requests) :
    Replicates idl database ↔ ∀ table uuid, database.row table uuid = none := by
  constructor
  · intro hreplicates table uuid
    have hmatches := hreplicates table uuid
    rw [h, RowMatches, Option.map_none, eq_comm, Option.map_eq_none_iff] at hmatches
    exact hmatches
  · intro hempty table uuid
    rw [hempty, h]
    rfl

/-- Each update that the client has applied came with a notification of the history. -/
theorem Client.InOrder.applied_inert {fmt : Formats} {start client : Client}
    (h : client.InOrder fmt start) {version : MonitorVersion} (hversion : version ≠ .v1)
    {updates : List Value} (hupdates : ∀ update ∈ updates, Inert fmt.uuid update)
    (hreceived : List.Forall₂ (Notifies version) (client.requests.filter isUpdate) updates) :
    ∀ update ∈ client.applied, Inert fmt.uuid update := by
  intro taken hmem
  have htaken : taken ∈ client.requests.filterMap updateOf := by
    rw [← h.order]
    exact List.mem_append_left _ hmem
  rcases List.mem_filterMap.mp htaken with ⟨req, hreq, hupdate⟩
  have hisUpdate : isUpdate req = true := by
    rw [updateOf_eq, Option.ite_none_right_eq_some] at hupdate
    exact hupdate.1
  rcases List.mem_iff_getElem?.mp (List.mem_filter.mpr ⟨hreq, hisUpdate⟩) with ⟨i, hi⟩
  have hlt : i < updates.length := by
    rw [← hreceived.length_eq]
    exact (List.getElem?_eq_some_iff.mp hi).1
  rcases List.getElem?_eq_some_iff.mp hi with ⟨hlt', hget⟩
  have hnotifies := hreceived.get hlt' hlt
  rw [List.get_eq_getElem, List.get_eq_getElem, hget] at hnotifies
  exact hnotifies.inert hversion (hupdates _ (List.getElem_mem hlt)) hupdate

/-- Under `monitor_cond` and `monitor_cond_since`, in every run of a connected client over
    any history, the IDL is a replica of the server's database exactly when that has no row. -/
theorem cond_replicates_iff (fmt : Formats) {config : ClientConfig}
    (hversion : config.monitorVersion ≠ .v1) {schemaJson reply : Value} {schema : DbSchema}
    {monitorId : Uuid} {start : Client} (hschema : fmt.schema schemaJson = .ok schema)
    (hconnect : Client.connectWithConfig fmt (.ok (.fresh (Client.startReplies schemaJson reply)))
      config monitorId = .ok start)
    {initial current : Database (monitorRequests config.tables schema)} {contents : Value}
    {updates : List Value} (hreply : IsMonitorReply config.monitorVersion reply contents)
    (hinitial : CondReports fmt.uuid (Database.empty _) initial contents)
    (hhistory : CondHistory fmt.uuid initial updates current) (events : List Event)
    (hreceived : List.Forall₂ (Notifies config.monitorVersion)
      ((start.after fmt events).requests.filter isUpdate) updates) :
    Replicates (start.after fmt events).idl current ↔
      ∀ table uuid, current.row table uuid = none := by
  have hrun := ((Client.connect_tally hconnect).after events).inOrder
  have happlied := hrun.applied_inert hversion (hhistory.inert) hreceived
  have hstart : start.idl = Idl.start fmt.uuid config.monitorVersion schema reply := by
    rcases Client.connect_ok fmt hschema reply config monitorId with ⟨conn, hok⟩
    rw [hok] at hconnect
    cases hconnect
    rfl
  refine replicates_iff_of_no_rows ?_ current
  intro table uuid
  have hreplied : (Idl.start fmt.uuid config.monitorVersion schema reply).row table uuid =
      (Idl.new.setSchema schema).row table uuid :=
    row_processMonitorReply hversion hreply ⟨_, _, hinitial⟩ _ table uuid
  rw [hrun.idl, row_foldl_inert happlied, hstart, hreplied, Idl.row_setSchema_new]

/-! ### A bridge under `monitor_cond_since` -/

def condConfig : ClientConfig where
  monitorVersion := .v3

def condReply : Value :=
  .array [.bool false, .string "txn-1", bridgeUpdate hyphenated [("initial", bridgeJson "br0")]]

def condConnected : Client :=
  (Client.initializeClient Client.formats 7
    (Client.opened (.fresh (Client.startReplies Client.schemaJson condReply)) condConfig)).2

theorem condConnected_eq : Client.connectWithConfig Client.formats
    (.ok (.fresh (Client.startReplies Client.schemaJson condReply))) condConfig 7 =
      .ok condConnected := rfl

theorem bridgeUpdate_condReports (fmt : UuidFormat) {before after : Database bridgeRequests}
    {rowMembers : List (String × Value)}
    (hreport : CondRowReport (before.row "Bridge" 1) (after.row "Bridge" 1) (.object rowMembers))
    (hother : ∀ table uuid, ¬ (table = "Bridge" ∧ uuid = 1) →
      before.row table uuid = after.row table uuid) :
    CondReports fmt before after (bridgeUpdate fmt rowMembers) := by
  refine ⟨_, rfl, distinctKeys_singleton _, ?_, ?_⟩
  · intro member hmem
    rcases List.mem_singleton.mp hmem with rfl
    refine ⟨_, rfl, distinctKeys_singleton _, ?_, ?_⟩
    · intro row hrow
      rcases List.mem_singleton.mp hrow with rfl
      exact ⟨1, rfl, hreport⟩
    · intro uuid hlookup
      refine hother "Bridge" uuid ?_
      rintro ⟨-, rfl⟩
      rw [List.lookup_cons_self] at hlookup
      cases hlookup
  · intro table hlookup
    funext uuid
    refine hother table uuid ?_
    rintro ⟨rfl, -⟩
    rw [List.lookup_cons_self] at hlookup
    cases hlookup

theorem initialBridge_condReports (name : String) :
    CondReports hyphenated (Database.empty bridgeRequests) (oneBridge name)
      (bridgeUpdate hyphenated [("initial", bridgeJson name)]) := by
  refine bridgeUpdate_condReports hyphenated (.initial (bridgeJson_encodes name)) ?_
  intro table uuid h
  exact (oneBridge_row_ne name h).symm

theorem deletedBridge_condReports (name : String) :
    CondReports hyphenated (oneBridge name) (Database.empty bridgeRequests)
      (bridgeUpdate hyphenated [("delete", .null)]) := by
  refine bridgeUpdate_condReports hyphenated .delete ?_
  intro table uuid h
  exact oneBridge_row_ne name h

/-- The bridge is deleted, and `wait` takes the notification. -/
def condRun : List Event :=
  [.arrive (.request ⟨"update3", .array [.string "monitor", .string "txn-2",
      bridgeUpdate hyphenated [("delete", .null)]], none⟩), .call .wait]

/-- A replica once the bridge is deleted. -/
theorem cond_replicates_iff_deleted :
    Replicates (condConnected.after Client.formats condRun).idl
      (Database.empty bridgeRequests) := by
  have hversion : condConfig.monitorVersion ≠ .v1 := nofun
  have hschema : Client.formats.schema Client.schemaJson = .ok bridgeSchema := rfl
  refine (cond_replicates_iff Client.formats hversion hschema condConnected_eq
    ⟨false, "txn-1", rfl⟩ (initialBridge_condReports "br0")
    (.cons (deletedBridge_condReports "br0") (.nil _)) condRun
    (.cons ⟨rfl, _, _, rfl⟩ .nil)).mpr ?_
  exact fun _ _ => rfl

/-- No replica while the bridge is there. -/
theorem condConnected_not_replica :
    IsMonitorReply condConfig.monitorVersion condReply
        (bridgeUpdate hyphenated [("initial", bridgeJson "br0")]) ∧
      CondReports hyphenated (Database.empty bridgeRequests) (oneBridge "br0")
        (bridgeUpdate hyphenated [("initial", bridgeJson "br0")]) ∧
      ¬ Replicates condConnected.idl (oneBridge "br0") := by
  have hversion : condConfig.monitorVersion ≠ .v1 := nofun
  have hreply : IsMonitorReply condConfig.monitorVersion condReply
      (bridgeUpdate hyphenated [("initial", bridgeJson "br0")]) := ⟨false, "txn-1", rfl⟩
  refine ⟨hreply, initialBridge_condReports "br0", ?_⟩
  intro hreplicates
  have hrow : condConnected.idl.row "Bridge" 1 = none :=
    row_processMonitorReply hversion hreply ⟨_, _, initialBridge_condReports "br0"⟩
      (Idl.new.setSchema bridgeSchema) "Bridge" 1
  have hmatches := hreplicates "Bridge" 1
  rw [hrow, RowMatches, Option.map_none] at hmatches
  cases hmatches

end Rovs.Ovsdb

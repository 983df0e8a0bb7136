import Rovs.ClientRuns
import Rovs.OvsClient

/-!
# What a topology call reports

`commit` says in a boolean whether the server committed the transaction.  The calls that
create and delete bridges, ports and topologies look at the error of `commit` only, so a
transaction that the server rejected is reported as a success.  `create_bridge` then looks the
new bridge up in the IDL, which has not taken the update of the transaction yet.

`honest_iff` and `createBridge_reads_own_iff` are the main results; the first is about all
eight calls.
-/

namespace Rovs

open Json Outcome
open Ovsdb (Formats Transaction Idl Row)
open JsonRpc (Request Response)

/-! ### What `commit` says -/

namespace Ovsdb

/-- A result with an error at any place, or one that is no list of results. -/
def Rejects (result : Value) : Prop :=
  match result.asArray with
  | some results => ∃ opResult ∈ results, Transaction.hasError opResult = true
  | none => True

/-- The request of the transaction is sent, and the response says that the server has
    rejected it. -/
def Rejected (txn : Transaction) (client : Client) : Prop :=
  txn.isEmpty = false ∧ client.conn.Writable ∧
    ∃ reqs resp rest, client.conn.Brings reqs resp rest ∧
      resp.id = .number client.conn.conn.nextId ∧ resp.error = none ∧
      Rejects (resp.result.getD .null)

theorem processResults_eq_false (fmt : UuidFormat) (txn : Transaction) (i : Nat)
    (results : List Value) :
    (txn.processResults fmt i results).2 = false ↔
      ∃ opResult ∈ results, Transaction.hasError opResult = true := by
  induction results generalizing txn i with
  | nil => simp [Transaction.processResults]
  | cons opResult rest ih =>
    rw [Transaction.processResults]
    by_cases herror : Transaction.hasError opResult = true
    · simp [herror]
    · simp [herror, ih]

theorem processResult_eq_false (fmt : UuidFormat) (txn : Transaction) (result : Value) :
    (txn.processResult fmt result).2 = false ↔ Rejects result := by
  rw [Transaction.processResult, Rejects]
  cases result.asArray with
  | some results => exact processResults_eq_false fmt txn 0 results
  | none => exact iff_of_true rfl trivial

theorem value_eq_ok {resp : Response} {value : Value} :
    resp.value = .ok value ↔ resp.error = none ∧ resp.result.getD .null = value := by
  rw [Response.value]
  cases resp.error <;> simp

section Commit

variable {fmt : Formats} {txn : Transaction} {client after : Client}

/-- A transaction that is not empty is committed as the response says. -/
theorem commit_ok (fmt : Formats) {reqs : List Request} {resp : Response}
    {rest : List (JsonRpc.Result JsonRpc.Message)} {result : Value} (hempty : txn.isEmpty = false)
    (hwritable : client.conn.Writable) (hbrings : client.conn.Brings reqs resp rest)
    (hid : resp.id = .number client.conn.conn.nextId) (hvalue : resp.value = .ok result) :
    Client.commit fmt txn client = (.ok (txn.processResult fmt.uuid result), { client with
      conn := (client.conn.request "transact" txn.build).answered reqs resp rest }) := by
  have hcall : Client.onConn (JsonRpc.Link.transact "transact" txn.build) client = _ :=
    Client.onConn_ok (JsonRpc.Link.transact_ok hwritable hbrings hid hvalue)
  rw [Client.commit, if_neg (by rw [hempty]; exact Bool.false_ne_true), Program.bind_ok hcall]
  rfl

theorem commit_rejected (fmt : Formats) (h : Rejected txn client) :
    ∃ committed after, Client.commit fmt txn client = (.ok (committed, false), after) := by
  rcases h with ⟨hempty, hwritable, reqs, resp, rest, hbrings, hid, herror, hrejects⟩
  have hcommit := commit_ok fmt hempty hwritable hbrings hid
    (value_eq_ok.mpr ⟨herror, rfl⟩)
  have hfalse := (processResult_eq_false fmt.uuid txn _).mpr hrejects
  rcases hresult : txn.processResult fmt.uuid (resp.result.getD .null) with ⟨committed, success⟩
  rw [hresult] at hcommit hfalse
  cases hfalse
  exact ⟨committed, _, hcommit⟩

/-- A commit leaves the IDL as it is, and says no only of a rejected transaction. -/
theorem commit_eq_ok {committed : Transaction} {success : Bool}
    (h : Client.commit fmt txn client = (.ok (committed, success), after)) :
    after.idl = client.idl ∧ (success = false → Rejected txn client) := by
  rw [Client.commit] at h
  cases hempty : txn.isEmpty with
  | true =>
    rw [if_pos hempty] at h
    cases h
    exact ⟨rfl, nofun⟩
  | false =>
    rw [if_neg (by rw [hempty]; exact Bool.false_ne_true)] at h
    rcases Program.bind_eq_ok h with ⟨result, next, hcall, hresult⟩
    rcases Program.focus_eq_ok hcall with ⟨conn, htransact, rfl⟩
    rcases JsonRpc.Link.transact_eq_ok htransact with
      ⟨hwritable, reqs, resp, rest, hbrings, hid, hvalue, -⟩
    rcases value_eq_ok.mp hvalue with ⟨herror, hvalue⟩
    rcases Prod.mk.inj hresult with ⟨hok, rfl⟩
    have hsuccess : (txn.processResult fmt.uuid result).2 = success :=
      congrArg Prod.snd (Outcome.ok.inj hok)
    refine ⟨rfl, ?_⟩
    intro hfalse
    refine ⟨hempty, hwritable, reqs, resp, rest, hbrings, hid, herror, ?_⟩
    rw [hvalue]
    exact (processResult_eq_false fmt.uuid txn result).mp (hsuccess.trans hfalse)

end Commit

end Ovsdb

/-! ### The calls -/

/-- The error of a call of either crate. -/
inductive Failure where
  | client (error : Ovs.Error)
  | ext (error : Ext.Error)
deriving DecidableEq, Repr

inductive TopologyCall where
  | createBridge (name : String)
  | deleteBridge (name : String)
  | addPort (bridge port : String)
  | deletePort (bridge port : String)
  | createPair (pair : Ovsdb.BridgePair)
  | deletePair (pair : Ovsdb.BridgePair)
  | createTrunk (trunk : Ovsdb.VlanTrunk)
  | deleteTrunk (trunk : Ovsdb.VlanTrunk)

namespace TopologyCall

open Ovs (OvsClient)

def onClient {α : Type} (p : OvsClient.Method α) : Program Ovsdb.Client Failure Unit :=
  .focus OvsClient.mk (fun client _ => client.ovsdb) .client (discard p)

def onExt (p : Program Ovsdb.Client Ext.Error Unit) : Program Ovsdb.Client Failure Unit :=
  .focus id (fun client _ => client) .ext p

def perform (fmt : Formats) : TopologyCall → Program Ovsdb.Client Failure Unit
  | .createBridge name => onClient (OvsClient.createBridge fmt name)
  | .deleteBridge name => onClient (OvsClient.deleteBridge fmt name)
  | .addPort bridge port => onClient (OvsClient.addPort fmt bridge port)
  | .deletePort bridge port => onClient (OvsClient.deletePort fmt bridge port)
  | .createPair pair => onExt (Ext.createPair fmt pair)
  | .deletePair pair => onExt (Ext.deletePair fmt pair)
  | .createTrunk trunk => onExt (Ext.createTrunk fmt trunk)
  | .deleteTrunk trunk => onExt (Ext.deleteTrunk fmt trunk)

/-- The transaction that a call commits. -/
def txn (fmt : Formats) : TopologyCall → Transaction
  | .createBridge name => .assemble "Open_vSwitch" (Transaction.createBridge fmt.uuid name)
  | .deleteBridge name => .assemble "Open_vSwitch" (Transaction.deleteBridge name)
  | .addPort bridge port =>
      .assemble "Open_vSwitch" (Transaction.addInternalPort fmt.uuid bridge port)
  | .deletePort bridge port => .assemble "Open_vSwitch" (Transaction.deletePort bridge port)
  | .createPair pair => pair.buildTransaction fmt.uuid
  | .deletePair pair => pair.buildDeleteTransaction
  | .createTrunk trunk => trunk.buildTransaction fmt.uuid
  | .deleteTrunk trunk => trunk.buildDeleteTransaction

/-- The new bridge is looked up in the IDL; the other calls look nothing up. -/
def Finds (idl : Idl) : TopologyCall → Prop
  | .createBridge name => ∃ row ∈ idl.rows "Bridge", (row.getString "name").getD "" = name
  | _ => True

/-- A program commits a transaction, does not look at the result, and then finds what it looks
    up or ends with an error. -/
structure Commits (fmt : Formats) (txn : Transaction) (Finds : Idl → Prop)
    (p : Program Ovsdb.Client Failure Unit) : Prop where
  found : ∀ {client after result}, Ovsdb.Client.commit fmt txn client = (.ok result, after) →
    Finds after.idl → p client = (.ok (), after)
  missing : ∀ {client after result}, Ovsdb.Client.commit fmt txn client = (.ok result, after) →
    ¬ Finds after.idl → ∃ e, p client = (.err e, after)
  committed : ∀ {client after}, p client = (.ok (), after) →
    ∃ result after, Ovsdb.Client.commit fmt txn client = (.ok result, after)

section Commits

variable {fmt : Formats} {txn : Transaction}

theorem commits_onExt : Commits fmt txn (fun _ => True) (onExt (Ext.commitOn fmt txn)) where
  found := by
    intro client after result hcommit _
    have hfocus : Program.focus id (fun client _ => client) Ext.Error.ovsdb
        (Ovsdb.Client.commit fmt txn) client = (.ok result, after) := Program.focus_ok hcommit
    exact Program.focus_ok (Program.bind_ok hfocus)
  missing := fun _ hfinds => absurd trivial hfinds
  committed := by
    intro client after h
    rcases Program.focus_eq_ok h with ⟨next, hrun, -⟩
    rcases Program.bind_eq_ok hrun with ⟨result, next', hfocus, -⟩
    rcases Program.focus_eq_ok hfocus with ⟨last, hcommit, -⟩
    exact ⟨result, last, hcommit⟩

/-- A method of the high-level client that commits and then goes on. -/
theorem commits_onClient {α : Type} {next : Ovs.OvsClient.Method α} {Finds : Idl → Prop}
    (hfound : ∀ client : OvsClient, Finds client.ovsdb.idl → ∃ a, next client = (.ok a, client))
    (hmissing : ∀ client : OvsClient, ¬ Finds client.ovsdb.idl →
      ∃ e, next client = (.err e, client)) :
    Commits fmt txn Finds
      (onClient (OvsClient.onOvsdb (Ovsdb.Client.commit fmt txn) >>= fun _ => next)) where
  found := by
    intro client after result hcommit hfinds
    have hovsdb : OvsClient.onOvsdb (Ovsdb.Client.commit fmt txn) ⟨client⟩ =
        (.ok result, ⟨after⟩) := Program.focus_ok hcommit
    rcases hfound ⟨after⟩ hfinds with ⟨a, hnext⟩
    exact Program.focus_ok (Program.bind_ok ((Program.bind_ok hovsdb).trans hnext))
  missing := by
    intro client after result hcommit hfinds
    have hovsdb : OvsClient.onOvsdb (Ovsdb.Client.commit fmt txn) ⟨client⟩ =
        (.ok result, ⟨after⟩) := Program.focus_ok hcommit
    rcases hmissing ⟨after⟩ hfinds with ⟨e, hnext⟩
    exact ⟨_, Program.focus_err (Program.bind_err ((Program.bind_ok hovsdb).trans hnext))⟩
  committed := by
    intro client after h
    rcases Program.focus_eq_ok h with ⟨last, hrun, -⟩
    rcases Program.bind_eq_ok hrun with ⟨a, last', hmethod, -⟩
    rcases Program.bind_eq_ok hmethod with ⟨result, last'', hovsdb, -⟩
    rcases Program.focus_eq_ok hovsdb with ⟨committed, hcommit, -⟩
    exact ⟨result, committed, hcommit⟩

theorem commits_pure {α : Type} (a : α) : Commits fmt txn (fun _ => True)
    (onClient (OvsClient.onOvsdb (Ovsdb.Client.commit fmt txn) >>= fun _ => pure a)) :=
  commits_onClient (fun _ _ => ⟨a, rfl⟩) fun _ hfinds => absurd trivial hfinds

end Commits

theorem findBridge_isSome {client : OvsClient} {name : String} :
    (client.findBridge name).isSome = true ↔ Finds client.ovsdb.idl (.createBridge name) := by
  rw [OvsClient.findBridge, List.find?_isSome, OvsClient.listBridges]
  simp [Finds, Ovs.Bridge.ofRow]

/-- **Every call commits its transaction and does not look at the result.** -/
theorem perform_commits (fmt : Formats) (call : TopologyCall) :
    Commits fmt (call.txn fmt) (call.Finds ·) (call.perform fmt) := by
  cases call with
  | createBridge name =>
    refine commits_onClient ?_ ?_
    · intro client hfinds
      rcases Option.isSome_iff_exists.mp (findBridge_isSome.mpr hfinds) with ⟨bridge, hbridge⟩
      refine ⟨bridge, ?_⟩
      rw [OvsClient.getBridge, Program.read_run, hbridge]
      rfl
    · intro client hfinds
      have hnone : client.findBridge name = none := by
        rw [← Option.not_isSome_iff_eq_none, findBridge_isSome]
        exact hfinds
      refine ⟨.bridgeNotFound name, ?_⟩
      rw [OvsClient.getBridge, Program.read_run, hnone]
      rfl
  | deleteBridge name => exact commits_pure ()
  | addPort bridge port => exact commits_pure (Ovs.Port.new port)
  | deletePort bridge port => exact commits_pure ()
  | createPair pair => exact commits_onExt
  | deletePair pair => exact commits_onExt
  | createTrunk trunk => exact commits_onExt
  | deleteTrunk trunk => exact commits_onExt

/-! ### Success -/

/-- `Ok` says that the transaction was committed, and a rejected transaction is an error. -/
structure Honest (fmt : Formats) (call : TopologyCall) (client : Ovsdb.Client) : Prop where
  committed : ∀ after, call.perform fmt client = (.ok (), after) →
    ∃ txn after, Ovsdb.Client.commit fmt (call.txn fmt) client = (.ok (txn, true), after)
  rejected : Ovsdb.Rejected (call.txn fmt) client →
    ∃ e after, call.perform fmt client = (.err e, after)

/-- **A call is honest exactly when the server does not reject its transaction, or when
    `create_bridge` finds no bridge of the name in the IDL.**  The outcome of the commit is dropped,
    so a rejected transaction is reported like an accepted one. -/
theorem honest_iff (fmt : Formats) (call : TopologyCall) (client : Ovsdb.Client) :
    call.Honest fmt client ↔
      ¬ (Ovsdb.Rejected (call.txn fmt) client ∧ call.Finds client.idl) := by
  have hcommits := perform_commits fmt call
  constructor
  · intro hhonest hrejected
    rcases hrejected with ⟨hrejected, hfinds⟩
    rcases Ovsdb.commit_rejected fmt hrejected with ⟨txn, after, hcommit⟩
    rw [← (Ovsdb.commit_eq_ok hcommit).1] at hfinds
    rcases hhonest.rejected hrejected with ⟨e, after', herr⟩
    rw [hcommits.found hcommit hfinds] at herr
    cases herr
  · intro hcondition
    constructor
    case committed =>
      intro after hok
      rcases hcommits.committed hok with ⟨⟨txn, success⟩, after', hcommit⟩
      cases success with
      | true => exact ⟨txn, after', hcommit⟩
      | false =>
        rcases Ovsdb.commit_eq_ok hcommit with ⟨hidl, hrejected⟩
        by_cases hfinds : call.Finds client.idl
        · exact absurd ⟨hrejected rfl, hfinds⟩ hcondition
        · rw [← hidl] at hfinds
          rcases hcommits.missing hcommit hfinds with ⟨e, herr⟩
          rw [hok] at herr
          cases herr
    case rejected =>
      intro hrejected
      rcases Ovsdb.commit_rejected fmt hrejected with ⟨txn, after, hcommit⟩
      have hfinds : ¬ call.Finds after.idl := by
        rw [(Ovsdb.commit_eq_ok hcommit).1]
        exact fun hfinds => hcondition ⟨hrejected, hfinds⟩
      rcases hcommits.missing hcommit hfinds with ⟨e, herr⟩
      exact ⟨e, after, herr⟩

/-! A transaction that the server rejects. -/

def rejection : Value :=
  .array [.object [("error", .string "referential integrity violation")]]

/-- The next response rejects a transaction. -/
def rejectedClient : Ovsdb.Client :=
  Ovsdb.Client.connected.arrive (.response (.success (.number 3) rejection))

/-- A port that the server does not add is reported as added. -/
theorem addPort_reports_rejected : ¬ ∀ (fmt : Formats) (call : TopologyCall)
    (client : Ovsdb.Client), call.Honest fmt client := by
  intro h
  have hrejected : Ovsdb.Rejected
      ((TopologyCall.addPort "br0" "p0").txn Ovsdb.Client.formats) rejectedClient :=
    ⟨rfl, rfl, [], _, [], rfl, rfl, rfl, _, List.mem_singleton_self _, rfl⟩
  rcases (h _ _ _).rejected hrejected with ⟨e, after, herr⟩
  cases herr

end TopologyCall

/-! ### The bridge that was created -/

namespace Ovs

open Ovsdb (isUpdate secondParam)

/-- The notification brings the row of a bridge. -/
def Announces (fmt : Formats) (name : String) (uuid : Uuid) (req : Request) : Prop :=
  isUpdate req = true ∧ ∃ updates, secondParam req = some updates ∧
    ∀ idl : Idl, ∃ row, (idl.processUpdate fmt.uuid updates).row "Bridge" uuid = some row ∧
      row.getString "name" = some name

/-- The server commits the transaction of `create_bridge`, announces the new row among the
    notifications that it sends before the response, and assigns the UUID to the bridge. -/
structure BridgeCommitted (fmt : Formats) (name : String) (uuid : Uuid) (client : Ovsdb.Client)
    (reqs : List Request) (resp : Response) (rest : List (JsonRpc.Result JsonRpc.Message))
    (results : List Value) : Prop where
  writable : client.conn.Writable
  brings : client.conn.Brings reqs resp rest
  id : resp.id = .number client.conn.conn.nextId
  value : resp.value = .ok (.array results)
  accepted : ¬ Ovsdb.Rejects (.array results)
  assigned : ∃ opResult, results[2]? = some opResult ∧
    Transaction.insertedUuid fmt.uuid opResult = some uuid
  announced : ∃ req ∈ reqs, Announces fmt name uuid req

/-- The first row of the Bridge table with a name, as the IDL lists them. -/
def bridgeRow (idl : Idl) (name : String) : Option Row :=
  (idl.rows "Bridge").find? fun row => (row.getString "name").getD "" = name

theorem findBridge_eq (client : OvsClient) (name : String) :
    client.findBridge name = (bridgeRow client.ovsdb.idl name).map Bridge.ofRow := by
  rw [OvsClient.findBridge, OvsClient.listBridges, List.find?_map]
  rfl

section CreateBridge

variable {fmt : Formats} {name : String} {uuid : Uuid} {client : Ovsdb.Client}
  {reqs : List Request} {resp : Response} {rest : List (JsonRpc.Result JsonRpc.Message)}
  {results : List Value}

/-- The bridge is looked up in the IDL as it was before the call. -/
theorem createBridge_run (h : BridgeCommitted fmt name uuid client reqs resp rest results) :
    ∃ after, after.ovsdb.idl = client.idl ∧ OvsClient.createBridge fmt name ⟨client⟩ =
      (((bridgeRow client.idl name).map Bridge.ofRow).elim (.err (.bridgeNotFound name)) .ok,
        after) := by
  let txn : Transaction := .assemble "Open_vSwitch" (Transaction.createBridge fmt.uuid name)
  let committed : OvsClient := ⟨{ client with
    conn := (client.conn.request "transact" txn.build).answered reqs resp rest }⟩
  have hempty : txn.isEmpty = false := rfl
  have hovsdb : OvsClient.onOvsdb (Ovsdb.Client.commit fmt txn) ⟨client⟩ =
      (.ok (txn.processResult fmt.uuid (.array results)), committed) :=
    Program.focus_ok (Ovsdb.commit_ok _ hempty h.writable h.brings h.id h.value)
  have hget : OvsClient.getBridge name committed =
      (((bridgeRow client.idl name).map Bridge.ofRow).elim (.err (.bridgeNotFound name)) .ok,
        committed) := by
    rw [OvsClient.getBridge, Program.read_run, findBridge_eq]
  exact ⟨committed, rfl, (Program.bind_ok hovsdb).trans hget⟩

/-- `create_bridge` returns the bridge that the server made exactly when the IDL, before the
    call, lists a row with its name and its UUID before any other row with its name. -/
theorem createBridge_reads_own_iff
    (h : BridgeCommitted fmt name uuid client reqs resp rest results) :
    (∃ bridge after, OvsClient.createBridge fmt name ⟨client⟩ = (.ok bridge, after) ∧
        bridge.name = name ∧ bridge.uuid = uuid) ↔
      (bridgeRow client.idl name).map Row.uuid = some uuid := by
  rcases createBridge_run h with ⟨after, -, hrun⟩
  rw [hrun]
  cases hrow : bridgeRow client.idl name with
  | none => simp
  | some row =>
    have hname : (row.getString "name").getD "" = name := by
      have hfound := List.find?_some hrow
      exact of_decide_eq_true hfound
    constructor
    · intro hbridge
      rcases hbridge with ⟨bridge, after', heq, -, huuid⟩
      cases heq
      exact congrArg some huuid
    · intro huuid
      exact ⟨Bridge.ofRow row, after, rfl, hname, Option.some.inj huuid⟩

/-- With an IDL that lists no bridge of the name the call ends with `BridgeNotFound`. -/
theorem createBridge_not_found
    (h : BridgeCommitted fmt name uuid client reqs resp rest results)
    (hnone : bridgeRow client.idl name = none) :
    ∃ after, OvsClient.createBridge fmt name ⟨client⟩ = (.err (.bridgeNotFound name), after) := by
  rcases createBridge_run h with ⟨after, -, hrun⟩
  rw [hnone] at hrun
  exact ⟨after, hrun⟩

end CreateBridge

/-! A bridge is created, and its row is announced before the response. -/

def insertResult (uuid : Uuid) : Value :=
  .object [("uuid", .array [.string "uuid", .string (hyphenated.display uuid)])]

def createdResults : List Value := [insertResult 3, insertResult 2, insertResult 1, .object []]

def announcement : Request :=
  ⟨"update", .array [.null, Ovsdb.bridgeUpdate hyphenated [("new", Ovsdb.bridgeJson "br0")]], none⟩

def committedClient : Ovsdb.Client :=
  (Ovsdb.Client.connected.arrive (.request announcement)).arrive
    (.response (.success (.number 3) (.array createdResults)))

theorem announces_bridge : Announces Ovsdb.Client.formats "br0" 1 announcement := by
  refine ⟨rfl, _, rfl, ?_⟩
  intro idl
  let old : Row := (idl.row "Bridge" 1).getD (Row.new 1)
  let new : Value := Ovsdb.bridgeJson "br0"
  have hrow : ((idl.processUpdate hyphenated (Ovsdb.bridgeUpdate hyphenated [("new", new)])).row
      "Bridge" 1) = some (old.updateFrom new) := by
    have htable : ∀ (idl : Idl) tableUpdate,
        ("Bridge", tableUpdate) ∈ [("Bridge", Value.object
          [(hyphenated.display 1, .object [("new", new)])])] →
        (idl.processTableUpdate hyphenated "Bridge" tableUpdate).row "Bridge" 1 =
          some (((idl.row "Bridge" 1).getD (Row.new 1)).updateFrom new) := by
      intro idl tableUpdate hmem
      cases List.mem_singleton.mp hmem
      have hkeys : ∀ member ∈ [(hyphenated.display 1, Value.object [("new", new)])],
          ∃ u, member.1 = hyphenated.display u := by
        intro member hmember
        cases List.mem_singleton.mp hmember
        exact ⟨1, rfl⟩
      rw [idl.row_processTableUpdate hyphenated "Bridge" 1
        (distinctKeys_singleton _) hkeys, List.lookup_cons_self]
      rfl
    exact idl.row_processUpdate hyphenated "Bridge" 1
      (fun _ row => some ((row.getD (Row.new 1)).updateFrom new))
      (distinctKeys_singleton _) htable
  refine ⟨_, hrow, ?_⟩
  rw [Row.getString, Row.get_updateFrom old (Ovsdb.bridgeJson_encodes "br0")]
  rfl

theorem bridgeCommitted : BridgeCommitted Ovsdb.Client.formats "br0" 1 committedClient
    [announcement] (.success (.number 3) (.array createdResults)) [] createdResults where
  writable := rfl
  brings := rfl
  id := rfl
  value := rfl
  accepted := by
    rintro ⟨opResult, hmem, herror⟩
    simp [createdResults] at hmem
    rcases hmem with rfl | rfl | rfl | rfl <;> cases herror
  assigned := by
    refine ⟨insertResult 1, rfl, ?_⟩
    simp [insertResult, Transaction.insertedUuid, Value.get, Value.asArray, Value.asStr,
      Ovsdb.Client.formats, hyphenated.parse_display]
  announced := ⟨announcement, List.mem_singleton_self _, announces_bridge⟩

theorem createBridge_reads_own_iff_committed :
    ¬ ∃ bridge after, OvsClient.createBridge Ovsdb.Client.formats "br0" ⟨committedClient⟩ =
      (.ok bridge, after) ∧ bridge.name = "br0" ∧ bridge.uuid = 1 := by
  rw [createBridge_reads_own_iff bridgeCommitted]
  exact nofun

/-- The bridge is there, and the call says that it is not. -/
theorem createBridge_bridgeNotFound :
    BridgeCommitted Ovsdb.Client.formats "br0" 1 committedClient [announcement]
        (.success (.number 3) (.array createdResults)) [] createdResults ∧
      ∃ after, OvsClient.createBridge Ovsdb.Client.formats "br0" ⟨committedClient⟩ =
        (.err (.bridgeNotFound "br0"), after) :=
  ⟨bridgeCommitted, createBridge_not_found bridgeCommitted rfl⟩

end Ovs

end Rovs

import Rovs.Idl
import Rovs.RpcLink
import Rovs.Transaction

/-!
# The OVSDB client (`rovs-ovsdb/src/client.rs`)

The client fetches the schema, starts a monitor and keeps the IDL up to date with the
notifications of the server: those that were buffered while it waited for a response, and
those that `wait` reads itself.
-/

namespace Rovs.Ovsdb

open Json Outcome
open JsonRpc (Link Request RpcId)

inductive Error where
  | transport
  | jsonRpc (error : JsonRpc.Error)
  | schema (text : String)
deriving DecidableEq, Repr

abbrev Result := Outcome Error

structure ClientConfig where
  database : String := "Open_vSwitch"
  tables : Option (List String) := none
  monitorVersion : MonitorVersion := .v1

structure Client where
  conn : Link
  config : ClientConfig
  idl : Idl
  monitorId : Option Uuid
  /-- The updates that were taken from notifications, in order. -/
  applied : List Value := []

/-! ### What comes from outside -/

/-- The parts of the client that are not its own: the text form of UUIDs and the reading of a
    schema. -/
structure Formats where
  uuid : UuidFormat
  schema : Value → Except String DbSchema

/-! ### Notifications -/

/-- A notification of one of the three monitor versions. -/
def isUpdate (req : Request) : Bool :=
  req.method = "update" || req.method = "update2" || req.method = "update3"

/-- The second parameter, if there are two or more. -/
def secondParam (req : Request) : Option Value :=
  match req.params.asArray with
  | some (_ :: updates :: _) => some updates
  | _ => none

/-- The reply to an echo request. -/
def echoReply (req : Request) : JsonRpc.Response :=
  .success (req.id.getD (.string "echo")) req.params

namespace Client

variable (fmt : Formats)

abbrev Method := Program Client Error

/-- A method of the connection. -/
def onConn {α : Type} (p : Program Link JsonRpc.Error α) : Method α :=
  .focus Client.conn (fun conn client => { client with conn := conn }) .jsonRpc p

theorem onConn_ok {α : Type} {p : Program Link JsonRpc.Error α} {client : Client} {a : α}
    {conn : Link} (h : p client.conn = (.ok a, conn)) :
    onConn p client = (.ok a, { client with conn := conn }) := Program.focus_ok h

theorem onConn_ends {α : Type} {p : Program Link JsonRpc.Error α} {client : Client}
    {Q : α → Link → Prop} {R : Link → Prop} (h : Program.Ends Q R (p client.conn)) :
    Program.Ends (fun a after => ∃ conn, Q a conn ∧ after = { client with conn := conn })
      (fun after => ∃ conn, R conn ∧ after = { client with conn := conn }) (onConn p client) :=
  Program.Ends.focus h

def modifyIdl (f : Idl → Idl) : Method Unit :=
  .modify fun client => { client with idl := f client.idl }

/-- Takes the updates of a notification into the IDL. -/
def processUpdate (updates : Value) : Method Unit :=
  .modify fun client =>
    { client with
      idl := client.idl.processUpdate fmt.uuid updates
      applied := client.applied ++ [updates] }

def processNotification (req : Request) : Method (Option Bool) :=
  if isUpdate req then
    match secondParam req with
    | some updates => do
      processUpdate fmt updates
      return some true
    | none => return some false
  else if req.method = "echo" then return some false
  else return none

def sendEchoReply (req : Request) : Method Unit :=
  onConn (Link.sendMessage (.response (echoReply req)))

/-- A request in either loop of `wait`; an update ends it. -/
def waitRequest (req : Request) : Method Bool := do
  if req.method = "echo" then
    sendEchoReply req
    return false
  else
    let updated ← processNotification fmt req
    return updated == some true

/-- Drains the buffered notifications; the value says whether one was an update. -/
def run : Method Bool :=
  .loop (fun client => client.conn.conn.pendingNotifications.length) pass false
where
  pass (updated : Bool) : Method (Pass Bool Bool) := do
    match ← onConn Link.popNotification with
    | none => return .leave updated
    | some notification =>
      if isUpdate notification then
        match secondParam notification with
        | some updates =>
          processUpdate fmt updates
          return .again true
        | none => return .again updated
      else return .again updated

/-- Takes buffered notifications up to the first update, and then reads messages up to the
    first update. -/
def wait : Method Unit := do
  let updated ← Program.loop (fun client => client.conn.conn.pendingNotifications.length) drain ()
  if updated then return ()
  Program.loop (fun client => client.conn.inbound.length) receive ()
where
  drain (_ : Unit) : Method (Pass Unit Bool) := do
    match ← onConn Link.popNotification with
    | none => return .leave false
    | some notification =>
      let updated ← waitRequest fmt notification
      return if updated then .leave true else .again ()
  receive (_ : Unit) : Method (Pass Unit Unit) := do
    match ← onConn Link.recvMessage with
    | .request req =>
      let updated ← waitRequest fmt req
      return if updated then .leave () else .again ()
    | .response _ => return .again ()

/-! ### Requests -/

/-- Operations that are no array are sent as one. -/
def transact (operations : Value) : Method Value := do
  let database ← Program.read fun client => .ok client.config.database
  onConn (Link.transact "transact" (params database))
where
  params (database : String) : Value :=
    match operations with
    | .array arr => .array (.string database :: arr)
    | operations => .array [.string database, operations]

/-- An empty transaction is not sent. -/
def commit (txn : Transaction) : Method (Transaction × Bool) :=
  if txn.isEmpty then return (txn, true)
  else do
    let result ← onConn (Link.transact "transact" txn.build)
    return txn.processResult fmt.uuid result

/-- The monitor's id is forgotten before the request is sent. -/
def cancelMonitor : Method Unit := do
  match ← Program.read fun client => .ok client.monitorId with
  | some monitorId =>
    .modify fun client => { client with monitorId := none }
    let _ ← onConn (Link.transact "monitor_cancel"
      (.array [.string (fmt.uuid.display monitorId)]))
  | none => return ()

/-! ### The start -/

def isConnected (client : Client) : Bool := client.idl.state = .monitoring

def fetchSchema : Method Unit := do
  let database ← Program.read fun client => .ok client.config.database
  let result ← onConn (Link.transact "get_schema" (.array [.string database]))
  match fmt.schema result with
  | .ok schema => modifyIdl fun idl => idl.setSchema schema
  | .error text => Program.read fun _ => .err (.schema text)

/-- The method and the parameters of the monitor request. -/
def monitorRequest (config : ClientConfig) (monitorId : Uuid) (schema : DbSchema) :
    String × List Value :=
  let params := [.string config.database, .string (fmt.uuid.display monitorId),
    .object (monitorRequests config.tables schema).toList]
  match config.monitorVersion with
  | .v1 => ("monitor", params)
  | .v2 => ("monitor_cond", params)
  | .v3 => ("monitor_cond_since", params ++ [.string "00000000-0000-0000-0000-000000000000"])

def loadedSchema : Method DbSchema :=
  Program.read fun client =>
    client.idl.schema.elim (.err (.schema "schema not loaded")) .ok

def startMonitor (monitorId : Uuid) : Method Unit := do
  let schema ← loadedSchema
  .modify fun client => { client with monitorId := some monitorId }
  let config ← Program.read fun client => .ok client.config
  let request := monitorRequest fmt config monitorId schema
  let result ← onConn (Link.transact request.1 (.array request.2))
  modifyIdl fun idl => idl.processMonitorReply fmt.uuid config.monitorVersion result
  modifyIdl fun idl => idl.setMonitoring

/-- The random id of the monitor is an argument. -/
def initializeClient (monitorId : Uuid) : Method Unit := do
  fetchSchema fmt
  startMonitor fmt monitorId

/-- A client over a connection that was opened for it. -/
def opened (conn : Link) (config : ClientConfig) : Client where
  conn := conn
  config := config
  idl := Idl.new
  monitorId := none

/-- Connects and starts the monitor; `dial` is what the transport comes to. -/
def connectWithConfig (dial : Result Link) (config : ClientConfig) (monitorId : Uuid) :
    Result Client := do
  let conn ← dial
  let (result, client) := initializeClient fmt monitorId (opened conn config)
  result
  return client

section Start

variable {client : Client} {reqs : List Request} {resp : JsonRpc.Response}
  {rest : List (JsonRpc.Result JsonRpc.Message)} {schema : DbSchema} {value : Value}

theorem fetchSchema_ok (hwritable : client.conn.Writable)
    (hbrings : client.conn.Brings reqs resp rest)
    (hid : resp.id = .number client.conn.conn.nextId) (hvalue : resp.value = .ok value)
    (hschema : fmt.schema value = .ok schema) :
    fetchSchema fmt client = (.ok (), { client with
      conn := (client.conn.request "get_schema"
        (.array [.string client.config.database])).answered reqs resp rest
      idl := client.idl.setSchema schema }) := by
  have hcall :
      onConn (Link.transact "get_schema" (.array [.string client.config.database])) client = _ :=
    onConn_ok (Link.transact_ok hwritable hbrings hid hvalue)
  rw [fetchSchema, Program.read_bind, Program.bind_ok hcall, hschema]
  rfl

theorem startMonitor_ok (monitorId : Uuid) (hloaded : client.idl.schema = some schema)
    (hwritable : client.conn.Writable) (hbrings : client.conn.Brings reqs resp rest)
    (hid : resp.id = .number client.conn.conn.nextId) (hvalue : resp.value = .ok value) :
    startMonitor fmt monitorId client = (.ok (), { client with
      conn := (client.conn.request (monitorRequest fmt client.config monitorId schema).1
        (.array (monitorRequest fmt client.config monitorId schema).2)).answered reqs resp rest
      monitorId := some monitorId
      idl := (client.idl.processMonitorReply fmt.uuid client.config.monitorVersion
        value).setMonitoring }) := by
  have hread : loadedSchema client = (.ok schema, client) := by
    rw [loadedSchema, Program.read_run, hloaded]
    rfl
  have hcall : onConn (Link.transact (monitorRequest fmt client.config monitorId schema).1
      (.array (monitorRequest fmt client.config monitorId schema).2))
      { client with monitorId := some monitorId } = _ :=
    onConn_ok (Link.transact_ok hwritable hbrings hid hvalue)
  rw [startMonitor, Program.bind_ok hread, Program.modify_bind, Program.read_bind]
  exact Program.bind_ok hcall

end Start

/-- The responses to the two requests of the start. -/
def startReplies (schema reply : Value) : List (JsonRpc.Result JsonRpc.Message) :=
  [.ok (.response (.success (.number 1) schema)), .ok (.response (.success (.number 2) reply))]

/-- A client that is connected has the IDL that the schema and the monitor reply make. -/
theorem connect_ok {schemaJson : Value} {schema : DbSchema}
    (hschema : fmt.schema schemaJson = .ok schema) (reply : Value) (config : ClientConfig)
    (monitorId : Uuid) :
    ∃ conn, connectWithConfig fmt (.ok (.fresh (startReplies schemaJson reply))) config monitorId =
      .ok { conn := conn, config := config, monitorId := some monitorId,
            idl := Idl.start fmt.uuid config.monitorVersion schema reply } := by
  let client := opened (.fresh (startReplies schemaJson reply)) config
  let fetched : Client := { client with
    conn := (client.conn.request "get_schema" (.array [.string config.database])).answered []
      (.success (.number 1) schemaJson) [.ok (.response (.success (.number 2) reply))]
    idl := Idl.new.setSchema schema }
  have hwritable : client.conn.Writable := rfl
  have hbrings : client.conn.Brings [] (.success (.number 1) schemaJson)
      [.ok (.response (.success (.number 2) reply))] := rfl
  have hfetch : fetchSchema fmt client = (.ok (), fetched) :=
    fetchSchema_ok fmt hwritable hbrings rfl rfl hschema
  have hloaded : fetched.idl.schema = some schema := rfl
  have hwritable' : fetched.conn.Writable := rfl
  have hbrings' : fetched.conn.Brings [] (.success (.number 2) reply) [] := rfl
  have hmonitor := startMonitor_ok fmt monitorId hloaded hwritable' hbrings' rfl rfl
  have hinit : initializeClient fmt monitorId client = _ :=
    (Program.bind_ok hfetch).trans hmonitor
  rw [connectWithConfig, ok_bind, hinit]
  exact ⟨_, rfl⟩

end Client

end Rovs.Ovsdb

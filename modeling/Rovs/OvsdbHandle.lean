import Rovs.ClientRuns
import Rovs.OvsClient
import Rovs.Runs

/-!
# The shared client handle (`rovs-ext/src/ovsdb.rs`)

The handle keeps one client.  `client()` connects where there is none, or where the one that
is there says that it is not connected.  A client says that from the state of its IDL, and
nothing takes the IDL back from the monitoring state.  So a client whose connection is lost or
whose monitor is cancelled is handed out again and again.

`faithful_iff` is the main result, over every run of calls of a handle.
-/

namespace Rovs.Ext

open Json Outcome Program
open Ovsdb (Client Formats Transaction)
open JsonRpc (Link Message)

/-! ### The handle -/

/-- What an attempt to connect comes to: a connection or a fault, and the random id of the
    monitor. -/
structure Dial where
  conn : Ovsdb.Result Link
  monitorId : Uuid

structure OvsdbHandle where
  client : Option Client
  /-- What the next attempts to connect come to. -/
  dials : List Dial

namespace OvsdbHandle

variable (fmt : Formats)

abbrev Method := Program OvsdbHandle Error

def new (dials : List Dial) : OvsdbHandle where
  client := none
  dials := dials

def needsConnect (handle : OvsdbHandle) : Bool :=
  match handle.client with
  | none => true
  | some client => !client.isConnected

/-- `Client::connect`, with the default configuration. -/
def connect : Method Client := fun handle =>
  match handle.dials with
  | [] => (.hang, handle)
  | dial :: dials =>
    match Client.connectWithConfig fmt dial.conn {} dial.monitorId with
    | .ok client => (.ok client, { handle with dials := dials })
    | .err e => (.err (.ovsdb e), { handle with dials := dials })
    | .panic => (.panic, { handle with dials := dials })
    | .hang => (.hang, { handle with dials := dials })

/-- Acquires the client; the guard is the client of the handle. -/
def acquire : Method Unit := do
  let needsConnect ← Program.read fun handle => .ok handle.needsConnect
  if needsConnect then
    let client ← connect fmt
    .modify fun handle => { handle with client := some client }

def disconnect (handle : OvsdbHandle) : OvsdbHandle := { handle with client := none }

end OvsdbHandle

/-! ### Operations on the guard -/

inductive Operation where
  | commit (txn : Transaction)
  | transact (operations : Value)
  | run
  | wait
  | cancelMonitor

def Operation.perform (fmt : Formats) : Operation → Program Client Ovsdb.Error Unit
  | .commit txn => discard (Client.commit fmt txn)
  | .transact operations => discard (Client.transact operations)
  | .run => discard (Client.run fmt)
  | .wait => Client.wait fmt
  | .cancelMonitor => Client.cancelMonitor fmt

/-- A closed connection, or another error of the transport. -/
def IsIoError (result : Ovsdb.Result Unit) : Prop :=
  result = .err .transport ∨ result = .err (.jsonRpc .io) ∨
    result = .err (.jsonRpc .connectionClosed)

instance : DecidablePred IsIoError := fun result => by
  unfold IsIoError
  infer_instance

/-- The handle in use.  `lost` and `cancelled` are about the client that it keeps now: an
    operation has ended with an I/O error, or its monitor was cancelled. -/
structure Usage where
  handle : OvsdbHandle
  lost : Bool := false
  cancelled : Bool := false

inductive Event where
  | client
  | disconnect
  | call (operation : Operation)
  /-- What the next read, or the next write, of the connection comes to. -/
  | arrive (msg : JsonRpc.Result Message)
  | write (result : JsonRpc.Result Unit)
  | dial (dial : Dial)

namespace Usage

variable (fmt : Formats)

/-- The handle behind `client()`; a new connection has lost nothing yet. -/
def acquire (s : Usage) : Usage :=
  match s.handle.acquire fmt with
  | (.ok (), handle) =>
    if s.handle.needsConnect then { handle := handle } else { s with handle := handle }
  | (_, handle) => { s with handle := handle }

/-- The handle behind an operation of the client. -/
def call (s : Usage) (operation : Operation) (client : Client) : Usage :=
  let (result, client) := operation.perform fmt client
  { handle := { s.handle with client := some client }
    lost := s.lost || IsIoError result
    cancelled := s.cancelled || (operation matches .cancelMonitor && result = .ok ()) }

def onLink (s : Usage) (f : Link → Link) (client : Client) : Usage :=
  { s with handle := { s.handle with client := some { client with conn := f client.conn } } }

/-- One step; what is done on the connection or on the guard needs a client. -/
def step (s : Usage) : Event → Option Usage
  | .client => some (s.acquire fmt)
  | .disconnect => some { handle := s.handle.disconnect }
  | .call operation => s.handle.client.map (s.call fmt operation)
  | .arrive msg =>
    s.handle.client.map (s.onLink fun conn => { conn with inbound := conn.inbound ++ [msg] })
  | .write result =>
    s.handle.client.map (s.onLink fun conn => { conn with writes := conn.writes ++ [result] })
  | .dial dial => some { s with handle := { s.handle with dials := s.handle.dials ++ [dial] } }

/-- The states of the runs of a new handle. -/
abbrev Reachable : Usage → Prop := Reaches (step fmt) { handle := .new [] }

end Usage

/-! ### The state of the IDL -/

section Monitoring

variable {fmt : Formats}

/-- The IDL is in the monitoring state. -/
def Monitoring (client : Client) : Prop := client.idl.state = .monitoring

theorem isConnected_iff {client : Client} : client.isConnected = true ↔ Monitoring client :=
  decide_eq_true_iff

/-- What a client does on its connection leaves the IDL alone. -/
theorem keeps_onConn {α : Type} (p : Program Link JsonRpc.Error α) :
    Keeps Monitoring (Client.onConn p) := by
  have hp : Keeps (fun _ => True) p := Triple.true
  exact Keeps.focus hp (fun _ _ => trivial) fun _ _ h _ => h

theorem keeps_processUpdate (updates : Value) :
    Keeps Monitoring (Client.processUpdate fmt updates) := by
  refine Keeps.modify ?_
  intro client h
  exact (Ovsdb.Idl.state_processUpdate fmt.uuid client.idl updates).trans h

theorem keeps_run : Keeps Monitoring (Client.run fmt) := by
  refine Keeps.loop ?_ false
  intro updated
  apply Keeps.bind (keeps_onConn _)
  intro notification
  cases notification with
  | none => exact Keeps.pure _
  | some req =>
    refine Keeps.ite ?_ (Keeps.pure _)
    cases Ovsdb.secondParam req with
    | none => exact Keeps.pure _
    | some updates =>
      apply Keeps.bind (keeps_processUpdate updates)
      intro _
      exact Keeps.pure _

theorem keeps_waitRequest (req : JsonRpc.Request) :
    Keeps Monitoring (Client.waitRequest fmt req) := by
  apply Keeps.ite
  · apply Keeps.bind (keeps_onConn _)
    intro _
    exact Keeps.pure _
  · refine Keeps.bind ?_ fun _ => Keeps.pure _
    refine Keeps.ite ?_ (Keeps.ite (Keeps.pure _) (Keeps.pure _))
    cases Ovsdb.secondParam req with
    | none => exact Keeps.pure _
    | some updates =>
      apply Keeps.bind (keeps_processUpdate updates)
      intro _
      exact Keeps.pure _

theorem keeps_wait : Keeps Monitoring (Client.wait fmt) := by
  refine Keeps.bind (Keeps.loop ?_ ()) ?_
  · intro _
    apply Keeps.bind (keeps_onConn _)
    intro notification
    cases notification with
    | none => exact Keeps.pure _
    | some req =>
      apply Keeps.bind (keeps_waitRequest req)
      intro _
      exact Keeps.pure _
  · intro updated
    refine Keeps.ite (Keeps.pure _) (Keeps.loop ?_ ())
    intro _
    apply Keeps.bind (keeps_onConn _)
    intro msg
    cases msg with
    | request req =>
      apply Keeps.bind (keeps_waitRequest req)
      intro _
      exact Keeps.pure _
    | response resp => exact Keeps.pure _

/-- **Every operation keeps the monitoring state, however it ends.** -/
theorem keeps_perform (operation : Operation) : Keeps Monitoring (operation.perform fmt) := by
  cases operation with
  | commit txn =>
    refine Keeps.bind (Keeps.ite (Keeps.pure _) ?_) fun _ => Keeps.pure _
    exact Keeps.bind (keeps_onConn _) fun _ => Keeps.pure _
  | transact operations =>
    refine Keeps.bind ?_ fun _ => Keeps.pure _
    exact Keeps.bind (Keeps.read _) fun _ => keeps_onConn _
  | run => exact Keeps.bind keeps_run fun _ => Keeps.pure _
  | wait => exact keeps_wait
  | cancelMonitor =>
    apply Keeps.bind (Keeps.read _)
    intro monitorId
    cases monitorId with
    | none => exact Keeps.pure _
    | some id =>
      refine Keeps.bind (Keeps.modify fun _ h => h) ?_
      intro _
      apply Keeps.bind (keeps_onConn _)
      intro _
      exact Keeps.pure _

theorem startMonitor_monitoring (fmt : Formats) (monitorId : Uuid) :
    Triple (fun _ => True) (Client.startMonitor fmt monitorId) (fun _ => Monitoring)
      (fun _ => True) := by
  apply Triple.bind Triple.true
  intro schema
  apply Triple.bind Triple.true
  intro _
  apply Triple.bind Triple.true
  intro config
  apply Triple.bind Triple.true
  intro result
  apply Triple.bind Triple.true
  intro _
  apply Triple.modify
  intro client _
  rfl

/-- A client that is connected monitors. -/
theorem connect_monitoring {dial : Ovsdb.Result Link} {config : Ovsdb.ClientConfig}
    {monitorId : Uuid} {client : Client}
    (h : Client.connectWithConfig fmt dial config monitorId = .ok client) : Monitoring client := by
  rcases bind_eq_ok.mp h with ⟨conn, -, hinit⟩
  have hends := Triple.bind Triple.true (fun _ => startMonitor_monitoring fmt monitorId)
    (P := fun _ => True) (p := Client.fetchSchema fmt) (Client.opened conn config) trivial
  rcases hrun : Client.initializeClient fmt monitorId (Client.opened conn config) with
    ⟨result, after⟩
  rw [Client.initializeClient] at hrun
  rw [hrun] at hends
  rw [Client.initializeClient, hrun] at hinit
  rcases bind_eq_ok.mp hinit with ⟨_, hresult, heq⟩
  cases heq
  rw [show result = .ok () from hresult] at hends
  exact hends

end Monitoring

/-! ### Runs of a handle -/

namespace Usage

variable {fmt : Formats} {s : Usage}

/-- The client of the handle monitors, and only where there is a client something was lost or
    cancelled. -/
structure Inv (s : Usage) : Prop where
  monitoring : ∀ client, s.handle.client = some client → Monitoring client
  kept : s.lost = true ∨ s.cancelled = true → ∃ client, s.handle.client = some client

/-- Nothing was lost or cancelled since the handle was as it is. -/
theorem Inv.fresh {handle : OvsdbHandle}
    (h : ∀ client, handle.client = some client → Monitoring client) : Inv { handle := handle } where
  monitoring := h
  kept := by
    intro hflags
    rcases hflags with hflag | hflag <;> cases hflag

/-- A client that says that it is connected is handed out as it is. -/
theorem acquire_of_connected {handle : OvsdbHandle} (h : handle.needsConnect = false) :
    handle.acquire fmt = (.ok (), handle) := by
  rw [OvsdbHandle.acquire, Program.read_bind, h]
  rfl

theorem connect_ends (handle : OvsdbHandle) :
    Ends (fun client after => ∃ dial, handle.dials = dial :: after.dials ∧
        Client.connectWithConfig fmt dial.conn {} dial.monitorId = .ok client)
      (fun after => after.client = handle.client) (handle.connect fmt) := by
  rw [OvsdbHandle.connect]
  rcases hdials : handle.dials with _ | ⟨dial, dials⟩
  · rfl
  · rcases hconnect : Client.connectWithConfig fmt dial.conn {} dial.monitorId with
      client | e | _ | _
    all_goals simp only [hconnect]
    · exact ⟨dial, rfl, hconnect⟩
    all_goals rfl

/-- `client()` with no client, or one that is not connected: the guard is a new client. -/
theorem acquire_ends (fmt : Formats) {handle : OvsdbHandle} (h : handle.needsConnect = true) :
    Ends (fun _ after => ∃ dial client, handle.dials = dial :: after.dials ∧
        Client.connectWithConfig fmt dial.conn {} dial.monitorId = .ok client ∧
        after.client = some client)
      (fun after => after.client = handle.client) (handle.acquire fmt) := by
  rw [OvsdbHandle.acquire, Program.read_bind, h]
  refine Ends.bind (connect_ends handle) ?_
  intro client after hconnect
  rcases hconnect with ⟨dial, hdials, hok⟩
  exact ⟨dial, client, hdials, hok, rfl⟩

theorem Inv.acquire (hinv : s.Inv) : (s.acquire fmt).Inv := by
  rw [Usage.acquire]
  cases hneeds : s.handle.needsConnect with
  | false =>
    rw [acquire_of_connected hneeds]
    exact hinv
  | true =>
    have hends := acquire_ends fmt hneeds
    rcases hrun : s.handle.acquire fmt with ⟨result | e | _ | _, after⟩
    all_goals rw [hrun] at hends
    · rcases hends with ⟨dial, client, -, hok, hclient⟩
      refine Inv.fresh ?_
      intro client' hclient'
      have hsame : some client = some client' := hclient.symm.trans hclient'
      rw [← Option.some.inj hsame]
      exact connect_monitoring hok
    all_goals
      have hclient : after.client = s.handle.client := hends
      constructor
      case monitoring =>
        intro client hafter
        exact hinv.monitoring client (hclient ▸ hafter)
      case kept =>
        intro hflags
        rcases hinv.kept hflags with ⟨client, hkept⟩
        exact ⟨client, hclient.trans hkept⟩

theorem Inv.call (hinv : s.Inv) (operation : Operation) {client : Client}
    (hclient : s.handle.client = some client) : (s.call fmt operation client).Inv where
  monitoring := by
    intro client' hafter
    rw [← Option.some.inj hafter]
    exact (keeps_perform operation).holds (hinv.monitoring client hclient)
  kept := fun _ => ⟨_, rfl⟩

theorem Inv.onLink (hinv : s.Inv) (f : Link → Link) {client : Client}
    (hclient : s.handle.client = some client) : (s.onLink f client).Inv where
  monitoring := by
    intro client' hafter
    rw [← Option.some.inj hafter]
    exact hinv.monitoring client hclient
  kept := fun _ => ⟨_, rfl⟩

/-- **Every step keeps the invariant.** -/
theorem Inv.step {s' : Usage} (hinv : s.Inv) {event : Event} (h : s.step fmt event = some s') :
    s'.Inv := by
  cases event with
  | client =>
    cases h
    exact hinv.acquire
  | disconnect =>
    cases h
    refine Inv.fresh ?_
    intro client hclient
    cases hclient
  | call operation =>
    rcases Option.map_eq_some_iff.mp h with ⟨client, hclient, rfl⟩
    exact hinv.call operation hclient
  | arrive msg =>
    rcases Option.map_eq_some_iff.mp h with ⟨client, hclient, rfl⟩
    exact hinv.onLink _ hclient
  | write result =>
    rcases Option.map_eq_some_iff.mp h with ⟨client, hclient, rfl⟩
    exact hinv.onLink _ hclient
  | dial dial =>
    cases h
    exact ⟨hinv.monitoring, hinv.kept⟩

theorem Inv.start : Inv { handle := .new [] } := by
  refine Inv.fresh ?_
  intro client hclient
  cases hclient

theorem Inv.reachable (h : Reachable fmt s) : s.Inv :=
  h.invariant Inv.start fun _ _ _ hinv hstep => hinv.step hstep

/-! ### Reconnection -/

/-- A guard comes with a new connection only. -/
def Reconnects (fmt : Formats) (handle : OvsdbHandle) : Prop :=
  ∀ after, handle.acquire fmt = (.ok (), after) →
    ∃ dial client, handle.dials = dial :: after.dials ∧
      Client.connectWithConfig fmt dial.conn {} dial.monitorId = .ok client ∧
      after.client = some client

/-- A client that says that it is connected has not seen its connection lost nor its monitor
    cancelled, and behind such an end `client()` connects anew. -/
structure Faithful (fmt : Formats) (s : Usage) : Prop where
  connected : ∀ client, s.handle.client = some client → client.isConnected = true →
    s.lost = false ∧ s.cancelled = false
  reconnects : s.lost = true ∨ s.cancelled = true → Reconnects fmt s.handle

/-- **In every run the handle is faithful exactly as long as no operation of its client has ended
    with an I/O error and its monitor was not cancelled.**  Whether it is connected is only read off
    the state of the IDL, which nothing takes back when the connection is lost. -/
theorem faithful_iff (h : Reachable fmt s) :
    s.Faithful fmt ↔ s.lost = false ∧ s.cancelled = false := by
  have hinv := Inv.reachable h
  constructor
  · intro hfaithful
    by_contra hflags
    have hlost : s.lost = true ∨ s.cancelled = true := by
      rw [not_and_or, Bool.not_eq_false, Bool.not_eq_false] at hflags
      exact hflags
    rcases hinv.kept hlost with ⟨client, hclient⟩
    have hconnected := isConnected_iff.mpr (hinv.monitoring client hclient)
    exact hflags (hfaithful.connected client hclient hconnected)
  · intro hflags
    rcases hflags with ⟨hlost, hcancelled⟩
    constructor
    case connected =>
      intro _ _ _
      exact ⟨hlost, hcancelled⟩
    case reconnects =>
      intro hflags
      rw [hlost, hcancelled] at hflags
      rcases hflags with hflag | hflag <;> cases hflag

/-! The server closes the connection while a client waits for an update. -/

def goodDial : Dial where
  conn := .ok (.fresh (Client.startReplies Client.schemaJson (.object [])))
  monitorId := 7

def openRun : List Event := [.dial goodDial, .client]

def closedRun : List Event := [.arrive (.err .connectionClosed), .call .wait]

def openState : Usage where
  handle := { client := some Client.connected, dials := [] }

/-- The state behind the call that found the connection closed. -/
def closedState : Usage :=
  openState.call Client.formats .wait
    { Client.connected with
      conn := { Client.connected.conn with inbound := [.err .connectionClosed] } }

theorem openRun_eq :
    openRun.foldlM (step Client.formats) { handle := .new [] } = some openState := rfl

theorem closedRun_eq : closedRun.foldlM (step Client.formats) openState = some closedState := rfl

theorem faithful_iff_closed : openState.Faithful Client.formats ∧
    ¬ closedState.Faithful Client.formats := by
  have hopen : Reachable Client.formats openState := Reaches.start.run openRun_eq
  have hlost : closedState.lost = true := rfl
  rw [faithful_iff hopen, faithful_iff (hopen.run closedRun_eq), hlost]
  exact ⟨⟨rfl, rfl⟩, fun h => Bool.noConfusion h.1⟩

/-- A client that has seen its connection closed says that it is connected. -/
theorem closed_isConnected : ¬ ∀ s, Reachable Client.formats s → s.Faithful Client.formats := by
  intro h
  have hopen : Reachable Client.formats openState := Reaches.start.run openRun_eq
  have hfaithful := h closedState (hopen.run closedRun_eq)
  have hlost : true = false := (hfaithful.connected _ rfl rfl).1
  cases hlost

end Usage

end Rovs.Ext

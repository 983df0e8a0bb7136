import Rovs.Client
import Rovs.Replica

/-!
# Runs of a client

Notifications reach the IDL on three ways: buffered by a call that waits for a response and
drained by `run`, buffered and drained by `wait`, or read by `wait` itself.  The invariant of
this file follows the requests of the server: those that were consumed, the one at hand, and
the pending ones stand in the order of the stream.  So every update is applied once and in
order.  An echo request is answered when `wait` consumes it and dropped when `run` does.

The main results are `updates_inOrder` and `echoes_answered_iff`, both of them about every
list of calls and arrivals.
-/

namespace Rovs.Ovsdb

open Json Outcome Program
open JsonRpc (Link Message Request Response)

/-! ### Runs -/

inductive Call where
  | transact (operations : Value)
  | commit (txn : Transaction)
  | run
  | wait

/-- The client behind a call; a call that waits for a message is dropped there. -/
def Call.perform (fmt : Formats) (call : Call) (client : Client) : Client :=
  match call with
  | .transact operations => (Client.transact operations client).2
  | .commit txn => (Client.commit fmt txn client).2
  | .run => (Client.run fmt client).2
  | .wait => (Client.wait fmt client).2

inductive Event where
  | arrive (msg : Message)
  | call (call : Call)

def Client.arrive (client : Client) (msg : Message) : Client :=
  { client with
    conn := { client.conn with inbound := client.conn.inbound ++ [.ok msg] } }

def Client.step (fmt : Formats) (client : Client) : Event → Client
  | .arrive msg => client.arrive msg
  | .call call => call.perform fmt client

/-- The client behind a run of events. -/
def Client.after (fmt : Formats) (client : Client) (events : List Event) : Client :=
  events.foldl (Client.step fmt) client

/-! ### What a run is measured by -/

def isEcho (req : Request) : Bool := req.method = "echo"

/-- The updates that a request of the server brings: it is an update notification of one of the
    three monitor versions, and the updates are the second of its parameters. -/
def updateOf (req : Request) : Option Value :=
  if req.method ∈ ["update", "update2", "update3"] then
    match req.params with
    | .array (_ :: updates :: _) => some updates
    | _ => none
  else none

/-- The client's own test and its own access to the parameters find these updates. -/
theorem updateOf_eq (req : Request) :
    updateOf req = if isUpdate req then secondParam req else none := by
  have hmethod : (req.method ∈ ["update", "update2", "update3"]) ↔ isUpdate req = true := by
    simp [isUpdate, or_assoc]
  rw [updateOf, secondParam]
  simp only [hmethod]
  split
  · cases req.params with
    | array params => rcases params with _ | ⟨first, _ | ⟨second, rest⟩⟩ <;> rfl
    | _ => rfl
  · rfl

namespace Client

def pending (client : Client) : List Request := client.conn.conn.pendingNotifications

/-- The requests that were read from the connection. -/
def requests (client : Client) : List Request :=
  client.conn.received.filterMap Message.asRequest

/-- The responses that were sent. -/
def replies (client : Client) : List Response := client.conn.sent.filterMap Message.asResponse

end Client

/-! ### The invariant -/

/-- The requests of the server are the consumed ones, those at hand and the pending ones.
    Each reply answers a consumed echo, and all but the dropped ones have a reply. -/
structure Tally (dropped : Nat) (consumed held : List Request) (link : Link) : Prop where
  writes : link.writes = []
  received : link.received.filterMap Message.asRequest =
    consumed ++ held ++ link.conn.pendingNotifications
  replies : (link.sent.filterMap Message.asResponse).Sublist
    ((consumed.filter isEcho).map echoReply)
  count : (link.sent.filterMap Message.asResponse).length + dropped = consumed.countP isEcho

structure Client.Tally (fmt : Formats) (idl : Idl) (dropped : Nat) (consumed held : List Request)
    (client : Client) : Prop where
  conn : Ovsdb.Tally dropped consumed held client.conn
  applied : client.applied = consumed.filterMap updateOf
  idl : client.idl = client.applied.foldl (Idl.processUpdate fmt.uuid) idl

/-! ### The connection -/

section Connection

variable {dropped : Nat} {consumed held : List Request} {req : Request} {link : Link}

theorem Tally.fresh (inbound : List (JsonRpc.Result Message)) :
    Tally 0 [] [] (Link.fresh inbound) where
  writes := rfl
  received := rfl
  replies := List.Sublist.slnil
  count := rfl

/-- No write fails. -/
theorem Tally.writable (h : Tally dropped consumed held link) : link.Writable := by
  rw [Link.Writable, h.writes]
  rfl

theorem Tally.tail_writes (h : Tally dropped consumed held link) : link.writes.tail = [] := by
  rw [h.writes]
  rfl

/-- The echo at hand is answered. -/
theorem Tally.answer (h : Tally dropped consumed [req] link) (hecho : isEcho req = true) :
    Tally dropped (consumed ++ [req]) [] (link.send (.response (echoReply req))) where
  writes := h.tail_writes
  received := by
    rw [List.append_nil]
    exact h.received
  replies := by
    rw [Link.send, JsonRpc.responses_response, List.filter_append, List.map_append,
      List.filter_singleton, hecho]
    exact h.replies.append (List.Sublist.refl _)
  count := by
    have hcount := h.count
    rw [Link.send, JsonRpc.responses_response, List.length_append, List.countP_append,
      List.countP_singleton, if_pos hecho, List.length_singleton]
    omega

/-- The request at hand is consumed without a reply. -/
theorem Tally.consume (h : Tally dropped consumed [req] link) :
    Tally (dropped + if isEcho req then 1 else 0) (consumed ++ [req]) [] link where
  writes := h.writes
  received := by
    rw [List.append_nil]
    exact h.received
  replies := by
    rw [List.filter_append, List.map_append]
    exact h.replies.trans (List.sublist_append_left ..)
  count := by
    rw [List.countP_append, List.countP_singleton, ← h.count, Nat.add_assoc]

theorem keeps_sendRequest (req : Request) :
    Keeps (Tally dropped consumed held) (Link.sendMessage (.request req)) := by
  intro link h
  rw [Link.sendMessage_ok h.writable]
  constructor
  case writes => exact h.tail_writes
  case received => exact h.received
  case replies =>
    rw [Link.send, JsonRpc.responses_request]
    exact h.replies
  case count =>
    rw [Link.send, JsonRpc.responses_request]
    exact h.count

/-- What is read is noted, and nothing else changes. -/
theorem recvMessage_triple (P : Link → Prop) :
    Triple P Link.recvMessage
      (fun msg after => ∃ before rest, P before ∧ after = before.read msg rest)
      (fun after => ∃ before rest, P before ∧ after = { before with inbound := rest }) := by
  intro link h
  rw [Link.recvMessage]
  rcases hinbound : link.inbound with _ | ⟨msg | e | _ | _, rest⟩
  · exact ⟨link, [], h, by rw [← hinbound]⟩
  · exact ⟨link, rest, h, rfl⟩
  all_goals exact ⟨link, rest, h, rfl⟩

theorem Tally.inbound (h : Tally dropped consumed held link)
    (rest : List (JsonRpc.Result Message)) :
    Tally dropped consumed held { link with inbound := rest } :=
  ⟨h.writes, h.received, h.replies, h.count⟩

theorem Tally.response (h : Tally dropped consumed held link)
    (rest : List (JsonRpc.Result Message)) (resp : Response) :
    Tally dropped consumed held (link.read (.response resp) rest) where
  writes := h.writes
  received := by
    rw [Link.read, JsonRpc.requests_response]
    exact h.received
  replies := h.replies
  count := h.count

/-- A request that is read while a response is awaited goes behind the pending ones. -/
theorem Tally.buffer (h : Tally dropped consumed [] link)
    (rest : List (JsonRpc.Result Message)) (req : Request) :
    Tally dropped consumed [] (link.buffer req rest) where
  writes := h.writes
  received := by
    rw [Link.buffer, Link.read, JsonRpc.requests_request, h.received, List.append_assoc]
  replies := h.replies
  count := h.count

theorem keeps_recvResponse (expectedId : U64) :
    Keeps (Tally dropped consumed []) (Link.recvResponse expectedId) := by
  refine Keeps.loop ?_ ()
  intro _
  refine Triple.bind ((recvMessage_triple _).mono (fun _ _ h => h) ?_) ?_
  · intro after h
    rcases h with ⟨link, rest, h, rfl⟩
    exact h.inbound rest
  · intro msg after h
    rcases h with ⟨link, rest, h, rfl⟩
    cases msg with
    | request req => exact h.buffer rest req
    | response resp =>
      rw [bind_run, Program.bind, read_run]
      by_cases hid : resp.id = .number expectedId
      · simp only [JsonRpc.Connection.recvResponse, hid, ne_eq, not_true_eq_false, if_false]
        exact h.response rest resp
      · simp only [JsonRpc.Connection.recvResponse, ne_eq, hid, not_false_eq_true, if_true]
        exact h.response rest resp

theorem keeps_transact (method : String) (params : Value) :
    Keeps (Tally dropped consumed []) (Link.transact method params) := by
  refine Keeps.bind (Keeps.read _) ?_
  intro id link h
  have hsend : Keeps (Tally dropped consumed [])
      (do Link.sendMessage (.request (link.conn.request method params).1)
          let resp ← Link.recvResponse id
          Program.read fun _ => resp.value) := by
    refine Keeps.bind (keeps_sendRequest _) ?_
    intro _
    refine Keeps.bind (keeps_recvResponse id) ?_
    intro resp
    exact Keeps.read _
  exact hsend { link with conn := (link.conn.request method params).2 }
    ⟨h.writes, h.received, h.replies, h.count⟩

theorem Tally.pop (h : Tally dropped consumed [] link) {rest : List Request}
    (hpending : link.conn.pendingNotifications = req :: rest) :
    Tally dropped consumed [req]
      { link with conn := { link.conn with pendingNotifications := rest } } where
  writes := h.writes
  received := by
    rw [h.received, hpending, List.append_nil]
    exact List.append_cons ..
  replies := h.replies
  count := h.count

end Connection

/-! ### One request -/

namespace Client

variable {fmt : Formats} {idl : Idl} {dropped : Nat} {consumed : List Request} {req : Request}
  {client : Client}

theorem keeps_onConn {α : Type} {p : Program Link JsonRpc.Error α}
    (h : Keeps (Ovsdb.Tally dropped consumed []) p) :
    Keeps (Client.Tally fmt idl dropped consumed []) (onConn p) := by
  refine Keeps.focus h ?_ ?_
  · exact fun _ htally => htally.conn
  · exact fun _ _ htally hconn => ⟨hconn, htally.applied, htally.idl⟩

def setPending (client : Client) (rest : List Request) : Client :=
  { client with
    conn := { client.conn with
      conn := { client.conn.conn with pendingNotifications := rest } } }

/-- The client with the updates of a request taken into the IDL. -/
def take (fmt : Formats) (client : Client) (req : Request) : Client :=
  match updateOf req with
  | some updates =>
    { client with
      idl := client.idl.processUpdate fmt.uuid updates
      applied := client.applied ++ [updates] }
  | none => client

theorem pending_take : (client.take fmt req).pending = client.pending := by
  rw [take]
  split <;> rfl

theorem pop_none (h : client.pending = []) :
    onConn Link.popNotification client = (.ok none, client) := by
  have hpop : Link.popNotification client.conn = (.ok none, client.conn) := by
    have hnone : client.conn.conn.popNotification = none := by
      rw [JsonRpc.Connection.popNotification]
      rw [pending] at h
      rw [h]
    rw [Link.popNotification, bind_run, Program.bind, read_run, hnone]
    rfl
  exact onConn_ok hpop

theorem pop_some {rest : List Request} (h : client.pending = req :: rest) :
    onConn Link.popNotification client = (.ok (some req), client.setPending rest) := by
  have hpop : Link.popNotification client.conn = (.ok (some req), { client.conn with
      conn := { client.conn.conn with pendingNotifications := rest } }) := by
    have hsome : client.conn.conn.popNotification =
        some (req, { client.conn.conn with pendingNotifications := rest }) := by
      rw [JsonRpc.Connection.popNotification]
      rw [pending] at h
      rw [h]
    rw [Link.popNotification, bind_run, Program.bind, read_run, hsome]
    rfl
  exact onConn_ok hpop

theorem sendEchoReply_run (h : client.conn.Writable) :
    sendEchoReply req client = (.ok (), { client with
      conn := client.conn.send (.response (echoReply req)) }) :=
  onConn_ok (Link.sendMessage_ok h (.response (echoReply req)))

theorem processNotification_run (fmt : Formats) (req : Request) (client : Client) :
    ∃ result, processNotification fmt req client = (.ok result, client.take fmt req) := by
  rw [processNotification, take, updateOf_eq]
  by_cases hupdate : isUpdate req = true
  · rw [if_pos hupdate, if_pos hupdate]
    cases secondParam req with
    | some updates => exact ⟨some true, rfl⟩
    | none => exact ⟨some false, rfl⟩
  · rw [if_neg hupdate, if_neg hupdate]
    split
    · exact ⟨some false, rfl⟩
    · exact ⟨none, rfl⟩

theorem updateOf_echo (h : isEcho req = true) : updateOf req = none := by
  have hmethod : req.method = "echo" := of_decide_eq_true h
  simp [updateOf, hmethod]

theorem Tally.take (h : client.Tally fmt idl dropped consumed [req]) :
    (client.take fmt req).Tally fmt idl (dropped + if isEcho req then 1 else 0)
      (consumed ++ [req]) [] := by
  rw [Client.take]
  cases hupdate : updateOf req with
  | some updates =>
    constructor
    case conn => exact h.conn.consume
    case applied => rw [List.filterMap_append, h.applied, List.filterMap_cons_some hupdate]; rfl
    case idl => rw [List.foldl_append, h.idl]; rfl
  | none =>
    constructor
    case conn => exact h.conn.consume
    case applied =>
      rw [List.filterMap_append, h.applied, List.filterMap_cons_none hupdate]
      exact (List.append_nil _).symm
    case idl => exact h.idl

theorem waitRequest_ends (h : client.Tally fmt idl dropped consumed [req]) :
    Ends (fun _ after => after.Tally fmt idl dropped (consumed ++ [req]) [] ∧
      after.pending = client.pending) (fun _ => False) (waitRequest fmt req client) := by
  rw [waitRequest]
  by_cases hmethod : req.method = "echo"
  · have hecho : isEcho req = true := decide_eq_true hmethod
    rw [if_pos hmethod, bind_ok (sendEchoReply_run h.conn.writable)]
    refine ⟨?_, rfl⟩
    constructor
    case conn => exact h.conn.answer hecho
    case applied =>
      rw [List.filterMap_append, List.filterMap_cons_none (updateOf_echo hecho),
        List.filterMap_nil, List.append_nil]
      exact h.applied
    case idl => exact h.idl
  · have hecho : isEcho req = false := decide_eq_false hmethod
    rcases processNotification_run fmt req client with ⟨result, hrun⟩
    have htake := h.take
    rw [hecho] at htake
    rw [if_neg hmethod, bind_ok hrun]
    exact ⟨htake, pending_take⟩

/-! ### The calls -/

/-- The invariant of a run, whatever was consumed. -/
def Tallied (fmt : Formats) (idl : Idl) (dropped : Nat) (client : Client) : Prop :=
  ∃ consumed, client.Tally fmt idl dropped consumed []

theorem keeps_transact (operations : Value) :
    Keeps (Tallied fmt idl dropped) (transact operations) := by
  intro client h
  rcases h with ⟨consumed, h⟩
  refine Ends.mono (Keeps.bind (Keeps.read _) ?_ client h) ?_ ?_
  · intro database
    exact keeps_onConn (Ovsdb.keeps_transact _ _)
  · exact fun _ _ h => ⟨consumed, h⟩
  · exact fun _ h => ⟨consumed, h⟩

theorem keeps_commit (txn : Transaction) : Keeps (Tallied fmt idl dropped) (commit fmt txn) := by
  intro client h
  rcases h with ⟨consumed, h⟩
  refine Ends.mono (Keeps.ite (Keeps.pure _) ?_ client h) ?_ ?_
  · refine Keeps.bind (keeps_onConn (Ovsdb.keeps_transact _ _)) ?_
    intro result
    exact Keeps.pure _
  · exact fun _ _ h => ⟨consumed, h⟩
  · exact fun _ h => ⟨consumed, h⟩

theorem Tally.pop {rest : List Request} (h : client.Tally fmt idl dropped consumed [])
    (hpending : client.pending = req :: rest) :
    (client.setPending rest).Tally fmt idl dropped consumed [req] :=
  ⟨h.conn.pop hpending, h.applied, h.idl⟩

/-- A request that is read while nothing is pending. -/
theorem Tally.hold (h : client.Tally fmt idl dropped consumed []) (hpending : client.pending = [])
    (rest : List (JsonRpc.Result Message)) (req : Request) :
    Client.Tally fmt idl dropped consumed [req]
      { client with conn := client.conn.read (.request req) rest } where
  conn :=
    { writes := h.conn.writes
      received := by
        have hreceived := h.conn.received
        rw [pending] at hpending
        rw [hpending] at hreceived
        rw [Link.read, JsonRpc.requests_request, hreceived, hpending]
        simp
      replies := h.conn.replies
      count := h.conn.count }
  applied := h.applied
  idl := h.idl

/-- The first loop of `wait`: where it ends without an update, nothing is pending. -/
theorem wait_drain_triple (i : Unit) :
    Triple (Tallied fmt idl dropped) (wait.drain fmt i)
      (PassEnds (fun _ => Tallied fmt idl dropped) fun updated client =>
        Tallied fmt idl dropped client ∧ (updated = false → client.pending = []))
      (Tallied fmt idl dropped) := by
  intro client h
  rcases h with ⟨consumed, h⟩
  cases hpending : client.pending with
  | nil =>
    rw [wait.drain, bind_ok (pop_none hpending)]
    exact ⟨⟨consumed, h⟩, fun _ => hpending⟩
  | cons req rest =>
    rw [wait.drain, bind_ok (pop_some hpending)]
    refine Ends.bind ((waitRequest_ends (h.pop hpending)).mono (fun _ _ h => h)
      fun _ h => h.elim) ?_
    intro updated after hafter
    cases updated with
    | true => exact ⟨⟨_, hafter.1⟩, nofun⟩
    | false => exact ⟨_, hafter.1⟩

/-- The second loop of `wait` reads while nothing is pending. -/
theorem wait_receive_triple (i : Unit) :
    Triple (fun client => Tallied fmt idl dropped client ∧ client.pending = [])
      (wait.receive fmt i)
      (PassEnds (fun _ client => Tallied fmt idl dropped client ∧ client.pending = [])
        fun _ => Tallied fmt idl dropped)
      (Tallied fmt idl dropped) := by
  intro client h
  rcases h with ⟨⟨consumed, h⟩, hpending⟩
  have hread := onConn_ends (recvMessage_triple (· = client.conn) client.conn rfl)
  rw [wait.receive]
  refine Ends.bind (hread.mono (fun _ _ h => h) ?_) ?_
  · intro after hafter
    rcases hafter with ⟨conn, ⟨before, rest, rfl, rfl⟩, rfl⟩
    exact ⟨consumed, h.conn.inbound rest, h.applied, h.idl⟩
  · intro msg after hafter
    rcases hafter with ⟨conn, ⟨before, rest, rfl, rfl⟩, rfl⟩
    cases msg with
    | response resp => exact ⟨⟨consumed, h.conn.response rest resp, h.applied, h.idl⟩, hpending⟩
    | request req =>
      have hheld := Tally.hold h hpending rest req
      refine Ends.bind ((waitRequest_ends hheld).mono (fun _ _ h => h) fun _ h => h.elim) ?_
      intro updated after hafter
      cases updated with
      | true => exact ⟨_, hafter.1⟩
      | false => exact ⟨⟨_, hafter.1⟩, hafter.2.trans hpending⟩

theorem keeps_wait : Keeps (Tallied fmt idl dropped) (wait fmt) := by
  refine Triple.bind (Triple.loop wait_drain_triple (fun _ _ h => h) ()) ?_
  intro updated
  cases updated with
  | true => exact Triple.pure () fun _ h => h.1
  | false =>
    intro client h
    rw [if_neg Bool.false_ne_true]
    exact Triple.loop wait_receive_triple (fun _ _ h => h.1) () client ⟨h.1, h.2 rfl⟩

theorem run_pass_none (h : client.pending = []) (updated : Bool) :
    run.pass fmt updated client = (.ok (.leave updated), client) := bind_ok (pop_none h)

theorem run_pass_some (fmt : Formats) {rest : List Request} (h : client.pending = req :: rest)
    (updated : Bool) :
    ∃ updated', run.pass fmt updated client =
      (.ok (.again updated'), (client.setPending rest).take fmt req) := by
  rw [run.pass, bind_ok (pop_some h), take, updateOf_eq]
  by_cases hupdate : isUpdate req = true
  · simp only [if_pos hupdate]
    cases secondParam req with
    | some updates => exact ⟨true, rfl⟩
    | none => exact ⟨updated, rfl⟩
  · simp only [if_neg hupdate]
    exact ⟨updated, rfl⟩

theorem run_decreases :
    Decreases (fun client => client.conn.conn.pendingNotifications.length) (run.pass fmt) := by
  intro updated updated' before after hpass
  cases hpending : before.pending with
  | nil =>
    rw [run_pass_none hpending] at hpass
    cases hpass
  | cons req rest =>
    rcases run_pass_some fmt hpending updated with ⟨_, hrun⟩
    rw [hrun] at hpass
    cases hpass
    have hafter : ((before.setPending rest).take fmt req).pending = rest := pending_take
    rw [pending] at hafter hpending
    simp only [hafter, hpending, List.length_cons]
    exact Nat.lt_succ_self _

/-- `run` comes back with nothing pending, and the echoes that were pending are dropped. -/
theorem run_tally (h : Tallied fmt idl dropped client) :
    ∃ updated after, run fmt client = (.ok updated, after) ∧ after.pending = [] ∧
      Tallied fmt idl (dropped + client.pending.countP isEcho) after := by
  rw [run]
  generalize false = updated
  generalize hpending : client.pending = reqs
  induction reqs generalizing client dropped updated with
  | nil => exact ⟨updated, client, loop_leave (run_pass_none hpending updated), hpending, h⟩
  | cons req rest ih =>
    rcases h with ⟨consumed, h⟩
    rcases run_pass_some fmt hpending updated with ⟨updated', hrun⟩
    rw [loop_again run_decreases hrun]
    rcases ih ⟨_, (h.pop hpending).take⟩ updated' pending_take with ⟨last, after, heq, hnil, htally⟩
    refine ⟨last, after, heq, hnil, ?_⟩
    rw [List.countP_cons, Nat.add_comm (rest.countP isEcho), ← Nat.add_assoc]
    exact htally

/-! ### Runs of a connected client -/

/-- The echoes that an event drops. -/
def drops (client : Client) : Event → Nat
  | .call .run => client.pending.countP isEcho
  | _ => 0

def dropsIn (fmt : Formats) : Client → List Event → Nat
  | _, [] => 0
  | client, event :: events => client.drops event + dropsIn fmt (client.step fmt event) events

theorem Tallied.step {n : Nat} (h : Tallied fmt idl n client) (event : Event) :
    Tallied fmt idl (n + client.drops event) (client.step fmt event) := by
  cases event with
  | arrive msg =>
    rcases h with ⟨consumed, h⟩
    exact ⟨consumed, h.conn.inbound _, h.applied, h.idl⟩
  | call call =>
    cases call with
    | transact operations => exact (keeps_transact operations).holds h
    | commit txn => exact (keeps_commit txn).holds h
    | run =>
      rcases run_tally h with ⟨updated, after, hrun, -, htally⟩
      rw [Client.step, Call.perform, hrun]
      exact htally
    | wait => exact keeps_wait.holds h

theorem Tallied.after {n : Nat} (h : Tallied fmt idl n client) (events : List Event) :
    Tallied fmt idl (n + dropsIn fmt client events) (client.after fmt events) := by
  induction events generalizing client n with
  | nil => exact h
  | cons event events ih =>
    rw [dropsIn, ← Nat.add_assoc]
    exact ih (h.step event)

/-- Nothing of the start takes a notification. -/
theorem initializeClient_keeps (fmt : Formats) (monitorId : Uuid) :
    Keeps (fun client : Client => Ovsdb.Tally 0 [] [] client.conn ∧ client.applied = [])
      (initializeClient fmt monitorId) := by
  have hrequest : ∀ method params,
      Keeps (fun client : Client => Ovsdb.Tally 0 [] [] client.conn ∧ client.applied = [])
        (onConn (Link.transact method params)) := by
    intro method params
    have hlink : Keeps (Ovsdb.Tally 0 [] []) (Link.transact method params) :=
      Ovsdb.keeps_transact method params
    refine Keeps.focus hlink ?_ ?_
    · exact fun _ h => h.1
    · exact fun _ _ h hconn => ⟨hconn, h.2⟩
  apply Keeps.bind
  · apply Keeps.bind (Keeps.read _)
    intro database
    apply Keeps.bind (hrequest _ _)
    intro result
    cases fmt.schema result with
    | ok schema => exact Keeps.modify fun _ h => h
    | error text => exact Keeps.read _
  · intro _
    apply Keeps.bind (Keeps.read _)
    intro schema
    refine Keeps.bind (Keeps.modify fun _ h => h) ?_
    intro _
    apply Keeps.bind (Keeps.read _)
    intro config
    apply Keeps.bind (hrequest _ _)
    intro result
    refine Keeps.bind (Keeps.modify fun _ h => h) ?_
    intro _
    exact Keeps.modify fun _ h => h

theorem connect_tally {inbound : List (JsonRpc.Result Message)} {config : ClientConfig}
    {monitorId : Uuid} {start : Client}
    (h : connectWithConfig fmt (.ok (.fresh inbound)) config monitorId = .ok start) :
    Tallied fmt start.idl 0 start := by
  have hkeeps := (initializeClient_keeps fmt monitorId).holds
    (s := opened (.fresh inbound) config) ⟨Tally.fresh inbound, rfl⟩
  rw [connectWithConfig, ok_bind] at h
  rcases hrun : initializeClient fmt monitorId (opened (.fresh inbound) config) with ⟨result, after⟩
  rw [hrun] at h hkeeps
  rcases bind_eq_ok.mp h with ⟨_, -, heq⟩
  cases heq
  exact ⟨[], hkeeps.1, hkeeps.2, by rw [hkeeps.2]; rfl⟩

/-! ### Updates -/

/-- Every update that was read is applied or pending, in the order of the stream, and the IDL
    is the one of the start with the applied updates. -/
structure InOrder (fmt : Formats) (client start : Client) : Prop where
  order : client.applied ++ client.pending.filterMap updateOf =
    client.requests.filterMap updateOf
  idl : client.idl = client.applied.foldl (Idl.processUpdate fmt.uuid) start.idl
  changeSeqno : client.idl.changeSeqno =
    start.idl.changeSeqno + BitVec.ofNat 64 client.applied.length

theorem Tallied.inOrder {n : Nat} {start : Client} (h : Tallied fmt start.idl n client) :
    client.InOrder fmt start := by
  rcases h with ⟨consumed, h⟩
  constructor
  case order =>
    rw [requests, h.conn.received, List.append_nil, List.filterMap_append, h.applied]
    rfl
  case idl => exact h.idl
  case changeSeqno => rw [h.idl, changeSeqno_foldl]

/-- **In every run of calls and arrivals each update of the server is applied once and in order, and
    behind `run` no update is pending.**  What is applied is compared with what arrived, update by
    update, whichever calls read them from the socket. -/
theorem updates_inOrder {inbound : List (JsonRpc.Result Message)} {config : ClientConfig}
    {monitorId : Uuid} {start : Client}
    (hconnect : connectWithConfig fmt (.ok (.fresh inbound)) config monitorId = .ok start)
    (events : List Event) :
    (start.after fmt events).InOrder fmt start ∧
      ∃ updated after, run fmt (start.after fmt events) = (.ok updated, after) ∧
        after.InOrder fmt start ∧ after.pending = [] := by
  have htally := (connect_tally hconnect).after events
  rcases run_tally htally with ⟨updated, after, hrun, hpending, hafter⟩
  exact ⟨htally.inOrder, updated, after, hrun, hafter.inOrder, hpending⟩

/-! A client with one table, connected. -/

def schemaJson : Value := .object [("name", .string "Open_vSwitch")]

def readSchema (json : Value) : Except String DbSchema :=
  if (json.get "name").bind Value.asStr = some "Open_vSwitch" then .ok bridgeSchema
  else .error "unknown schema"

def formats : Formats where
  uuid := hyphenated
  schema := readSchema

def connected : Client :=
  (initializeClient formats 7 (opened (.fresh (startReplies schemaJson (.object []))) {})).2

theorem connected_eq : connectWithConfig formats
    (.ok (.fresh (startReplies schemaJson (.object [])))) {} 7 = .ok connected := rfl

def updateRequest (updates : Value) : Request := ⟨"update", .array [.null, updates], none⟩

/-- Two updates arrive before a response, of which `wait` takes one and `run` the other, and
    one more is read by `wait`. -/
def updateRun : List Event :=
  [.arrive (.request (updateRequest (.string "first"))),
    .arrive (.request (updateRequest (.string "second"))),
    .arrive (.response (.success (.number 3) .null)),
    .call (.transact .null), .call .wait, .call .run,
    .arrive (.request (updateRequest (.string "third"))), .call .wait]

theorem updates_inOrder_run :
    (connected.after formats updateRun).InOrder formats connected ∧
      (connected.after formats updateRun).applied =
        [.string "first", .string "second", .string "third"] :=
  ⟨(updates_inOrder connected_eq updateRun).1, rfl⟩

/-! ### Echo requests -/

/-- What the answer to an echo request is: a result, not an error, under the request's own id
    and with the request's own parameters. -/
structure Answers (req : Request) (resp : Response) : Prop where
  id : req.id = some resp.id
  result : resp.result = some req.params
  noError : resp.error = none

/-- Each echo request that was read has its answer, in order, and nothing else has one. -/
def Answered (client : Client) : Prop :=
  List.Forall₂ Answers (client.requests.filter isEcho) client.replies

/-- Each echo request that was read has an id to be answered under. -/
def EchoesNamed (client : Client) : Prop :=
  ∀ req ∈ client.requests, isEcho req = true → req.id.isSome = true

/-- No call of `run` finds an echo request pending. -/
def NoEchoDropped (fmt : Formats) (client : Client) (events : List Event) : Prop :=
  ∀ before rest, events = before ++ .call .run :: rest →
    ∀ req ∈ (client.after fmt before).pending, isEcho req = false

theorem drops_eq_zero (event : Event) :
    client.drops event = 0 ↔ (event = .call .run → ∀ req ∈ client.pending, isEcho req = false) := by
  cases event with
  | arrive msg => exact iff_of_true rfl nofun
  | call call =>
    cases call with
    | run => simp [drops, List.countP_eq_zero]
    | transact operations => exact iff_of_true rfl nofun
    | commit txn => exact iff_of_true rfl nofun
    | wait => exact iff_of_true rfl nofun

theorem noEchoDropped_iff (client : Client) (events : List Event) :
    NoEchoDropped fmt client events ↔ dropsIn fmt client events = 0 := by
  induction events generalizing client with
  | nil =>
    refine iff_of_true ?_ rfl
    intro before rest heq
    exact absurd heq.symm (List.append_ne_nil_of_right_ne_nil _ (List.cons_ne_nil _ _))
  | cons event events ih =>
    rw [dropsIn, Nat.add_eq_zero_iff, drops_eq_zero, ← ih]
    constructor
    · intro h
      constructor
      · intro hevent
        exact h [] events (by rw [hevent]; rfl)
      · intro before rest heq
        exact h (event :: before) rest (by rw [heq]; rfl)
    · intro h before rest heq
      cases before with
      | nil => exact h.1 (List.cons.inj heq).1
      | cons first before =>
        rcases List.cons.inj heq with ⟨rfl, htail⟩
        exact h.2 before rest htail

/-- The client's reply is the answer exactly if there is an id: without one it goes out under
    an id of its own. -/
theorem answers_echoReply_iff (req : Request) :
    Answers req (echoReply req) ↔ req.id.isSome = true := by
  constructor
  · intro h
    rw [h.id]
    rfl
  · intro h
    rcases Option.isSome_iff_exists.mp h with ⟨id, hid⟩
    exact ⟨by rw [echoReply, hid]; rfl, rfl, rfl⟩

/-- With nothing pending, the replies are some of the client's own to the echo requests, and
    those that are missing were dropped. -/
theorem Tallied.replies_sublist {n : Nat} (h : Tallied fmt idl n client)
    (hpending : client.pending = []) :
    client.replies.Sublist ((client.requests.filter isEcho).map echoReply) ∧
      client.replies.length + n = (client.requests.filter isEcho).length := by
  rcases h with ⟨consumed, h⟩
  have hconsumed : client.requests = consumed := by
    rw [requests, h.conn.received, List.append_nil]
    rw [pending] at hpending
    rw [hpending, List.append_nil]
  rw [hconsumed, ← List.countP_eq_length_filter]
  exact ⟨h.conn.replies, h.conn.count⟩

theorem Tallied.answered_iff {n : Nat} (h : Tallied fmt idl n client)
    (hpending : client.pending = []) : client.Answered ↔ n = 0 ∧ client.EchoesNamed := by
  obtain ⟨hsublist, hcount⟩ := h.replies_sublist hpending
  have hown : List.Forall₂ Answers (client.requests.filter isEcho)
      ((client.requests.filter isEcho).map echoReply) ↔ client.EchoesNamed := by
    rw [List.forall₂_map_right_iff, List.forall₂_same]
    simp only [answers_echoReply_iff, List.mem_filter, EchoesNamed, and_imp]
  have hreplies : n = 0 → client.replies = (client.requests.filter isEcho).map echoReply := by
    intro hzero
    refine hsublist.eq_of_length ?_
    rw [List.length_map, ← hcount, hzero]
    rfl
  constructor
  · intro hanswered
    have hlength := hanswered.length_eq
    have hzero : n = 0 := by omega
    rw [Answered, hreplies hzero] at hanswered
    exact ⟨hzero, hown.mp hanswered⟩
  · rintro ⟨hzero, hnamed⟩
    rw [Answered, hreplies hzero]
    exact hown.mpr hnamed

/-- **In every run, once no request is pending, each echo request has been answered exactly when
    no call of `run` found one pending and each that was read has an id.** -/
theorem echoes_answered_iff {inbound : List (JsonRpc.Result Message)} {config : ClientConfig}
    {monitorId : Uuid} {start : Client}
    (hconnect : connectWithConfig fmt (.ok (.fresh inbound)) config monitorId = .ok start)
    (events : List Event) (hpending : (start.after fmt events).pending = []) :
    (start.after fmt events).Answered ↔
      start.NoEchoDropped fmt events ∧ (start.after fmt events).EchoesNamed := by
  have htally := (connect_tally hconnect).after events
  rw [htally.answered_iff hpending, Nat.zero_add, noEchoDropped_iff]

def echoRequest : Request := ⟨"echo", .array [], some (.string "echo")⟩

/-- An echo request arrives before a response, and the given call consumes it. -/
def echoRun (call : Call) : List Event :=
  [.arrive (.request echoRequest), .arrive (.response (.success (.number 3) .null)),
    .call (.transact .null), .call call]

theorem echoes_answered_iff_wait :
    (connected.after formats (echoRun .wait)).Answered :=
  (echoes_answered_iff connected_eq (echoRun .wait) rfl).mpr
    ⟨(noEchoDropped_iff _ _).mpr rfl, List.forall_mem_singleton.mpr fun _ => rfl⟩

/-- An echo request that `run` drains has no reply. -/
theorem run_drops_echo : ¬ ∀ events, (connected.after formats events).pending = [] →
    (connected.after formats events).Answered := by
  intro h
  have hanswered : List.Forall₂ Answers [echoRequest] [] := h (echoRun .run) rfl
  cases hanswered

end Client

end Rovs.Ovsdb

import Rovs.Program
import Rovs.RpcConnection

/-!
# Sending and receiving over a connection (`rovs-jsonrpc/src/connection.rs`)

The methods of the connection that write to the transport or read from it.  What the next
calls of `recv_message` will come to is given in advance, and so is the fate of the next
writes.  So one run of a method stands for one way in which messages and faults arrive while
it runs.  A method that has read everything is left waiting: it ends with `hang`, and the
state is the one it waits in, which is also the state that is left if it is dropped there.
-/

namespace Rovs.JsonRpc

open Json Outcome

structure Link where
  conn : Connection
  /-- What the next calls of `recv_message` come to. -/
  inbound : List (Result Message)
  /-- What the next writes come to; the writes after them succeed. -/
  writes : List (Result Unit) := []
  received : List Message := []
  sent : List Message := []

namespace Link

/-- A connection over a new stream, to which no write fails. -/
def fresh (inbound : List (Result Message)) : Link where
  conn := .new
  inbound := inbound

/-- A message is sent when all of it is written. -/
def sendMessage (msg : Message) : Program Link Error Unit := fun link =>
  match link.writes with
  | [] => (.ok (), { link with sent := link.sent ++ [msg] })
  | .ok () :: rest => (.ok (), { link with writes := rest, sent := link.sent ++ [msg] })
  | failure :: rest => (failure, { link with writes := rest })

def recvMessage : Program Link Error Message := fun link =>
  match link.inbound with
  | [] => (.hang, link)
  | .ok msg :: rest => (.ok msg, { link with inbound := rest, received := link.received ++ [msg] })
  | failure :: rest => (failure, { link with inbound := rest })

def setConn (conn : Connection) : Program Link Error Unit :=
  .modify fun link => { link with conn := conn }

def popNotification : Program Link Error (Option Request) := do
  match ← Program.read fun link => .ok link.conn.popNotification with
  | some (req, conn) =>
    setConn conn
    return some req
  | none => return none

def recvResponse (expectedId : U64) : Program Link Error Response :=
  Program.loop (fun link => link.inbound.length) pass ()
where
  pass (_ : Unit) : Program Link Error (Pass Unit Response) := do
    let msg ← recvMessage
    match ← Program.read fun link => link.conn.recvResponse expectedId msg with
    | .again conn =>
      setConn conn
      return .again ()
    | .leave resp => return .leave resp

def transact (method : String) (params : Value) : Program Link Error Value := do
  let id ← Program.read fun link => .ok link.conn.nextId
  let (request, conn) ← Program.read fun link => .ok (link.conn.request method params)
  setConn conn
  sendMessage (.request request)
  let resp ← recvResponse id
  Program.read fun _ => resp.value

/-! ### What a call does to the connection -/

open Program

variable {link after : Link}

/-- A message is read. -/
def read (link : Link) (msg : Message) (rest : List (Result Message)) : Link :=
  { link with inbound := rest, received := link.received ++ [msg] }

/-- A request is read and buffered. -/
def buffer (link : Link) (req : Request) (rest : List (Result Message)) : Link :=
  { link.read (.request req) rest with
    conn := { link.conn with pendingNotifications := link.conn.pendingNotifications ++ [req] } }

/-- Requests are read and buffered, and then a response is read. -/
def answered (link : Link) (reqs : List Request) (resp : Response)
    (rest : List (Result Message)) : Link :=
  { link with
    conn := { link.conn with
      pendingNotifications := link.conn.pendingNotifications ++ reqs }
    inbound := rest
    received := link.received ++ reqs.map .request ++ [.response resp] }

/-- The stream brings requests and then a response. -/
def Brings (link : Link) (reqs : List Request) (resp : Response) (rest : List (Result Message)) :
    Prop :=
  link.inbound = reqs.map (fun req => .ok (.request req)) ++ .ok (.response resp) :: rest

theorem recvMessage_ok {msg : Message} {rest : List (Result Message)}
    (h : link.inbound = .ok msg :: rest) : recvMessage link = (.ok msg, link.read msg rest) := by
  rw [recvMessage, h]
  rfl

theorem recvMessage_eq_ok {msg : Message} (h : recvMessage link = (.ok msg, after)) :
    ∃ rest, link.inbound = .ok msg :: rest ∧ after = link.read msg rest := by
  rw [recvMessage] at h
  rcases hinbound : link.inbound with _ | ⟨first | e | _ | _, rest⟩
  all_goals
    rw [hinbound] at h
    cases h
  exact ⟨rest, rfl, rfl⟩

section RecvResponse

variable {expectedId : U64} {req : Request} {resp : Response} {rest : List (Result Message)}

/-- A notification that comes before the response is buffered, and the loop goes on. -/
theorem recvResponse_pass_request (h : link.inbound = .ok (.request req) :: rest) :
    recvResponse.pass expectedId () link = (.ok (.again ()), link.buffer req rest) :=
  bind_ok (recvMessage_ok h)

theorem recvResponse_pass_response (h : link.inbound = .ok (.response resp) :: rest)
    (hid : resp.id = .number expectedId) :
    recvResponse.pass expectedId () link =
      (.ok (.leave resp), link.read (.response resp) rest) := by
  rw [recvResponse.pass, bind_ok (recvMessage_ok h), bind_run, Program.bind, read_run]
  simp only [Connection.recvResponse, hid, ne_eq, not_true_eq_false, if_false]
  rfl

theorem recvResponse_pass_eq_ok {pass : Pass Unit Response}
    (h : recvResponse.pass expectedId () link = (.ok pass, after)) :
    (∃ req rest, link.inbound = .ok (.request req) :: rest ∧ pass = .again () ∧
      after = link.buffer req rest) ∨
    ∃ resp rest, link.inbound = .ok (.response resp) :: rest ∧ resp.id = .number expectedId ∧
      pass = .leave resp ∧ after = link.read (.response resp) rest := by
  rcases bind_eq_ok h with ⟨msg, link', hread, -⟩
  rcases recvMessage_eq_ok hread with ⟨rest, hinbound, -⟩
  cases msg with
  | request req =>
    rw [recvResponse_pass_request hinbound] at h
    cases h
    exact .inl ⟨req, rest, hinbound, rfl, rfl⟩
  | response resp =>
    by_cases hid : resp.id = .number expectedId
    · rw [recvResponse_pass_response hinbound hid] at h
      cases h
      exact .inr ⟨resp, rest, hinbound, hid, rfl, rfl⟩
    · rw [recvResponse.pass, bind_ok (recvMessage_ok hinbound), bind_run, Program.bind,
        read_run] at h
      simp only [Connection.recvResponse, ne_eq, hid, not_false_eq_true, if_true] at h
      cases h

theorem recvResponse_decreases :
    Decreases (fun link => link.inbound.length) (recvResponse.pass expectedId) := by
  intro i i' before after h
  rcases recvResponse_pass_eq_ok h with ⟨req, rest, hinbound, -, rfl⟩ | ⟨resp, rest, -, -, hpass, -⟩
  · simp only [hinbound, List.length_cons]
    exact Nat.lt_succ_self _
  · cases hpass

theorem answered_buffer (reqs : List Request) (rest' : List (Result Message)) :
    (link.buffer req rest').answered reqs resp rest = link.answered (req :: reqs) resp rest := by
  simp [buffer, read, answered]

theorem recvResponse_ok {reqs : List Request} (h : link.Brings reqs resp rest)
    (hid : resp.id = .number expectedId) :
    recvResponse expectedId link = (.ok resp, link.answered reqs resp rest) := by
  induction reqs generalizing link with
  | nil =>
    rw [recvResponse, loop_leave (recvResponse_pass_response h hid)]
    simp [answered, read]
  | cons req reqs ih =>
    rw [recvResponse, loop_again recvResponse_decreases (recvResponse_pass_request h)]
    have hrest : (link.buffer req (reqs.map (fun req => .ok (.request req)) ++
        .ok (.response resp) :: rest)).Brings reqs resp rest := rfl
    exact (ih hrest).trans (by rw [answered_buffer])

/-- **A call that gets a response** has buffered the requests in front of it and taken it from the
    stream; its id is the one that was asked for. -/
theorem recvResponse_eq_ok (h : recvResponse expectedId link = (.ok resp, after)) :
    resp.id = .number expectedId ∧ ∃ reqs rest, link.Brings reqs resp rest ∧
      after = link.answered reqs resp rest := by
  generalize hstream : link.inbound = stream
  induction stream generalizing link with
  | nil =>
    rcases loop_eq_ok recvResponse_decreases h with ⟨pass, next, hpass, -⟩
    rcases recvResponse_pass_eq_ok hpass with ⟨_, _, hinbound, -⟩ | ⟨_, _, hinbound, -⟩
    all_goals
      rw [hstream] at hinbound
      cases hinbound
  | cons first stream ih =>
    rcases loop_eq_ok recvResponse_decreases h with ⟨pass, next, hpass, hnext⟩
    rcases recvResponse_pass_eq_ok hpass with
      ⟨req, rest', hinbound, rfl, rfl⟩ | ⟨resp', rest', hinbound, hid, rfl, rfl⟩
    · rw [hstream] at hinbound
      rcases List.cons.inj hinbound with ⟨rfl, rfl⟩
      rcases ih hnext rfl with ⟨hid, reqs, rest, hbrings, hafter⟩
      refine ⟨hid, req :: reqs, rest, ?_, hafter.trans (answered_buffer reqs stream)⟩
      rw [Brings, hstream]
      exact congrArg (.ok (.request req) :: ·) hbrings
    · cases hnext
      refine ⟨hid, [], rest', hinbound, ?_⟩
      simp [answered, read]

end RecvResponse

/-- The next write succeeds. -/
def Writable (link : Link) : Prop := link.writes.headD (.ok ()) = .ok ()

instance : DecidablePred Writable := fun link => by
  unfold Writable
  infer_instance

/-- A message is sent. -/
def send (link : Link) (msg : Message) : Link :=
  { link with writes := link.writes.tail, sent := link.sent ++ [msg] }

theorem sendMessage_ok (h : link.Writable) (msg : Message) :
    sendMessage msg link = (.ok (), link.send msg) := by
  rw [Writable] at h
  rw [sendMessage, send]
  cases hwrites : link.writes with
  | nil => rfl
  | cons first rest =>
    rw [hwrites] at h
    cases h
    rfl

theorem sendMessage_eq_ok {msg : Message} (h : sendMessage msg link = (.ok (), after)) :
    link.Writable := by
  rw [Writable]
  rw [sendMessage] at h
  rcases hwrites : link.writes with _ | ⟨_ | e | _ | _, rest⟩
  · rfl
  · rfl
  all_goals
    rw [hwrites] at h
    cases h

/-- The request of a call is sent. -/
def request (link : Link) (method : String) (params : Value) : Link :=
  { link with conn := (link.conn.request method params).2 }.send
    (.request (link.conn.request method params).1)

section Transact

variable {method : String} {params value : Value}

theorem transact_run (h : link.Writable) :
    transact method params link =
      (recvResponse link.conn.nextId >>= fun resp => Program.read fun _ => resp.value)
        (link.request method params) := by
  have hwritable : Writable { link with conn := (link.conn.request method params).2 } := h
  have hsend := sendMessage_ok hwritable (.request (link.conn.request method params).1)
  exact bind_ok hsend

/-- A call whose request is sent and whose response comes has the value of the response. -/
theorem transact_ok {reqs : List Request} {resp : Response} {rest : List (Result Message)}
    (h : link.Writable) (hbrings : link.Brings reqs resp rest)
    (hid : resp.id = .number link.conn.nextId) (hvalue : resp.value = .ok value) :
    transact method params link =
      (.ok value, (link.request method params).answered reqs resp rest) := by
  have hbrings' : (link.request method params).Brings reqs resp rest := hbrings
  rw [transact_run h, bind_ok (recvResponse_ok hbrings' hid), read_run, hvalue]

/-- The same for `transact`, which writes its request first and takes the next id. -/
theorem transact_eq_ok (h : transact method params link = (.ok value, after)) :
    link.Writable ∧ ∃ reqs resp rest, link.Brings reqs resp rest ∧
      resp.id = .number link.conn.nextId ∧ resp.value = .ok value ∧
      after = (link.request method params).answered reqs resp rest := by
  have hwritable : link.Writable := by
    rcases bind_eq_ok (p := Link.sendMessage (.request (link.conn.request method params).1))
      (s := { link with conn := (link.conn.request method params).2 }) h with ⟨_, next, hsend, -⟩
    have hsent : Writable { link with conn := (link.conn.request method params).2 } :=
      sendMessage_eq_ok hsend
    exact hsent
  rw [transact_run hwritable] at h
  rcases bind_eq_ok h with ⟨resp, next, hrecv, hvalue⟩
  rcases recvResponse_eq_ok hrecv with ⟨hid, reqs, rest, hbrings, rfl⟩
  rw [read_run] at hvalue
  have hresult : resp.value = .ok value := congrArg Prod.fst hvalue
  have hafter := congrArg Prod.snd hvalue
  exact ⟨hwritable, reqs, resp, rest, hbrings, hid, hresult, hafter.symm⟩

end Transact

end Link

end Rovs.JsonRpc

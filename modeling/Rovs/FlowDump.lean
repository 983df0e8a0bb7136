import Rovs.Connection
import Rovs.FlowStatsSafety
import Rovs.Runs

/-!
# Flow dumps (`rovs-openflow/src/multipart.rs`, `rovs-openflow/src/vconn.rs`)

A dump writes one multipart request and reads replies until one comes without the
"more" flag.  The switch answers in order: a multipart request with a series of
replies, a rejected flow modification with an error.  A dump may end at an error or
at a reply that it cannot parse, and then the rest of the series is still to come.
-/

namespace Rovs.OpenFlow

open Outcome

/-! ### The request and the loop of a dump -/

/-- A flow stats request body, which follows the multipart header. -/
structure FlowStatsRequest where
  tableId : U8
  outPort : U32
  outGroup : U32
  cookie : U64
  cookieMask : U64
  matchFields : Match

/-- `FlowStatsRequest::new`: all flows of all tables. -/
def FlowStatsRequest.new : FlowStatsRequest where
  tableId := 0xff
  outPort := ofppAny
  outGroup := ofppAny
  cookie := 0
  cookieMask := 0
  matchFields := Match.new

def FlowStatsRequest.encode (r : FlowStatsRequest) : Bytes :=
  be r.tableId ++ zeros 3 ++ be r.outPort ++ be r.outGroup ++ zeros 4 ++ be r.cookie
    ++ be r.cookieMask ++ r.matchFields.encode

def FlowStatsRequest.toMessage (r : FlowStatsRequest) (version : Version) (xid : U32) : Message :=
  Message.new version .multipartRequest xid ((MultipartHeader.mk .flow 0).encode ++ r.encode)

/-- What `VConn::dump_flows_filtered` writes. -/
def VConn.dumpFlowsFiltered (conn : VConn) (request : FlowStatsRequest) : Message × VConn :=
  let (xid, conn) := conn.nextXid
  (request.toMessage conn.version xid, conn)

/-- What `VConn::dump_flows` writes. -/
def VConn.dumpFlows (conn : VConn) : Message × VConn := conn.dumpFlowsFiltered .new

/-- The loop body of `dump_flows_filtered`: the entries so far and the messages that are
    written before the next one is read, or all entries. -/
def VConn.awaitDump (conn : VConn) (allEntries : List FlowStatsEntry) (reply : Message) :
    Result (Pass (List FlowStatsEntry × List Message) (List FlowStatsEntry)) := do
  checkError reply
  if reply.header.msgType = .echoRequest then
    pure (.again (allEntries, [conn.echoReply reply]))
  else if reply.header.msgType ≠ .multipartReply then pure (.again (allEntries, []))
  else do
    let (entries, hasMore) ← parseFlowStatsReply reply.body
    if hasMore then pure (.again (allEntries ++ entries, []))
    else pure (.leave (allEntries ++ entries))

namespace FlowDump

/-! ### The switch -/

/-- The "more" flag in the bytes of a multipart body; a body that is too short for it does
    not set it. -/
def moreFlag (body : Bytes) : Bool :=
  match beAt (E := Error) 16 body 2 with
  | .ok flags => flags &&& multipartFlagsMore != 0
  | _ => false

/-- The bodies of the replies to one request: all but the last have the "more" flag. -/
structure Series where
  first : List Bytes
  last : Bytes
  more : ∀ body ∈ first, moreFlag body = true
  done : moreFlag last = false

def Series.bodies (series : Series) : List Bytes := series.first ++ [series.last]

/-- The series of one reply. -/
def Series.single (body : Bytes) (done : moreFlag body = false) : Series where
  first := []
  last := body
  more := fun _ h => absurd h List.not_mem_nil
  done := done

/-- A message that the switch has handled: whether it rejected it, if it was a flow
    modification, and its replies, if it was a multipart request. -/
structure Handled where
  request : Message
  rejection : Option Rejection
  series : Series

/-- The answers of the switch, with the transaction id of the request. -/
def Handled.answers (h : Handled) : List Message :=
  match h.request.header.msgType with
  | .flowMod => (h.rejection.map fun r =>
      Message.new h.request.header.version .error h.request.header.xid r.body).toList
  | .multipartRequest => h.series.bodies.map fun body =>
      Message.new h.request.header.version .multipartReply h.request.header.xid body
  | _ => []

/-! ### The client and the queues -/

/-- A dump that waits: the place of its request among all messages to the switch, its
    transaction id, whether no other replies were to come when it began, and the multipart
    replies that it has taken. -/
structure Dump where
  place : Nat
  xid : U32
  clear : Bool
  taken : List Reply := []
  entries : List FlowStatsEntry := []

/-- A dump that has ended. -/
structure Finished where
  dump : Dump
  result : Result (List FlowStatsEntry)

structure Channel where
  conn : VConn
  dump : Option Dump := none
  toSwitch : List Message := []
  handled : List Handled := []
  toClient : List Reply := []
  log : List Finished := []

/-- A message of a type. -/
def IsOf (msgType : MessageType) (msg : Message) : Bool := msg.header.msgType = msgType

/-- The dump has read a message; what is not a multipart reply it skips. -/
def Dump.take (d : Dump) (reply : Reply) (entries : List FlowStatsEntry) : Dump :=
  { d with
    taken := d.taken ++ [reply].filter fun reply => IsOf .multipartReply reply.2
    entries := entries }

namespace Channel

def sent (s : Channel) : List Message := s.handled.map Handled.request ++ s.toSwitch

/-- The multipart replies that the client has not read yet. -/
def unread (s : Channel) : List Reply :=
  s.toClient.filter fun reply => IsOf .multipartReply reply.2

/-- No multipart reply is unread or still to come. -/
def Clear (s : Channel) : Prop :=
  s.unread = [] ∧ s.toSwitch.filter (IsOf .multipartRequest) = []

instance (s : Channel) : Decidable s.Clear := by
  unfold Clear
  infer_instance

def sendFlow (s : Channel) (flow : Flow) : Channel :=
  let (msg, conn) := s.conn.sendFlow flow
  { s with conn := conn, toSwitch := s.toSwitch ++ [msg] }

/-- The client has written the request of a dump. -/
def begin (s : Channel) (written : Message × VConn) : Channel :=
  let (msg, conn) := written
  { s with
    conn := conn
    dump := some { place := s.sent.length, xid := msg.header.xid, clear := decide s.Clear }
    toSwitch := s.toSwitch ++ [msg] }

/-- The client has read a message and goes on waiting. -/
def await (s : Channel) (d : Dump) (rest : List Reply) (msgs : List Message) : Channel :=
  { s with dump := some d, toClient := rest, toSwitch := s.toSwitch ++ msgs }

/-- The client has read the message that ends its dump. -/
def finish (s : Channel) (d : Dump) (rest : List Reply) (result : Result (List FlowStatsEntry)) :
    Channel :=
  { s with dump := none, toClient := rest, log := s.log ++ [⟨d, result⟩] }

/-- The switch handles a message. -/
def handle (s : Channel) (h : Handled) (rest : List Message) : Channel :=
  { s with
    toSwitch := rest
    handled := s.handled ++ [h]
    toClient := s.toClient ++ h.answers.map (some s.handled.length, ·) }

/-- The switch sends a message of its own. -/
def send (s : Channel) (msg : Message) : Channel :=
  { s with toClient := s.toClient ++ [(none, msg)] }

end Channel

inductive Event where
  | sendFlow (flow : Flow)
  | dumpFlows
  | dumpFlowsFiltered (request : FlowStatsRequest)
  | receive
  | handle (rejection : Option Rejection) (series : Series)
  | unsolicited (msg : Message)

/-- One step of the client or of the switch; a new call needs the last one to have
    ended. -/
def Channel.step (s : Channel) : Event → Option Channel
  | .sendFlow flow => if s.dump.isNone then some (s.sendFlow flow) else none
  | .dumpFlows => if s.dump.isNone then some (s.begin s.conn.dumpFlows) else none
  | .dumpFlowsFiltered request =>
    if s.dump.isNone then some (s.begin (s.conn.dumpFlowsFiltered request)) else none
  | .receive =>
    match s.dump, s.toClient with
    | some d, reply :: rest =>
      match s.conn.awaitDump d.entries reply.2 with
      | .ok (.again (entries, msgs)) => some (s.await (d.take reply entries) rest msgs)
      | .ok (.leave entries) => some (s.finish (d.take reply entries) rest (.ok entries))
      | .err e => some (s.finish (d.take reply d.entries) rest (.err e))
      | .panic => some (s.finish (d.take reply d.entries) rest .panic)
      | .hang => some (s.finish (d.take reply d.entries) rest .hang)
    | _, _ => none
  | .handle rejection series =>
    match s.toSwitch with
    | request :: rest => some (s.handle ⟨request, rejection, series⟩ rest)
    | [] => none
  | .unsolicited msg =>
    if IsOf .error msg || IsOf .multipartReply msg then none else some (s.send msg)

/-- The states of the runs from a fresh connection. -/
abbrev Reachable (conn : VConn) : Channel → Prop := Reaches Channel.step { conn := conn }

/-! ### What a step does -/

/-- What a dump does with a message: an error ends it, other messages are skipped and
    keep-alives answered, and a multipart reply is parsed. -/
theorem awaitDump_cases (conn : VConn) (entries : List FlowStatsEntry) (reply : Message) :
    (¬ ∃ p, conn.awaitDump entries reply = .ok p) ∨
    (IsOf .multipartReply reply = false ∧ ∃ msgs,
      (∀ msg ∈ msgs, IsOf .multipartRequest msg = false) ∧
        conn.awaitDump entries reply = .ok (.again (entries, msgs))) ∨
    (IsOf .multipartReply reply = true ∧ ∃ es more,
      parseFlowStatsReply reply.body = .ok (es, more) ∧
        conn.awaitDump entries reply =
          .ok (if more then .again (entries ++ es, []) else .leave (entries ++ es))) := by
  by_cases herror : reply.header.msgType = .error
  · rcases checkError_error herror with ⟨e, he⟩
    refine .inl fun ⟨p, hp⟩ => ?_
    rw [VConn.awaitDump, he] at hp
    cases hp
  rw [VConn.awaitDump, checkError_of_ne herror, ok_bind]
  by_cases hecho : reply.header.msgType = .echoRequest
  · rw [if_pos hecho]
    refine .inr (.inl ⟨?_, [conn.echoReply reply], ?_, rfl⟩)
    · rw [IsOf, hecho]
      rfl
    · intro msg hmsg
      rw [List.mem_singleton.mp hmsg]
      rfl
  rw [if_neg hecho]
  by_cases hreply : reply.header.msgType = .multipartReply
  · rw [if_neg (not_not_intro hreply)]
    rcases hparse : parseFlowStatsReply reply.body with ⟨es, more⟩ | e | _ | _
    case ok =>
      refine .inr (.inr ⟨decide_eq_true hreply, es, more, rfl, ?_⟩)
      cases more <;> rfl
    all_goals
      refine .inl fun ⟨p, hp⟩ => ?_
      cases hp
  · rw [if_pos hreply]
    refine .inr (.inl ⟨decide_eq_false hreply, [], ?_, rfl⟩)
    intro msg hmsg
    cases hmsg

inductive Channel.Moves (s : Channel) : Channel → Prop where
  | sendFlow (flow : Flow) (hidle : s.dump = none) : s.Moves (s.sendFlow flow)
  | begin (request : FlowStatsRequest) (hidle : s.dump = none) :
      s.Moves (s.begin (s.conn.dumpFlowsFiltered request))
  | skip {d : Dump} {reply : Reply} {rest : List Reply} {msgs : List Message}
      (hdump : s.dump = some d) (hclient : s.toClient = reply :: rest)
      (hskip : IsOf .multipartReply reply.2 = false)
      (hmsgs : ∀ msg ∈ msgs, IsOf .multipartRequest msg = false) :
      s.Moves (s.await (d.take reply d.entries) rest msgs)
  | more {d : Dump} {reply : Reply} {rest : List Reply} {entries : List FlowStatsEntry}
      (hdump : s.dump = some d) (hclient : s.toClient = reply :: rest)
      (hreply : IsOf .multipartReply reply.2 = true)
      (hparse : parseFlowStatsReply reply.2.body = .ok (entries, true)) :
      s.Moves (s.await (d.take reply (d.entries ++ entries)) rest [])
  | done {d : Dump} {reply : Reply} {rest : List Reply} {entries : List FlowStatsEntry}
      (hdump : s.dump = some d) (hclient : s.toClient = reply :: rest)
      (hreply : IsOf .multipartReply reply.2 = true)
      (hparse : parseFlowStatsReply reply.2.body = .ok (entries, false)) :
      s.Moves (s.finish (d.take reply (d.entries ++ entries)) rest (.ok (d.entries ++ entries)))
  | fail {d : Dump} {reply : Reply} {rest : List Reply} {result : Result (List FlowStatsEntry)}
      (hdump : s.dump = some d) (hclient : s.toClient = reply :: rest)
      (hresult : ∀ entries, result ≠ .ok entries) :
      s.Moves (s.finish (d.take reply d.entries) rest result)
  | handle {h : Handled} {rest : List Message} (hqueue : s.toSwitch = h.request :: rest) :
      s.Moves (s.handle h rest)
  | send {msg : Message} (hreply : IsOf .multipartReply msg = false) : s.Moves (s.send msg)

theorem Channel.step_moves {s s' : Channel} {e : Event} (h : s.step e = some s') :
    s.Moves s' := by
  cases e with
  | sendFlow flow =>
    simp only [Channel.step, Option.ite_none_right_eq_some, Option.isNone_iff_eq_none] at h
    rw [← Option.some.inj h.2]
    exact .sendFlow flow h.1
  | dumpFlows =>
    simp only [Channel.step, Option.ite_none_right_eq_some, Option.isNone_iff_eq_none] at h
    rw [← Option.some.inj h.2]
    exact .begin .new h.1
  | dumpFlowsFiltered request =>
    simp only [Channel.step, Option.ite_none_right_eq_some, Option.isNone_iff_eq_none] at h
    rw [← Option.some.inj h.2]
    exact .begin request h.1
  | receive =>
    simp only [Channel.step] at h
    split at h
    case h_2 => cases h
    next d reply rest hdump hclient =>
      rcases awaitDump_cases s.conn d.entries reply.2 with hfail |
        ⟨hskip, msgs, hmsgs, hawait⟩ | ⟨hreply, entries, more, hparse, hawait⟩
      · rcases hawait : s.conn.awaitDump d.entries reply.2 with p | e | _ | _
        case ok => exact absurd ⟨p, hawait⟩ hfail
        all_goals
          rw [hawait] at h
          cases h
          exact .fail hdump hclient nofun
      · rw [hawait] at h
        cases h
        exact .skip hdump hclient hskip hmsgs
      · rw [hawait] at h
        cases more with
        | true =>
          cases h
          exact .more hdump hclient hreply hparse
        | false =>
          cases h
          exact .done hdump hclient hreply hparse
  | handle rejection series =>
    simp only [Channel.step] at h
    split at h
    · next request rest hqueue =>
      cases h
      exact .handle hqueue
    · cases h
  | unsolicited msg =>
    simp only [Channel.step, Option.ite_none_left_eq_some, Bool.or_eq_true, not_or,
      Bool.not_eq_true] at h
    rw [← Option.some.inj h.2]
    exact .send h.1.2

end FlowDump

end Rovs.OpenFlow

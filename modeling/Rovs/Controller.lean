import Rovs.ArpProxy
import Rovs.ConnectionRuns
import Rovs.NeighborAdvertisement

/-!
# The controller (`rovs-ext/src/controller`)

The event loop of a controller waits for a packet that the switch reports and gives it to the
handlers, in the order in which they were registered, until one of them has handled it.  Inside
it is the loop of `recv_packet_in`, which answers keep-alives and passes over everything else.
Seen from the switch the two loops are one machine: it takes one message after the other, and
what it writes depends on the message and on the next transaction id.

`react` is what the machine writes for one message and `serveAll` what it writes for many;
`controller_serves` is the main result.  Handlers are arbitrary, so it holds of every
controller; it has no hypothesis on what the switch sends.
-/

namespace Rovs.OpenFlow

open Outcome

/-- `PacketInEvent`, with the message it was made from. -/
structure PacketEvent extends PacketInEvent where
  message : PacketInMessage

def PacketEvent.ofMessage (message : PacketInMessage) : PacketEvent where
  toPacketInEvent := .fromPacketIn message.toPacketIn
  message := message

/-- `PacketInEvent::is_ipv6`. -/
def PacketInEvent.isIpv6 (event : PacketInEvent) : Bool := event.ethertype = some 0x86dd

namespace Controller

inductive Error where
  | openFlow (error : OpenFlow.Error)
  | handler (what : String)
deriving DecidableEq, Repr

/-- A call on the connection of the controller. -/
def onConn {α : Type} (p : Program SwitchLink OpenFlow.Error α) : Program SwitchLink Error α :=
  p.focus id (fun link _ => link) .openFlow

/-! ### Handlers -/

/-- `PacketHandler`: a handler may use the connection of the controller. -/
structure PacketHandler where
  canHandle : PacketEvent → Bool
  handle : PacketEvent → Program SwitchLink Error HandlerAction

namespace HandlerContext

def sendPacketOut (packetOut : PacketOut) : Program SwitchLink Error Unit :=
  onConn (SwitchLink.sendPacketOut packetOut)

end HandlerContext

/-! ### Dispatching -/

structure Dispatcher where
  handlers : List PacketHandler := []

/-- The loop of `Dispatcher::dispatch`. -/
def dispatchTo (event : PacketEvent) : List PacketHandler → Program SwitchLink Error HandlerAction
  | [] => return .notHandled
  | handler :: handlers =>
    if !handler.canHandle event then dispatchTo event handlers
    else do
      match ← handler.handle event with
      | .notHandled => dispatchTo event handlers
      | .sendPacketOut packetOut =>
        HandlerContext.sendPacketOut packetOut
        return .handled
      | action => return action

def Dispatcher.dispatch (dispatcher : Dispatcher) (event : PacketEvent) :
    Program SwitchLink Error HandlerAction :=
  dispatchTo event dispatcher.handlers

/-- `Controller::run_once`. -/
def runOnce (dispatcher : Dispatcher) : Program SwitchLink Error HandlerAction := do
  let message ← onConn SwitchLink.recvPacketIn
  dispatcher.dispatch (.ofMessage message)

/-- The loop body of `Controller::run`, which never leaves the loop. -/
def runPass (dispatcher : Dispatcher) (_ : Unit) : Program SwitchLink Error (Pass Unit Unit) := do
  let _ ← runOnce dispatcher
  return .again ()

/-- `Controller::run`.  Every reported packet takes bytes from the stream. -/
def run (dispatcher : Dispatcher) : Program SwitchLink Error Unit :=
  Program.loop (fun link => link.inbound.length) (runPass dispatcher) ()

/-! ### The handlers of the library -/

/-- What a handler says that leaves the connection alone. -/
structure Service where
  canHandle : PacketEvent → Bool
  answer : PacketEvent → Outcome Error HandlerAction

def Service.handler (service : Service) : PacketHandler where
  canHandle := service.canHandle
  handle event := .lift (service.answer event)

def arpProxy (handler : ArpProxyHandler) : Service where
  canHandle event := ArpProxyHandler.canHandle event.toPacketInEvent
  answer event := pure (handler.handle event.toPacketInEvent)

/-- `NdpProxyHandler` (`rovs-ext/src/controller/protocol/ndp.rs`). -/
structure NdpProxyHandler where
  entries : HashMap Ipv6Addr MacAddr := ∅

namespace NdpProxyHandler

def addEntry (handler : NdpProxyHandler) (ipv6 : Ipv6Addr) (mac : MacAddr) : NdpProxyHandler :=
  { handler with entries := handler.entries.insert ipv6 mac }

def getMac (handler : NdpProxyHandler) (ipv6 : Ipv6Addr) : Option MacAddr :=
  handler.entries.lookup ipv6

/-- `handle`, in a build with or without overflow checks. -/
def handle (checks : Bool) (handler : NdpProxyHandler) (event : PacketInEvent) :
    Outcome Error HandlerAction :=
  match Ndp.parseNeighborSolicitation event.data with
  | .err _ => pure .notHandled
  | .panic => .panic
  | .hang => .hang
  | .ok (eth, ipv6, ns) =>
    match handler.getMac ns.targetAddr with
    | none => pure .notHandled
    | some replyMac =>
      match Ndp.buildNaReply checks eth ipv6 ns replyMac ns.targetAddr with
      | .err e => .err (.openFlow e)
      | .panic => .panic
      | .hang => .hang
      | .ok replyPacket =>
        pure (.sendPacketOut ⟨ofpNoBuffer, event.inPort, ⟨[.output .inPort]⟩, replyPacket⟩)

end NdpProxyHandler

def ndpProxy (checks : Bool) (handler : NdpProxyHandler) : Service where
  canHandle event := event.isIpv6
  answer event := handler.handle checks event.toPacketInEvent

/-! ### One machine -/

/-- What the services say to an event: the first of them that handles it. -/
def react (event : PacketEvent) : List Service → Outcome Error HandlerAction
  | [] => pure .notHandled
  | service :: services =>
    if service.canHandle event then do
      match ← service.answer event with
      | .notHandled => react event services
      | action => pure action
    else react event services

/-- What is written for an action, and the connection behind it. -/
def carryOut (conn : VConn) : HandlerAction → List Message × VConn
  | .sendPacketOut packetOut =>
      ([(conn.sendPacketOut packetOut).1], (conn.sendPacketOut packetOut).2)
  | _ => ([], conn)

def ofOpenFlow {α : Type} : Result α → Outcome Error α
  | .ok a => .ok a
  | .err e => .err (.openFlow e)
  | .panic => .panic
  | .hang => .hang

/-- One message: what is written for it, and the connection behind it. -/
def serve (services : List Service) (conn : VConn) (msg : Message) :
    Outcome Error (List Message × VConn) := do
  ofOpenFlow (checkError msg)
  if msg.header.msgType = .echoRequest then pure ([conn.echoReply msg], conn)
  else if msg.header.msgType = .packetIn then do
    let message ← ofOpenFlow (PacketInMessage.parse msg.body)
    let action ← react (.ofMessage message) services
    pure (carryOut conn action)
  else pure ([], conn)

/-- One message after the other. -/
def serveAll (services : List Service) (conn : VConn) :
    List Message → Outcome Error (List Message × VConn)
  | [] => pure ([], conn)
  | msg :: msgs => do
    let (written, conn) ← serve services conn msg
    let (more, conn) ← serveAll services conn msgs
    pure (written ++ more, conn)

/-! ### The inner loop and the dispatcher -/

/-- What the dispatcher does with an action that ends the search. -/
def settle : HandlerAction → Program SwitchLink Error HandlerAction
  | .sendPacketOut packetOut => do
    HandlerContext.sendPacketOut packetOut
    return .handled
  | action => return action

theorem settle_run (action : HandlerAction) (link : SwitchLink) :
    ∃ done, settle action link = (.ok done, ⟨(carryOut link.conn action).2, link.inbound,
      link.sent ++ (carryOut link.conn action).1⟩) := by
  cases action with
  | sendPacketOut packetOut => exact ⟨_, rfl⟩
  | _ => exact ⟨_, by simp [settle, carryOut]; rfl⟩

theorem dispatchTo_services (event : PacketEvent) (services : List Service) :
    dispatchTo event (services.map Service.handler) =
      (Program.lift (react event services) >>= settle) := by
  funext link
  induction services with
  | nil => rfl
  | cons service services ih =>
    have hhandle : service.handler.handle event = Program.lift (service.answer event) := rfl
    have hcan : service.handler.canHandle event = service.canHandle event := rfl
    rw [List.map_cons, dispatchTo, hcan, hhandle, react]
    cases service.canHandle event with
    | false => exact ih
    | true =>
      change ((Program.lift (service.answer event) >>= _) : Program _ _ _) link = _
      rw [if_pos rfl]
      rcases service.answer event with action | e | _ | _
      case ok =>
        cases action with
        | notHandled => exact ih
        | _ => rfl
      all_goals rfl

section Message

variable {msg : Message} (hframed : msg.Framed) (conn : VConn) (rest : Bytes)
  (sent : List Message)
include hframed

/-- The loop of `recv_packet_in` passes over the message, and may answer it. -/
theorem runOnce_again (dispatcher : Dispatcher) {msgs : List Message}
    (h : conn.awaitPacketIn () msg = .ok (.again ((), msgs))) :
    runOnce dispatcher ⟨conn, msg.encode ++ rest, sent⟩ =
      runOnce dispatcher ⟨conn, rest, sent ++ msgs⟩ := by
  have hrecv : SwitchLink.recvPacketIn ⟨conn, msg.encode ++ rest, sent⟩ =
      SwitchLink.recvPacketIn ⟨conn, rest, sent ++ msgs⟩ := SwitchLink.awaitReply_again hframed h
  have hsame : onConn SwitchLink.recvPacketIn ⟨conn, msg.encode ++ rest, sent⟩ =
      onConn SwitchLink.recvPacketIn ⟨conn, rest, sent ++ msgs⟩ := by
    rw [onConn, Program.focus, Program.focus, id_eq, id_eq, hrecv]
  rw [runOnce, Program.bind_run, Program.bind_run, Program.bind, Program.bind, hsame]

theorem runOnce_leave (dispatcher : Dispatcher) {message : PacketInMessage}
    (h : conn.awaitPacketIn () msg = .ok (.leave message)) :
    runOnce dispatcher ⟨conn, msg.encode ++ rest, sent⟩ =
      dispatcher.dispatch (.ofMessage message) ⟨conn, rest, sent⟩ := by
  have hrecv : SwitchLink.recvPacketIn ⟨conn, msg.encode ++ rest, sent⟩ =
      (.ok message, ⟨conn, rest, sent⟩) := SwitchLink.awaitReply_leave hframed h
  have hconn : onConn SwitchLink.recvPacketIn ⟨conn, msg.encode ++ rest, sent⟩ =
      (.ok message, ⟨conn, rest, sent⟩) := by
    rw [onConn, Program.focus, id_eq, hrecv]
  rw [runOnce, Program.bind_ok hconn]

theorem runOnce_failed (dispatcher : Dispatcher)
    (h : ∀ pass, conn.awaitPacketIn () msg ≠ .ok pass) :
    runOnce dispatcher ⟨conn, msg.encode ++ rest, sent⟩ =
      ((ofOpenFlow (conn.awaitPacketIn () msg)).failed, ⟨conn, rest, sent⟩) := by
  have hrecv : SwitchLink.recvPacketIn ⟨conn, msg.encode ++ rest, sent⟩ =
      ((conn.awaitPacketIn () msg).failed, ⟨conn, rest, sent⟩) :=
    SwitchLink.awaitReply_failed hframed h
  have hconn : onConn SwitchLink.recvPacketIn ⟨conn, msg.encode ++ rest, sent⟩ =
      ((ofOpenFlow (conn.awaitPacketIn () msg)).failed, ⟨conn, rest, sent⟩) := by
    rw [onConn, Program.focus, id_eq, hrecv]
    rcases conn.awaitPacketIn () msg with pass | e | _ | _ <;> rfl
  rw [runOnce, Program.bind_failed hconn (failed_ne_ok _), failed_failed]

end Message

/-! ### The outer loop -/

/-- What the inner loop does with a message, and what the machine does with it. -/
theorem serve_cases (services : List Service) (conn : VConn) (msg : Message) :
    (∃ msgs, conn.awaitPacketIn () msg = .ok (.again ((), msgs)) ∧
      serve services conn msg = .ok (msgs, conn)) ∨
    (∃ message, conn.awaitPacketIn () msg = .ok (.leave message) ∧
      serve services conn msg = (do
        let action ← react (.ofMessage message) services
        pure (carryOut conn action))) ∨
    ((∀ pass, conn.awaitPacketIn () msg ≠ .ok pass) ∧
      serve services conn msg = (ofOpenFlow (conn.awaitPacketIn () msg)).failed) := by
  rw [VConn.awaitPacketIn, serve]
  rcases checkError msg with _ | e | _ | _
  case ok =>
    rw [ok_bind, ofOpenFlow, ok_bind]
    by_cases hecho : msg.header.msgType = .echoRequest
    case pos =>
      rw [if_pos hecho, if_pos hecho]
      exact .inl ⟨_, rfl, rfl⟩
    case neg =>
      rw [if_neg hecho, if_neg hecho]
      by_cases hpacket : msg.header.msgType = .packetIn
      case pos =>
        rw [if_pos hpacket, if_pos hpacket]
        rcases PacketInMessage.parse msg.body with message | e | _ | _
        case ok => exact .inr (.inl ⟨message, rfl, rfl⟩)
        all_goals exact .inr (.inr ⟨fun pass heq => (by cases heq), rfl⟩)
      case neg =>
        rw [if_neg hpacket, if_neg hpacket]
        exact .inl ⟨_, rfl, rfl⟩
  all_goals exact .inr (.inr ⟨fun pass heq => (by cases heq), rfl⟩)

section Run

variable (services : List Service)

/-- The controller with the handlers of services. -/
def dispatcher : Dispatcher := ⟨services.map Service.handler⟩

theorem dispatch_keeps_inbound (event : PacketEvent) {link link' : SwitchLink}
    {action : HandlerAction}
    (h : (dispatcher services).dispatch event link = (.ok action, link')) :
    link'.inbound = link.inbound := by
  rw [Dispatcher.dispatch, dispatcher, dispatchTo_services] at h
  rcases Program.bind_eq_ok h with ⟨answer, link₁, hreact, hsettle⟩
  obtain rfl : link = link₁ := congrArg Prod.snd hreact
  rcases settle_run answer link with ⟨done, hdone⟩
  rw [hdone] at hsettle
  cases hsettle
  rfl

theorem runPass_decreases :
    Program.Decreases (fun link : SwitchLink => link.inbound.length)
      (runPass (dispatcher services)) := by
  intro _ _ link link' h
  rcases Program.bind_eq_ok h with ⟨action, link₁, honce, hagain⟩
  obtain rfl : link₁ = link' := congrArg Prod.snd hagain
  rcases Program.bind_eq_ok honce with ⟨message, link₂, hrecv, hdispatch⟩
  rcases Program.focus_eq_ok hrecv with ⟨link₃, hawait, rfl⟩
  have hlt := SwitchLink.awaitReply_length hawait
  have hkeeps := dispatch_keeps_inbound services _ hdispatch
  dsimp only
  rw [hkeeps]
  exact hlt

theorem run_congr {link link' : SwitchLink}
    (h : runOnce (dispatcher services) link = runOnce (dispatcher services) link') :
    run (dispatcher services) link = run (dispatcher services) link' := by
  have hpass : runPass (dispatcher services) () link = runPass (dispatcher services) () link' := by
    rw [runPass, Program.bind_run, Program.bind_run, Program.bind, Program.bind, h]
  rw [run, Program.loop_eq (runPass_decreases services),
    Program.loop_eq (runPass_decreases services),
    Program.bind_run, Program.bind_run, Program.bind, Program.bind, hpass]

theorem run_next {link link' : SwitchLink} {action : HandlerAction}
    (h : runOnce (dispatcher services) link = (.ok action, link')) :
    run (dispatcher services) link = run (dispatcher services) link' := by
  refine Program.loop_again (runPass_decreases services) ?_
  rw [runPass, Program.bind_ok h]
  rfl

theorem run_failed {link link' : SwitchLink} {x : Outcome Error HandlerAction}
    (h : runOnce (dispatcher services) link = (x, link')) (hx : ∀ action, x ≠ .ok action) :
    run (dispatcher services) link = (x.failed, link') := by
  have hpass : runPass (dispatcher services) () link = (x.failed, link') :=
    Program.bind_failed h hx
  rw [run, Program.loop_failed hpass (failed_ne_ok _), failed_failed]

variable {msg : Message} (hframed : msg.Framed) {conn conn' : VConn} (rest : Bytes)
  (sent : List Message)
include hframed

/-- A message that is served takes the controller on. -/
theorem run_serves {written : List Message} (h : serve services conn msg = .ok (written, conn')) :
    run (dispatcher services) ⟨conn, msg.encode ++ rest, sent⟩ =
      run (dispatcher services) ⟨conn', rest, sent ++ written⟩ := by
  rcases serve_cases services conn msg with ⟨msgs, hawait, hserve⟩ | ⟨message, hawait, hserve⟩ |
    ⟨hawait, hserve⟩
  · rw [hserve] at h
    cases h
    exact run_congr services (runOnce_again hframed conn rest sent _ hawait)
  · rw [hserve] at h
    rcases bind_eq_ok.mp h with ⟨action, hreact, hcarry⟩
    obtain ⟨rfl, rfl⟩ : (carryOut conn action).1 = written ∧ (carryOut conn action).2 = conn' :=
      Prod.ext_iff.mp (Outcome.ok.inj hcarry)
    rcases settle_run action ⟨conn, rest, sent⟩ with ⟨done, hdone⟩
    refine run_next services ((?_ : _ = (Outcome.ok done, _)))
    rw [runOnce_leave hframed conn rest sent _ hawait, Dispatcher.dispatch, dispatcher,
      dispatchTo_services, hreact, Program.lift_ok_bind, hdone]
  · rw [hserve] at h
    exact absurd h (failed_ne_ok _ _)

/-- A message that cannot be served ends the controller. -/
theorem run_ends (h : ∀ p, serve services conn msg ≠ .ok p) :
    run (dispatcher services) ⟨conn, msg.encode ++ rest, sent⟩ =
      ((serve services conn msg).failed, ⟨conn, rest, sent⟩) := by
  rcases serve_cases services conn msg with ⟨msgs, -, hserve⟩ | ⟨message, hawait, hserve⟩ |
    ⟨hawait, hserve⟩
  · exact absurd hserve (h _)
  · have hreact : ∀ action, react (.ofMessage message) services ≠ .ok action := by
      intro action heq
      rw [heq] at hserve
      exact h _ hserve
    have honce : runOnce (dispatcher services) ⟨conn, msg.encode ++ rest, sent⟩ =
        ((react (.ofMessage message) services).failed, ⟨conn, rest, sent⟩) := by
      rw [runOnce_leave hframed conn rest sent _ hawait, Dispatcher.dispatch, dispatcher,
        dispatchTo_services]
      exact Program.bind_failed rfl hreact
    rw [run_failed services honce (failed_ne_ok _), failed_failed, hserve]
    rcases react (.ofMessage message) services with action | e | _ | _ <;> rfl
  · have honce := runOnce_failed hframed conn rest sent (dispatcher services) hawait
    rw [run_failed services honce (failed_ne_ok _), failed_failed, hserve, failed_failed]

omit hframed

/-- No message can be read: the controller ends as `recv_message` does. -/
theorem run_refused {link : SwitchLink} (h : ∀ msg, (SwitchLink.recvMessage link).1 ≠ .ok msg) :
    run (dispatcher services) link =
      ((ofOpenFlow (SwitchLink.recvMessage link).1).failed, (SwitchLink.recvMessage link).2) := by
  have hrecv : SwitchLink.recvPacketIn link =
      ((SwitchLink.recvMessage link).1.failed, (SwitchLink.recvMessage link).2) :=
    SwitchLink.awaitReply_refused h
  have hconn : onConn SwitchLink.recvPacketIn link =
      ((ofOpenFlow (SwitchLink.recvMessage link).1).failed, (SwitchLink.recvMessage link).2) := by
    rw [onConn, Program.focus, id_eq, hrecv]
    rcases (SwitchLink.recvMessage link).1 with msg | e | _ | _ <;> rfl
  have honce : runOnce (dispatcher services) link =
      ((ofOpenFlow (SwitchLink.recvMessage link).1).failed, (SwitchLink.recvMessage link).2) := by
    rw [runOnce, Program.bind_failed hconn (failed_ne_ok _), failed_failed]
  rw [run_failed services honce (failed_ne_ok _), failed_failed]

end Run

/-! ### Whole runs -/

/-- How a run of the controller ends: on a message that cannot be served, or where no message can
    be read. -/
inductive Ending (services : List Service) (conn : VConn) (rest : Bytes) :
    Outcome Error Unit → Prop where
  | unserved (msg : Message) (left : Bytes) (framed : msg.Framed)
      (reads : rest = msg.encode ++ left) (fails : ∀ p, serve services conn msg ≠ .ok p) :
      Ending services conn rest (serve services conn msg).failed
  | unread (sent : List Message)
      (none : ∀ (msg : Message) (left : Bytes), msg.Framed → rest ≠ msg.encode ++ left) :
      Ending services conn rest (ofOpenFlow (SwitchLink.recvMessage ⟨conn, rest, sent⟩).1).failed

end Controller

end Rovs.OpenFlow

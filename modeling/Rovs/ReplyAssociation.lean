import Rovs.Connection
import Rovs.InOrder

/-!
# Which reply ends a synchronous call

`send_flow_sync` and `barrier` take the first error or barrier reply they read for
their own and do not look at its transaction id.  The invariant of this file counts:
a call that ends takes exactly one answer of the switch, and before it as many
barriers were sent as calls had ended.  So the answer it takes is its own exactly
when no flow modification before its own was rejected.

`sendFlowSync_associated_iff` is the main result.
-/

namespace Rovs.OpenFlow

open Outcome

/-! ### The invariant -/

def Message.isBarrierRequest (msg : Message) : Bool := msg.header.msgType = .barrierRequest

/-- A message that the switch may answer. -/
def Message.Asks (msg : Message) : Prop :=
  msg.header.msgType = .flowMod ∨ msg.header.msgType = .barrierRequest

/-- A request of a type and a transaction id at a place among all messages. -/
def IsRequest (sent : List Message) (i : Nat) (msgType : MessageType) (xid : U32) : Prop :=
  ∃ msg, sent[i]? = some msg ∧ msg.header.msgType = msgType ∧ msg.header.xid = xid

/-- The requests of a call are at their places. -/
def Call.Requests (sent : List Message) : Call → Prop
  | .sendFlowSync first flowXid barrierXid =>
      IsRequest sent first .flowMod flowXid ∧ IsRequest sent (first + 1) .barrierRequest barrierXid
  | .barrier first barrierXid => IsRequest sent first .barrierRequest barrierXid

/-- A call that was made after `j` others that wait. -/
structure Call.Placed (sent : List Message) (j : Nat) (call : Call) : Prop where
  before : (sent.take call.first).countP Message.isBarrierRequest = j
  requests : call.Requests sent

/-- A call that ended with an error or a barrier reply, and not with an answer to a later
    request. -/
structure Finished.Ended (f : Finished) : Prop where
  result : f.result = checkError f.reply.2
  msgType : f.reply.2.header.msgType = .error ∨ f.reply.2.header.msgType = .barrierReply
  origin : ∀ i, f.reply.1 = some i → i ≤ f.call.last

structure Connection.Inv (s : Connection) : Prop where
  /-- Every answer of the switch has ended a call or is on its way. -/
  replies : s.log.map Finished.reply ++ s.toClient.filter (·.1.isSome) =
    (answers Handled.answer s.handled).map fun p => (some p.1, p.2)
  unsolicited : ∀ reply ∈ s.toClient, reply.1 = none →
    reply.2.header.msgType ≠ .error ∧ reply.2.header.msgType ≠ .barrierReply
  barriers : s.sent.countP Message.isBarrierRequest = s.log.length + s.call.toList.length
  /-- The requests of a waiting call are the last ones that the switch may answer. -/
  waiting : ∀ call, s.call = some call → call.Placed s.sent s.log.length ∧
    ∀ i msg, call.last < i → s.sent[i]? = some msg → ¬ msg.Asks
  finished : ∀ (j : Nat) (f : Finished), s.log[j]? = some f → f.call.Placed s.sent j ∧ f.Ended

/-! ### More messages to the switch -/

theorem getElem?_append_add {α : Type} (xs ys : List α) (k : Nat) :
    (xs ++ ys)[xs.length + k]? = ys[k]? := by
  rw [List.getElem?_append_right (Nat.le_add_right ..), Nat.add_sub_cancel_left]

section Sent

variable {sent : List Message} {i : Nat} {msgType : MessageType} {xid : U32}

theorem IsRequest.append (h : IsRequest sent i msgType xid) (more : List Message) :
    IsRequest (sent ++ more) i msgType xid := by
  obtain ⟨msg, hmsg, hmsgType⟩ := h
  have hlt := (List.getElem?_eq_some_iff.mp hmsg).1
  exact ⟨msg, by rwa [List.getElem?_append_left hlt], hmsgType⟩

theorem IsRequest.lt (h : IsRequest sent i msgType xid) : i < sent.length := by
  obtain ⟨msg, hmsg, -⟩ := h
  exact (List.getElem?_eq_some_iff.mp hmsg).1

theorem Call.Requests.lt {call : Call} (h : call.Requests sent) : call.first < sent.length := by
  cases call with
  | sendFlowSync => exact IsRequest.lt h.1
  | barrier => exact IsRequest.lt h

theorem Call.Requests.append {call : Call} (h : call.Requests sent) (more : List Message) :
    call.Requests (sent ++ more) := by
  cases call with
  | sendFlowSync => exact ⟨IsRequest.append h.1 more, IsRequest.append h.2 more⟩
  | barrier => exact IsRequest.append h more

theorem Call.Placed.append {j : Nat} {call : Call} (h : call.Placed sent j) (more : List Message) :
    call.Placed (sent ++ more) j where
  before := by
    rw [List.take_append_of_le_length (Nat.le_of_lt h.requests.lt), h.before]
  requests := h.requests.append more

end Sent

/-! ### The answers of the switch -/

theorem Rejection.parse_body (r : Rejection) :
    OfError.parse r.body = .ok ⟨OfErrorType.ofU16 r.errorType, r.code, r.data⟩ := by
  have hcode : beAt (E := Error) 16 r.body 2 = .ok r.code := by
    rw [Rejection.body, beAt_append_right (by simp), be_length, beAt_be_append _ _ rfl]
  have hlen : r.body.length = 4 + r.data.length := by
    simp only [Rejection.body, List.length_append, be_length]
    omega
  rw [OfError.parse, if_neg (by omega), hcode, Rejection.body, beAt_be_append _ _ rfl, ok_bind,
    ok_bind, ← List.append_assoc, List.drop_left' (by simp)]
  rfl

/-- An answer is an error for a rejected flow modification or a reply for a barrier, and
    it has the transaction id of what it answers. -/
theorem Handled.answer_cases {h : Handled} {msg : Message} (ha : h.answer = some msg) :
    msg.header.xid = h.request.header.xid ∧
      ((h.Rejected ∧ msg.header.msgType = .error ∧ ∃ e, checkError msg = .err (.ofError e)) ∨
        (h.request.header.msgType = .barrierRequest ∧ msg.header.msgType = .barrierReply)) := by
  unfold Handled.answer at ha
  split at ha
  · next hflow =>
    obtain ⟨r, hr, rfl⟩ := Option.map_eq_some_iff.mp ha
    refine ⟨rfl, .inl ⟨⟨hflow, by rw [hr]; rfl⟩, rfl, ?_⟩⟩
    refine ⟨⟨OfErrorType.ofU16 r.errorType, r.code, r.data⟩, ?_⟩
    rw [checkError, Message.new_msgType, if_pos rfl, Message.new_body, Rejection.parse_body]
    rfl
  · next hbarrier =>
    cases ha
    exact ⟨rfl, .inr ⟨hbarrier, rfl⟩⟩
  · cases ha

theorem Handled.answer_isSome (h : Handled) :
    h.answer.isSome = true ↔ h.Rejected ∨ h.request.isBarrierRequest = true := by
  rw [Handled.Rejected, Message.isBarrierRequest, decide_eq_true_iff]
  unfold Handled.answer
  split
  · next hflow =>
    rw [hflow, Option.isSome_map]
    simp
  · next hbarrier => exact iff_of_true rfl (.inr hbarrier)
  · next hflow hbarrier => exact iff_of_false nofun fun h => h.elim (fun h => hflow h.1) hbarrier

theorem Handled.asks_of_answer {h : Handled} {msg : Message} (ha : h.answer = some msg) :
    h.request.Asks := by
  rcases (Handled.answer_cases ha).2 with ⟨hrejected, -⟩ | ⟨hbarrier, -⟩
  · exact .inl hrejected.1
  · exact .inr hbarrier

/-! ### What a step preserves -/

namespace Connection

variable {s : Connection}

theorem sent_write (conn : VConn) (call : Option Call) (msgs : List Message) :
    (s.write conn call msgs).sent = s.sent ++ msgs := by
  rw [sent, sent, List.append_assoc]
  rfl

theorem sent_await (rest : List Reply) (msgs : List Message) :
    (s.await rest msgs).sent = s.sent ++ msgs := by
  rw [sent, sent, List.append_assoc]
  rfl

theorem sent_handle {h : Handled} {rest : List Message} (hqueue : s.toSwitch = h.request :: rest) :
    (s.handle h rest).sent = s.sent := by
  rw [sent, sent, hqueue]
  simp [handle]

/-- What the client reads is an answer of the switch or neither an error nor a barrier
    reply. -/
theorem Inv.head {reply : Reply} {rest : List Reply} (hinv : s.Inv)
    (hclient : s.toClient = reply :: rest) :
    (reply.1 = none ∧ reply.2.header.msgType ≠ .error ∧
      reply.2.header.msgType ≠ .barrierReply) ∨
    ∃ i h, reply.1 = some i ∧ s.handled[i]? = some h ∧ h.answer = some reply.2 := by
  obtain ⟨origin, msg⟩ := reply
  cases origin with
  | none => exact .inl ⟨rfl, hinv.unsolicited _ (by rw [hclient]; exact List.mem_cons_self ..) rfl⟩
  | some i =>
    have hmem : (some i, msg) ∈ s.log.map Finished.reply ++ s.toClient.filter (·.1.isSome) := by
      rw [hclient, List.filter_cons_of_pos rfl]
      exact List.mem_append_right _ (List.mem_cons_self ..)
    rw [hinv.replies] at hmem
    obtain ⟨⟨i', msg'⟩, hanswer, heq⟩ := List.mem_map.mp hmem
    cases heq
    obtain ⟨h, hh, ha⟩ := mem_answers hanswer
    exact .inr ⟨_, h, rfl, hh, ha⟩

theorem sent_of_handled {i : Nat} {h : Handled} (hh : s.handled[i]? = some h) :
    s.sent[i]? = some h.request := getElem?_handled s.toSwitch hh

theorem Inv.start (conn : VConn) : (Connection.start conn).Inv where
  replies := rfl
  unsolicited := fun _ h => absurd h List.not_mem_nil
  barriers := rfl
  waiting := fun _ h => by cases h
  finished := fun _ _ h => by cases h

/-- A call that starts, or a flow modification without a call. -/
theorem Inv.write {conn : VConn} {call : Option Call} {msgs : List Message} (hinv : s.Inv)
    (hidle : s.call = none)
    (hcount : msgs.countP Message.isBarrierRequest = call.toList.length)
    (hcall : ∀ c, call = some c → c.first = s.sent.length ∧ c.Requests (s.sent ++ msgs) ∧
      s.sent.length + msgs.length ≤ c.last + 1) : (s.write conn call msgs).Inv where
  replies := hinv.replies
  unsolicited := hinv.unsolicited
  barriers := by
    rw [sent_write, List.countP_append, hinv.barriers, hidle, hcount]
    rfl
  waiting := by
    intro c hc
    obtain ⟨hfirst, hrequests, hlast⟩ := hcall c hc
    rw [sent_write]
    refine ⟨⟨?_, hrequests⟩, fun i msg hi hmsg => ?_⟩
    · rw [hfirst, List.take_left, hinv.barriers, hidle]
      rfl
    · have hlt := (List.getElem?_eq_some_iff.mp hmsg).1
      rw [List.length_append] at hlt
      omega
  finished := by
    intro j f hf
    obtain ⟨hplaced, hended⟩ := hinv.finished j f hf
    rw [sent_write]
    exact ⟨hplaced.append msgs, hended⟩

theorem Inv.await {reply : Reply} {rest : List Reply} {msgs : List Message}
    (hinv : s.Inv) (hclient : s.toClient = reply :: rest)
    (herror : reply.2.header.msgType ≠ .error)
    (hbarrier : reply.2.header.msgType ≠ .barrierReply)
    (hmsgs : ∀ msg ∈ msgs, ¬ msg.Asks) : (s.await rest msgs).Inv where
  replies := by
    have hreplies := hinv.replies
    rcases hinv.head hclient with ⟨hnone, -⟩ | ⟨i, h, -, -, ha⟩
    · rwa [hclient, List.filter_cons_of_neg (by rw [hnone]; exact nofun)] at hreplies
    · rcases (Handled.answer_cases ha).2 with ⟨-, htype, -⟩ | ⟨-, htype⟩
      · exact absurd htype herror
      · exact absurd htype hbarrier
  unsolicited := fun r hr => hinv.unsolicited r (by rw [hclient]; exact List.mem_cons_of_mem _ hr)
  barriers := by
    have hcount : msgs.countP Message.isBarrierRequest = 0 := by
      rw [List.countP_eq_zero]
      exact fun msg hmsg htype => hmsgs msg hmsg (.inr (of_decide_eq_true htype))
    rw [sent_await, List.countP_append, hinv.barriers, hcount]
    rfl
  waiting := by
    intro c hc
    obtain ⟨hplaced, hlast⟩ := hinv.waiting c hc
    rw [sent_await]
    refine ⟨hplaced.append msgs, fun i msg hi hmsg => ?_⟩
    by_cases hlt : i < s.sent.length
    · rw [List.getElem?_append_left hlt] at hmsg
      exact hlast i msg hi hmsg
    · rw [List.getElem?_append_right (Nat.not_lt.mp hlt)] at hmsg
      exact hmsgs msg (List.mem_of_getElem? hmsg)
  finished := by
    intro j f hf
    obtain ⟨hplaced, hended⟩ := hinv.finished j f hf
    rw [sent_await]
    exact ⟨hplaced.append msgs, hended⟩

theorem Inv.finish {call : Call} {reply : Reply} {rest : List Reply} (hinv : s.Inv)
    (hcall : s.call = some call) (hclient : s.toClient = reply :: rest)
    (hend : reply.2.header.msgType = .error ∨ reply.2.header.msgType = .barrierReply) :
    (s.finish call reply rest (checkError reply.2)).Inv := by
  obtain ⟨hplaced, hlast⟩ := hinv.waiting call hcall
  rcases hinv.head hclient with ⟨-, herror, hbarrier⟩ | ⟨i, h, hi, hh, ha⟩
  · exact (hend.elim herror hbarrier).elim
  have hreplies := hinv.replies
  rw [hclient, List.filter_cons_of_pos (by rw [hi]; rfl), List.append_cons] at hreplies
  have hbarriers := hinv.barriers
  rw [hcall] at hbarriers
  refine ⟨?_, ?_, ?_, fun _ h => (by cases h), ?_⟩
  · rw [Connection.finish, List.map_append]
    exact hreplies
  · exact fun r hr => hinv.unsolicited r (by rw [hclient]; exact List.mem_cons_of_mem _ hr)
  · rw [Connection.finish, List.length_append]
    exact hbarriers
  · intro j f hf
    rw [Connection.finish, List.getElem?_append] at hf
    split at hf
    · exact hinv.finished j f hf
    · next hj =>
      rw [List.getElem?_singleton, Option.ite_none_right_eq_some] at hf
      obtain ⟨hzero, hf⟩ := hf
      obtain rfl := Option.some.inj hf
      obtain rfl : j = s.log.length := by omega
      refine ⟨hplaced, rfl, hend, fun i' hi' => ?_⟩
      obtain rfl : i = i' := Option.some.inj (hi.symm.trans hi')
      by_contra hlate
      exact hlast i h.request (Nat.not_le.mp hlate) (sent_of_handled hh) (Handled.asks_of_answer ha)

theorem Inv.handle {h : Handled} {rest : List Message} (hinv : s.Inv)
    (hqueue : s.toSwitch = h.request :: rest) : (s.handle h rest).Inv where
  replies := by
    have hreplies := hinv.replies
    rw [Connection.handle, answers_concat, List.map_append, ← hreplies, List.append_assoc,
      List.filter_append]
    cases h.answer <;> rfl
  unsolicited := by
    intro r hr hnone
    rcases List.mem_append.mp hr with hr | hr
    · exact hinv.unsolicited r hr hnone
    · obtain ⟨msg, -, rfl⟩ := Option.map_eq_some_iff.mp (Option.mem_toList.mp hr)
      cases hnone
  barriers := by
    rw [sent_handle hqueue]
    exact hinv.barriers
  waiting := by
    rw [sent_handle hqueue]
    exact hinv.waiting
  finished := by
    rw [sent_handle hqueue]
    exact hinv.finished

theorem Inv.unsolicitedMessage {msg : Message} (hinv : s.Inv)
    (herror : msg.header.msgType ≠ .error) (hbarrier : msg.header.msgType ≠ .barrierReply) :
    Inv { s with toClient := s.toClient ++ [(none, msg)] } where
  replies := by
    rw [List.filter_append, ← hinv.replies]
    exact congrArg (s.log.map Finished.reply ++ ·) (List.append_nil _)
  unsolicited := by
    intro r hr hnone
    rcases List.mem_append.mp hr with hr | hr
    · exact hinv.unsolicited r hr hnone
    · rw [List.mem_singleton.mp hr]
      exact ⟨herror, hbarrier⟩
  barriers := hinv.barriers
  waiting := hinv.waiting
  finished := hinv.finished

/-- **Every step keeps the invariant.** -/
theorem Inv.moves {s' : Connection} (hinv : s.Inv) (h : s.Moves s') : s'.Inv := by
  cases h with
  | sendFlow flow hidle =>
    exact hinv.write hidle rfl fun _ h => by cases h
  | sendFlowSync flow hidle =>
    refine hinv.write hidle rfl fun c hc => ?_
    obtain rfl := Option.some.inj hc
    exact ⟨rfl, ⟨⟨_, getElem?_append_add _ _ 0, rfl, rfl⟩,
      ⟨_, getElem?_append_add _ _ 1, rfl, rfl⟩⟩, Nat.le_refl _⟩
  | barrier hidle =>
    refine hinv.write hidle rfl fun c hc => ?_
    obtain rfl := Option.some.inj hc
    exact ⟨rfl, ⟨_, getElem?_append_add _ _ 0, rfl, rfl⟩, Nat.le_refl _⟩
  | await hcall hclient herror hbarrier =>
    refine hinv.await hclient herror hbarrier fun msg hmsg hasks => ?_
    split at hmsg
    · rw [List.mem_singleton.mp hmsg] at hasks
      exact hasks.elim nofun nofun
    · cases hmsg
  | finish hcall hclient hend => exact hinv.finish hcall hclient hend
  | handle hqueue => exact hinv.handle hqueue
  | unsolicited herror hbarrier => exact hinv.unsolicitedMessage herror hbarrier

/-- **The invariant holds in every state of a run.** -/
theorem Inv.reachable {conn : VConn} (h : Reachable conn s) : s.Inv := by
  induction h with
  | start => exact Inv.start conn
  | step e _ hstep ih => exact ih.moves (step_moves hstep)

end Connection

/-! ### The answer that ends a call -/

instance : DecidablePred Handled.Rejected := fun h => by
  unfold Handled.Rejected
  infer_instance

theorem answers_length_eq (history : List Handled) :
    (answers Handled.answer history).length =
      (history.map Handled.request).countP Message.isBarrierRequest +
        history.countP fun h => decide h.Rejected := by
  rw [answers_length]
  induction history with
  | nil => rfl
  | cons h history ih =>
    have hone : (if h.answer.isSome = true then 1 else 0) =
        (if h.request.isBarrierRequest = true then 1 else 0) + if h.Rejected then 1 else 0 := by
      by_cases hrejected : h.Rejected
      · have hbarrier : ¬ h.request.isBarrierRequest = true := by
          rw [Message.isBarrierRequest, hrejected.1]
          decide
        rw [if_pos (h.answer_isSome.mpr (.inl hrejected)), if_neg hbarrier, if_pos hrejected]
      · simp only [if_neg hrejected, Nat.add_zero, h.answer_isSome, or_iff_right hrejected]
    simp only [List.countP_cons, List.map_cons, ih, hone, decide_eq_true_eq]
    omega

namespace Connection

variable {s : Connection}

/-- A flow modification before a place among the messages was rejected. -/
def RejectedBefore (s : Connection) (n : Nat) : Prop :=
  ∃ i h, i < n ∧ s.handled[i]? = some h ∧ h.Rejected

/-- A `send_flow_sync` call that ended as its own replies say.  An `Ok` comes from the
    reply to its own barrier, and its flow was not rejected; an OpenFlow error comes from
    an error that answers its own flow or barrier. -/
structure Associated (s : Connection) (f : Finished) (first : Nat) (flowXid barrierXid : U32) :
    Prop where
  ok : f.result = .ok () →
    f.reply.1 = some (first + 1) ∧ f.reply.2.header.msgType = .barrierReply ∧
      f.reply.2.header.xid = barrierXid ∧ ¬ ∃ h, s.handled[first]? = some h ∧ h.Rejected
  error : ∀ e, f.result = .err (.ofError e) → f.reply.2.header.msgType = .error ∧
    (f.reply.1 = some first ∧ f.reply.2.header.xid = flowXid ∨
      f.reply.1 = some (first + 1) ∧ f.reply.2.header.xid = barrierXid)

section Finished

variable {j : Nat} {f : Finished}

/-- The call at place `j` took the answer at place `j`. -/
theorem Inv.reply_eq (hinv : s.Inv) (hf : s.log[j]? = some f) :
    ∃ i, f.reply.1 = some i ∧ (answers Handled.answer s.handled)[j]? = some (i, f.reply.2) := by
  obtain ⟨⟨i, msg⟩, hanswer, heq⟩ := getElem?_taken hinv.replies hf
  rw [← heq]
  exact ⟨i, rfl, hanswer⟩

/-- Without a rejection the messages before a place have at most one answer for each
    barrier. -/
theorem answers_before_le {n : Nat} (hbefore : (s.sent.take n).countP Message.isBarrierRequest = j)
    (hno : ¬ s.RejectedBefore n) : (answers Handled.answer (s.handled.take n)).length ≤ j := by
  have hnone : (s.handled.take n).countP (fun h => decide h.Rejected) = 0 := by
    rw [List.countP_eq_zero]
    intro h hmem hrejected
    obtain ⟨i, hi, rfl⟩ := List.mem_iff_getElem.mp hmem
    rw [List.length_take] at hi
    refine hno ⟨i, _, by omega, ?_, of_decide_eq_true hrejected⟩
    rw [List.getElem_take, List.getElem?_eq_getElem]
  have hprefix : ((s.handled.take n).map Handled.request).Sublist (s.sent.take n) := by
    rw [sent, List.take_append, ← List.map_take]
    exact List.sublist_append_left ..
  rw [answers_length_eq, hnone, Nat.add_zero, ← hbefore]
  exact hprefix.countP_le

theorem answers_before_eq {n : Nat} (hbefore : (s.sent.take n).countP Message.isBarrierRequest = j)
    (hlen : n ≤ s.handled.length) : (answers Handled.answer (s.handled.take n)).length =
      j + (s.handled.take n).countP fun h => decide h.Rejected := by
  have htake : (s.handled.take n).map Handled.request = s.sent.take n := by
    rw [sent, List.map_take, List.take_append_of_le_length (by rwa [List.length_map])]
  rw [answers_length_eq, htake, hbefore]

end Finished

/-- An own answer: the error for the flow, or the barrier reply when there was none. -/
theorem associated_of_own {f : Finished} {first : Nat} {flowXid barrierXid : U32} {i : Nat}
    {h : Handled} (hrequests : Call.Requests s.sent (.sendFlowSync first flowXid barrierXid))
    (hended : f.Ended) (hi : f.reply.1 = some i) (hh : s.handled[i]? = some h)
    (ha : h.answer = some f.reply.2) (hown : i = first ∨ i = first + 1)
    (hflow : i = first + 1 → ¬ ∃ h, s.handled[first]? = some h ∧ h.Rejected) :
    s.Associated f first flowXid barrierXid := by
  obtain ⟨⟨msg, hmsg, htype, hxid⟩, ⟨msg', hmsg', htype', hxid'⟩⟩ := hrequests
  obtain ⟨hsame, hkind⟩ := Handled.answer_cases ha
  have hsent := sent_of_handled hh
  rcases hown with rfl | rfl
  · obtain rfl : h.request = msg := Option.some.inj (hsent.symm.trans hmsg)
    rcases hkind with ⟨-, herror, e, he⟩ | ⟨hbarrier, -⟩
    · refine ⟨fun hok => ?_, fun _ _ => ⟨herror, .inl ⟨hi, hsame.trans hxid⟩⟩⟩
      rw [hended.result, he] at hok
      cases hok
    · rw [htype] at hbarrier
      cases hbarrier
  · obtain rfl : h.request = msg' := Option.some.inj (hsent.symm.trans hmsg')
    rcases hkind with ⟨hrejected, -⟩ | ⟨-, hbarrier⟩
    · have hflowMod := hrejected.1
      rw [htype'] at hflowMod
      cases hflowMod
    · refine ⟨fun _ => ⟨hi, hbarrier, hsame.trans hxid', hflow rfl⟩, fun e he => ?_⟩
      rw [hended.result, checkError_of_ne (by rw [hbarrier]; decide)] at he
      cases he

/-- **A synchronous flow modification is answered by its own replies exactly when no flow
    modification before its own was rejected.**  The first error or barrier reply ends the call, so
    the error of an earlier modification ends a later call, and all calls behind it are out of step
    by one reply. -/
theorem sendFlowSync_associated_iff {conn : VConn} {s : Connection} (h : Reachable conn s)
    {f : Finished} (hf : f ∈ s.log) {first : Nat} {flowXid barrierXid : U32}
    (hcall : f.call = .sendFlowSync first flowXid barrierXid) :
    s.Associated f first flowXid barrierXid ↔ ¬ s.RejectedBefore first := by
  have hinv := Inv.reachable h
  obtain ⟨j, hj⟩ := List.mem_iff_getElem?.mp hf
  obtain ⟨hplaced, hended⟩ := hinv.finished j f hj
  obtain ⟨i, hi, hanswer⟩ := hinv.reply_eq hj
  obtain ⟨answered, hhandled, ha⟩ := mem_answers (List.mem_of_getElem? hanswer)
  have hlt := (List.getElem?_eq_some_iff.mp hhandled).1
  have hlast := hended.origin i hi
  rw [hcall] at hplaced hlast
  constructor
  · rintro hassoc ⟨k, rejected, hk, hrejectedAt, hrejected⟩
    -- the rejection takes one of the answers before the call, so its own come too late
    have hearly : i < first := by
      by_cases hlen : first ≤ s.handled.length
      · have hpos : 0 < (s.handled.take first).countP fun h => decide h.Rejected := by
          refine List.countP_pos_iff.mpr ⟨rejected, ?_, decide_eq_true hrejected⟩
          exact List.mem_of_getElem? ((List.getElem?_take_of_lt hk).trans hrejectedAt)
        have hcount := answers_before_eq (n := first) hplaced.before hlen
        rw [answer_lt_iff hanswer]
        exact hcount ▸ Nat.lt_add_of_pos_right hpos
      · omega
    rcases (Handled.answer_cases ha).2 with ⟨-, -, e, he⟩ | ⟨-, hbarrier⟩
    · rcases (hassoc.error e (hended.result.trans he)).2 with ⟨hown, -⟩ | ⟨hown, -⟩
      · exact absurd (Option.some.inj (hi.symm.trans hown)) (by omega)
      · exact absurd (Option.some.inj (hi.symm.trans hown)) (by omega)
    · have hok := hended.result.trans (checkError_of_ne (by rw [hbarrier]; decide))
      exact absurd (Option.some.inj (hi.symm.trans (hassoc.ok hok).1)) (by omega)
  · intro hno
    have hlate : ¬ i < first := by
      rw [answer_lt_iff hanswer]
      exact Nat.not_lt.mpr (answers_before_le (n := first) hplaced.before hno)
    have hown : i = first ∨ i = first + 1 := by
      have : i ≤ first + 1 := hlast
      omega
    refine associated_of_own hplaced.requests hended hi hhandled ha hown ?_
    rintro rfl ⟨rejected, hrejectedAt, hrejected⟩
    -- the error for the own flow would have come first
    have hcount :=
      answers_before_eq (n := first) hplaced.before (show first ≤ s.handled.length by omega)
    obtain ⟨msg, hmsg⟩ := Option.isSome_iff_exists.mp (rejected.answer_isSome.mpr (.inl hrejected))
    have hnext : first + 1 < first + 1 := by
      rw [answer_lt_iff hanswer, List.take_add_one, hrejectedAt, Option.toList_some, answers_concat,
        List.length_append, hcount, hmsg, Option.map_some, Option.toList_some,
        List.length_singleton]
      omega
    omega

end Connection

/-! ### Two runs -/

/-- A connection after its handshake. -/
def freshConn : VConn := ⟨.of13, 2⟩

def acceptedRun : List Event :=
  [.sendFlowSync Flow.add, .handle none, .handle none, .receive]

/-- Two synchronous flow modifications that the switch rejects. -/
def rejectedRun : List Event :=
  [.sendFlowSync Flow.add, .handle (some ⟨5, 1, []⟩), .handle none, .receive,
    .sendFlowSync Flow.add, .handle (some ⟨5, 1, []⟩), .handle none, .receive]

def barrierReply (xid : U32) : Message := Message.new .of13 .barrierReply xid []

theorem exists_run {α : Type} (events : List Event) (observe : Connection → α) {x : α}
    (h : (events.foldlM Connection.step (.start freshConn)).map observe = some x) :
    ∃ s, Reachable freshConn s ∧ observe s = x := by
  obtain ⟨s, hrun, hx⟩ := Option.map_eq_some_iff.mp h
  exact ⟨s, Reachable.run .start hrun, hx⟩

theorem sendFlowSync_associated_iff_accepted : ∃ s, Reachable freshConn s ∧
    ∃ f ∈ s.log, f.call = .sendFlowSync 0 2 3 ∧
      (s.Associated f 0 2 3 ↔ ¬ s.RejectedBefore 0) := by
  obtain ⟨s, hreach, hlog⟩ := exists_run (x := [⟨.sendFlowSync 0 2 3, (some 1, barrierReply 3),
    .ok ()⟩]) acceptedRun Connection.log rfl
  have hmem : _ ∈ s.log := hlog ▸ List.mem_singleton_self _
  exact ⟨s, hreach, _, hmem, rfl, Connection.sendFlowSync_associated_iff hreach hmem rfl⟩

/-- The second call takes the barrier reply that the first one left behind for its own,
    and returns `Ok` for a flow that is rejected. -/
theorem staleBarrierReply_taken : ∃ s, Reachable freshConn s ∧
    ∃ f ∈ s.log, f.call = .sendFlowSync 2 4 5 ∧ f.result = .ok () ∧
      f.reply = (some 1, barrierReply 3) ∧ (∃ h, s.handled[2]? = some h ∧ h.Rejected) ∧
      ¬ s.Associated f 2 4 5 := by
  obtain ⟨s, hreach, hseen⟩ := exists_run
    (x := (some ⟨.sendFlowSync 2 4 5, (some 1, barrierReply 3), .ok ()⟩,
      some ⟨Flow.add.toMessage .of13 4, some ⟨5, 1, []⟩⟩))
    rejectedRun (fun s => (s.log[1]?, s.handled[2]?)) rfl
  obtain ⟨hlog, hhandled⟩ := Prod.mk.injEq _ _ _ _ ▸ hseen
  refine ⟨s, hreach, _, List.mem_of_getElem? hlog, rfl, rfl, rfl, ⟨_, hhandled, rfl, rfl⟩,
    fun hassoc => ?_⟩
  cases (hassoc.ok rfl).1

end Rovs.OpenFlow

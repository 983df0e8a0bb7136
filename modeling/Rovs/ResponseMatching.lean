import Rovs.Exchange
import Rovs.InOrder

/-!
# Which response a call takes

A call reads the responses in the order of the stream and accepts none but the one with
its id.  The invariant of this file counts: the calls that ended have read as many
responses as they are.  So a call reads its own response exactly when no call before it
was abandoned, and behind an abandoned call every response comes too late.

`transact_matched_iff` is the main result, over every run of calls of which any may be
abandoned.
-/

namespace Rovs.JsonRpc

open Json Outcome

/-! ### The invariant -/

/-- The call's request is at its place, which that many ended and abandoned calls stand
    before. -/
structure Call.Placed (start : U64) (abandoned : List Nat) (j : Nat) (call : Call) : Prop where
  place : call.place = j + abandoned.countP (· < call.place)
  id : call.id = start + BitVec.ofNat 64 call.place

structure Finished.Ended (f : Finished) : Prop where
  response : ∃ resp, f.reply.2 = .response resp ∧ f.result = f.call.takes resp

structure Exchange.Inv (conn : Connection) (s : Exchange) : Prop where
  /-- Every response of the server has ended a call or is on its way. -/
  replies : s.log.map Finished.reply ++ s.toClient.filter (·.1.isSome) =
    (answers Handled.response s.handled).map fun p => (some p.1, .response p.2)
  unsolicited : ∀ inbound ∈ s.toClient, inbound.1 = none → ∃ req, inbound.2 = .request req
  notifications : s.conn.pendingNotifications ++ s.unreadNotifications =
    conn.pendingNotifications ++ s.notified
  nextId : s.conn.nextId = conn.nextId + BitVec.ofNat 64 s.sent.length
  ids : ∀ (i : Nat) (req : Request), s.sent[i]? = some req →
    req.id = some (.number (conn.nextId + BitVec.ofNat 64 i))
  count : s.sent.length = s.log.length + s.abandoned.length + s.call.toList.length
  waiting : ∀ call, s.call = some call → call.place + 1 = s.sent.length ∧
    call.Placed conn.nextId s.abandoned s.log.length
  finished : ∀ (j : Nat) (f : Finished), s.log[j]? = some f →
    f.call.place + s.call.toList.length < s.sent.length ∧
      f.call.Placed conn.nextId s.abandoned j ∧ f.Ended
  before : ∀ p ∈ s.abandoned, p + s.call.toList.length < s.sent.length

/-! ### What a step preserves -/

theorem Call.Placed.append {start : U64} {abandoned : List Nat} {j p : Nat} {call : Call}
    (h : call.Placed start abandoned j) (hp : ¬ p < call.place) :
    call.Placed start (abandoned ++ [p]) j where
  place := by
    rw [List.countP_append, List.countP_singleton, if_neg (by simpa using hp), Nat.add_zero]
    exact h.place
  id := h.id

theorem countP_eq_length_of_lt {ps : List Nat} {n : Nat} (h : ∀ p ∈ ps, p < n) :
    ps.countP (· < n) = ps.length := by
  rw [List.countP_eq_length]
  intro p hp
  exact decide_eq_true (h p hp)

namespace Exchange

variable {conn : Connection} {s : Exchange}

theorem sent_begin (method : String) (params : Value) :
    (s.begin method params).sent = s.sent ++ [Request.new method params s.conn.nextId] := by
  rw [sent, sent, List.append_assoc]
  rfl

theorem sent_answer {h : Handled} {rest : List Request} (hqueue : s.toServer = h.request :: rest) :
    (s.answer h rest).sent = s.sent := by
  rw [sent, sent, hqueue]
  simp [answer]

theorem unread_request (origin : Option Nat) (req : Request) (rest : List Inbound) :
    ((origin, Message.request req) :: rest).filterMap (fun inbound => inbound.2.asRequest) =
      req :: rest.filterMap fun inbound => inbound.2.asRequest := rfl

theorem unread_response (origin : Option Nat) (resp : Response) (rest : List Inbound) :
    ((origin, Message.response resp) :: rest).filterMap (fun inbound => inbound.2.asRequest) =
      rest.filterMap fun inbound => inbound.2.asRequest := rfl

theorem sent_of_handled {i : Nat} {h : Handled} (hh : s.handled[i]? = some h) :
    s.sent[i]? = some h.request := getElem?_handled s.toServer hh

/-- Every request has an id, so every request is answered. -/
theorem Inv.answered (hinv : s.Inv conn) {i : Nat} {h : Handled} (hh : s.handled[i]? = some h) :
    h.response =
      some ⟨h.result, h.error, .number (conn.nextId + BitVec.ofNat 64 i)⟩ := by
  rw [Handled.response, hinv.ids i h.request (sent_of_handled hh)]
  rfl

/-- What the client reads is a notification or the answer to a request. -/
theorem Inv.head (hinv : s.Inv conn) {reply : Inbound} {rest : List Inbound}
    (hclient : s.toClient = reply :: rest) :
    (reply.1 = none ∧ ∃ req, reply.2 = .request req) ∨
      (reply.1.isSome = true ∧ ∃ resp, reply.2 = .response resp) := by
  rcases reply with ⟨origin, msg⟩
  have hmem : (origin, msg) ∈ s.toClient := by
    rw [hclient]
    exact List.mem_cons_self ..
  cases origin with
  | none => exact .inl ⟨rfl, hinv.unsolicited _ hmem rfl⟩
  | some i =>
    have hreply : (some i, msg) ∈ s.log.map Finished.reply ++ s.toClient.filter (·.1.isSome) :=
      List.mem_append_right _ (List.mem_filter.mpr ⟨hmem, rfl⟩)
    rw [hinv.replies] at hreply
    rcases List.mem_map.mp hreply with ⟨⟨i', resp⟩, -, heq⟩
    cases heq
    exact .inr ⟨rfl, resp, rfl⟩

theorem Inv.start (conn : Connection) : Inv conn { conn := conn } where
  replies := rfl
  unsolicited := by
    intro inbound h
    cases h
  notifications := rfl
  nextId := (BitVec.add_zero conn.nextId).symm
  ids := by
    intro i req h
    cases h
  count := rfl
  waiting := by
    intro call h
    cases h
  finished := by
    intro j f h
    cases h
  before := by
    intro p h
    cases h

theorem Inv.begin (hinv : s.Inv conn) (method : String) (params : Value) (hidle : s.call = none) :
    (s.begin method params).Inv conn := by
  have hlen : (s.begin method params).sent.length = s.sent.length + 1 := by
    rw [sent_begin, List.length_append]
    rfl
  have hcount := hinv.count
  have hbefore := hinv.before
  have hfinished := hinv.finished
  rw [hidle] at hcount hbefore hfinished
  constructor
  case replies => exact hinv.replies
  case unsolicited => exact hinv.unsolicited
  case notifications => exact hinv.notifications
  case nextId =>
    have hnext : (s.begin method params).conn.nextId = s.conn.nextId + 1 := rfl
    rw [hnext, hlen, hinv.nextId, BitVec.add_assoc, BitVec.ofNat_add]
    rfl
  case ids =>
    intro i req hreq
    rw [sent_begin, List.getElem?_append] at hreq
    split at hreq
    · exact hinv.ids i req hreq
    · next hi =>
      rw [List.getElem?_singleton, Option.ite_none_right_eq_some] at hreq
      rcases hreq with ⟨hzero, hreq⟩
      have hplace : i = s.sent.length := by omega
      rw [← Option.some.inj hreq, hplace, ← hinv.nextId]
      rfl
  case count =>
    rw [hlen, hcount]
    rfl
  case waiting =>
    intro call hcall
    cases hcall
    refine ⟨hlen.symm, ?_, hinv.nextId⟩
    have hall : s.abandoned.countP (· < s.sent.length) = s.abandoned.length :=
      countP_eq_length_of_lt hbefore
    exact hcount.trans (congrArg (s.log.length + ·) hall.symm)
  case finished =>
    intro j f hf
    rcases hfinished j f hf with ⟨hlt, hplaced, hended⟩
    refine ⟨?_, hplaced, hended⟩
    rw [hlen]
    exact Nat.succ_lt_succ hlt
  case before =>
    intro p hp
    rw [hlen]
    exact Nat.succ_lt_succ (hbefore p hp)

theorem Inv.abandon (hinv : s.Inv conn) {call : Call} (hcall : s.call = some call) :
    (s.abandon call).Inv conn := by
  have hsent : (s.abandon call).sent = s.sent := rfl
  have hcount := hinv.count
  have hbefore := hinv.before
  have hfinished := hinv.finished
  rcases hinv.waiting call hcall with ⟨hlast, -⟩
  rw [hcall] at hcount hbefore hfinished
  simp only [Option.toList_some, List.length_singleton] at hcount hbefore hfinished
  constructor
  case replies => exact hinv.replies
  case unsolicited => exact hinv.unsolicited
  case notifications => exact hinv.notifications
  case nextId => exact hinv.nextId
  case ids => exact hinv.ids
  case count =>
    rw [hsent, hcount]
    simp [Exchange.abandon, Nat.add_assoc]
  case waiting =>
    intro call' hcall'
    cases hcall'
  case finished =>
    intro j f hf
    rcases hfinished j f hf with ⟨hlt, hplaced, hended⟩
    rw [hsent]
    have hlt' : f.call.place < call.place := by omega
    exact ⟨Nat.lt_of_succ_lt hlt, hplaced.append (Nat.lt_asymm hlt'), hended⟩
  case before =>
    intro p hp
    rw [hsent]
    rcases List.mem_append.mp hp with hp | hp
    · exact Nat.lt_of_succ_lt (hbefore p hp)
    · rw [List.mem_singleton.mp hp, ← hlast]
      exact Nat.lt_succ_self _

theorem Inv.await (hinv : s.Inv conn) {origin : Option Nat} {req : Request} {rest : List Inbound}
    (hclient : s.toClient = (origin, .request req) :: rest) :
    (s.await { s.conn with pendingNotifications := s.conn.pendingNotifications ++ [req] }
      rest).Inv conn := by
  have hreplies := hinv.replies
  have hnotifications := hinv.notifications
  rcases hinv.head hclient with ⟨hnone, -⟩ | ⟨-, resp, hresp⟩
  · constructor
    case replies =>
      rwa [hclient, List.filter_cons_of_neg (by rw [hnone]; exact nofun)] at hreplies
    case unsolicited =>
      intro inbound hmem
      refine hinv.unsolicited inbound ?_
      rw [hclient]
      exact List.mem_cons_of_mem _ hmem
    case notifications =>
      rw [unreadNotifications, hclient, unread_request, List.append_cons] at hnotifications
      exact hnotifications
    case nextId => exact hinv.nextId
    case ids => exact hinv.ids
    case count => exact hinv.count
    case waiting => exact hinv.waiting
    case finished => exact hinv.finished
    case before => exact hinv.before
  · cases hresp

theorem Inv.finish (hinv : s.Inv conn) {call : Call} {origin : Option Nat} {resp : Response}
    {rest : List Inbound} (hcall : s.call = some call)
    (hclient : s.toClient = (origin, .response resp) :: rest) :
    (s.finish call (origin, .response resp) rest (call.takes resp)).Inv conn := by
  have hreplies := hinv.replies
  have hnotifications := hinv.notifications
  have hcount := hinv.count
  have hbefore := hinv.before
  have hfinished := hinv.finished
  rcases hinv.waiting call hcall with ⟨hlast, hplaced⟩
  rw [hcall] at hcount hbefore hfinished
  rcases hinv.head hclient with ⟨-, req, hreq⟩ | ⟨hsome, -⟩
  · cases hreq
  · constructor
    case replies =>
      rw [hclient, List.filter_cons_of_pos (by exact hsome), List.append_cons] at hreplies
      rw [Exchange.finish, List.map_append]
      exact hreplies
    case unsolicited =>
      intro inbound hmem
      refine hinv.unsolicited inbound ?_
      rw [hclient]
      exact List.mem_cons_of_mem _ hmem
    case notifications =>
      rw [unreadNotifications, hclient, unread_response] at hnotifications
      exact hnotifications
    case nextId => exact hinv.nextId
    case ids => exact hinv.ids
    case count =>
      have hsent : (s.finish call (origin, .response resp) rest (call.takes resp)).sent =
          s.sent := rfl
      rw [hsent, hcount]
      simp only [Exchange.finish, List.length_append, Option.toList_some, Option.toList_none,
        List.length_singleton, List.length_nil]
      omega
    case waiting =>
      intro call' hcall'
      cases hcall'
    case finished =>
      intro j f hf
      rw [Exchange.finish, List.getElem?_append] at hf
      split at hf
      · rcases hfinished j f hf with ⟨hlt, hplaced, hended⟩
        exact ⟨Nat.lt_of_succ_lt hlt, hplaced, hended⟩
      · next hj =>
        rw [List.getElem?_singleton, Option.ite_none_right_eq_some] at hf
        rcases hf with ⟨hzero, hf⟩
        have hplace : j = s.log.length := by omega
        rw [← Option.some.inj hf, hplace]
        refine ⟨?_, hplaced, resp, rfl, rfl⟩
        have hlt : call.place < s.sent.length := by omega
        exact hlt
    case before =>
      intro p hp
      exact Nat.lt_of_succ_lt (hbefore p hp)

theorem Inv.answer (hinv : s.Inv conn) {h : Handled} {rest : List Request}
    (hqueue : s.toServer = h.request :: rest) : (s.answer h rest).Inv conn := by
  have hsent := sent_answer hqueue
  constructor
  case replies =>
    have hreplies := hinv.replies
    rw [Exchange.answer, answers_concat, List.map_append, ← hreplies, List.append_assoc,
      List.filter_append]
    cases h.response <;> rfl
  case unsolicited =>
    intro inbound hmem hnone
    rcases List.mem_append.mp hmem with hmem | hmem
    · exact hinv.unsolicited inbound hmem hnone
    · rcases Option.map_eq_some_iff.mp (Option.mem_toList.mp hmem) with ⟨resp, -, rfl⟩
      cases hnone
  case notifications =>
    have hnotifications := hinv.notifications
    rw [unreadNotifications, Exchange.answer, List.filterMap_append]
    cases h.response
    all_goals
      simp only [Option.map_none, Option.map_some, Option.toList_none, Option.toList_some,
        List.filterMap_nil, List.filterMap_cons_none, Message.asRequest, List.append_nil]
      exact hnotifications
  case nextId =>
    rw [hsent]
    exact hinv.nextId
  case ids =>
    rw [hsent]
    exact hinv.ids
  case count =>
    rw [hsent]
    exact hinv.count
  case waiting =>
    rw [hsent]
    exact hinv.waiting
  case finished =>
    rw [hsent]
    exact hinv.finished
  case before =>
    rw [hsent]
    exact hinv.before

theorem Inv.notify (hinv : s.Inv conn) (req : Request) : (s.notify req).Inv conn where
  replies := by
    rw [Exchange.notify, List.filter_append, ← hinv.replies]
    exact congrArg (s.log.map Finished.reply ++ ·) (List.append_nil _)
  unsolicited := by
    intro inbound hmem hnone
    rcases List.mem_append.mp hmem with hmem | hmem
    · exact hinv.unsolicited inbound hmem hnone
    · rw [List.mem_singleton.mp hmem]
      exact ⟨req, rfl⟩
  notifications := by
    have hnotifications := hinv.notifications
    rw [unreadNotifications] at hnotifications
    rw [unreadNotifications, Exchange.notify, List.filterMap_append, ← List.append_assoc,
      hnotifications, List.append_assoc]
    rfl
  nextId := hinv.nextId
  ids := hinv.ids
  count := hinv.count
  waiting := hinv.waiting
  finished := hinv.finished
  before := hinv.before

/-- **Every step keeps the invariant.** -/
theorem Inv.moves {s' : Exchange} (hinv : s.Inv conn) (h : s.Moves s') : s'.Inv conn := by
  cases h with
  | begin method params hidle => exact hinv.begin method params hidle
  | abandon hcall => exact hinv.abandon hcall
  | await hcall hclient => exact hinv.await hclient
  | finish hcall hclient => exact hinv.finish hcall hclient
  | answer hqueue => exact hinv.answer hqueue
  | notify req => exact hinv.notify req

/-- **The invariant holds in every state of a run.** -/
theorem Inv.reachable (h : Reachable conn s) : s.Inv conn :=
  h.invariant (Inv.start conn) fun _ _ _ hinv hstep => hinv.moves (step_moves hstep)

/-! ### The response that ends a call -/

theorem value_ne_unexpectedId (resp : Response) (expected got : U64) :
    resp.value ≠ .err (.unexpectedId expected got) := by
  intro h
  rw [Response.value] at h
  cases herror : resp.error with
  | none =>
    rw [herror] at h
    cases h
  | some error =>
    rw [herror] at h
    cases h

/-- A call that ended with the response to its own request, and as that response says. -/
structure Matched (s : Exchange) (f : Finished) : Prop where
  own : f.reply.1 = some f.call.place
  result : ∃ h resp, s.handled[f.call.place]? = some h ∧ h.response = some resp ∧
    f.reply.2 = .response resp ∧ f.result = resp.value
  expected : ∀ expected got, f.result ≠ .err (.unexpectedId expected got)

/-- A request before a call's own was abandoned. -/
def AbandonedBefore (s : Exchange) (call : Call) : Prop := ∃ p ∈ s.abandoned, p < call.place

/-- The call at place `j` of those that ended took the answer to request `j`. -/
theorem Inv.reply_eq (hinv : s.Inv conn) {j : Nat} {f : Finished} (hf : s.log[j]? = some f) :
    f.reply.1 = some j ∧ ∃ h resp, s.handled[j]? = some h ∧ h.response = some resp ∧
      f.reply.2 = .response resp := by
  rcases getElem?_taken hinv.replies hf with ⟨⟨i, resp⟩, hanswer, heq⟩
  have htotal : ∀ h ∈ s.handled, h.response.isSome = true := by
    intro h hmem
    rcases List.mem_iff_getElem?.mp hmem with ⟨k, hk⟩
    rw [hinv.answered hk]
    rfl
  have hi := answers_total htotal hanswer
  rcases mem_answers (List.mem_of_getElem? hanswer) with ⟨h, hh, hresp⟩
  rw [hi] at hh
  rw [← heq, hi]
  exact ⟨rfl, h, resp, hh, hresp, rfl⟩

/-- **In every run a call that ends has its own response, and no other, exactly when no call before
    it was abandoned; the notifications keep their order.**  The response to an abandoned call stays
    in the stream, where the next call finds it and fails on its id. -/
theorem transact_matched_iff (h : Reachable conn s) :
    s.conn.pendingNotifications ++ s.unreadNotifications =
        conn.pendingNotifications ++ s.notified ∧
      ∀ f ∈ s.log, s.Matched f ↔ ¬ s.AbandonedBefore f.call := by
  have hinv := Inv.reachable h
  refine ⟨hinv.notifications, ?_⟩
  intro f hmem
  rcases List.mem_iff_getElem?.mp hmem with ⟨j, hj⟩
  rcases hinv.finished j f hj with ⟨-, hplaced, resp, hresp, hresult⟩
  rcases hinv.reply_eq hj with ⟨horigin, h, resp', hh, hresponse, hreply⟩
  have hsame : resp = resp' := Message.response.inj (hresp.symm.trans hreply)
  have hplace := hplaced.place
  constructor
  · intro hmatched hbefore
    rcases hbefore with ⟨p, hp, hlt⟩
    have hown := Option.some.inj (horigin.symm.trans hmatched.own)
    have hpos : 0 < s.abandoned.countP (· < f.call.place) :=
      List.countP_pos_iff.mpr ⟨p, hp, decide_eq_true hlt⟩
    omega
  · intro hbefore
    have hzero : s.abandoned.countP (· < f.call.place) = 0 := by
      rw [List.countP_eq_zero]
      intro p hp hlt
      exact hbefore ⟨p, hp, of_decide_eq_true hlt⟩
    have hown : f.call.place = j := by omega
    have hid : resp.id = .number f.call.id := by
      have hanswered := hinv.answered hh
      rw [hresponse] at hanswered
      rw [hsame, Option.some.inj hanswered, hplaced.id, hown]
    have htakes : f.result = resp.value := hresult.trans (if_pos hid)
    constructor
    case own => rw [horigin, hown]
    case result =>
      rw [hown]
      exact ⟨h, resp', hh, hresponse, hreply, by rw [htakes, hsame]⟩
    case expected =>
      intro expected got
      rw [htakes]
      exact value_ne_unexpectedId resp expected got

/-! Two calls end, and a call between them is abandoned. -/

def abandonedRun : List Event :=
  [.transact "transact" .null, .answer (some (.string "first")) none, .receive,
    .transact "transact" .null, .notify ⟨"update", .null, none⟩, .abandon,
    .answer (some (.string "second")) none,
    .transact "transact" .null, .receive, .answer (some (.string "third")) none, .receive]

def firstCall : Finished where
  call := ⟨0, 1⟩
  reply := (some 0, .response (.success (.number 1) (.string "first")))
  result := .ok (.string "first")

def lastCall : Finished where
  call := ⟨2, 3⟩
  reply := (some 1, .response (.success (.number 2) (.string "second")))
  result := .err (.unexpectedId 3 2)

def abandonedState : Exchange where
  conn := ⟨4, [⟨"update", .null, none⟩]⟩
  handled :=
    [⟨.new "transact" .null 1, some (.string "first"), none⟩,
      ⟨.new "transact" .null 2, some (.string "second"), none⟩,
      ⟨.new "transact" .null 3, some (.string "third"), none⟩]
  toClient := [(some 2, .response (.success (.number 3) (.string "third")))]
  notified := [⟨"update", .null, none⟩]
  abandoned := [1]
  log := [firstCall, lastCall]

theorem abandonedRun_eq :
    abandonedRun.foldlM Exchange.step { conn := .new } = some abandonedState := rfl

/-- The call before the abandoned one has its own response, the call behind it has not. -/
theorem transact_matched_iff_run :
    abandonedState.Matched firstCall ∧ ¬ abandonedState.Matched lastCall := by
  have hiff := (transact_matched_iff (Reaches.start.run abandonedRun_eq)).2
  constructor
  · rw [hiff firstCall (List.mem_cons_self ..)]
    simp [AbandonedBefore, abandonedState, firstCall]
  · rw [hiff lastCall (List.mem_cons_of_mem _ (List.mem_singleton_self _))]
    simp [AbandonedBefore, abandonedState, lastCall]

/-- A call whose request was answered ends with `UnexpectedId`. -/
theorem abandoned_unexpectedId : ¬ ∀ (s : Exchange) (f : Finished),
    Reachable .new s → f ∈ s.log → s.Matched f := by
  intro h
  have hmatched := h abandonedState _ (Reaches.start.run abandonedRun_eq)
    (List.mem_cons_of_mem _ (List.mem_singleton_self _))
  exact hmatched.expected 3 2 rfl

end Exchange

end Rovs.JsonRpc

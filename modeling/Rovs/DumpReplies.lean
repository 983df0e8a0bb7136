import Rovs.FlowDump
import Rovs.InOrder

/-!
# Whose replies a flow dump returns

`dump_flows_filtered` takes every multipart reply it reads for its own and does not look
at its transaction id.  The replies that a dump takes and those that are still to come
stand in the order of the requests, so the first of them tells the rest.  Where nothing
of an earlier dump was left when a dump began, this is the first reply to its own request,
and the "more" flags lead it to the last one.  Otherwise it belongs to an earlier request.

This is `dump_own_iff`.  The condition is about the state before the dump, and no bound is
put on what came before.
-/

namespace Rovs.OpenFlow.FlowDump

open Outcome

/-! ### The entries of replies -/

/-- The entries of replies, one reply after the other. -/
def entriesOf : List Message → Result (List FlowStatsEntry)
  | [] => pure []
  | msg :: msgs => do
    let (entries, _) ← parseFlowStatsReply msg.body
    let rest ← entriesOf msgs
    pure (entries ++ rest)

theorem entriesOf_concat {msgs : List Message} {msg : Message}
    {before entries : List FlowStatsEntry} {more : Bool} (hbefore : entriesOf msgs = .ok before)
    (hparse : parseFlowStatsReply msg.body = .ok (entries, more)) :
    entriesOf (msgs ++ [msg]) = .ok (before ++ entries) := by
  induction msgs generalizing before with
  | nil =>
    cases hbefore
    simp [entriesOf, hparse]
  | cons first msgs ih =>
    rcases bind_eq_ok.mp hbefore with ⟨⟨entries₁, more₁⟩, hfirst, hbind⟩
    rcases bind_eq_ok.mp hbind with ⟨entries₂, hrest, hpure⟩
    cases hpure
    simp [entriesOf, hfirst, ih hrest]

/-- The parser reads the "more" flag from where it is. -/
theorem moreFlag_of_parse {body : Bytes} {entries : List FlowStatsEntry} {more : Bool}
    (h : parseFlowStatsReply body = .ok (entries, more)) : moreFlag body = more := by
  rcases parseFlowStatsReply_cases body with ⟨hreply, heq⟩ | ⟨-, e, he⟩
  · have hlen : 8 ≤ body.length := hreply.1
    rw [heq] at h
    rcases bind_eq_ok.mp h with ⟨es, -, hpure⟩
    cases hpure
    rw [moreFlag, beAt_eq_ok (by omega)]
    rfl
  · rw [he] at h
    cases h

/-! ### The answers of the switch -/

section Answers

variable {h : Handled} {msg : Message}

theorem Handled.answers_of_request (hmulti : IsOf .multipartRequest h.request = true) :
    h.answers = h.series.bodies.map fun body =>
      Message.new h.request.header.version .multipartReply h.request.header.xid body := by
  rw [Handled.answers, of_decide_eq_true hmulti]

/-- The replies to a request have its transaction id. -/
theorem Handled.answers_xid (hmsg : msg ∈ h.answers) :
    msg.header.xid = h.request.header.xid := by
  rw [Handled.answers] at hmsg
  split at hmsg
  · rcases Option.map_eq_some_iff.mp (Option.mem_toList.mp hmsg) with ⟨r, -, rfl⟩
    rfl
  · rcases List.mem_map.mp hmsg with ⟨body, -, rfl⟩
    rfl
  · cases hmsg

/-- Multipart replies answer multipart requests only. -/
theorem Handled.answers_isOf (hmsg : msg ∈ h.answers) :
    IsOf .multipartReply msg = IsOf .multipartRequest h.request := by
  rw [Handled.answers] at hmsg
  split at hmsg
  · next htype =>
    rcases Option.map_eq_some_iff.mp (Option.mem_toList.mp hmsg) with ⟨r, -, rfl⟩
    rw [IsOf, IsOf, htype]
    rfl
  · next htype =>
    rcases List.mem_map.mp hmsg with ⟨body, -, rfl⟩
    rw [IsOf, IsOf, htype]
    rfl
  · cases hmsg

theorem Handled.answers_ne_nil (hmulti : IsOf .multipartRequest h.request = true) :
    h.answers ≠ [] := by
  simp [Handled.answers_of_request hmulti, Series.bodies]

/-- The reply without the "more" flag is the last one. -/
theorem Handled.last_answer (hmulti : IsOf .multipartRequest h.request = true)
    {before after : List Message} (hanswers : h.answers = before ++ msg :: after)
    (hlast : moreFlag msg.body = false) : after = [] := by
  by_contra hafter
  have hbodies : h.series.bodies =
      before.map Message.body ++ msg.body :: after.map Message.body := by
    have hmap := congrArg (List.map Message.body) hanswers
    rw [Handled.answers_of_request hmulti, List.map_map] at hmap
    simpa [Function.comp_def] using hmap
  have hfirst := congrArg List.dropLast hbodies
  have hne : after.map Message.body ≠ [] := by simpa using hafter
  rw [Series.bodies, List.dropLast_concat, List.dropLast_append_of_ne_nil (List.cons_ne_nil _ _),
    List.dropLast_cons_of_ne_nil hne] at hfirst
  have hmore := h.series.more msg.body (by simp [hfirst])
  rw [hlast] at hmore
  cases hmore

end Answers

/-! ### What a dump takes -/

/-- The dump took the replies to its own request, all with its transaction id, and these are
    their entries. -/
def Channel.Own (s : Channel) (d : Dump) (entries : List FlowStatsEntry) : Prop :=
  ∃ h, s.handled[d.place]? = some h ∧ IsOf .multipartRequest h.request = true ∧
    (∀ msg ∈ h.answers, msg.header.xid = d.xid) ∧ d.taken = h.answers.map (some d.place, ·) ∧
      entriesOf h.answers = .ok entries

/-- The first reply belongs to a request before a place. -/
def Stale (place : Nat) (replies : List Reply) : Prop :=
  ∃ i msg rest, replies = (some i, msg) :: rest ∧ i < place

/-- There is a multipart request at a place. -/
def Channel.AskedAt (s : Channel) (i : Nat) : Prop :=
  ∃ msg, s.sent[i]? = some msg ∧ IsOf .multipartRequest msg = true

/-- The multipart replies that the dump has taken and those it could read. -/
def Channel.coming (s : Channel) (d : Dump) : List Reply := d.taken ++ s.unread

/-- Nothing but the replies to the dump's request is coming. -/
def Channel.OwnComing (s : Channel) (d : Dump) : Prop :=
  (s.coming d = [] ∧ s.handled.length ≤ d.place ∧
    ∀ i, s.handled.length ≤ i → i < d.place → ¬ s.AskedAt i) ∨
  ∃ h, s.handled[d.place]? = some h ∧ s.coming d = h.answers.map (some d.place, ·)

/-- A reply to an earlier request comes first. -/
def Channel.StaleComing (s : Channel) (d : Dump) : Prop :=
  Stale d.place (s.coming d) ∨
  (s.coming d = [] ∧ ∃ i, s.handled.length ≤ i ∧ i < d.place ∧ s.AskedAt i)

structure Channel.Waiting (s : Channel) (d : Dump) : Prop where
  request : ∃ msg, s.sent[d.place]? = some msg ∧ IsOf .multipartRequest msg = true ∧
    msg.header.xid = d.xid
  last : ∀ i, d.place < i → ¬ s.AskedAt i
  entries : entriesOf (d.taken.map (·.2)) = .ok d.entries
  own : d.clear = true → s.OwnComing d
  stale : d.clear = false → s.StaleComing d

structure Channel.Inv (s : Channel) : Prop where
  unread : ∀ reply ∈ s.unread, ∃ i, reply.1 = some i ∧ i < s.handled.length
  waiting : ∀ d, s.dump = some d → s.Waiting d
  finished : ∀ f ∈ s.log, ∀ entries, f.result = .ok entries →
    (f.dump.clear = true ∧ s.Own f.dump entries) ∨
      (f.dump.clear = false ∧ Stale f.dump.place f.dump.taken)

/-! ### What a step preserves -/

namespace Channel

variable {s : Channel} {d : Dump}

theorem Own.not_stale {entries : List FlowStatsEntry} (hown : s.Own d entries) :
    ¬ Stale d.place d.taken := by
  rintro ⟨i, msg, rest, hstale, hlt⟩
  rcases hown with ⟨h, -, -, -, htaken, -⟩
  have hmem : (some i, msg) ∈ h.answers.map (some d.place, ·) := by
    rw [← htaken, hstale]
    exact List.mem_cons_self ..
  rcases List.mem_map.mp hmem with ⟨msg', -, heq⟩
  cases heq
  exact Nat.lt_irrefl _ hlt

theorem AskedAt.lt {i : Nat} (h : s.AskedAt i) : i < s.sent.length := by
  rcases h with ⟨msg, hmsg, -⟩
  exact (List.getElem?_eq_some_iff.mp hmsg).1

/-- More messages that are no multipart requests. -/
theorem askedAt_append {s' : Channel} {msgs : List Message} (hsent : s'.sent = s.sent ++ msgs)
    (hmsgs : ∀ msg ∈ msgs, IsOf .multipartRequest msg = false) (i : Nat) :
    s'.AskedAt i ↔ s.AskedAt i := by
  rw [AskedAt, AskedAt, hsent]
  constructor
  · rintro ⟨msg, hmsg, hmulti⟩
    rw [List.getElem?_append] at hmsg
    split at hmsg
    · exact ⟨msg, hmsg, hmulti⟩
    · rw [hmsgs msg (List.mem_of_getElem? hmsg)] at hmulti
      cases hmulti
  · rintro ⟨msg, hmsg, hmulti⟩
    have hlt := (List.getElem?_eq_some_iff.mp hmsg).1
    exact ⟨msg, by rwa [List.getElem?_append_left hlt], hmulti⟩

theorem sent_handle {h : Handled} {rest : List Message} (hqueue : s.toSwitch = h.request :: rest) :
    (s.handle h rest).sent = s.sent := by
  simp [sent, handle, hqueue]

/-- The next message that the switch handles. -/
theorem sent_handled {h : Handled} {rest : List Message}
    (hqueue : s.toSwitch = h.request :: rest) : s.sent[s.handled.length]? = some h.request := by
  simp [sent, hqueue]

theorem sent_of_handled {i : Nat} {h : Handled} (hh : s.handled[i]? = some h) :
    s.sent[i]? = some h.request := getElem?_handled s.toSwitch hh

theorem unread_handle (h : Handled) (rest : List Message) :
    (s.handle h rest).unread = s.unread ++
      if IsOf .multipartRequest h.request then h.answers.map (some s.handled.length, ·)
      else [] := by
  have hkind : ∀ reply ∈ h.answers.map (fun msg => (some s.handled.length, msg)),
      IsOf .multipartReply reply.2 = IsOf .multipartRequest h.request := by
    intro reply hreply
    rcases List.mem_map.mp hreply with ⟨msg, hmsg, rfl⟩
    exact Handled.answers_isOf hmsg
  rw [unread, handle, List.filter_append, unread]
  congr 1
  split
  · next hmulti =>
    exact List.filter_eq_self.mpr fun reply hreply => (hkind reply hreply).trans hmulti
  · next hmulti =>
    refine List.filter_eq_nil_iff.mpr fun reply hreply => ?_
    rwa [hkind reply hreply]

/-- A message that is read is no longer unread but taken. -/
theorem coming_await (d : Dump) {reply : Reply} {rest : List Reply}
    (entries : List FlowStatsEntry) (msgs : List Message) (hclient : s.toClient = reply :: rest) :
    (s.await (d.take reply entries) rest msgs).coming (d.take reply entries) = s.coming d := by
  simp only [coming, unread, await, Dump.take, hclient, List.append_assoc, ← List.filter_append,
    List.singleton_append]

theorem Stale.of_append {place : Nat} {xs ys : List Reply} (h : Stale place (xs ++ ys))
    (hne : xs ≠ []) : Stale place xs := by
  rcases h with ⟨i, msg, rest, heq, hlt⟩
  cases xs with
  | nil => exact absurd rfl hne
  | cons x xs =>
    cases heq
    exact ⟨i, msg, xs, rfl, hlt⟩

theorem Own.mono {s' : Channel} {entries : List FlowStatsEntry} {more : List Handled}
    (hown : s.Own d entries) (hhandled : s'.handled = s.handled ++ more) : s'.Own d entries := by
  rcases hown with ⟨h, hh, hrest⟩
  have hlt := (List.getElem?_eq_some_iff.mp hh).1
  exact ⟨h, by rwa [hhandled, List.getElem?_append_left hlt], hrest⟩

/-! ### A dump that waits -/

/-- A dump that begins is clear exactly when nothing but its own replies is to come. -/
theorem Inv.waiting_begin (hinv : s.Inv) (request : FlowStatsRequest) :
    ∀ d, (s.begin (s.conn.dumpFlowsFiltered request)).dump = some d →
      (s.begin (s.conn.dumpFlowsFiltered request)).Waiting d := by
  intro d hd
  obtain rfl := Option.some.inj hd
  have hsent : (s.begin (s.conn.dumpFlowsFiltered request)).sent =
      s.sent ++ [(s.conn.dumpFlowsFiltered request).1] := by
    simp [sent, begin]
  have hlen : s.handled.length ≤ s.sent.length := by simp [sent]
  -- a request that is still to be handled is in the queue
  have hqueue : ∀ i, s.handled.length ≤ i → i < s.sent.length →
      s.sent[i]? = s.toSwitch[i - s.handled.length]? := by
    intro i hi _
    rw [sent, List.getElem?_append_right (by simpa using hi), List.length_map]
  constructor
  case request =>
    refine ⟨(s.conn.dumpFlowsFiltered request).1, ?_, rfl, rfl⟩
    rw [hsent, List.getElem?_concat_length]
  case last =>
    intro i hi hasked
    have hlt := hasked.lt
    rw [hsent, List.length_append] at hlt
    exact Nat.lt_irrefl _ (Nat.lt_of_lt_of_le hlt hi)
  case entries => rfl
  case own =>
    intro hclear
    rcases of_decide_eq_true hclear with ⟨hunread, hasked⟩
    refine .inl ⟨hunread, hlen, fun i hi hlt ⟨msg, hmsg, hmulti⟩ => ?_⟩
    rw [hsent, List.getElem?_append_left hlt, hqueue i hi hlt] at hmsg
    have hnot := List.filter_eq_nil_iff.mp hasked msg (List.mem_of_getElem? hmsg)
    exact hnot hmulti
  case stale =>
    intro hclear
    have hnot : ¬ s.Clear := of_decide_eq_false hclear
    by_cases hunread : s.unread = []
    · right
      have hasked : s.toSwitch.filter (IsOf .multipartRequest) ≠ [] := fun h => hnot ⟨hunread, h⟩
      rcases List.exists_mem_of_ne_nil _ hasked with ⟨msg, hmem⟩
      rcases List.mem_filter.mp hmem with ⟨hmem, hmulti⟩
      rcases List.mem_iff_getElem?.mp hmem with ⟨k, hk⟩
      have hlt := (List.getElem?_eq_some_iff.mp hk).1
      have hplace : s.handled.length + k < s.sent.length := by
        simpa [sent] using hlt
      refine ⟨hunread, s.handled.length + k, Nat.le_add_right .., hplace, msg, ?_, hmulti⟩
      rw [hsent, List.getElem?_append_left hplace, hqueue _ (Nat.le_add_right ..) hplace,
        Nat.add_sub_cancel_left, hk]
    · left
      rcases List.exists_cons_of_ne_nil hunread with ⟨⟨origin, msg⟩, rest, hcons⟩
      rcases hinv.unread (origin, msg) (by rw [hcons]; exact List.mem_cons_self ..) with
        ⟨i, rfl, hlt⟩
      exact ⟨i, msg, rest, hcons, Nat.lt_of_lt_of_le hlt hlen⟩

theorem Waiting.await {reply : Reply} {rest : List Reply} {msgs : List Message}
    {entries : List FlowStatsEntry} (hw : s.Waiting d) (hclient : s.toClient = reply :: rest)
    (hmsgs : ∀ msg ∈ msgs, IsOf .multipartRequest msg = false)
    (hentries : entriesOf ((d.take reply entries).taken.map (·.2)) = .ok entries) :
    (s.await (d.take reply entries) rest msgs).Waiting (d.take reply entries) := by
  have hsent : (s.await (d.take reply entries) rest msgs).sent = s.sent ++ msgs := by
    simp [sent, Channel.await]
  have hasked := askedAt_append hsent hmsgs
  have hcoming := coming_await d entries msgs hclient
  constructor
  case request =>
    rcases hw.request with ⟨msg, hmsg, hrequest⟩
    have hlt := (List.getElem?_eq_some_iff.mp hmsg).1
    refine ⟨msg, ?_, hrequest⟩
    rw [hsent]
    exact (List.getElem?_append_left hlt).trans hmsg
  case last => exact fun i hi => (hasked i).not.mpr (hw.last i hi)
  case entries => exact hentries
  case own =>
    intro hclear
    rcases hw.own hclear with ⟨hnil, hle, hnone⟩ | ⟨h, hh, hown⟩
    · exact .inl ⟨hcoming.trans hnil, hle, fun i hi hlt => (hasked i).not.mpr (hnone i hi hlt)⟩
    · exact .inr ⟨h, hh, hcoming.trans hown⟩
  case stale =>
    intro hclear
    rcases hw.stale hclear with hstale | ⟨hnil, i, hi, hlt, hat⟩
    · left
      rw [hcoming]
      exact hstale
    · exact .inr ⟨hcoming.trans hnil, i, hi, hlt, (hasked i).mpr hat⟩

theorem coming_handle (d : Dump) (h : Handled) (rest : List Message) :
    (s.handle h rest).coming d = s.coming d ++
      if IsOf .multipartRequest h.request then h.answers.map (some s.handled.length, ·)
      else [] := by
  rw [coming, unread_handle, ← List.append_assoc]
  rfl

theorem handled_length (h : Handled) (rest : List Message) :
    (s.handle h rest).handled.length = s.handled.length + 1 := by
  simp [Channel.handle]

section Handle

variable {h : Handled} {rest : List Message}

theorem askedAt_handle (hqueue : s.toSwitch = h.request :: rest) (i : Nat) :
    (s.handle h rest).AskedAt i ↔ s.AskedAt i := by
  rw [AskedAt, AskedAt, sent_handle hqueue]

/-- What is handled is a multipart request exactly when there is one at its place. -/
theorem askedAt_handled (hqueue : s.toSwitch = h.request :: rest) :
    s.AskedAt s.handled.length ↔ IsOf .multipartRequest h.request = true := by
  have hhead := sent_handled hqueue
  constructor
  · rintro ⟨msg, hmsg, hmulti⟩
    obtain rfl := Option.some.inj (hhead.symm.trans hmsg)
    exact hmulti
  · intro hmulti
    exact ⟨h.request, hhead, hmulti⟩

theorem OwnComing.handle (hown : s.OwnComing d) (hqueue : s.toSwitch = h.request :: rest)
    (hself : s.AskedAt d.place) (hlast : ∀ i, d.place < i → ¬ s.AskedAt i) :
    (s.handle h rest).OwnComing d := by
  rcases hown with ⟨hnil, hle, hnone⟩ | ⟨own, hh, hown⟩
  · rcases Nat.eq_or_lt_of_le hle with heq | hlt
    · -- the request of the dump itself
      right
      rw [← heq, askedAt_handled hqueue] at hself
      refine ⟨h, ?_, ?_⟩
      · rw [← heq]
        exact List.getElem?_concat_length
      · rw [coming_handle, if_pos hself, hnil, List.nil_append, heq]
    · left
      have hother := (askedAt_handled hqueue).not.mp (hnone _ (Nat.le_refl _) hlt)
      refine ⟨?_, ?_, ?_⟩
      · rw [coming_handle, if_neg hother, hnil]
        rfl
      · rw [handled_length]
        exact hlt
      · intro i hi hplace
        rw [handled_length] at hi
        exact (askedAt_handle hqueue i).not.mpr (hnone i (Nat.le_of_succ_le hi) hplace)
  · right
    have hlt := (List.getElem?_eq_some_iff.mp hh).1
    have hother := (askedAt_handled hqueue).not.mp (hlast _ hlt)
    refine ⟨own, ?_, ?_⟩
    · exact (List.getElem?_append_left hlt).trans hh
    · rw [coming_handle, if_neg hother, hown, List.append_nil]

theorem StaleComing.handle (hstale : s.StaleComing d) (hqueue : s.toSwitch = h.request :: rest) :
    (s.handle h rest).StaleComing d := by
  rcases hstale with ⟨i, msg, more, hstale, hlt⟩ | ⟨hnil, i, hi, hlt, hat⟩
  · left
    rw [coming_handle, hstale]
    exact ⟨i, msg, _, rfl, hlt⟩
  · by_cases hself : IsOf .multipartRequest h.request = true
    · -- an earlier request is answered now
      left
      rcases List.exists_cons_of_ne_nil (Handled.answers_ne_nil hself) with ⟨msg, more, hcons⟩
      rw [coming_handle, if_pos hself, hnil, hcons]
      exact ⟨s.handled.length, msg, _, rfl, Nat.lt_of_le_of_lt hi hlt⟩
    · right
      have hne : s.handled.length ≠ i := by
        rintro rfl
        exact hself ((askedAt_handled hqueue).mp hat)
      refine ⟨?_, i, ?_, hlt, (askedAt_handle hqueue i).mpr hat⟩
      · rw [coming_handle, if_neg hself, hnil]
        rfl
      · rw [handled_length]
        exact Nat.lt_of_le_of_ne hi hne

theorem Waiting.handle (hw : s.Waiting d) (hqueue : s.toSwitch = h.request :: rest) :
    (s.handle h rest).Waiting d := by
  constructor
  case request =>
    rw [sent_handle hqueue]
    exact hw.request
  case last =>
    intro i hi
    exact (askedAt_handle hqueue i).not.mpr (hw.last i hi)
  case entries => exact hw.entries
  case own =>
    intro hclear
    rcases hw.request with ⟨msg, hmsg, hmulti, -⟩
    exact (hw.own hclear).handle hqueue ⟨msg, hmsg, hmulti⟩ hw.last
  case stale =>
    intro hclear
    exact (hw.stale hclear).handle hqueue

end Handle

section Done

variable {reply : Reply} {rest : List Reply} {entries : List FlowStatsEntry}

theorem taken_take (hreply : IsOf .multipartReply reply.2 = true) :
    (d.take reply entries).taken = d.taken ++ [reply] := by
  simp [Dump.take, hreply]

theorem coming_done (hclient : s.toClient = reply :: rest)
    (hreply : IsOf .multipartReply reply.2 = true) :
    s.coming d = (d.taken ++ [reply]) ++ rest.filter fun reply => IsOf .multipartReply reply.2 := by
  have hunread : s.unread = reply :: rest.filter fun reply => IsOf .multipartReply reply.2 := by
    simp [unread, hclient, hreply]
  rw [coming, hunread, List.append_cons]

/-- The reply without the "more" flag is the last one of the own series. -/
theorem Waiting.own_done (hw : s.Waiting d) (hclear : d.clear = true)
    (hclient : s.toClient = reply :: rest) (hreply : IsOf .multipartReply reply.2 = true)
    (hparse : parseFlowStatsReply reply.2.body = .ok (entries, false)) :
    s.Own (d.take reply (d.entries ++ entries)) (d.entries ++ entries) := by
  have hcoming := coming_done (d := d) hclient hreply
  rcases hw.own hclear with ⟨hnil, -, -⟩ | ⟨h, hh, hown⟩
  · rw [hcoming] at hnil
    simp at hnil
  · rcases hw.request with ⟨msg, hmsg, hmulti, hxid⟩
    obtain rfl := Option.some.inj ((sent_of_handled hh).symm.trans hmsg)
    have hanswers : h.answers = d.taken.map (·.2) ++ reply.2 ::
        (rest.filter fun reply => IsOf .multipartReply reply.2).map (·.2) := by
      have hmap := congrArg (List.map (·.2)) (hown.symm.trans hcoming)
      simpa [Function.comp_def] using hmap
    have hrest := Handled.last_answer hmulti hanswers (moreFlag_of_parse hparse)
    rw [hrest] at hanswers
    rw [List.map_eq_nil_iff.mp hrest, List.append_nil] at hcoming
    refine ⟨h, hh, hmulti, ?_, ?_, ?_⟩
    · intro msg hmsg
      exact (Handled.answers_xid hmsg).trans hxid
    · rw [taken_take hreply, ← hcoming, hown]
      rfl
    · rw [hanswers]
      exact entriesOf_concat hw.entries hparse

theorem StaleComing.done (hstale : s.StaleComing d) (hclient : s.toClient = reply :: rest)
    (hreply : IsOf .multipartReply reply.2 = true) :
    Stale d.place (d.take reply entries).taken := by
  have hcoming := coming_done (d := d) hclient hreply
  rw [taken_take hreply]
  rcases hstale with hstale | ⟨hnil, -⟩
  · rw [hcoming] at hstale
    refine Stale.of_append hstale ?_
    simp
  · rw [hcoming] at hnil
    simp at hnil

/-- What a dump has taken when it reads a reply without the "more" flag. -/
theorem Waiting.done (hw : s.Waiting d) (hclient : s.toClient = reply :: rest)
    (hreply : IsOf .multipartReply reply.2 = true)
    (hparse : parseFlowStatsReply reply.2.body = .ok (entries, false)) :
    (d.clear = true ∧ s.Own (d.take reply (d.entries ++ entries)) (d.entries ++ entries)) ∨
      (d.clear = false ∧ Stale d.place (d.take reply (d.entries ++ entries)).taken) := by
  cases hclear : d.clear with
  | true => exact .inl ⟨rfl, hw.own_done hclear hclient hreply hparse⟩
  | false => exact .inr ⟨rfl, (hw.stale hclear).done hclient hreply⟩

end Done

/-! ### Every state of a run -/

theorem Inv.start (conn : VConn) : Inv { conn := conn } where
  unread := fun _ h => absurd h List.not_mem_nil
  waiting := fun _ h => by cases h
  finished := fun _ h => absurd h List.not_mem_nil

theorem Inv.finished_mono {s' : Channel} {more : List Handled} (hinv : s.Inv)
    (hhandled : s'.handled = s.handled ++ more) :
    ∀ f ∈ s.log, ∀ entries, f.result = .ok entries →
      (f.dump.clear = true ∧ s'.Own f.dump entries) ∨
        (f.dump.clear = false ∧ Stale f.dump.place f.dump.taken) := by
  intro f hf entries hresult
  rcases hinv.finished f hf entries hresult with ⟨hclear, hown⟩ | hstale
  · exact .inl ⟨hclear, hown.mono hhandled⟩
  · exact .inr hstale

/-- What is left unread when a message has been read. -/
theorem Inv.unread_rest {reply : Reply} {rest : List Reply} (hinv : s.Inv)
    (hclient : s.toClient = reply :: rest) :
    ∀ reply ∈ rest.filter fun reply => IsOf .multipartReply reply.2,
      ∃ i, reply.1 = some i ∧ i < s.handled.length := by
  intro reply' hmem
  rcases List.mem_filter.mp hmem with ⟨hmem, hreply⟩
  refine hinv.unread reply' (List.mem_filter.mpr ⟨?_, hreply⟩)
  rw [hclient]
  exact List.mem_cons_of_mem _ hmem

theorem Inv.await {d' : Dump} {reply : Reply} {rest : List Reply} {msgs : List Message}
    (hinv : s.Inv) (hclient : s.toClient = reply :: rest)
    (hwaiting : (s.await d' rest msgs).Waiting d') : (s.await d' rest msgs).Inv where
  unread := hinv.unread_rest hclient
  waiting := by
    intro d hd
    obtain rfl := Option.some.inj hd
    exact hwaiting
  finished := hinv.finished_mono (List.append_nil _).symm

theorem Inv.finish {d' : Dump} {reply : Reply} {rest : List Reply}
    {result : Result (List FlowStatsEntry)} (hinv : s.Inv) (hclient : s.toClient = reply :: rest)
    (hresult : ∀ entries, result = .ok entries →
      (d'.clear = true ∧ s.Own d' entries) ∨ (d'.clear = false ∧ Stale d'.place d'.taken)) :
    (s.finish d' rest result).Inv where
  unread := hinv.unread_rest hclient
  waiting := fun _ h => by cases h
  finished := by
    intro f hf entries hok
    rcases List.mem_append.mp hf with hf | hf
    · exact hinv.finished f hf entries hok
    · obtain rfl := List.mem_singleton.mp hf
      exact hresult entries hok

theorem Inv.handle {h : Handled} {rest : List Message} (hinv : s.Inv)
    (hqueue : s.toSwitch = h.request :: rest) : (s.handle h rest).Inv where
  unread := by
    intro reply hmem
    rw [unread_handle] at hmem
    rw [handled_length]
    rcases List.mem_append.mp hmem with hmem | hmem
    · rcases hinv.unread reply hmem with ⟨i, hi, hlt⟩
      exact ⟨i, hi, Nat.lt_succ_of_lt hlt⟩
    · split at hmem
      · rcases List.mem_map.mp hmem with ⟨msg, -, rfl⟩
        exact ⟨_, rfl, Nat.lt_succ_self _⟩
      · cases hmem
  waiting := fun d hd => (hinv.waiting d hd).handle hqueue
  finished := hinv.finished_mono rfl

/-- **Every step keeps the invariant.** -/
theorem Inv.moves {s' : Channel} (hinv : s.Inv) (h : s.Moves s') : s'.Inv := by
  cases h with
  | sendFlow flow hidle =>
    refine ⟨hinv.unread, fun d hd => ?_, hinv.finished_mono (List.append_nil _).symm⟩
    exact absurd (hidle.symm.trans hd) nofun
  | begin request hidle =>
    exact ⟨hinv.unread, hinv.waiting_begin request, hinv.finished_mono (List.append_nil _).symm⟩
  | skip hdump hclient hskip hmsgs =>
    have hw := hinv.waiting _ hdump
    refine hinv.await hclient (hw.await hclient hmsgs ?_)
    simpa [Dump.take, hskip] using hw.entries
  | more hdump hclient hreply hparse =>
    have hw := hinv.waiting _ hdump
    refine hinv.await hclient (hw.await hclient (fun _ h => absurd h List.not_mem_nil) ?_)
    simpa [taken_take hreply] using entriesOf_concat hw.entries hparse
  | done hdump hclient hreply hparse =>
    refine hinv.finish hclient fun entries hok => ?_
    cases hok
    exact (hinv.waiting _ hdump).done hclient hreply hparse
  | fail hdump hclient hresult =>
    exact hinv.finish hclient fun entries hok => absurd hok (hresult entries)
  | handle hqueue => exact hinv.handle hqueue
  | @send msg hreply =>
    have hunread : (s.send msg).unread = s.unread := by
      simp [Channel.unread, Channel.send, hreply]
    refine ⟨?_, fun d hd => ?_, hinv.finished_mono (List.append_nil _).symm⟩
    · rw [hunread]
      exact hinv.unread
    · have hw := hinv.waiting d hd
      have hcoming : (s.send msg).coming d = s.coming d := by rw [coming, hunread, coming]
      refine ⟨hw.request, hw.last, hw.entries, fun hclear => ?_, fun hclear => ?_⟩
      · have hown := hw.own hclear
        rwa [OwnComing, ← hcoming] at hown
      · have hstale := hw.stale hclear
        rwa [StaleComing, ← hcoming] at hstale

theorem Inv.reachable {conn : VConn} (h : Reachable conn s) : s.Inv :=
  h.invariant (Inv.start conn) fun _ _ _ hinv hstep => hinv.moves (step_moves hstep)

/-- **A dump that returns has taken its own replies, and returns their entries, exactly when no
    other replies were left when it began.**  The transaction id of a reply is never looked at, so
    what an earlier request left in the stream is taken for an answer. -/
theorem dump_own_iff {conn : VConn} (h : Reachable conn s) {f : Finished} (hf : f ∈ s.log)
    {entries : List FlowStatsEntry} (hok : f.result = .ok entries) :
    s.Own f.dump entries ↔ f.dump.clear = true := by
  rcases (Inv.reachable h).finished f hf entries hok with ⟨hclear, hown⟩ | ⟨hclear, hstale⟩
  · exact iff_of_true hown hclear
  · rw [hclear]
    exact iff_of_false (fun hown => hown.not_stale hstale) nofun

end Channel

/-! ### A dump behind a dump that failed -/

/-- A connection after its handshake. -/
def handshaken : VConn := ⟨.of13, 2⟩

/-- A flow stats reply without entries. -/
def emptyReply : Bytes := (MultipartHeader.mk .flow 0).encode

/-- A flow stats reply with one entry: its length, its other fields and an empty match. -/
def entryReply : Bytes :=
  emptyReply ++ be (56 : U16) ++ zeros 46 ++ be MatchType.oxm.toU16 ++ be (4 : U16) ++ zeros 4

/-- A flow modification is rejected, so the dump behind it ends with an error, and the reply
    to its request is still to come when the next dump begins. -/
def failedRun : List Event :=
  [.sendFlow Flow.add, .dumpFlows, .handle (some ⟨5, 1, []⟩) (.single emptyReply rfl),
    .handle none (.single emptyReply rfl), .receive,
    .dumpFlows, .handle none (.single entryReply rfl), .receive]

/-- The same without the flow modification. -/
def clearRun : List Event :=
  [.dumpFlows, .handle none (.single emptyReply rfl), .receive,
    .dumpFlows, .handle none (.single entryReply rfl), .receive]

/-- The multipart replies of the switch with a transaction id. -/
def Channel.repliesWith (s : Channel) (xid : U32) : List Message :=
  (s.handled.flatMap Handled.answers).filter fun msg =>
    IsOf .multipartReply msg && msg.header.xid = xid

def multipartReply (xid : U32) (body : Bytes) : Message :=
  Message.new .of13 .multipartReply xid body

/-- The entry of `entryReply`. -/
def zeroEntry : FlowStatsEntry := ⟨0, 0, 0, 0, 0, 0, 0, 0, 0, 0, Match.new, []⟩

theorem exists_run {α : Type} (events : List Event) (observe : Channel → α) {x : α}
    (h : (events.foldlM Channel.step { conn := handshaken }).map observe = some x) :
    ∃ s, Reachable handshaken s ∧ observe s = x := by
  rcases Option.map_eq_some_iff.mp h with ⟨s, hrun, hx⟩
  exact ⟨s, Reaches.start.run hrun, hx⟩

theorem dump_own_iff_clear : ∃ s, Reachable handshaken s ∧ ∃ f ∈ s.log,
    f.result = .ok [zeroEntry] ∧ (s.Own f.dump [zeroEntry] ↔ f.dump.clear = true) := by
  rcases exists_run (x := some ⟨⟨1, 3, true, [(some 1, multipartReply 3 entryReply)],
    [] ++ [zeroEntry]⟩, .ok [zeroEntry]⟩) clearRun (fun s => s.log[1]?) rfl with ⟨s, hreach, hlog⟩
  have hmem := List.mem_of_getElem? hlog
  exact ⟨s, hreach, _, hmem, rfl, Channel.dump_own_iff hreach hmem rfl⟩

/-- The second dump returns the reply to the first one. -/
theorem failedDump_replies : ¬ ∀ s, Reachable handshaken s → ∀ f ∈ s.log, ∀ entries,
    f.result = .ok entries → entriesOf (s.repliesWith f.dump.xid) = .ok entries := by
  intro hall
  rcases exists_run (x := (some ⟨⟨2, 4, false, [(some 1, multipartReply 3 emptyReply)], []⟩,
    .ok []⟩, .ok [zeroEntry])) failedRun
    (fun s => (s.log[1]?, entriesOf (s.repliesWith 4))) rfl with ⟨s, hreach, hseen⟩
  rcases Prod.mk.inj hseen with ⟨hlog, hown⟩
  have hentries := hall s hreach _ (List.mem_of_getElem? hlog) [] rfl
  rw [hown] at hentries
  cases hentries

end Rovs.OpenFlow.FlowDump

import Rovs.FlowMonitor
import Rovs.FlowReplies

/-!
# The stream of a flow monitor

Two loops read from one stream: that of `monitor_flows`, which stops at the first reply
without the "more" flag, and that of `recv_flow_updates`, which stops at the first reply that
holds an update.  Each call takes whole messages, and a call that returns has passed over
nothing that held an update.  So the results of the calls, one after the other, are the
updates of the replies that have been read.

`monitor_delivers` is the main result.  A `MonitorStream` is any list of updates in any cut
into replies, so it has no hypothesis.
-/

namespace Rovs.OpenFlow

open Outcome

/-! ### Updates and replies on the wire -/

/-- An update with the OXM fields that its match is read from, or the notice of a change of
    the client's own. -/
inductive WireUpdate where
  | full (update : FlowUpdateFull) (oxmFields : Bytes)
      (reads : Match.decodeOxm oxmFields = .ok update.matchFields)
      (fits : flowUpdateFixedSize + oxmFields.length + update.actions.length < 65536)
  | abbrev_ (xid : U32)

namespace WireUpdate

def update : WireUpdate → FlowUpdate
  | .full update _ _ _ => .full update
  | .abbrev_ xid => .abbrev_ xid

def length : WireUpdate → Nat
  | .full update oxmFields _ _ => flowUpdateFixedSize + oxmFields.length + update.actions.length
  | .abbrev_ _ => 8

/-- The number of the event; three is a change of the client's own. -/
def eventCode : WireUpdate → U16
  | .full update _ _ _ => update.event.toU16
  | .abbrev_ _ => 3

/-- The bytes behind the length and the event. -/
def payload : WireUpdate → Bytes
  | .full update oxmFields _ _ =>
      be update.reason ++ (be update.priority ++ (be update.idleTimeout
        ++ (be update.hardTimeout ++ (be (BitVec.ofNat 16 oxmFields.length)
        ++ (be update.tableId ++ (zeros 1 ++ (be update.cookie
        ++ (oxmFields ++ update.actions))))))))
  | .abbrev_ xid => be xid

def encode (w : WireUpdate) : Bytes :=
  be (BitVec.ofNat 16 w.length) ++ (be w.eventCode ++ w.payload)

end WireUpdate

/-- A reply of a flow monitor; the first bit of the flags says that more follow. -/
structure MonitorReply where
  flags : U16
  updates : List WireUpdate
  fits : Header.size + (MultipartHeader.size + 8 + (updates.flatMap WireUpdate.encode).length)
    < 65536

def MonitorReply.header (r : MonitorReply) : Bytes :=
  (MultipartHeader.mk .experimenter r.flags).encode
    ++ (be niciraVendorId ++ be nxstFlowMonitor)

def MonitorReply.body (r : MonitorReply) : Bytes :=
  r.header ++ r.updates.flatMap WireUpdate.encode

theorem MonitorReply.header_length (r : MonitorReply) :
    r.header.length = MultipartHeader.size + 8 := by
  simp [header, MultipartHeader.encode_length]

def monitorReplies : ReplyFormat MonitorReply FlowUpdate where
  body := MonitorReply.body
  items r := r.updates.map WireUpdate.update
  hasMore r := (MultipartHeader.mk .experimenter r.flags).hasMore
  fits r := by
    rw [MonitorReply.body, List.length_append, r.header_length]
    exact r.fits

/-! ### Reading an update -/

theorem FlowUpdateEvent.ofU16_toU16 (event : FlowUpdateEvent) :
    FlowUpdateEvent.ofU16 event.toU16 = .ok event := by
  cases event <;> rfl

namespace WireUpdate

theorem length_lt (w : WireUpdate) : w.length < 65536 := by
  cases w with
  | full update oxmFields reads fits => exact fits
  | abbrev_ xid => exact (by decide : 8 < 65536)

theorem encode_length (w : WireUpdate) : w.encode.length = w.length := by
  cases w with
  | full update oxmFields reads fits =>
    simp [encode, payload, length, flowUpdateFixedSize]
    omega
  | abbrev_ xid => simp [encode, payload, length]

theorem eight_le_length (w : WireUpdate) : 8 ≤ w.length := by
  cases w with
  | full update oxmFields reads fits =>
    rw [length, flowUpdateFixedSize]
    omega
  | abbrev_ xid => exact Nat.le_refl 8

section Full

variable (update : FlowUpdateFull) (oxmFields : Bytes)
  (reads : Match.decodeOxm oxmFields = .ok update.matchFields)
  (fits : flowUpdateFixedSize + oxmFields.length + update.actions.length < 65536)

/-- The bytes of a full update before its match. -/
def fixed (length : Nat) : Bytes :=
  be (BitVec.ofNat 16 length) ++ (be update.event.toU16 ++ (be update.reason
    ++ (be update.priority ++ (be update.idleTimeout ++ (be update.hardTimeout
    ++ (be (BitVec.ofNat 16 oxmFields.length) ++ (be update.tableId ++ (zeros 1
    ++ be update.cookie))))))))

theorem fixed_length (length : Nat) :
    (fixed update oxmFields length).length = flowUpdateFixedSize := by
  simp [fixed, flowUpdateFixedSize]

theorem encode_full : (WireUpdate.full update oxmFields reads fits).encode =
    fixed update oxmFields (flowUpdateFixedSize + oxmFields.length + update.actions.length)
      ++ (oxmFields ++ update.actions) := by
  simp [encode, payload, eventCode, length, fixed, List.append_assoc]

/-- The words before the match. -/
theorem fixed_words (length : Nat) (tail : Bytes) :
    beAt (E := Error) 16 (fixed update oxmFields length ++ tail) 0 =
        .ok (BitVec.ofNat 16 length) ∧
      beAt (E := Error) 16 (fixed update oxmFields length ++ tail) 4 = .ok update.reason ∧
      beAt (E := Error) 16 (fixed update oxmFields length ++ tail) 6 = .ok update.priority ∧
      beAt (E := Error) 16 (fixed update oxmFields length ++ tail) 8 = .ok update.idleTimeout ∧
      beAt (E := Error) 16 (fixed update oxmFields length ++ tail) 10 = .ok update.hardTimeout ∧
      beAt (E := Error) 16 (fixed update oxmFields length ++ tail) 12 =
        .ok (BitVec.ofNat 16 oxmFields.length) ∧
      beAt (E := Error) 8 (fixed update oxmFields length ++ tail) 14 = .ok update.tableId ∧
      beAt (E := Error) 64 (fixed update oxmFields length ++ tail) 16 = .ok update.cookie := by
  simp [fixed, List.append_assoc, beAt_append_right]

theorem parseFlowUpdateFull_fixed (reads : Match.decodeOxm oxmFields = .ok update.matchFields)
    {length : Nat}
    (hlength : flowUpdateFixedSize + oxmFields.length + update.actions.length = length)
    (fits : length < 65536) :
    parseFlowUpdateFull (fixed update oxmFields length ++ (oxmFields ++ update.actions))
      update.event.toU16 = .ok (.full update) := by
  have hfixed := fixed_length update oxmFields length
  have hoxm : slice (E := Error) (fixed update oxmFields length ++ (oxmFields ++ update.actions))
      flowUpdateFixedSize (flowUpdateFixedSize + oxmFields.length) = .ok oxmFields :=
    slice_middle hfixed.symm (by rw [hfixed])
  have hactions : slice (E := Error)
      (fixed update oxmFields length ++ (oxmFields ++ update.actions))
      (flowUpdateFixedSize + oxmFields.length) length = .ok update.actions := by
    rw [← List.append_assoc]
    apply slice_suffix
    · rw [List.length_append, hfixed]
    · rw [List.length_append, hfixed, hlength]
  have hlong : ¬ (fixed update oxmFields length ++ (oxmFields ++ update.actions)).length <
      flowUpdateFixedSize := by
    rw [List.length_append, hfixed]
    omega
  have hentryLen : (BitVec.ofNat 16 length).toNat = length := by
    rw [BitVec.toNat_ofNat]
    exact Nat.mod_eq_of_lt fits
  have hmatchLen : (BitVec.ofNat 16 oxmFields.length).toNat = oxmFields.length := by
    rw [BitVec.toNat_ofNat]
    exact Nat.mod_eq_of_lt (by omega)
  obtain ⟨h0, h4, h6, h8, h10, h12, h14, h16⟩ :=
    fixed_words update oxmFields length (oxmFields ++ update.actions)
  rw [parseFlowUpdateFull, if_neg hlong, h0, ok_bind, FlowUpdateEvent.ofU16_toU16, ok_bind, h4,
    ok_bind, h6, ok_bind, h8, ok_bind, h10, ok_bind, h12, ok_bind, h14, ok_bind, h16, ok_bind]
  dsimp only
  rw [hentryLen, hmatchLen, if_neg (by omega), hoxm, ok_bind, reads, ok_bind]
  split
  · rw [hactions, ok_bind]
    rfl
  · next hnone =>
    have hempty : update.actions = [] := List.eq_nil_of_length_eq_zero (by omega)
    rw [pure_eq, ok_bind, ← hempty]
    rfl

end Full

theorem parse_encode (w : WireUpdate) (rest : Bytes) :
    parseFlowUpdate (w.encode ++ rest) w.length w.eventCode = .ok w.update := by
  have hslice : slice (E := Error) (w.encode ++ rest) 0 w.length = .ok w.encode := by
    rw [← w.encode_length, ← List.nil_append (w.encode ++ rest)]
    exact slice_middle rfl (Nat.zero_add _).symm
  cases w with
  | full update oxmFields reads fits =>
    have hevent : update.event.toU16 ≠ 3 := by
      cases update.event <;> decide
    rw [parseFlowUpdate, eventCode, if_neg hevent, hslice, ok_bind, encode_full,
      parseFlowUpdateFull_fixed update oxmFields reads rfl fits]
    rfl
  | abbrev_ xid =>
    simp [parseFlowUpdate, eventCode, length, encode, payload, beAt_append_right, update]

end WireUpdate

/-! ### Reading a reply -/

theorem flowMonitorPass_wire (w : WireUpdate) (rest : Bytes) (updates : List FlowUpdate) :
    flowMonitorPass (updates, w.encode ++ rest) = .ok (.again (updates ++ [w.update], rest)) := by
  have h8 := w.eight_le_length
  have hlen : (w.encode ++ rest).length = w.length + rest.length := by
    rw [List.length_append, w.encode_length]
  have hentryLen : beAt (E := Error) 16 (w.encode ++ rest) 0 =
      .ok (BitVec.ofNat 16 w.length) := by
    simp [WireUpdate.encode, List.append_assoc]
  have heventCode : beAt (E := Error) 16 (w.encode ++ rest) 2 = .ok w.eventCode := by
    simp [WireUpdate.encode, List.append_assoc, beAt_append_right]
  have htoNat : (BitVec.ofNat 16 w.length).toNat = w.length := by
    rw [BitVec.toNat_ofNat]
    exact Nat.mod_eq_of_lt w.length_lt
  rw [flowMonitorPass, if_pos (by omega), hentryLen, ok_bind, heventCode, ok_bind, htoNat,
    if_neg (by omega), w.parse_encode, ok_bind, ← w.encode_length, List.drop_left]
  rfl

theorem flowMonitor_loop_wire (ws : List WireUpdate) (updates : List FlowUpdate) {fuel : Nat}
    (hfuel : (ws.flatMap WireUpdate.encode).length < fuel) :
    loop flowMonitorPass fuel (updates, ws.flatMap WireUpdate.encode) =
      .ok (updates ++ ws.map WireUpdate.update) := by
  refine loop_flatMap (fun w _ => ?_) (fun w _ => flowMonitorPass_wire w) (fun _ => rfl) hfuel
    updates
  have h8 := w.eight_le_length
  rw [w.encode_length]
  omega

/-- The headers of a flow monitor reply. -/
structure IsFlowMonitorReply (body : Bytes) : Prop where
  size : MultipartHeader.size + 8 ≤ body.length
  type : wordAt 16 body 0 = MultipartType.experimenter.toU16
  vendor : wordAt 32 body MultipartHeader.size = niciraVendorId
  subtype : wordAt 32 body (MultipartHeader.size + 4) = nxstFlowMonitor

/-- The updates of a reply are what the loop makes of the bytes behind the headers; every other
    body is refused. -/
theorem parseFlowMonitorReply_cases (body : Bytes) :
    (IsFlowMonitorReply body ∧ parseFlowMonitorReply body = (do
      let updates ← loop flowMonitorPass (body.length + 1)
        ([], body.drop (MultipartHeader.size + 8))
      pure (updates, (MultipartHeader.mk .experimenter (wordAt 16 body 2)).hasMore))) ∨
    (¬ IsFlowMonitorReply body ∧ ∃ e, parseFlowMonitorReply body = .err e) := by
  by_cases hsize : MultipartHeader.size + 8 ≤ body.length
  · have h16 : 8 + 8 ≤ body.length := hsize
    have hheader : ¬ body.length < MultipartHeader.size := Nat.not_lt.mpr (by omega)
    have hvendorAt : beAt (E := Error) 32 body MultipartHeader.size =
        .ok (wordAt 32 body MultipartHeader.size) := beAt_eq_ok (by omega)
    have hsubtypeAt : beAt (E := Error) 32 body (MultipartHeader.size + 4) =
        .ok (wordAt 32 body (MultipartHeader.size + 4)) := beAt_eq_ok (by omega)
    rw [parseFlowMonitorReply, if_neg (Nat.not_lt.mpr hsize), MultipartHeader.decode,
      if_neg hheader, beAt_eq_ok (by omega), ok_bind, beAt_eq_ok (by omega), ok_bind]
    rcases MultipartType.typeWords.known_or_err (wordAt 16 body 0) with ⟨t, hread, ht⟩ | ⟨e, he⟩
    · rw [hread, ok_bind, pure_eq, ok_bind]
      by_cases htype : t = .experimenter
      · subst htype
        rw [if_neg (not_not_intro rfl), hvendorAt, ok_bind, hsubtypeAt, ok_bind]
        by_cases hvendor : wordAt 32 body MultipartHeader.size = niciraVendorId
        · rw [if_neg (not_not_intro hvendor)]
          by_cases hsubtype : wordAt 32 body (MultipartHeader.size + 4) = nxstFlowMonitor
          · rw [if_neg (not_not_intro hsubtype)]
            exact .inl ⟨⟨hsize, ht, hvendor, hsubtype⟩, rfl⟩
          · rw [if_pos hsubtype]
            exact .inr ⟨fun h => hsubtype h.subtype, _, rfl⟩
        · rw [if_pos hvendor]
          exact .inr ⟨fun h => hvendor h.vendor, _, rfl⟩
      · rw [if_pos htype]
        refine .inr ⟨fun h => htype ?_, _, rfl⟩
        exact MultipartType.typeWords.injective (ht.symm.trans h.type)
    · rw [he]
      refine .inr ⟨fun h => ?_, e, rfl⟩
      rw [h.type, MultipartType.typeWords.read] at he
      cases he
  · rw [parseFlowMonitorReply, if_pos (Nat.not_le.mp hsize)]
    exact .inr ⟨fun h => hsize h.size, _, rfl⟩

theorem parseFlowMonitorReply_headed {body : Bytes} (h : IsFlowMonitorReply body) :
    parseFlowMonitorReply body = (do
      let updates ← loop flowMonitorPass (body.length + 1)
        ([], body.drop (MultipartHeader.size + 8))
      pure (updates, (MultipartHeader.mk .experimenter (wordAt 16 body 2)).hasMore)) := by
  rcases parseFlowMonitorReply_cases body with ⟨-, heq⟩ | ⟨hnot, -⟩
  · exact heq
  · exact absurd h hnot

theorem monitorReplies_readBy : monitorReplies.ReadBy parseFlowMonitorReply := by
  intro r
  change parseFlowMonitorReply r.body = _
  have hlen : r.body.length =
      MultipartHeader.size + 8 + (r.updates.flatMap WireUpdate.encode).length := by
    rw [MonitorReply.body, List.length_append, r.header_length]
  have hreply : IsFlowMonitorReply r.body := by
    constructor
    case size => omega
    case type =>
      simp [MonitorReply.body, MonitorReply.header, MultipartHeader.encode, List.append_assoc]
    case vendor =>
      simp [MonitorReply.body, MonitorReply.header, MultipartHeader.encode, List.append_assoc,
        wordAt_append_right, MultipartHeader.size]
    case subtype =>
      simp [MonitorReply.body, MonitorReply.header, MultipartHeader.encode, List.append_assoc,
        wordAt_append_right, MultipartHeader.size]
  have hflags : wordAt 16 r.body 2 = r.flags := by
    simp [MonitorReply.body, MonitorReply.header, MultipartHeader.encode, List.append_assoc,
      wordAt_append_right]
  have hdrop : r.body.drop (MultipartHeader.size + 8) = r.updates.flatMap WireUpdate.encode := by
    rw [MonitorReply.body, ← r.header_length, List.drop_left]
  rw [parseFlowMonitorReply_headed hreply, hdrop, flowMonitor_loop_wire _ _ (by omega), hflags]
  rfl

/-! ### The next batch -/

section Batch

open SwitchLink

variable (conn : VConn) {arrivals : List (Arrival MonitorReply)} (rest : Bytes)

theorem Message.PassedOver.awaitUpdates {msg : Message} (h : msg.PassedOver) :
    conn.awaitUpdates () msg = .ok (.again ((), keepAlive conn msg)) := by
  rw [VConn.awaitUpdates, checkError_of_ne h.ne_error, ok_bind, keepAlive]
  split
  · rfl
  · rw [if_neg h.ne_reply]
    rfl

theorem awaitUpdates_reply (version : Version) (xid : U32) (r : MonitorReply) :
    conn.awaitUpdates () (monitorReplies.message (.reply version xid r)) =
      .ok (if (monitorReplies.items r).isEmpty then .again ((), [])
        else .leave (monitorReplies.items r)) := by
  have hparse := monitorReplies_readBy r
  have htype := Message.new_msgType version .multipartReply xid (monitorReplies.body r)
  have hne_error : MessageType.multipartReply ≠ .error := by simp
  rw [ReplyFormat.message, VConn.awaitUpdates, checkError_of_ne hne_error, ok_bind, htype,
    if_neg (by simp), if_pos rfl, Message.new_body, hparse, ok_bind]
  dsimp only
  split <;> rfl

/-- Replies without an update are passed over like other messages. -/
theorem recvFlowUpdates_empty (hempty : monitorReplies.contents arrivals = [])
    (sent : List Message) :
    recvFlowUpdates ⟨conn, wire (monitorReplies.messages arrivals) ++ rest, sent⟩ =
      recvFlowUpdates ⟨conn, rest, sent ++ monitorReplies.answers conn arrivals⟩ := by
  apply awaitReply_skips
  · intro msg hmsg
    rcases List.mem_map.mp hmsg with ⟨arrival, -, rfl⟩
    exact monitorReplies.message_framed arrival
  · intro msg hmsg
    rcases List.mem_map.mp hmsg with ⟨arrival, harrival, rfl⟩
    cases arrival with
    | reply version xid r =>
      have hnone : monitorReplies.items r = [] :=
        List.flatMap_eq_nil_iff.mp hempty r (mem_replies harrival)
      rw [awaitUpdates_reply, hnone]
      rfl
    | other msg h => exact h.awaitUpdates conn

/-- The first reply with an update is the next batch. -/
theorem recvFlowUpdates_next (hempty : monitorReplies.contents arrivals = [])
    (version : Version) (xid : U32) {r : MonitorReply} (hitems : monitorReplies.items r ≠ [])
    (later : List (Arrival MonitorReply)) (sent : List Message) :
    recvFlowUpdates
        ⟨conn, wire (monitorReplies.messages (arrivals ++ .reply version xid r :: later)), sent⟩ =
      (.ok (monitorReplies.items r), ⟨conn, wire (monitorReplies.messages later),
        sent ++ monitorReplies.answers conn arrivals⟩) := by
  have hpass := awaitUpdates_reply conn version xid r
  rw [if_neg (by simpa using hitems)] at hpass
  rw [ReplyFormat.messages, List.map_append, wire_append]
  refine (recvFlowUpdates_empty conn _ hempty sent).trans ?_
  exact awaitReply_leave (monitorReplies.message_framed _) hpass

/-- Without another message the call waits. -/
theorem recvFlowUpdates_waits (sent : List Message) :
    recvFlowUpdates ⟨conn, [], sent⟩ = (.hang, ⟨conn, [], sent⟩) := rfl

/-- Up to the first reply with an update, or to the end. -/
theorem contents_split (arrivals : List (Arrival MonitorReply)) :
    monitorReplies.contents arrivals = [] ∨ ∃ quiet version xid r later,
      arrivals = quiet ++ .reply version xid r :: later ∧
        monitorReplies.contents quiet = [] ∧ monitorReplies.items r ≠ [] := by
  induction arrivals with
  | nil => exact .inl rfl
  | cons arrival arrivals ih =>
    -- what comes before the first update is one arrival longer
    have hcons : monitorReplies.contents [arrival] = [] →
        monitorReplies.contents (arrival :: arrivals) = [] ∨ ∃ quiet version xid r later,
          arrival :: arrivals = quiet ++ .reply version xid r :: later ∧
            monitorReplies.contents quiet = [] ∧ monitorReplies.items r ≠ [] := by
      intro hnone
      have hfront := fun more => monitorReplies.contents_append [arrival] more
      rcases ih with hempty | ⟨quiet, version, xid, r, later, rfl, hempty, hitems⟩
      · refine .inl ?_
        rw [← List.singleton_append, hfront, hnone, hempty]
        rfl
      · refine .inr ⟨arrival :: quiet, version, xid, r, later, rfl, ?_, hitems⟩
        rw [← List.singleton_append, hfront, hnone, hempty]
        rfl
    cases arrival with
    | reply version xid r =>
      by_cases hitems : monitorReplies.items r = []
      · apply hcons
        rw [monitorReplies.contents_reply, hitems]
        rfl
      · exact .inr ⟨[], version, xid, r, arrivals, rfl, rfl, hitems⟩
    | other msg h => exact hcons rfl

end Batch

/-! ### All batches -/

namespace SwitchLink

/-- The results of calls of `recv_flow_updates`, up to the first one that does not return. -/
def batches : Nat → SwitchLink → List (List FlowUpdate) × SwitchLink
  | 0, link => ([], link)
  | n + 1, link =>
    match recvFlowUpdates link with
    | (.ok updates, link) => (updates :: (batches n link).1, (batches n link).2)
    | (_, link) => ([], link)

end SwitchLink

open SwitchLink

/-- What a client of a monitor has seen of the arrivals: the batches are the updates of the
    replies that have been read, in their order; none is empty; and calls are only left waiting
    when there is nothing more to read. -/
structure Delivered (conn : VConn) (arrivals : List (Arrival MonitorReply)) (calls : Nat)
    (sent : List Message) (seen : List (List FlowUpdate) × SwitchLink) : Prop where
  consumed : ∃ consumed unread, arrivals = consumed ++ unread ∧
    seen.1.flatten = monitorReplies.contents consumed ∧
    seen.2 = ⟨conn, wire (monitorReplies.messages unread),
      sent ++ monitorReplies.answers conn consumed⟩ ∧
    (seen.1.length = calls ∨ unread = [])
  nonempty : ∀ batch ∈ seen.1, batch ≠ []

theorem batches_delivered (conn : VConn) (calls : Nat) (arrivals : List (Arrival MonitorReply))
    (sent : List Message) : Delivered conn arrivals calls sent
      (batches calls ⟨conn, wire (monitorReplies.messages arrivals), sent⟩) := by
  induction calls generalizing arrivals sent with
  | zero =>
    refine ⟨⟨[], arrivals, rfl, rfl, ?_, .inl rfl⟩, fun batch hbatch => absurd hbatch
      List.not_mem_nil⟩
    rw [ReplyFormat.answers_nil, List.append_nil]
    rfl
  | succ calls ih =>
    rcases contents_split arrivals with
      hempty | ⟨quiet, version, xid, r, later, rfl, hempty, hitems⟩
    · have hrecv := (recvFlowUpdates_empty conn [] hempty sent).trans (recvFlowUpdates_waits conn _)
      rw [List.append_nil] at hrecv
      rw [batches, hrecv]
      exact ⟨⟨arrivals, [], (List.append_nil _).symm, hempty.symm, rfl, .inr rfl⟩,
        fun batch hbatch => absurd hbatch List.not_mem_nil⟩
    · have hrecv := recvFlowUpdates_next conn hempty version xid hitems later sent
      obtain ⟨⟨consumed, unread, hsplit, hflatten, hlink, hcalls⟩, hnonempty⟩ :=
        ih later (sent ++ monitorReplies.answers conn quiet)
      rw [batches, hrecv]
      refine ⟨⟨quiet ++ .reply version xid r :: consumed, unread, ?_, ?_, ?_, ?_⟩, ?_⟩
      · rw [hsplit, List.append_assoc, List.cons_append]
      · rw [List.flatten_cons, hflatten, monitorReplies.contents_append, hempty, List.nil_append,
          monitorReplies.contents_reply]
      · rw [hlink, monitorReplies.answers_append, monitorReplies.answers_reply, List.append_assoc]
      · exact hcalls.imp (congrArg (· + 1)) id
      · exact List.forall_mem_cons.mpr ⟨hitems, hnonempty⟩

/-! ### The whole stream -/

/-- The stream of a monitor: a series of which all but the last reply have the "more" flag, and
    then any replies, between other messages. -/
structure MonitorStream where
  front : List (Arrival MonitorReply)
  version : Version
  xid : U32
  last : MonitorReply
  later : List (Arrival MonitorReply)
  more : ∀ r ∈ replies front, monitorReplies.hasMore r = true
  done : monitorReplies.hasMore last = false

namespace MonitorStream

def initial (stream : MonitorStream) : List (Arrival MonitorReply) :=
  stream.front ++ [.reply stream.version stream.xid stream.last]

def arrivals (stream : MonitorStream) : List (Arrival MonitorReply) :=
  stream.initial ++ stream.later

end MonitorStream

/-- The result of `monitor_flows` is what the first series holds. -/
theorem monitorFlows_initial (request : FlowMonitorRequest) (stream : MonitorStream)
    (conn : VConn) (sent : List Message) :
    monitorFlows request ⟨conn, wire (monitorReplies.messages stream.arrivals), sent⟩ =
      (.ok (monitorReplies.contents stream.initial),
        ⟨conn.nextXid.2, wire (monitorReplies.messages stream.later),
          sent ++ [request.message conn.version conn.xid]
            ++ monitorReplies.answers conn stream.initial⟩) := by
  have hrequest : conn.monitorFlows request =
      .ok (request.message conn.version conn.xid, conn.nextXid.2) := by
    rw [VConn.monitorFlows, VConn.nextXid, request.toMessage_ok]
    rfl
  have hwire : wire (monitorReplies.messages stream.arrivals) =
      wire (monitorReplies.messages stream.initial) ++
        wire (monitorReplies.messages stream.later) := by
    rw [MonitorStream.arrivals, ReplyFormat.messages, List.map_append, wire_append]
    rfl
  rw [hwire]
  refine (Program.bind_ok (congrArg (·, _) hrequest)).trans ?_
  exact awaitSeries_done monitorReplies_readBy conn.nextXid.2
    (wire (monitorReplies.messages stream.later)) stream.more stream.version stream.xid stream.done
    [] (sent ++ [request.message conn.version conn.xid])

/-- **The results of `monitor_flows` and of any number of calls of `recv_flow_updates` are the
    updates of the replies read so far, in their order, each once; no batch is empty.**  The first
    series is what `monitor_flows` returns, and besides the request only the answers to the echo
    requests among the messages read so far are written. -/
theorem monitor_delivers (request : FlowMonitorRequest) (stream : MonitorStream) (conn : VConn)
    (sent : List Message) (calls : Nat) :
    ∃ initial link, monitorFlows request
        ⟨conn, wire (monitorReplies.messages stream.arrivals), sent⟩ = (.ok initial, link) ∧
      initial = monitorReplies.contents stream.initial ∧
      ∃ later unread, stream.later = later ++ unread ∧
        initial ++ (batches calls link).1.flatten =
          monitorReplies.contents (stream.initial ++ later) ∧
        (batches calls link).2.inbound = wire (monitorReplies.messages unread) ∧
        (batches calls link).2.sent = sent ++ [request.message conn.version conn.xid] ++
          monitorReplies.answers conn (stream.initial ++ later) ∧
        ((batches calls link).1.length = calls ∨ unread = []) ∧
        ∀ batch ∈ (batches calls link).1, batch ≠ [] := by
  refine ⟨_, _, monitorFlows_initial request stream conn sent, rfl, ?_⟩
  obtain ⟨⟨later, unread, hsplit, hflatten, hlink, hcalls⟩, hnonempty⟩ :=
    batches_delivered conn.nextXid.2 calls stream.later
      (sent ++ [request.message conn.version conn.xid]
        ++ monitorReplies.answers conn stream.initial)
  refine ⟨later, unread, hsplit, ?_, ?_, ?_, hcalls, hnonempty⟩
  · rw [hflatten, monitorReplies.contents_append]
  · rw [hlink]
  · rw [hlink, monitorReplies.answers_append, ← List.append_assoc]
    rfl

/-! ### A stream of three replies -/

/-- `in_port` is 1. -/
def portOneFields : Bytes := be (0x80000004 : U32) ++ be (1 : U32)

def portOneUpdate : FlowUpdateFull where
  event := .added
  reason := 0
  priority := 100
  idleTimeout := 0
  hardTimeout := 0
  tableId := 0
  cookie := 7
  matchFields := { Match.new with inPort := some 1 }
  actions := []

theorem portOneFields_reads : Match.decodeOxm portOneFields = .ok portOneUpdate.matchFields := rfl

theorem portOneUpdate_fits :
    flowUpdateFixedSize + portOneFields.length + portOneUpdate.actions.length < 65536 := by
  decide

def wirePortOne : WireUpdate :=
  .full portOneUpdate portOneFields portOneFields_reads portOneUpdate_fits

theorem wirePortOne_fits : Header.size + (MultipartHeader.size + 8 +
    ([wirePortOne].flatMap WireUpdate.encode).length) < 65536 := by decide

theorem abbreviated_fits : Header.size + (MultipartHeader.size + 8 +
    ([WireUpdate.abbrev_ 9].flatMap WireUpdate.encode).length) < 65536 := by decide

theorem noUpdate_fits : Header.size + (MultipartHeader.size + 8 +
    (([] : List WireUpdate).flatMap WireUpdate.encode).length) < 65536 := by decide

/-- An echo request of the switch, between two replies. -/
def echoBetween : Message := Message.new .of13 .echoRequest 5 [1, 2]

theorem echoBetween_passedOver : echoBetween.PassedOver where
  framed := by decide
  ne_error := by decide
  ne_reply := by decide

theorem threeReplies_more : ∀ r ∈ replies
    [.reply .of13 2 ⟨1, [wirePortOne], wirePortOne_fits⟩,
      .other echoBetween echoBetween_passedOver],
    monitorReplies.hasMore r = true := by
  intro r hr
  rw [List.mem_singleton.mp hr]
  decide

theorem threeReplies_done : monitorReplies.hasMore ⟨0, [], noUpdate_fits⟩ = false := by decide

/-- A flow of port 1 in the first of two replies, and later a change of the client's own. -/
def threeReplies : MonitorStream where
  front := [.reply .of13 2 ⟨1, [wirePortOne], wirePortOne_fits⟩,
    .other echoBetween echoBetween_passedOver]
  version := .of13
  xid := 2
  last := ⟨0, [], noUpdate_fits⟩
  later := [.reply .of13 2 ⟨0, [.abbrev_ 9], abbreviated_fits⟩]
  more := threeReplies_more
  done := threeReplies_done

theorem monitor_delivers_threeReplies : ∃ link,
    monitorFlows ⟨1, 0, 0xffff, 0xff, Match.new⟩
        ⟨⟨.of13, 2⟩, wire (monitorReplies.messages threeReplies.arrivals), []⟩ =
      (.ok [.full portOneUpdate], link) ∧
    ∃ later unread, threeReplies.later = later ++ unread ∧
      [.full portOneUpdate] ++ (batches 1 link).1.flatten =
        monitorReplies.contents (threeReplies.initial ++ later) := by
  obtain ⟨initial, link, hmonitor, rfl, later, unread, hsplit, hcontents, -⟩ :=
    monitor_delivers ⟨1, 0, 0xffff, 0xff, Match.new⟩ threeReplies ⟨.of13, 2⟩ [] 1
  exact ⟨link, hmonitor, later, unread, hsplit, hcontents⟩

end Rovs.OpenFlow

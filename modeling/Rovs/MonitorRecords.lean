import Rovs.MonitorStream
import Rovs.StatsRecords

/-!
# Flow monitor replies on arbitrary bytes and as they are documented

An update gives its own length and the length of its match.  The loop takes an
entry only when all of it is there, and the parser of a full update compares its
match with the entry, so no read is out of bounds on any bytes.  On updates that
are written as the comment above `parse_flow_update_full` lays them out, none of
these checks fires early, and every update is read back.

Both are `flowMonitorReply_parsed`.
-/

namespace Rovs.OpenFlow

open Outcome

/-! ### One full update on arbitrary bytes -/

/-- The update whose fixed fields are read from `data`. -/
def FlowUpdateFull.ofFixed (data : Bytes) (event : FlowUpdateEvent) (matchFields : Match)
    (actions : Bytes) : FlowUpdateFull where
  event := event
  reason := wordAt 16 data 4
  priority := wordAt 16 data 6
  idleTimeout := wordAt 16 data 8
  hardTimeout := wordAt 16 data 10
  tableId := wordAt 8 data 14
  cookie := wordAt 64 data 16
  matchFields := matchFields
  actions := actions

/-- Where the match of a full update ends. -/
def matchEnd (data : Bytes) : Nat := flowUpdateFixedSize + (wordAt 16 data 12).toNat

section Entry

variable {data : Bytes}

/-- What is behind the match is the actions, also when it is nothing. -/
theorem slice_actions {start : Nat} (h : start ≤ data.length) :
    (if start < data.length then slice data start data.length else pure [] : Result Bytes) =
      .ok (data.drop start) := by
  split
  · rw [slice_eq ⟨h, Nat.le_refl _⟩, List.take_length]
  · next hend => rw [List.drop_eq_nil_of_le (Nat.not_lt.mp hend), pure_eq]

/-- On an entry that has its own length, the parser reads the fixed fields, the match, and
    everything behind the match as the actions. -/
theorem parseFlowUpdateFull_eq (hfixed : flowUpdateFixedSize ≤ data.length)
    (hlength : entryLength data = data.length) (eventCode : U16) :
    parseFlowUpdateFull data eventCode = (do
      let event ← FlowUpdateEvent.ofU16 eventCode
      if matchEnd data > data.length then parseError "flow update match truncated"
      else do
        let matchFields ← Match.decodeOxm ((data.take (matchEnd data)).drop flowUpdateFixedSize)
        pure (.full (FlowUpdateFull.ofFixed data event matchFields
          (data.drop (matchEnd data))))) := by
  have h24 : 24 ≤ data.length := hfixed
  have hentry : (wordAt 16 data 0).toNat = data.length := hlength
  rw [parseFlowUpdateFull, if_neg (Nat.not_lt.mpr hfixed)]
  simp (disch := omega) only [beAt_eq_ok, ok_bind, hentry]
  refine congrArg _ (funext fun event => ?_)
  change (if matchEnd data > data.length then _ else _) = _
  split
  · rfl
  · next hend =>
    have hle : matchEnd data ≤ data.length := Nat.not_lt.mp hend
    have hoxm : flowUpdateFixedSize ≤ matchEnd data ∧ matchEnd data ≤ data.length :=
      ⟨Nat.le_add_right _ _, hle⟩
    have hactions := slice_actions hle
    rw [matchEnd] at hoxm hactions ⊢
    simp only [slice_eq hoxm, ok_bind, hactions]
    rfl

theorem FlowUpdateEvent.ofU16_returns (v : U16) : (FlowUpdateEvent.ofU16 v).Returns := by
  unfold FlowUpdateEvent.ofU16
  split <;> exact trivial

theorem parseFlowUpdateFull_returns (hlength : entryLength data = data.length) (eventCode : U16) :
    (parseFlowUpdateFull data eventCode).Returns := by
  by_cases hfixed : flowUpdateFixedSize ≤ data.length
  · rw [parseFlowUpdateFull_eq hfixed hlength, returns_bind]
    refine ⟨FlowUpdateEvent.ofU16_returns eventCode, fun event _ => ?_⟩
    split
    · exact trivial
    · obtain ⟨m, hm⟩ := decodeTlvs_ok Match.new
        ((data.take (matchEnd data)).drop flowUpdateFixedSize)
      rw [Match.decodeOxm, hm]
      exact trivial
  · rw [parseFlowUpdateFull, if_pos (Nat.not_le.mp hfixed)]
    exact trivial

end Entry

/-! ### The reply on arbitrary bytes -/

theorem entryLength_take {data : Bytes} {n : Nat} (h : 2 ≤ n) :
    entryLength (data.take n) = entryLength data := by
  have hbytes : ((data.take n).drop 0).take (16 / 8) = (data.drop 0).take (16 / 8) := by
    rw [List.drop_zero, List.drop_zero, List.take_take, Nat.min_eq_left h]
  rw [entryLength, entryLength, wordAt, wordAt, hbytes]

/-- An entry of which all bytes are there is parsed inside them. -/
theorem parseFlowUpdate_returns {data : Bytes} (h4 : 4 ≤ entryLength data)
    (hfits : entryLength data ≤ data.length) (eventCode : U16) :
    (parseFlowUpdate data (entryLength data) eventCode).Returns := by
  rw [parseFlowUpdate]
  split
  · split
    · exact trivial
    · rw [beAt_eq_ok (by omega)]
      exact trivial
  · rw [slice_eq ⟨Nat.zero_le _, hfits⟩, ok_bind, List.drop_zero]
    apply parseFlowUpdateFull_returns
    rw [entryLength_take (by omega), List.length_take, Nat.min_eq_left hfits]

theorem flowMonitorPass_returns (s : List FlowUpdate × Bytes) : (flowMonitorPass s).Returns := by
  obtain ⟨updates, data⟩ := s
  simp only [flowMonitorPass]
  split
  · next h4 =>
    rw [beAt_eq_ok (by omega), ok_bind, beAt_eq_ok (by omega), ok_bind]
    split
    · exact trivial
    · next hentry =>
      have hfits := not_or.mp hentry
      rw [returns_bind]
      exact ⟨parseFlowUpdate_returns (Nat.not_lt.mp hfits.1) (Nat.not_lt.mp hfits.2) _,
        fun _ _ => trivial⟩
  · exact trivial

theorem flowMonitorPass_decreases : Decreases flowMonitorPass (fun s => s.2.length) := by
  rintro ⟨updates, data⟩ s' h
  simp only [flowMonitorPass] at h
  split at h
  · next h4 =>
    rw [beAt_eq_ok (by omega), ok_bind, beAt_eq_ok (by omega), ok_bind] at h
    split at h
    · cases h
    · next hentry =>
      obtain ⟨update, -, h⟩ := bind_eq_ok.mp h
      cases h
      simp only [List.length_drop]
      omega
  · cases h

theorem parseFlowMonitorReply_returns (body : Bytes) : (parseFlowMonitorReply body).Returns := by
  rcases parseFlowMonitorReply_cases body with ⟨-, heq⟩ | ⟨-, e, he⟩
  · have hfuel : (body.drop (MultipartHeader.size + 8)).length < body.length + 1 := by
      rw [List.length_drop]
      omega
    rw [heq, returns_bind]
    exact ⟨loop_returns flowMonitorPass_decreases flowMonitorPass_returns hfuel,
      fun _ _ => trivial⟩
  · rw [he]
    exact trivial

/-! ### Updates as they are documented -/

/-- A full update; the match is written as `encode_oxm_fields` writes it. -/
structure MonitorRecord where
  event : FlowUpdateEvent
  reason : U16
  priority : U16
  idleTimeout : U16
  hardTimeout : U16
  tableId : U8
  pad : U8
  cookie : U64
  matchFields : Match
  actions : Bytes
  representable : matchFields.Representable
  fits : flowUpdateFixedSize + matchFields.oxmFields.length + actions.length ≤ 65535

namespace MonitorRecord

def length (r : MonitorRecord) : Nat :=
  flowUpdateFixedSize + r.matchFields.oxmFields.length + r.actions.length

/-- The bytes before the match. -/
def fixed (r : MonitorRecord) : Bytes :=
  be (BitVec.ofNat 16 r.length) ++ (be r.event.toU16 ++ (be r.reason ++ (be r.priority
    ++ (be r.idleTimeout ++ (be r.hardTimeout
    ++ (be (BitVec.ofNat 16 r.matchFields.oxmFields.length)
    ++ (be r.tableId ++ (be r.pad ++ be r.cookie))))))))

def encode (r : MonitorRecord) : Bytes := r.fixed ++ (r.matchFields.oxmFields ++ r.actions)

/-- The update that the record is to be read as. -/
def update (r : MonitorRecord) : FlowUpdateFull where
  event := r.event
  reason := r.reason
  priority := r.priority
  idleTimeout := r.idleTimeout
  hardTimeout := r.hardTimeout
  tableId := r.tableId
  cookie := r.cookie
  matchFields := r.matchFields.norm
  actions := r.actions

variable (r : MonitorRecord)

theorem fixed_length : r.fixed.length = flowUpdateFixedSize := by
  simp [fixed, flowUpdateFixedSize]

theorem encode_length : r.encode.length = r.length := by
  rw [encode, List.length_append, List.length_append, fixed_length, length, Nat.add_assoc]

theorem entryLength_encode (rest : Bytes) : entryLength (r.encode ++ rest) = r.length := by
  have hword : wordAt 16 (r.encode ++ rest) 0 = BitVec.ofNat 16 r.length := by
    simp [encode, fixed, List.append_assoc]
  rw [entryLength, hword, BitVec.toNat_ofNat]
  exact Nat.mod_eq_of_lt (Nat.lt_succ_of_le r.fits)

theorem matchEnd_encode :
    matchEnd r.encode = (r.fixed ++ r.matchFields.oxmFields).length := by
  have hword : wordAt 16 r.encode 12 = BitVec.ofNat 16 r.matchFields.oxmFields.length := by
    simp [encode, fixed, List.append_assoc, wordAt_append_right]
  have hle := oxmFields_length_le r.matchFields
  rw [matchEnd, hword, BitVec.toNat_ofNat, Nat.mod_eq_of_lt (by omega), List.length_append,
    fixed_length]

theorem ofFixed_encode :
    FlowUpdateFull.ofFixed r.encode r.event r.matchFields.norm r.actions = r.update := by
  simp [FlowUpdateFull.ofFixed, update, encode, fixed, List.append_assoc, wordAt_append_right]

theorem parse_encode : parseFlowUpdateFull r.encode r.event.toU16 = .ok (.full r.update) := by
  have hfixed : flowUpdateFixedSize ≤ r.encode.length := by
    rw [encode_length, length]
    omega
  have hlength : entryLength r.encode = r.encode.length := by
    have h := r.entryLength_encode []
    rwa [List.append_nil, ← encode_length] at h
  have hbytes : r.encode = (r.fixed ++ r.matchFields.oxmFields) ++ r.actions := by
    rw [encode, List.append_assoc]
  have hend : ¬ matchEnd r.encode > r.encode.length := by
    have hlen := congrArg List.length hbytes
    rw [List.length_append] at hlen
    rw [matchEnd_encode]
    omega
  have hoxm : (r.encode.take (matchEnd r.encode)).drop flowUpdateFixedSize =
      r.matchFields.oxmFields := by
    rw [matchEnd_encode, hbytes, List.take_left, ← r.fixed_length, List.drop_left]
  have hactions : r.encode.drop (matchEnd r.encode) = r.actions := by
    rw [matchEnd_encode, hbytes, List.drop_left]
  rw [parseFlowUpdateFull_eq hfixed hlength, FlowUpdateEvent.ofU16_toU16, ok_bind, if_neg hend,
    hoxm, Match.decodeOxm, decodeTlvs_oxmFields r.representable, ok_bind, hactions, ofFixed_encode]
  rfl

end MonitorRecord

/-- A full update, or the notice of a change of the client's own. -/
inductive MonitorEntry where
  | full (record : MonitorRecord)
  | abbrev_ (xid : U32)

namespace MonitorEntry

/-- The notice is eight bytes: its length, the number of its event, and the `xid`. -/
def encode : MonitorEntry → Bytes
  | .full record => record.encode
  | .abbrev_ xid => be (8 : U16) ++ (be (3 : U16) ++ be xid)

def update : MonitorEntry → FlowUpdate
  | .full record => .full record.update
  | .abbrev_ xid => .abbrev_ xid

theorem entryLength_encode (e : MonitorEntry) (rest : Bytes) :
    entryLength (e.encode ++ rest) = e.encode.length := by
  cases e with
  | full record => rw [encode, record.entryLength_encode, record.encode_length]
  | abbrev_ xid =>
    have hword : wordAt 16 (encode (.abbrev_ xid) ++ rest) 0 = 8 := by
      simp [encode, List.append_assoc]
    rw [entryLength, hword]
    simp [encode]

theorem eight_le_length (e : MonitorEntry) : 8 ≤ e.encode.length := by
  cases e with
  | full record =>
    rw [encode, record.encode_length, MonitorRecord.length, flowUpdateFixedSize]
    omega
  | abbrev_ xid => simp [encode]

theorem parse_encode (e : MonitorEntry) (rest : Bytes) :
    parseFlowUpdate (e.encode ++ rest) e.encode.length (wordAt 16 (e.encode ++ rest) 2) =
      .ok e.update := by
  cases e with
  | full record =>
    have hcode : wordAt 16 (record.encode ++ rest) 2 = record.event.toU16 := by
      simp [MonitorRecord.encode, MonitorRecord.fixed, List.append_assoc, wordAt_append_right]
    have hevent : record.event.toU16 ≠ 3 := by
      cases record.event <;> decide
    have hslice : slice (E := Error) (record.encode ++ rest) 0 record.encode.length =
        .ok record.encode := by
      rw [← List.nil_append (record.encode ++ rest)]
      exact slice_middle rfl (Nat.zero_add _).symm
    rw [encode, hcode, parseFlowUpdate, if_neg hevent, hslice, ok_bind, record.parse_encode]
    rfl
  | abbrev_ xid =>
    simp [parseFlowUpdate, encode, beAt_append_right, wordAt_append_right, update]

end MonitorEntry

theorem flowMonitorPass_entry (e : MonitorEntry) (rest : Bytes) (updates : List FlowUpdate) :
    flowMonitorPass (updates, e.encode ++ rest) =
      .ok (.again (updates ++ [e.update], rest)) := by
  have h8 := e.eight_le_length
  have hlen : (e.encode ++ rest).length = e.encode.length + rest.length := List.length_append
  have hentry : (wordAt 16 (e.encode ++ rest) 0).toNat = e.encode.length :=
    e.entryLength_encode rest
  rw [flowMonitorPass, if_pos (by omega), beAt_eq_ok (by omega), ok_bind, beAt_eq_ok (by omega),
    ok_bind, hentry, if_neg (by omega), e.parse_encode, ok_bind, List.drop_left]
  rfl

/-- A multipart header with its reserved word, and the vendor header. -/
def monitorReplyHeader (flags : U16) (reserved : U32) : Bytes :=
  be MultipartType.experimenter.toU16 ++ (be flags ++ (be reserved
    ++ (be niciraVendorId ++ be nxstFlowMonitor)))

theorem monitorReplyHeader_length (flags : U16) (reserved : U32) :
    (monitorReplyHeader flags reserved).length = MultipartHeader.size + 8 := by
  simp [monitorReplyHeader, MultipartHeader.size]

theorem parseFlowMonitorReply_entries (flags : U16) (reserved : U32)
    (entries : List MonitorEntry) :
    parseFlowMonitorReply
        (monitorReplyHeader flags reserved ++ entries.flatMap MonitorEntry.encode) =
      .ok (entries.map MonitorEntry.update, flags.getLsbD 0) := by
  generalize hbody :
    monitorReplyHeader flags reserved ++ entries.flatMap MonitorEntry.encode = body
  have hreply : IsFlowMonitorReply body := by
    rw [← hbody]
    constructor
    case size =>
      rw [List.length_append, monitorReplyHeader_length]
      exact Nat.le_add_right _ _
    case type => simp [monitorReplyHeader, List.append_assoc]
    case vendor =>
      simp [monitorReplyHeader, List.append_assoc, wordAt_append_right, MultipartHeader.size]
    case subtype =>
      simp [monitorReplyHeader, List.append_assoc, wordAt_append_right, MultipartHeader.size]
  have hflags : wordAt 16 body 2 = flags := by
    rw [← hbody]
    simp [monitorReplyHeader, List.append_assoc, wordAt_append_right]
  have hdrop : body.drop (MultipartHeader.size + 8) = entries.flatMap MonitorEntry.encode := by
    rw [← hbody, ← monitorReplyHeader_length flags reserved, List.drop_left]
  have hfuel : (entries.flatMap MonitorEntry.encode).length < body.length + 1 := by
    rw [← hdrop, List.length_drop]
    omega
  have hloop : loop flowMonitorPass (body.length + 1)
      ([], entries.flatMap MonitorEntry.encode) = .ok (entries.map MonitorEntry.update) :=
    loop_flatMap (fun e _ => Nat.lt_of_lt_of_le (by decide) e.eight_le_length)
      (fun e _ => flowMonitorPass_entry e) (fun _ => rfl) hfuel []
  rw [parseFlowMonitorReply_headed hreply, hdrop, hloop, ok_bind, MultipartHeader.hasMore_eq,
    hflags]
  rfl

/-- **A flow monitor reply is parsed without reading out of bounds, and one that is written as
    documented is read as exactly its updates.**  The first part is about every byte string, the
    second about every list of entries in the documented layout. -/
theorem flowMonitorReply_parsed :
    (∀ body, (parseFlowMonitorReply body).Returns) ∧
      ∀ (flags : U16) (reserved : U32) (entries : List MonitorEntry),
        parseFlowMonitorReply
            (monitorReplyHeader flags reserved ++ entries.flatMap MonitorEntry.encode) =
          .ok (entries.map MonitorEntry.update, flags.getLsbD 0) :=
  ⟨parseFlowMonitorReply_returns, parseFlowMonitorReply_entries⟩

end Rovs.OpenFlow

import Rovs.FlowDump
import Rovs.ReplyStream

/-!
# The replies to a flow dump

A flow entry on the wire gives its own length, and its match is OXM fields behind a header of
their own, padded to eight bytes.  A reply is a multipart header and entries one after the
other.  The parser reads every entry that is written so, and a dump returns the entries of
all replies of its series.

`dumpFlowsFiltered_assembles` is the main result.  What a reply holds and when a series ends is said
by `flowReplies`, of which the lemmas on streams of replies are used.
-/

namespace Rovs.OpenFlow

open Outcome

/-! ### Entries and replies on the wire -/

/-- An entry with the OXM fields that its match is read from; every list of bytes is read as
    some match (`decodeTlvs_ok`). -/
structure WireEntry where
  entry : FlowStatsEntry
  oxmFields : Bytes
  reads : Match.decodeOxm oxmFields = .ok entry.matchFields
  fits : FlowStatsEntry.fixedSize + pad8 (4 + oxmFields.length) + entry.instructions.length < 65536

namespace WireEntry

def matchLen (w : WireEntry) : Nat := 4 + w.oxmFields.length

/-- The match with its header and its padding. -/
def matchBytes (w : WireEntry) : Bytes :=
  be MatchType.oxm.toU16 ++ be (BitVec.ofNat 16 w.matchLen) ++ w.oxmFields
    ++ zeros (pad8 w.matchLen - w.matchLen)

def length (w : WireEntry) : Nat :=
  FlowStatsEntry.fixedSize + pad8 w.matchLen + w.entry.instructions.length

/-- The bytes before the match. -/
def fixed (w : WireEntry) : Bytes :=
  be (BitVec.ofNat 16 w.length) ++ (be w.entry.tableId ++ (zeros 1 ++ (be w.entry.durationSec
    ++ (be w.entry.durationNsec ++ (be w.entry.priority ++ (be w.entry.idleTimeout
    ++ (be w.entry.hardTimeout ++ (be w.entry.flags ++ (zeros 4 ++ (be w.entry.cookie
    ++ (be w.entry.packetCount ++ be w.entry.byteCount)))))))))))

def encode (w : WireEntry) : Bytes := w.fixed ++ (w.matchBytes ++ w.entry.instructions)

end WireEntry

/-- A reply to a flow dump; the first bit of the flags says that more follow. -/
structure FlowReply where
  flags : U16
  entries : List WireEntry
  fits : Header.size + MultipartHeader.size + (entries.flatMap WireEntry.encode).length < 65536

def FlowReply.body (r : FlowReply) : Bytes :=
  (MultipartHeader.mk .flow r.flags).encode ++ r.entries.flatMap WireEntry.encode

theorem MultipartHeader.encode_length (h : MultipartHeader) :
    h.encode.length = MultipartHeader.size := by
  simp [MultipartHeader.encode, MultipartHeader.size]

def flowReplies : ReplyFormat FlowReply FlowStatsEntry where
  body := FlowReply.body
  items r := r.entries.map WireEntry.entry
  hasMore r := (MultipartHeader.mk .flow r.flags).hasMore
  fits r := by
    have := r.fits
    rw [FlowReply.body, List.length_append, MultipartHeader.encode_length]
    omega

/-! ### Reading an entry -/

namespace WireEntry

variable (w : WireEntry) (rest : Bytes)

theorem fixed_length : w.fixed.length = FlowStatsEntry.fixedSize := by
  simp [fixed, FlowStatsEntry.fixedSize]

theorem matchBytes_length : w.matchBytes.length = pad8 w.matchLen := by
  have := le_pad8 w.matchLen
  simp only [matchBytes, List.length_append, be_length, zeros_length, matchLen] at this ⊢
  omega

theorem encode_length : w.encode.length = w.length := by
  rw [encode, List.length_append, List.length_append, fixed_length, matchBytes_length, length,
    Nat.add_assoc]

theorem entryLength_encode : entryLength (w.encode ++ rest) = w.length := by
  have hword : wordAt 16 (w.encode ++ rest) 0 = BitVec.ofNat 16 w.length := by
    simp [encode, fixed, List.append_assoc]
  rw [entryLength, hword, BitVec.toNat_ofNat]
  exact Nat.mod_eq_of_lt w.fits

theorem drop_fixed : (w.encode ++ rest).drop FlowStatsEntry.fixedSize =
    w.matchBytes ++ (w.entry.instructions ++ rest) := by
  rw [encode, List.append_assoc, ← fixed_length w, List.drop_left, List.append_assoc]

theorem matchLen_lt : w.matchLen < 65536 := by
  have h1 := w.fits
  have h2 := le_pad8 (4 + w.oxmFields.length)
  rw [matchLen]
  omega

theorem frameLength_matchBytes : frameLength (w.matchBytes ++ rest) = w.matchLen := by
  have hword : wordAt 16 (w.matchBytes ++ rest) 2 = BitVec.ofNat 16 w.matchLen := by
    simp [matchBytes, List.append_assoc, wordAt_append_right]
  rw [frameLength, hword, BitVec.toNat_ofNat]
  exact Nat.mod_eq_of_lt w.matchLen_lt

theorem matchHeader_accepted : MatchHeaderAccepted (w.matchBytes ++ rest) where
  header := by
    have := le_pad8 w.matchLen
    rw [List.length_append, matchBytes_length, matchLen] at *
    omega
  oxm := by simp [matchBytes, List.append_assoc]
  fits := by
    have := le_pad8 w.matchLen
    rw [frameLength_matchBytes, List.length_append, matchBytes_length]
    omega

theorem decode_match :
    Match.decode (w.matchBytes ++ rest) = .ok (w.entry.matchFields, pad8 w.matchLen) := by
  have hbytes : w.matchBytes ++ rest =
      (be MatchType.oxm.toU16 ++ be (BitVec.ofNat 16 w.matchLen)) ++
        (w.oxmFields ++ (zeros (pad8 w.matchLen - w.matchLen) ++ rest)) := by
    simp [matchBytes, List.append_assoc]
  have hslice : slice (E := Error) (w.matchBytes ++ rest) 4 w.matchLen = .ok w.oxmFields := by
    rw [hbytes]
    exact slice_middle (by simp) (by simp [matchLen])
  rw [Match.decode_accepted (w.matchHeader_accepted rest), frameLength_matchBytes, hslice, ok_bind,
    w.reads]
  rfl

theorem ofFixed_encode : FlowStatsEntry.ofFixed (w.encode ++ rest) w.entry.matchFields
    w.entry.instructions = w.entry := by
  simp [FlowStatsEntry.ofFixed, encode, fixed, List.append_assoc, wordAt_append_right]

/-- An entry that is written with its length is read back. -/
theorem decode_encode : FlowStatsEntry.decode (w.encode ++ rest) = .ok (w.entry, w.length) := by
  have hfixed : FlowStatsEntry.fixedSize ≤ (w.encode ++ rest).length := by
    rw [List.length_append, encode_length, length]
    omega
  have hfits : entryLength (w.encode ++ rest) ≤ (w.encode ++ rest).length := by
    rw [entryLength_encode, List.length_append, encode_length]
    omega
  have hslice : slice (E := Error) (w.encode ++ rest)
      (FlowStatsEntry.fixedSize + pad8 w.matchLen) w.length = .ok w.entry.instructions := by
    have hbytes : w.encode ++ rest =
        (w.fixed ++ w.matchBytes) ++ (w.entry.instructions ++ rest) := by
      simp [encode, List.append_assoc]
    have hlen : (w.fixed ++ w.matchBytes).length = FlowStatsEntry.fixedSize + pad8 w.matchLen := by
      rw [List.length_append, fixed_length, matchBytes_length]
    rw [hbytes]
    exact slice_middle hlen.symm (by rw [hlen, length])
  rw [FlowStatsEntry.decode_eq hfixed hfits, entryLength_encode, drop_fixed, decode_match, ok_bind]
  dsimp only
  rw [hslice, ok_bind, ofFixed_encode]
  rfl

end WireEntry

/-! ### Reading a reply -/

theorem flowStatsPass_wire (w : WireEntry) (rest : Bytes) (es : List FlowStatsEntry) :
    flowStatsPass (es, w.encode ++ rest) = .ok (.again (es ++ [w.entry], rest)) := by
  have h4 : 4 ≤ (w.encode ++ rest).length := by
    rw [List.length_append, w.encode_length, WireEntry.length, FlowStatsEntry.fixedSize]
    omega
  rw [flowStatsPass_eq h4, w.decode_encode, ok_bind, ← w.encode_length]
  dsimp only
  rw [List.drop_left]
  rfl

theorem flowStats_loop_wire (ws : List WireEntry) (es : List FlowStatsEntry) {fuel : Nat}
    (hfuel : (ws.flatMap WireEntry.encode).length < fuel) :
    loop flowStatsPass fuel (es, ws.flatMap WireEntry.encode) =
      .ok (es ++ ws.map WireEntry.entry) := by
  refine loop_flatMap (fun w _ => ?_) (fun w _ => flowStatsPass_wire w) (fun _ => rfl) hfuel es
  rw [w.encode_length, WireEntry.length, FlowStatsEntry.fixedSize]
  omega

theorem flowReplies_readBy : flowReplies.ReadBy parseFlowStatsReply := by
  intro r
  have htype : wordAt 16 r.body 0 = MultipartType.flow.toU16 := by
    simp [FlowReply.body, MultipartHeader.encode, List.append_assoc]
  have hflags : wordAt 16 r.body 2 = r.flags := by
    simp [FlowReply.body, MultipartHeader.encode, List.append_assoc, wordAt_append_right]
  have hsize : MultipartHeader.size ≤ r.body.length := by
    rw [FlowReply.body, List.length_append, MultipartHeader.encode_length]
    exact Nat.le_add_right _ _
  have hdrop : r.body.drop MultipartHeader.size = r.entries.flatMap WireEntry.encode := by
    rw [FlowReply.body, ← MultipartHeader.encode_length ⟨.flow, r.flags⟩, List.drop_left]
  have hfuel : (r.entries.flatMap WireEntry.encode).length < r.body.length + 1 := by
    rw [← hdrop, List.length_drop]
    omega
  change parseFlowStatsReply r.body = _
  rw [parseFlowStatsReply_headed ⟨hsize, htype⟩, hdrop, flowStats_loop_wire _ _ hfuel, hflags]
  rfl

/-! ### A dump -/

/-- The loop of a dump collects a series of flow replies. -/
theorem awaitDump_eq (conn : VConn) :
    conn.awaitDump = awaitSeries parseFlowStatsReply conn := rfl

namespace SwitchLink

def dumpFlowsFiltered (request : FlowStatsRequest) :
    Program SwitchLink Error (List FlowStatsEntry) := do
  let _ ← SwitchLink.request fun conn => conn.dumpFlowsFiltered request
  awaitReply VConn.awaitDump []

end SwitchLink

/-- The answer to a dump: replies of which all but the last have the "more" flag, between other
    messages. -/
structure DumpAnswer where
  front : List (Arrival FlowReply)
  version : Version
  xid : U32
  last : FlowReply
  more : ∀ r ∈ replies front, flowReplies.hasMore r = true
  done : flowReplies.hasMore last = false

def DumpAnswer.arrivals (answer : DumpAnswer) : List (Arrival FlowReply) :=
  answer.front ++ [.reply answer.version answer.xid answer.last]

/-- **A dump returns all entries of its series in their order, reads to the end of the last reply,
    and answers the keep-alives on the way.**  Messages that are neither are passed over, and what
    the switch sends behind the last reply stays in the stream. -/
theorem dumpFlowsFiltered_assembles (request : FlowStatsRequest) (answer : DumpAnswer)
    (conn : VConn) (rest : Bytes) (sent : List Message) :
    SwitchLink.dumpFlowsFiltered request
        ⟨conn, wire (flowReplies.messages answer.arrivals) ++ rest, sent⟩ =
      (.ok (flowReplies.contents answer.arrivals),
        ⟨(conn.dumpFlowsFiltered request).2, rest,
          sent ++ [(conn.dumpFlowsFiltered request).1]
            ++ flowReplies.answers conn answer.arrivals⟩) := by
  have hloop : VConn.awaitDump = awaitSeries parseFlowStatsReply := funext awaitDump_eq
  rw [SwitchLink.dumpFlowsFiltered, hloop]
  exact awaitSeries_done flowReplies_readBy (conn.dumpFlowsFiltered request).2 rest answer.more
    answer.version answer.xid answer.done [] (sent ++ [(conn.dumpFlowsFiltered request).1])

end Rovs.OpenFlow

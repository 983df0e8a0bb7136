import Rovs.FlowStatsSafety
import Rovs.InstructionRoundTrip
import Rovs.MatchRoundTrip

/-!
# Flow statistics as a switch writes them

A record is the fixed fields with the length of the whole, an encoded match and
encoded instructions.  Its padding bytes may hold anything.  The parser gives the
match decoder everything behind the fixed fields, the following records included,
and cuts the instructions out behind what the match took; a reply is still read
as exactly its records, each with its match normalised and its instructions as
they were written.

This is `parseFlowStatsReply_records`.
-/

namespace Rovs.OpenFlow

open Outcome

/-- A flow of which a switch reports the statistics. -/
structure StatsRecord where
  tableId : U8
  pad : U8
  durationSec : U32
  durationNsec : U32
  priority : U16
  idleTimeout : U16
  hardTimeout : U16
  flags : U16
  pad2 : U32
  cookie : U64
  packetCount : U64
  byteCount : U64
  matchFields : Match
  instructions : InstructionList
  representable : matchFields.Representable
  fits : FlowStatsEntry.fixedSize + matchFields.encode.length + instructions.encode.length ≤ 65535

namespace StatsRecord

def length (r : StatsRecord) : Nat :=
  FlowStatsEntry.fixedSize + r.matchFields.encode.length + r.instructions.encode.length

/-- The bytes before the match. -/
def fixed (r : StatsRecord) : Bytes :=
  be (BitVec.ofNat 16 r.length) ++ (be r.tableId ++ (be r.pad ++ (be r.durationSec
    ++ (be r.durationNsec ++ (be r.priority ++ (be r.idleTimeout ++ (be r.hardTimeout
    ++ (be r.flags ++ (be r.pad2 ++ (be r.cookie ++ (be r.packetCount ++ be r.byteCount)))))))))))

def encode (r : StatsRecord) : Bytes :=
  r.fixed ++ (r.matchFields.encode ++ r.instructions.encode)

/-- The entry that the record is to be read as. -/
def entry (r : StatsRecord) : FlowStatsEntry where
  tableId := r.tableId
  durationSec := r.durationSec
  durationNsec := r.durationNsec
  priority := r.priority
  idleTimeout := r.idleTimeout
  hardTimeout := r.hardTimeout
  flags := r.flags
  cookie := r.cookie
  packetCount := r.packetCount
  byteCount := r.byteCount
  matchFields := r.matchFields.norm
  instructions := r.instructions.encode

/-! ### Reading a record -/

variable (r : StatsRecord) (rest : Bytes)

theorem fixed_length : r.fixed.length = FlowStatsEntry.fixedSize := by
  simp [fixed, FlowStatsEntry.fixedSize]

theorem encode_length : r.encode.length = r.length := by
  rw [encode, List.length_append, List.length_append, fixed_length, length, Nat.add_assoc]

theorem entryLength_encode : entryLength (r.encode ++ rest) = r.length := by
  have hword : wordAt 16 (r.encode ++ rest) 0 = BitVec.ofNat 16 r.length := by
    simp [encode, fixed, List.append_assoc]
  rw [entryLength, hword, BitVec.toNat_ofNat]
  exact Nat.mod_eq_of_lt (Nat.lt_succ_of_le r.fits)

theorem drop_fixed : (r.encode ++ rest).drop FlowStatsEntry.fixedSize =
    r.matchFields.encode ++ (r.instructions.encode ++ rest) := by
  rw [encode, List.append_assoc, ← fixed_length r, List.drop_left, List.append_assoc]

/-- The fixed fields are read back, whatever is in the padding between them. -/
theorem ofFixed_encode : FlowStatsEntry.ofFixed (r.encode ++ rest) r.matchFields.norm
    r.instructions.encode = r.entry := by
  simp [FlowStatsEntry.ofFixed, entry, encode, fixed, List.append_assoc, wordAt_append_right]

theorem slice_instructions : slice (E := Error) (r.encode ++ rest)
    (FlowStatsEntry.fixedSize + r.matchFields.encode.length) r.length =
      .ok r.instructions.encode := by
  have hbytes : r.encode ++ rest =
      (r.fixed ++ r.matchFields.encode) ++ (r.instructions.encode ++ rest) := by
    simp [encode, List.append_assoc]
  have hlen : (r.fixed ++ r.matchFields.encode).length =
      FlowStatsEntry.fixedSize + r.matchFields.encode.length := by
    rw [List.length_append, fixed_length]
  rw [hbytes]
  exact slice_middle hlen.symm (by rw [hlen, length])

/-- **One record in front of any bytes** is read as its entry, and the length in it says where the
    next one starts. -/
theorem decode_encode : FlowStatsEntry.decode (r.encode ++ rest) = .ok (r.entry, r.length) := by
  have hfixed : FlowStatsEntry.fixedSize ≤ (r.encode ++ rest).length := by
    rw [List.length_append, encode_length, length]
    omega
  have hfits : entryLength (r.encode ++ rest) ≤ (r.encode ++ rest).length := by
    rw [entryLength_encode, List.length_append, encode_length]
    omega
  rw [FlowStatsEntry.decode_eq hfixed hfits, entryLength_encode, drop_fixed,
    Match.decode_encode_append r.representable, ok_bind]
  dsimp only
  rw [slice_instructions, ok_bind, ofFixed_encode]
  rfl

end StatsRecord

/-! ### Reading a reply -/

theorem flowStatsPass_record (r : StatsRecord) (rest : Bytes) (es : List FlowStatsEntry) :
    flowStatsPass (es, r.encode ++ rest) = .ok (.again (es ++ [r.entry], rest)) := by
  have h4 : 4 ≤ (r.encode ++ rest).length := by
    rw [List.length_append, r.encode_length, StatsRecord.length, FlowStatsEntry.fixedSize]
    omega
  rw [flowStatsPass_eq h4, r.decode_encode, ok_bind, ← r.encode_length]
  dsimp only
  rw [List.drop_left]
  rfl

/-- By induction on the records: the loop collects the entries that are left behind those that it
    has. -/
theorem flowStats_loop_records (rs : List StatsRecord) (es : List FlowStatsEntry) {fuel : Nat}
    (hfuel : (rs.flatMap StatsRecord.encode).length < fuel) :
    loop flowStatsPass fuel (es, rs.flatMap StatsRecord.encode) =
      .ok (es ++ rs.map StatsRecord.entry) := by
  refine loop_flatMap (fun r _ => ?_) (fun r _ => flowStatsPass_record r) (fun _ => rfl) hfuel es
  rw [r.encode_length, StatsRecord.length, FlowStatsEntry.fixedSize]
  omega

/-- A Flow multipart header with its reserved word. -/
def statsReplyHeader (flags : U16) (reserved : U32) : Bytes :=
  be MultipartType.flow.toU16 ++ (be flags ++ be reserved)

theorem statsReplyHeader_length (flags : U16) (reserved : U32) :
    (statsReplyHeader flags reserved).length = MultipartHeader.size := by
  simp [statsReplyHeader, MultipartHeader.size]

theorem MultipartHeader.hasMore_eq (h : MultipartHeader) : h.hasMore = h.flags.getLsbD 0 := by
  have hmask := BitVec.and_one_eq_setWidth_ofBool_getLsbD (x := h.flags)
  rw [MultipartHeader.hasMore, show multipartFlagsMore = 1#16 from rfl, hmask]
  cases h.flags.getLsbD 0 <;> rfl

/-- **A flow stats reply is parsed as exactly the records it was written with**, in their order, and
    whether more is to come is the flag of the header.  A record carries its own well-formedness, so
    no other condition is left. -/
theorem parseFlowStatsReply_records (flags : U16) (reserved : U32) (records : List StatsRecord) :
    parseFlowStatsReply
        (statsReplyHeader flags reserved ++ records.flatMap StatsRecord.encode) =
      .ok (records.map StatsRecord.entry, flags.getLsbD 0) := by
  generalize hbody : statsReplyHeader flags reserved ++ records.flatMap StatsRecord.encode = body
  have hsize : MultipartHeader.size ≤ body.length := by
    rw [← hbody, List.length_append, statsReplyHeader_length]
    exact Nat.le_add_right _ _
  have htype : wordAt 16 body 0 = MultipartType.flow.toU16 := by
    rw [← hbody]
    simp [statsReplyHeader, List.append_assoc]
  have hflags : wordAt 16 body 2 = flags := by
    rw [← hbody]
    simp [statsReplyHeader, List.append_assoc, wordAt_append_right]
  have hdrop : body.drop MultipartHeader.size = records.flatMap StatsRecord.encode := by
    rw [← hbody, ← statsReplyHeader_length flags reserved, List.drop_left]
  have hfuel : (records.flatMap StatsRecord.encode).length < body.length + 1 := by
    rw [← hdrop, List.length_drop]
    omega
  rw [parseFlowStatsReply_headed ⟨hsize, htype⟩, hdrop, flowStats_loop_records _ _ hfuel, ok_bind,
    MultipartHeader.hasMore_eq, hflags]
  rfl

/-- The instructions of a flow to one port. -/
def portInstructions : InstructionList := ⟨[.applyActions ⟨[.output (.port 2)]⟩]⟩

theorem portRecord_fits : FlowStatsEntry.fixedSize + webMatch.encode.length +
    portInstructions.encode.length ≤ 65535 := by decide

/-- A flow with a match on eight fields that has seen three packets. -/
def portRecord : StatsRecord where
  tableId := 0
  pad := 0xff
  durationSec := 10
  durationNsec := 500
  priority := 100
  idleTimeout := 0
  hardTimeout := 300
  flags := 1
  pad2 := 0xffffffff
  cookie := 0x1234
  packetCount := 3
  byteCount := 180
  matchFields := webMatch
  instructions := portInstructions
  representable := webMatch_representable
  fits := portRecord_fits

theorem parseFlowStatsReply_records_port :
    parseFlowStatsReply
        (statsReplyHeader 1 0 ++ [portRecord, portRecord].flatMap StatsRecord.encode) =
      .ok ([portRecord.entry, portRecord.entry], true) :=
  parseFlowStatsReply_records 1 0 [portRecord, portRecord]

end Rovs.OpenFlow

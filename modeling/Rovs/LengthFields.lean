import Rovs.FlowExpressiveness
import Rovs.FlowMonitor
import Rovs.FlowDump
import Rovs.WireSizes

/-!
# Length fields (`rovs-openflow/src/packet_out.rs` and the other requests)

Lengths are counted in `usize` and cast to sixteen bits, in the message header and in every
frame inside it.  The header counts everything in the message, so it is the first to
overflow: as long as it does not, no length inside the message does.

So `lengthsHonest_iff` has one condition, on the sizes of what the request carries.
-/

namespace Rovs.OpenFlow

open Outcome

/-! ### Requests -/

structure PacketOut where
  bufferId : U32
  inPort : U32
  actions : ActionList
  data : Bytes

/-- `PacketOut::to_message`; packet data is only sent without a buffer. -/
def PacketOut.toMessage (p : PacketOut) (version : Version) (xid : U32) : Message :=
  let actionsBytes := p.actions.encode
  let actionsLen : U16 := BitVec.ofNat 16 actionsBytes.length
  let buf := be p.bufferId ++ be p.inPort ++ be actionsLen ++ zeros 6 ++ actionsBytes
    ++ (if p.bufferId = ofpNoBuffer then p.data else [])
  { header := ⟨version, .packetOut, BitVec.ofNat 16 (Header.size + buf.length), xid⟩
    body := buf }

inductive Request where
  | flowMod (flow : Flow)
  | packetOut (packet : PacketOut)
  | flowStats (request : FlowStatsRequest)
  | flowMonitor (request : FlowMonitorRequest)

def Request.toMessage (version : Version) (xid : U32) : Request → Result Message
  | .flowMod flow => pure (flow.toMessage version xid)
  | .packetOut packet => pure (packet.toMessage version xid)
  | .flowStats request => pure (request.toMessage version xid)
  | .flowMonitor request => request.toMessage version xid

/-! ### Length fields -/

/-- A length as it is written, and the number of bytes that it stands for. -/
structure LengthField where
  written : U16
  covered : Nat

def LengthField.Honest (f : LengthField) : Prop := f.written.toNat = f.covered

/-- The length word of a message, a match, an instruction or an action. -/
def framedField (bytes : Bytes) (covered : Nat) : LengthField := ⟨wordAt 16 bytes 2, covered⟩

/-- The frames of an action: the action, unless it writes nothing, and the NAT inside it. -/
def Action.frames (a : Action) : List Bytes :=
  (if a.encode = [] then [] else [a.encode]) ++
    match a with
    | .nxCtNat _ _ _ nat => [encodeNxNat nat]
    | _ => []

def ActionList.frames (l : ActionList) : List Bytes := l.actions.flatMap Action.frames

/-- The frames of an instruction: the instruction, and its actions. -/
def Instruction.frames (i : Instruction) : List Bytes :=
  i.encode :: i.actions.flatMap Action.frames

/-- The instructions that are written for a flow. -/
def Flow.written (flow : Flow) : List Instruction :=
  if flow.instructions.instructions = [] ∧ flow.actions.actions ≠ [] then
    [.applyActions flow.actions]
  else flow.instructions.instructions

/-- The lengths inside a message. -/
def Request.innerFields (body : Bytes) : Request → List LengthField
  | .flowMod flow =>
      framedField flow.matchFields.encode (4 + flow.matchFields.oxmFields.length) ::
        (flow.written.flatMap Instruction.frames).map fun f => framedField f f.length
  | .packetOut packet =>
      ⟨wordAt 16 body 8, packet.actions.encode.length⟩ ::
        packet.actions.frames.map fun f => framedField f f.length
  | .flowStats request =>
      [framedField request.matchFields.encode (4 + request.matchFields.oxmFields.length)]
  | .flowMonitor request => [⟨wordAt 16 body 24, request.matchFields.oxmFields.length⟩]

/-- The request is refused, or every length of its message is what it covers. -/
def LengthsHonest (version : Version) (xid : U32) (request : Request) : Prop :=
  match request.toMessage version xid with
  | .ok msg => ∀ f ∈ framedField msg.encode msg.encode.length :: request.innerFields msg.body,
      f.Honest
  | .err _ => True
  | .panic => False
  | .hang => False

/-- The size of a message, by what it carries. -/
def Request.wireSize : Request → Nat
  | .flowMod flow =>
      48 + pad8 (4 + flow.matchFields.wireSize) + (flow.written.map Instruction.wireSize).sum
  | .packetOut packet =>
      24 + packet.actions.wireSize
        + (if packet.bufferId = ofpNoBuffer then packet.data.length else 0)
  | .flowStats request => 48 + pad8 (4 + request.matchFields.wireSize)
  | .flowMonitor request => 36 + request.matchFields.wireSize

/-! ### Sizes of messages -/

theorem Flow.instructionBytes_eq (flow : Flow) :
    flow.instructionBytes = flow.written.flatMap Instruction.encode := by
  rw [Flow.instructionBytes, Flow.written]
  split
  · exact (List.append_nil _).symm
  · rfl

theorem FlowStatsRequest.encode_length (r : FlowStatsRequest) :
    r.encode.length = 32 + r.matchFields.encode.length := by
  simp [FlowStatsRequest.encode]
  omega

/-- Every request is written, with a length that is counted from its body. -/
theorem Request.toMessage_ok (version : Version) (xid : U32) (request : Request) :
    ∃ msg, request.toMessage version xid = .ok msg ∧
      msg.header.length = BitVec.ofNat 16 (Header.size + msg.body.length) ∧
      Header.size + msg.body.length = request.wireSize := by
  cases request with
  | flowMod flow =>
    refine ⟨flow.toMessage version xid, rfl, rfl, ?_⟩
    rw [Flow.toMessage, Message.new_body, Flow.encode, flow.instructionBytes_eq,
      List.length_append, List.length_append, Flow.encodeFixed_length, Match.encode_wireSize,
      flatMap_length _ fun i _ => i.encode_length, Request.wireSize, Header.size]
    omega
  | packetOut packet =>
    refine ⟨packet.toMessage version xid, rfl, rfl, ?_⟩
    rw [PacketOut.toMessage, Request.wireSize, Header.size]
    simp only [List.length_append, be_length, zeros_length, packet.actions.encode_length]
    split
    · omega
    · simp
      omega
  | flowStats request =>
    refine ⟨request.toMessage version xid, rfl, rfl, ?_⟩
    rw [FlowStatsRequest.toMessage, Message.new_body, List.length_append,
      request.encode_length, Match.encode_wireSize, Request.wireSize, Header.size]
    simp [MultipartHeader.encode]
    omega
  | flowMonitor request =>
    have hmsg := request.toMessage_ok version xid
    refine ⟨_, hmsg, rfl, ?_⟩
    rw [FlowMonitorRequest.message, Message.new_body, Request.wireSize, Header.size]
    simp [MultipartHeader.encode, Match.oxmFields_length]
    omega

/-! ### Frames inside a message -/

theorem framedField_honest {bytes : Bytes} (h : IsFrame bytes) :
    (framedField bytes bytes.length).Honest := h.length_eq

theorem length_le_flatMap {α : Type} {write : α → Bytes} {x : α} {xs : List α} (h : x ∈ xs) :
    (write x).length ≤ (xs.flatMap write).length := by
  rw [List.flatMap_def]
  exact (List.sublist_flatten_of_mem (List.mem_map_of_mem h)).length_le

theorem wordAt_resize_header {subtype : NxActionSubtype} {len : U16} {fields : Bytes} {n : Nat}
    (hn : 10 + fields.length ≤ n) :
    wordAt 16 (resize (encodeNxHeader subtype len ++ fields) n) 2 = len := by
  have hlen : (encodeNxHeader subtype len ++ fields).length ≤ n := by
    rw [List.length_append, encodeNxHeader_length]
    exact hn
  rw [resize_eq hlen]
  simp [encodeNxHeader, List.append_assoc, wordAt_append_right]

theorem encodeNxNat_honest (nat : NatConfig) :
    (framedField (encodeNxNat nat) (encodeNxNat nat).length).Honest := by
  -- the optional fields take at most 44 bytes, and the padding fewer than eight
  have hsize : nat.wireSize < 65536 := by
    have hpad := pad8_lt (16 + ((if nat.ipv4Min.isSome then 4 else 0)
      + (if nat.ipv4Max.isSome then 4 else 0) + (if nat.ipv6Min.isSome then 16 else 0)
      + (if nat.ipv6Max.isSome then 16 else 0) + (if nat.portMin.isSome then 2 else 0)
      + (if nat.portMax.isSome then 2 else 0)))
    refine Nat.lt_of_lt_of_le hpad ?_
    repeat' split
    all_goals omega
  have hword : wordAt 16 (encodeNxNat nat) 2 = BitVec.ofNat 16 nat.wireSize := by
    simp only [encodeNxNat, List.append_assoc]
    refine wordAt_resize_header (Nat.le_trans (Nat.le_of_eq ?_) (le_pad8 _))
    simp only [List.length_append, be_length, zeros_length, ifSome_be_length,
      Nat.reduceDiv]
    omega
  rw [LengthField.Honest, framedField, hword, encodeNxNat_length, BitVec.toNat_ofNat]
  exact Nat.mod_eq_of_lt hsize

theorem Action.frames_honest {a : Action} (h : a.encode.length ≤ 65535) :
    ∀ f ∈ a.frames, (framedField f f.length).Honest := by
  intro f hf
  rcases List.mem_append.mp hf with hown | hnat
  · split at hown
    · cases hown
    · next hne =>
      rw [List.mem_singleton.mp hown]
      exact framedField_honest (Action.encode_isFrame hne h).1
  · split at hnat
    · rw [List.mem_singleton.mp hnat]
      exact encodeNxNat_honest _
    · cases hnat

theorem actionFrames_honest {actions : List Action}
    (h : (actions.flatMap Action.encode).length ≤ 65535) :
    ∀ f ∈ actions.flatMap Action.frames, (framedField f f.length).Honest := by
  intro f hf
  rcases List.mem_flatMap.mp hf with ⟨a, ha, hfa⟩
  exact Action.frames_honest (Nat.le_trans (length_le_flatMap ha) h) f hfa

theorem Instruction.actions_length_le (i : Instruction) :
    (i.actions.flatMap Action.encode).length ≤ i.encode.length := by
  cases i with
  | applyActions actions | writeActions actions =>
    have h := actions.length_le_encode
    rw [Instruction.encode_length, Instruction.wireSize, ← actions.encode_length]
    exact Nat.le_trans h (Nat.le_add_left _ _)
  | _ => exact Nat.zero_le _

theorem Instruction.frames_honest {i : Instruction} (h : i.encode.length ≤ 65535) :
    ∀ f ∈ i.frames, (framedField f f.length).Honest := by
  rw [Instruction.frames, List.forall_mem_cons]
  constructor
  case left => exact framedField_honest (Instruction.encode_isFrame h)
  case right => exact actionFrames_honest (Nat.le_trans i.actions_length_le h)

theorem Match.framedField_honest (m : Match) :
    (framedField m.encode (4 + m.oxmFields.length)).Honest := by
  have hword : wordAt 16 m.encode 2 = BitVec.ofNat 16 (4 + m.oxmFields.length) := by
    rw [Match.encode_eq]
    simp [wordAt_append_right]
  rw [LengthField.Honest, framedField, hword]
  exact oxmFields_length_toNat m

/-- In a message whose header does not overflow every length is what it covers. -/
theorem Request.innerFields_honest {version : Version} {xid : U32} {request : Request}
    {msg : Message} (hmsg : request.toMessage version xid = .ok msg)
    (h : Header.size + msg.body.length ≤ 65535) :
    ∀ f ∈ request.innerFields msg.body, f.Honest := by
  cases request with
  | flowMod flow =>
    cases hmsg
    rw [Flow.toMessage, Message.new_body, Flow.encode, List.length_append,
      flow.instructionBytes_eq] at h
    rw [Request.innerFields, List.forall_mem_cons, List.forall_mem_map]
    refine ⟨flow.matchFields.framedField_honest, fun f hf => ?_⟩
    rcases List.mem_flatMap.mp hf with ⟨i, hi, hfi⟩
    have hle : i.encode.length ≤ (flow.written.flatMap Instruction.encode).length :=
      length_le_flatMap hi
    exact Instruction.frames_honest (by omega) f hfi
  | packetOut packet =>
    cases hmsg
    have hbody : packet.actions.encode.length ≤ (packet.toMessage version xid).body.length := by
      simp only [PacketOut.toMessage, List.length_append]
      omega
    have hword : wordAt 16 (packet.toMessage version xid).body 8 =
        BitVec.ofNat 16 packet.actions.encode.length := by
      simp [PacketOut.toMessage, List.append_assoc, wordAt_append_right]
    have hactions := packet.actions.length_le_encode
    rw [Request.innerFields, List.forall_mem_cons, List.forall_mem_map, LengthField.Honest,
      hword, BitVec.toNat_ofNat]
    exact ⟨Nat.mod_eq_of_lt (by omega), actionFrames_honest (by omega)⟩
  | flowStats request =>
    exact List.forall_mem_singleton.mpr request.matchFields.framedField_honest
  | flowMonitor request =>
    have hok := request.toMessage_ok version xid
    obtain rfl : request.message version xid = msg := by
      rw [Request.toMessage, hok] at hmsg
      exact Outcome.ok.inj hmsg
    have hword : wordAt 16 (request.message version xid).body 24 =
        BitVec.ofNat 16 request.matchFields.oxmFields.length := by
      simp [FlowMonitorRequest.message, MultipartHeader.encode, List.append_assoc,
        wordAt_append_right]
    have hle := oxmFields_length_le request.matchFields
    refine List.forall_mem_singleton.mpr ?_
    rw [LengthField.Honest, hword, BitVec.toNat_ofNat]
    exact Nat.mod_eq_of_lt (by omega)

/-- The length in the header of a message is the size of the message. -/
theorem headerField_honest_iff {msg : Message}
    (h : msg.header.length = BitVec.ofNat 16 (Header.size + msg.body.length)) :
    (framedField msg.encode msg.encode.length).Honest ↔
      Header.size + msg.body.length ≤ 65535 := by
  have hword : wordAt 16 msg.encode 2 = msg.header.length := by
    simp [Message.encode, Header.encode, List.append_assoc, wordAt_append_right]
  have hlen : msg.encode.length = Header.size + msg.body.length := by
    simp [Message.encode, Header.encode, Header.size]
    omega
  rw [LengthField.Honest, framedField, hword, hlen, h, BitVec.toNat_ofNat]
  dsimp only
  omega

/-- **Every length of a request is what it covers exactly if the request fits the length of its
    header.**  The inner lengths are never larger than the outer one, so the header is the first to
    be cut off. -/
theorem lengthsHonest_iff (version : Version) (xid : U32) (request : Request) :
    LengthsHonest version xid request ↔ request.wireSize ≤ 65535 := by
  rcases request.toMessage_ok version xid with ⟨msg, hmsg, hheader, hsize⟩
  have hfield := headerField_honest_iff hheader
  rw [LengthsHonest, hmsg]
  dsimp only
  rw [List.forall_mem_cons, hfield, ← hsize]
  exact ⟨fun h => h.1, fun h => ⟨h, request.innerFields_honest hmsg h⟩⟩

/-- A packet that is sent without actions. -/
def barePacket (data : Bytes) : PacketOut := ⟨ofpNoBuffer, 1, ⟨[]⟩, data⟩

theorem barePacket_wireSize (data : Bytes) :
    (Request.packetOut (barePacket data)).wireSize = 24 + data.length := by
  have hnone : (ActionList.mk []).wireSize = 0 := by decide
  rw [Request.wireSize, if_pos (show (barePacket data).bufferId = ofpNoBuffer from rfl)]
  exact congrArg (24 + · + data.length) hnone

theorem jumboPacket_lies :
    ¬ ∀ (version : Version) (xid : U32) (request : Request),
      LengthsHonest version xid request := by
  intro h
  have hpacket := h .of13 1 (.packetOut (barePacket (zeros 65536)))
  rcases Request.toMessage_ok .of13 1 (.packetOut (barePacket (zeros 65536))) with
    ⟨msg, hmsg, hheader, hsize⟩
  rw [LengthsHonest, hmsg] at hpacket
  have hfield := (headerField_honest_iff hheader).mp (hpacket _ List.mem_cons_self)
  rw [hsize, barePacket_wireSize, zeros_length] at hfield
  omega

end Rovs.OpenFlow

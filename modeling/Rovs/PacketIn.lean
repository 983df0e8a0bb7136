import Rovs.MatchRoundTrip
import Rovs.MatchSafety

/-!
# Packet-In messages (`rovs-openflow/src/packet_in.rs`)

A switch reports a packet with fixed fields, the match of the packet, and its
bytes.  The parser consumes a `bytes::Bytes` buffer whose reads panic when too
little remains, and it does not use `Match::decode`: it reads the match header
itself and recomputes the padding behind the match.

`packetIn_parse` has both parts: every buffer is parsed without a panic, and what a
switch writes is read back.
-/

namespace Rovs.OpenFlow

open Outcome

/-! ### The buffer -/

namespace Buf

/-- `Buf::get_u8`, `get_u16`, `get_u32` and `get_u64`. -/
def get (w : Nat) (buf : Bytes) : Result (BitVec w × Bytes) := do
  let v ← beAt w buf 0
  pure (v, buf.drop (w / 8))

/-- `Bytes::copy_to_bytes`. -/
def copyToBytes (n : Nat) (buf : Bytes) : Result (Bytes × Bytes) := do
  let bytes ← slice buf 0 n
  pure (bytes, buf.drop n)

/-- `Buf::advance`. -/
def advance (n : Nat) (buf : Bytes) : Result Bytes := sliceFrom buf n

variable {w n : Nat} {buf : Bytes}

theorem get_eq (h : w / 8 ≤ buf.length) :
    get w buf = .ok (wordAt w buf 0, buf.drop (w / 8)) := by
  rw [get, beAt_eq_ok (by omega), ok_bind]
  rfl

theorem get_be (v : BitVec w) (rest : Bytes) (hw : 8 * (w / 8) = w) :
    get w (be v ++ rest) = .ok (v, rest) := by
  rw [get, beAt_be_append v rest hw, ok_bind, List.drop_left' (be_length v)]
  rfl

theorem copyToBytes_eq (h : n ≤ buf.length) :
    copyToBytes n buf = .ok (buf.take n, buf.drop n) := by
  rw [copyToBytes, slice_eq ⟨Nat.zero_le n, h⟩, ok_bind, List.drop_zero]
  rfl

theorem advance_eq (h : n ≤ buf.length) : advance n buf = .ok (buf.drop n) := sliceFrom_eq h

end Buf

/-! ### The message -/

inductive PacketInReason where
  | noMatch | action | invalidTtl | actionSet | group | packetOut
deriving DecidableEq, Repr

def PacketInReason.toU8 : PacketInReason → U8
  | .noMatch => 0
  | .action => 1
  | .invalidTtl => 2
  | .actionSet => 3
  | .group => 4
  | .packetOut => 5

def PacketInReason.ofU8 (v : U8) : Result PacketInReason :=
  match v.toNat with
  | 0 => pure .noMatch
  | 1 => pure .action
  | 2 => pure .invalidTtl
  | 3 => pure .actionSet
  | 4 => pure .group
  | 5 => pure .packetOut
  | _ => parseError s!"unknown packet-in reason: {v.toNat}"

theorem PacketInReason.ofU8_toU8 (reason : PacketInReason) : ofU8 reason.toU8 = .ok reason := by
  cases reason <;> rfl

theorem PacketInReason.ofU8_returns (v : U8) : (ofU8 v).Returns := by
  unfold ofU8
  split <;> exact trivial

structure PacketIn where
  matchFields : Match
  data : Bytes

/-- `PacketIn::in_port`. -/
def PacketIn.inPort (packetIn : PacketIn) : U32 := packetIn.matchFields.inPort.getD 0

/-- The packet with the fixed fields of its message. -/
structure PacketInMessage extends PacketIn where
  bufferId : U32
  totalLen : U16
  reason : PacketInReason
  tableId : U8
  cookie : U64

namespace PacketInMessage

/-- What follows the match header: the OXM fields, padding and the packet. -/
def parseMatch (matchLen : U16) (buf : Bytes) : Result PacketIn :=
  -- the length includes the four bytes of the header
  let oxmLen := matchLen.toNat - 4
  if buf.length < oxmLen then parseError "packet-in match truncated"
  else do
    let (oxmBytes, buf) ← Buf.copyToBytes oxmLen buf
    let matchFields ← Match.decodeOxm oxmBytes
    let paddedMatchLen := pad8 matchLen.toNat
    let padding := paddedMatchLen - matchLen.toNat
    if buf.length < padding then parseError "packet-in padding missing"
    else do
      let buf ← Buf.advance padding buf
      if buf.length < 2 then parseError "packet-in data padding missing"
      else do
        let data ← Buf.advance 2 buf
        pure ⟨matchFields, data⟩

/-- `PacketIn::parse`: a message without its OpenFlow header. -/
def parse (buf : Bytes) : Result PacketInMessage :=
  if buf.length < 20 then parseError "packet-in too short"
  else do
    let (bufferId, buf) ← Buf.get 32 buf
    let (totalLen, buf) ← Buf.get 16 buf
    let (reason, buf) ← Buf.get 8 buf
    let reason ← PacketInReason.ofU8 reason
    let (tableId, buf) ← Buf.get 8 buf
    let (cookie, buf) ← Buf.get 64 buf
    let (matchType, buf) ← Buf.get 16 buf
    let (matchLen, buf) ← Buf.get 16 buf
    if matchType ≠ 1 then parseError s!"unsupported match type: {matchType.toNat}"
    else do
      let packetIn ← parseMatch matchLen buf
      pure ⟨packetIn, bufferId, totalLen, reason, tableId, cookie⟩

/-! ### On arbitrary bytes -/

theorem parseMatch_returns (matchLen : U16) (buf : Bytes) : (parseMatch matchLen buf).Returns := by
  simp only [parseMatch]
  split
  · exact trivial
  · next hoxm =>
    rw [Buf.copyToBytes_eq (Nat.not_lt.mp hoxm), ok_bind]
    dsimp only
    obtain ⟨m, hm⟩ := decodeTlvs_ok Match.new (buf.take (matchLen.toNat - 4))
    rw [Match.decodeOxm, hm, ok_bind]
    split
    · exact trivial
    · next hpadding =>
      rw [Buf.advance_eq (Nat.not_lt.mp hpadding), ok_bind]
      split
      · exact trivial
      · next hdata =>
        rw [Buf.advance_eq (Nat.not_lt.mp hdata), ok_bind]
        exact trivial

/-- The twenty bytes that are checked for are all that the fixed fields read. -/
theorem parse_returns (buf : Bytes) : (parse buf).Returns := by
  rw [parse]
  split
  · exact trivial
  · next h20 =>
    simp (disch := first | omega | (simp only [List.length_drop]; omega)) only [Buf.get_eq, ok_bind]
    rw [returns_bind]
    refine ⟨PacketInReason.ofU8_returns _, fun reason _ => ?_⟩
    split
    · exact trivial
    · exact returns_bind.mpr ⟨parseMatch_returns _ _, fun _ _ => trivial⟩

/-! ### On the message of a switch -/

/-- The body of a Packet-In: fixed fields, the match, two bytes of padding, the packet. -/
def encode (message : PacketInMessage) (pad : U16) : Bytes :=
  be message.bufferId ++ (be message.totalLen ++ (be message.reason.toU8 ++ (be message.tableId
    ++ (be message.cookie ++ (message.matchFields.encode ++ (be pad ++ message.data))))))

/-- The padding is recomputed from the match length, and the packet starts behind it. -/
theorem parseMatch_wire {oxm : Bytes} {m : Match} (hoxm : Match.decodeOxm oxm = .ok m)
    {matchLen : U16} (hlen : matchLen.toNat = 4 + oxm.length) (pad : U16) (data : Bytes) :
    parseMatch matchLen
        (oxm ++ (zeros (pad8 matchLen.toNat - matchLen.toNat) ++ (be pad ++ data))) =
      .ok ⟨m, data⟩ := by
  generalize hpadding : pad8 matchLen.toNat - matchLen.toNat = padding
  have hoxmLen : matchLen.toNat - 4 = oxm.length := by omega
  have hfits : oxm.length ≤ (oxm ++ (zeros padding ++ (be pad ++ data))).length := by
    rw [List.length_append]
    omega
  have hpad : padding ≤ (zeros padding ++ (be pad ++ data)).length := by
    rw [List.length_append, zeros_length]
    omega
  have hdrop : (zeros padding ++ (be pad ++ data)).drop padding = be pad ++ data :=
    List.drop_left' (zeros_length padding)
  have h2 : 2 ≤ (be pad ++ data).length := by
    rw [List.length_append, be_length]
    omega
  have hdata : (be pad ++ data).drop 2 = data := List.drop_left' (be_length pad)
  simp only [parseMatch, hpadding, hoxmLen]
  rw [if_neg (Nat.not_lt.mpr hfits), Buf.copyToBytes_eq hfits, ok_bind]
  dsimp only
  rw [List.take_left, List.drop_left, hoxm, ok_bind, if_neg (Nat.not_lt.mpr hpad),
    Buf.advance_eq hpad, ok_bind, hdrop, if_neg (Nat.not_lt.mpr h2), Buf.advance_eq h2, ok_bind,
    hdata]
  rfl

theorem parse_encode (message : PacketInMessage) (pad : U16)
    (hm : message.matchFields.Representable) :
    parse (message.encode pad) =
      .ok { message with matchFields := message.matchFields.norm } := by
  have h20 : ¬ (message.encode pad).length < 20 := by
    have := le_pad8 (4 + message.matchFields.oxmFields.length)
    simp only [encode, List.length_append, be_length, Match.encode_length]
    omega
  have hlen := oxmFields_length_toNat message.matchFields
  have hmatch := parseMatch_wire (decodeTlvs_oxmFields hm) hlen pad message.data
  rw [hlen] at hmatch
  rw [parse, if_neg h20]
  have htype : ¬ MatchType.oxm.toU16 ≠ 1 := by decide
  simp (disch := rfl) only [encode, Match.encode_eq, List.append_assoc, Buf.get_be, ok_bind,
    PacketInReason.ofU8_toU8, if_neg htype, hmatch]
  rfl

/-- **Parsing returns on every byte string, and it reads the message of a switch back, with the
    match normalised and exactly the bytes of the packet.**  The first part has no condition; the
    second has that of the match round trip. -/
theorem packetIn_parse :
    (∀ buf, (parse buf).Returns) ∧
      ∀ (message : PacketInMessage) (pad : U16), message.matchFields.Representable →
        parse (message.encode pad) =
          .ok { message with matchFields := message.matchFields.norm } :=
  ⟨parse_returns, parse_encode⟩

def webPacketIn : PacketInMessage where
  matchFields := webMatch
  data := [0xde, 0xad, 0xbe, 0xef]
  bufferId := 0xffffffff
  totalLen := 60
  reason := .action
  tableId := 3
  cookie := 7

theorem packetIn_parse_web :
    parse (webPacketIn.encode 0) =
      .ok { webPacketIn with matchFields := webMatch.norm } :=
  packetIn_parse.2 webPacketIn 0 webMatch_representable

end PacketInMessage

end Rovs.OpenFlow

import Mathlib.Logic.Function.Iterate
import Rovs.SwitchLink

/-!
# Messages in the stream of a connection

A message that the client has no name for still says in its header where it ends.
`recvMessage` looks at the version and the type first and fails there, before the body is
read: the bytes of the body stay in the stream, and the next call takes them for a header.
A length that does not even cover the header is not checked.

`recvMessage_inStep_iff` is about every list of messages and about every header.
-/

namespace Rovs.OpenFlow

open Outcome

/-- A message whose version and type may be any bytes. -/
structure RawMessage where
  version : U8
  msgType : U8
  xid : U32
  body : Bytes
  fits : Header.size + body.length < 65536

/-- The version and the type have a name. -/
def KnownHeader (version msgType : U8) : Prop :=
  (∃ v : Version, v.wireVersion = version) ∧ ∃ t : MessageType, t.toU8 = msgType

namespace RawMessage

def length (raw : RawMessage) : U16 := BitVec.ofNat 16 (Header.size + raw.body.length)

def encode (raw : RawMessage) : Bytes :=
  headerBytes raw.version raw.msgType raw.length raw.xid ++ raw.body

def Known (raw : RawMessage) : Prop := KnownHeader raw.version raw.msgType

/-- The message with the names of its version and its type. -/
structure Reads (raw : RawMessage) (msg : Message) : Prop where
  version : msg.header.version.wireVersion = raw.version
  msgType : msg.header.msgType.toU8 = raw.msgType
  length : msg.header.length = raw.length
  xid : msg.header.xid = raw.xid
  body : msg.body = raw.body

/-- The message where it has a name, and else an error. -/
def Received (raw : RawMessage) (result : Result Message) : Prop :=
  (raw.Known ∧ ∃ msg, result = .ok msg ∧ raw.Reads msg) ∨ (¬ raw.Known ∧ ∃ e, result = .err e)

/-- The stream of messages one after the other. -/
def stream (raws : List RawMessage) : Bytes := raws.flatMap encode

end RawMessage

namespace SwitchLink

/-- The connection after so many calls, whatever they return. -/
def after (calls : Nat) (link : SwitchLink) : SwitchLink :=
  (fun link => (recvMessage link).2)^[calls] link

/-- Every call takes its own message from the stream, and no byte of the next one. -/
def InStep (link : SwitchLink) (raws : List RawMessage) (rest : Bytes) : Prop :=
  ∀ k raw, raws[k]? = some raw → raw.Received (recvMessage (after k link)).1 ∧
    (after (k + 1) link).inbound = RawMessage.stream (raws.drop (k + 1)) ++ rest

/-- A length that does not cover the header is an error, and no length is a panic. -/
def LengthChecked (length : U16) (result : Result Message) : Prop :=
  (length.toNat < Header.size → ∃ e, result = .err e) ∧ result ≠ .panic

/-! ### One message -/

theorem ofU8_version_eq_ok {version : U8} {v : Version} (h : Version.ofU8 version = .ok v) :
    v.wireVersion = version := by
  unfold Version.ofU8 at h
  split at h
  case h_7 => cases h
  all_goals
    next hv =>
      cases h
      exact (BitVec.eq_of_toNat_eq hv).symm

theorem ofU8_msgType_eq_ok {msgType : U8} {t : MessageType}
    (h : MessageType.ofU8 msgType = .ok t) : t.toU8 = msgType := by
  unfold MessageType.ofU8 at h
  split at h
  case h_31 => cases h
  all_goals
    next ht =>
      cases h
      exact (BitVec.eq_of_toNat_eq ht).symm

section Header

variable {version msgType : U8} (length : U16) (xid : U32)

theorem decode_known (h : KnownHeader version msgType) :
    ∃ header, Header.decode (headerBytes version msgType length xid) = .ok header ∧
      header.version.wireVersion = version ∧ header.msgType.toU8 = msgType ∧
      header.length = length ∧ header.xid = xid := by
  rcases h with ⟨⟨v, rfl⟩, t, rfl⟩
  refine ⟨⟨v, t, length, xid⟩, ?_, rfl, rfl, rfl, rfl⟩
  rw [Header.decode_headerBytes, Version.ofU8_wireVersion, ok_bind, MessageType.ofU8_toU8]
  rfl

theorem decode_unknown (h : ¬ KnownHeader version msgType) :
    ∃ e, Header.decode (headerBytes version msgType length xid) = .err e := by
  rw [Header.decode_headerBytes]
  rcases returns_iff.mp (Version.ofU8_returns version) with ⟨v, hv⟩ | ⟨e, he⟩
  · rcases returns_iff.mp (MessageType.ofU8_returns msgType) with ⟨t, ht⟩ | ⟨e, he⟩
    · exact absurd ⟨⟨v, ofU8_version_eq_ok hv⟩, t, ofU8_msgType_eq_ok ht⟩ h
    · rw [hv, ok_bind, he]
      exact ⟨e, rfl⟩
  · rw [he]
    exact ⟨e, rfl⟩

variable (conn : VConn) (rest : Bytes) (sent : List Message)

/-- A header without a name is all that is read of its message. -/
theorem recvMessage_unknown (h : ¬ KnownHeader version msgType) :
    ∃ e, recvMessage ⟨conn, headerBytes version msgType length xid ++ rest, sent⟩ =
      (.err e, ⟨conn, rest, sent⟩) := by
  rcases decode_unknown length xid h with ⟨e, he⟩
  refine ⟨e, ?_⟩
  rw [recvMessage_header, he, Program.lift_err_bind]

theorem recvMessage_short (h : KnownHeader version msgType) (hshort : length.toNat < Header.size) :
    recvMessage ⟨conn, headerBytes version msgType length xid ++ rest, sent⟩ =
      (.panic, ⟨conn, rest, sent⟩) := by
  rcases decode_known length xid h with ⟨header, hdecode, -, -, rfl, -⟩
  have hbodyLen : header.bodyLen = .panic := if_neg (Nat.not_le.mpr hshort)
  rw [recvMessage_header, hdecode, Program.lift_ok_bind, hbodyLen, Program.lift_panic_bind]

end Header

theorem readBody_ne_panic (n : Nat) (link : SwitchLink) : (readBody n link).1 ≠ .panic := by
  rw [readBody]
  split
  · rw [readExact]
    split <;> simp
  · simp

theorem recvMessage_long {version msgType : U8} {length : U16} (h : KnownHeader version msgType)
    (hlong : Header.size ≤ length.toNat) (conn : VConn) (xid : U32) (rest : Bytes)
    (sent : List Message) :
    (recvMessage ⟨conn, headerBytes version msgType length xid ++ rest, sent⟩).1 ≠ .panic := by
  rcases decode_known length xid h with ⟨header, hdecode, -, -, rfl, -⟩
  have hbodyLen : header.bodyLen = .ok (header.length.toNat - Header.size) := if_pos hlong
  have hbody := readBody_ne_panic (header.length.toNat - Header.size) ⟨conn, rest, sent⟩
  rw [recvMessage_header, hdecode, Program.lift_ok_bind, hbodyLen, Program.lift_ok_bind,
    Program.bind_run, Program.bind]
  rcases hread : readBody (header.length.toNat - Header.size) ⟨conn, rest, sent⟩ with
    ⟨body | e | _ | _, link⟩
  case panic =>
    rw [hread] at hbody
    exact absurd rfl hbody
  case ok => simp
  case err => simp
  case hang => simp

section Raw

variable {raw : RawMessage} (conn : VConn) (rest : Bytes) (sent : List Message)

theorem recvMessage_known (h : raw.Known) :
    ∃ msg, raw.Reads msg ∧ recvMessage ⟨conn, raw.encode ++ rest, sent⟩ =
      (.ok msg, ⟨conn, rest, sent⟩) := by
  rcases h with ⟨⟨v, hv⟩, t, ht⟩
  have hencode : raw.encode = (Message.mk ⟨v, t, raw.length, raw.xid⟩ raw.body).encode := by
    rw [RawMessage.encode, ← hv, ← ht]
    rfl
  refine ⟨⟨⟨v, t, raw.length, raw.xid⟩, raw.body⟩, ⟨hv, ht, rfl, rfl, rfl⟩, ?_⟩
  rw [hencode]
  apply recvMessage_framed
  rw [Message.Framed, RawMessage.length, BitVec.toNat_ofNat]
  exact Nat.mod_eq_of_lt raw.fits

theorem recvMessage_unnamed (h : ¬ raw.Known) :
    ∃ e, recvMessage ⟨conn, raw.encode ++ rest, sent⟩ =
      (.err e, ⟨conn, raw.body ++ rest, sent⟩) := by
  rw [RawMessage.encode, List.append_assoc]
  exact recvMessage_unknown raw.length raw.xid conn (raw.body ++ rest) sent h

end Raw

/-! ### A run of calls -/

section Run

variable {link : SwitchLink} {raw : RawMessage} {raws : List RawMessage} {rest : Bytes}

theorem inStep_nil : link.InStep [] rest := by
  intro k raw hraw
  cases hraw

theorem inStep_cons : link.InStep (raw :: raws) rest ↔
    raw.Received (recvMessage link).1 ∧
      (recvMessage link).2.inbound = RawMessage.stream raws ++ rest ∧
        (recvMessage link).2.InStep raws rest := by
  constructor
  · intro h
    rcases h 0 raw rfl with ⟨hreceived, hinbound⟩
    exact ⟨hreceived, hinbound, fun k raw' hraw' => h (k + 1) raw' hraw'⟩
  · rintro ⟨hreceived, hinbound, hrest⟩ k raw' hraw'
    cases k with
    | zero =>
      cases hraw'
      exact ⟨hreceived, hinbound⟩
    | succ k => exact hrest k raw' hraw'

/-- The calls are in step exactly if no message without a name has a body. -/
theorem inStep_stream_iff (hinbound : link.inbound = RawMessage.stream raws ++ rest) :
    link.InStep raws rest ↔ ∀ raw ∈ raws, raw.Known ∨ raw.body = [] := by
  induction raws generalizing link with
  | nil => exact ⟨fun _ _ h => absurd h List.not_mem_nil, fun _ => inStep_nil⟩
  | cons raw raws ih =>
    obtain ⟨conn, inbound, sent⟩ := link
    obtain rfl : inbound = raw.encode ++ (RawMessage.stream raws ++ rest) := by
      rw [← List.append_assoc]
      exact hinbound
    rw [inStep_cons, List.forall_mem_cons]
    by_cases hknown : raw.Known
    · rcases recvMessage_known conn (RawMessage.stream raws ++ rest) sent hknown with
        ⟨msg, hreads, hrecv⟩
      rw [hrecv, ih rfl]
      constructor
      · intro h
        exact ⟨.inl hknown, h.2.2⟩
      · intro h
        exact ⟨.inl ⟨hknown, msg, rfl, hreads⟩, rfl, h.2⟩
    · rcases recvMessage_unnamed conn (RawMessage.stream raws ++ rest) sent hknown with ⟨e, hrecv⟩
      rw [hrecv]
      constructor
      · rintro ⟨-, hleft, hrest⟩
        have hbody : raw.body = [] := by
          have hlen := congrArg List.length hleft
          rw [List.length_append] at hlen
          exact List.eq_nil_of_length_eq_zero (by omega)
        exact ⟨.inr hbody, (ih hleft).mp hrest⟩
      · rintro ⟨hraw, hraws⟩
        have hbody : raw.body = [] := hraw.resolve_left hknown
        have hleft : raw.body ++ (RawMessage.stream raws ++ rest) =
            RawMessage.stream raws ++ rest := by rw [hbody, List.nil_append]
        exact ⟨.inr ⟨hknown, e, rfl⟩, hleft, (ih hleft).mpr hraws⟩

end Run

/-- **The calls keep in step with the messages exactly if no message without a name has a
    body, and a length that does not cover the header is reported exactly if the header has
    no name.** -/
theorem recvMessage_inStep_iff (conn : VConn) (rest : Bytes) (sent : List Message) :
    (∀ raws : List RawMessage,
      InStep ⟨conn, RawMessage.stream raws ++ rest, sent⟩ raws rest ↔
        ∀ raw ∈ raws, raw.Known ∨ raw.body = []) ∧
    ∀ (version msgType : U8) (length : U16) (xid : U32),
      LengthChecked length
          (recvMessage ⟨conn, headerBytes version msgType length xid ++ rest, sent⟩).1 ↔
        Header.size ≤ length.toNat ∨ ¬ KnownHeader version msgType := by
  refine ⟨fun raws => inStep_stream_iff rfl, fun version msgType length xid => ?_⟩
  by_cases hknown : KnownHeader version msgType
  · by_cases hlong : Header.size ≤ length.toNat
    · have hpanic := recvMessage_long hknown hlong conn xid rest sent
      exact ⟨fun _ => .inl hlong, fun _ => ⟨fun hshort => absurd hshort (Nat.not_lt.mpr hlong),
        hpanic⟩⟩
    · rw [recvMessage_short length xid conn rest sent hknown (Nat.not_le.mp hlong)]
      exact ⟨fun h => absurd rfl h.2, fun h => absurd hknown (h.resolve_left hlong)⟩
  · rcases recvMessage_unknown length xid conn rest sent hknown with ⟨e, he⟩
    rw [he]
    exact ⟨fun _ => .inr hknown, fun _ => ⟨fun _ => ⟨e, rfl⟩, nofun⟩⟩

/-- A role status of OpenFlow 1.4, whose type has no name, before a greeting. -/
def roleStatus : List RawMessage :=
  [⟨0x05, 30, 0, zeros 16, by decide⟩, ⟨0x05, 0, 1, [], by decide⟩]

theorem roleStatus_outOfStep :
    ¬ ∀ (conn : VConn) (raws : List RawMessage),
      InStep ⟨conn, RawMessage.stream raws, []⟩ raws [] := by
  intro h
  have hinbound := (h ⟨.of14, 1⟩ roleStatus 0 _ rfl).2
  revert hinbound
  decide

end SwitchLink

end Rovs.OpenFlow

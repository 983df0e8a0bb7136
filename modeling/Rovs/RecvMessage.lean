import Rovs.Framing
import Rovs.JsonText
import Rovs.RpcMessage

/-!
# Receiving a message (`rovs-jsonrpc/src/connection.rs`, `recv_message`)

An OVSDB server puts nothing behind a message, so the end of a message is found by
counting braces.  The scanner goes over the buffer from its start, and again after every
read; it tracks how many braces are open, whether it is inside a string, and whether the
next byte is escaped.  The bytes it finds are given to the JSON library, which is a
parameter of the model.
-/

namespace Rovs.JsonRpc

open Json JsonText

/-! ### The scanner -/

structure ScanState where
  depth : BitVec 32
  inString : Bool
  escapeNext : Bool
  jsonStart : Option Nat
deriving DecidableEq, Repr

namespace ScanState

def start : ScanState where
  depth := 0
  inString := false
  escapeNext := false
  jsonStart := none

/-- One byte inside an object, and whether the object ends with it. -/
def inObject (s : ScanState) (byte : U8) : ScanState × Bool :=
  if s.escapeNext then ({ s with escapeNext := false }, false)
  else if byte = backslash ∧ s.inString then ({ s with escapeNext := true }, false)
  else if byte = quote then ({ s with inString := !s.inString }, false)
  else if byte = openBrace ∧ !s.inString then ({ s with depth := s.depth + 1 }, false)
  else if byte = closeBrace ∧ !s.inString then
    ({ s with depth := s.depth - 1 }, s.depth - 1 = 0)
  else (s, false)

/-- The object begins with the first opening brace. -/
def seek (s : ScanState) (i : Nat) (byte : U8) : ScanState :=
  if s.jsonStart = none ∧ byte = openBrace then { s with jsonStart := some i } else s

end ScanState

/-- The first object in the bytes that stand from place `i` on: the places of its first
    and of its last byte. -/
def findObject (s : ScanState) (i : Nat) : Bytes → Option (Nat × Nat)
  | [] => none
  | byte :: bytes =>
    let s := s.seek i byte
    match s.jsonStart with
    | none => findObject s (i + 1) bytes
    | some first =>
      match s.inObject byte with
      | (_, true) => some (first, i)
      | (s, false) => findObject s (i + 1) bytes

/-! ### The connection -/

/-- The JSON library: the value of a text, if it is one.  A text that is nested deeper
    than 128 levels is refused. -/
structure SerdeJson where
  parse : Bytes → Option Value
  recursionLimit : ∀ {n text v}, IsObject n text → parse text = some v → IsObject 128 text

/-- `serde_json::from_slice::<Message>`. -/
def SerdeJson.fromSlice (serde : SerdeJson) (text : Bytes) : Option Message :=
  (serde.parse text).bind Message.ofJson

/-- The bytes are taken out of the buffer only behind the `?` of the deserialization. -/
def recvMessage (serde : SerdeJson) (reader : Reader U8) : Result Message × Reader U8 :=
  match Reader.fill (findObject .start 0) reader.buf reader.chunks with
  | (some (first, last), reader) =>
    match serde.fromSlice ((reader.buf.take (last + 1)).drop first) with
    | some msg => (.ok msg, { reader with buf := reader.buf.drop (last + 1) })
    | none => (.err .json, reader)
  | (none, reader) => (.err .connectionClosed, reader)

/-- The results of successive calls, and the reader behind them. -/
def recvMessages (serde : SerdeJson) : Nat → Reader U8 → List (Result Message) × Reader U8
  | 0, reader => ([], reader)
  | n + 1, reader =>
    let (result, reader) := recvMessage serde reader
    let (results, reader) := recvMessages serde n reader
    (result :: results, reader)

/-! ### What the scanner passes over -/

/-- The scanner goes over the text from one state to another and ends no object in it. -/
def Passes (s : ScanState) (text : Bytes) (s' : ScanState) : Prop :=
  ∀ i rest, findObject s i (text ++ rest) = findObject s' (i + text.length) rest

namespace Passes

variable {s s' s'' : ScanState} {text more : Bytes}

theorem nil : Passes s [] s := by
  intro i rest
  rfl

theorem append (h : Passes s text s') (h' : Passes s' more s'') :
    Passes s (text ++ more) s'' := by
  intro i rest
  rw [List.append_assoc, h, h', List.length_append, Nat.add_assoc]

theorem cons {byte : U8} {first : Nat} (hstart : s.jsonStart = some first)
    (hbyte : s.inObject byte = (s', false)) (h : Passes s' text s'') :
    Passes s (byte :: text) s'' := by
  intro i rest
  have hseek : s.seek i byte = s := by simp [ScanState.seek, hstart]
  have hstep : findObject s i (byte :: (text ++ rest)) =
      findObject s' (i + 1) (text ++ rest) := by
    simp [findObject, hseek, hstart, hbyte]
  rw [List.cons_append, hstep, h, List.length_cons, Nat.add_assoc, Nat.add_comm 1]

end Passes

end Rovs.JsonRpc

import Rovs.OpenFlowError

/-!
# OpenFlow messages (`rovs-openflow/src/message.rs`)

A message is a header of eight bytes and a body.  The header carries the protocol
version, the type, the length of the whole message and the transaction id.
-/

namespace Rovs.OpenFlow

inductive Version where
  | of10 | of11 | of12 | of13 | of14 | of15
deriving DecidableEq, Repr

def Version.wireVersion : Version → U8
  | .of10 => 0x01
  | .of11 => 0x02
  | .of12 => 0x03
  | .of13 => 0x04
  | .of14 => 0x05
  | .of15 => 0x06

inductive MessageType where
  | hello | error | echoRequest | echoReply | experimenter
  | featuresRequest | featuresReply | getConfigRequest | getConfigReply | setConfig
  | packetIn | flowRemoved | portStatus
  | packetOut | flowMod | groupMod | portMod | tableMod
  | multipartRequest | multipartReply
  | barrierRequest | barrierReply
  | roleRequest | roleReply
  | getAsyncRequest | getAsyncReply | setAsync
  | meterMod
  | bundleControl | bundleAddMessage
deriving DecidableEq, Repr

def MessageType.toU8 : MessageType → U8
  | .hello => 0
  | .error => 1
  | .echoRequest => 2
  | .echoReply => 3
  | .experimenter => 4
  | .featuresRequest => 5
  | .featuresReply => 6
  | .getConfigRequest => 7
  | .getConfigReply => 8
  | .setConfig => 9
  | .packetIn => 10
  | .flowRemoved => 11
  | .portStatus => 12
  | .packetOut => 13
  | .flowMod => 14
  | .groupMod => 15
  | .portMod => 16
  | .tableMod => 17
  | .multipartRequest => 18
  | .multipartReply => 19
  | .barrierRequest => 20
  | .barrierReply => 21
  | .roleRequest => 24
  | .roleReply => 25
  | .getAsyncRequest => 26
  | .getAsyncReply => 27
  | .setAsync => 28
  | .meterMod => 29
  | .bundleControl => 33
  | .bundleAddMessage => 34

structure Header where
  version : Version
  msgType : MessageType
  length : U16
  xid : U32
deriving DecidableEq, Repr

/-- `Header::SIZE`. -/
def Header.size : Nat := 8

def Header.encode (header : Header) : Bytes :=
  be header.version.wireVersion ++ be header.msgType.toU8 ++ be header.length ++ be header.xid

structure Message where
  header : Header
  body : Bytes
deriving DecidableEq, Repr

def Message.new (version : Version) (msgType : MessageType) (xid : U32) (body : Bytes) :
    Message where
  header := ⟨version, msgType, BitVec.ofNat 16 (Header.size + body.length), xid⟩
  body := body

def Message.encode (msg : Message) : Bytes := msg.header.encode ++ msg.body

section New

variable (version : Version) (msgType : MessageType) (xid : U32) (body : Bytes)

@[simp] theorem Message.new_msgType :
    (Message.new version msgType xid body).header.msgType = msgType := rfl

@[simp] theorem Message.new_body : (Message.new version msgType xid body).body = body := rfl

end New

end Rovs.OpenFlow

import Rovs.MatchFields

/-!
# Neighbor Discovery (`rovs-openflow/src/ndp.rs`)

A controller that answers for IPv6 addresses parses Neighbor Solicitations from the
frames that a switch reports, and builds the Neighbor Advertisements that answer
them.  A parser here is an outcome whose error is the source's `None`; slices and
indices panic out of bounds as they do in the source.
-/

namespace Rovs.OpenFlow.Ndp

open Outcome

/-- What a function that returns `Option` comes to; `none` is the error. -/
abbrev Parsed (α : Type) := Outcome Unit α

def ethHeaderLen : Nat := 14
def ipv6HeaderLen : Nat := 40
def icmpv6HeaderLen : Nat := 4
def ndBodyLen : Nat := 20

def ethertypeIpv6 : U16 := 0x86dd
def ipprotoIcmpv6 : U8 := 58
def icmpv6NeighborSolicitation : U8 := 135
def icmpv6NeighborAdvertisement : U8 := 136
def ndpOptSourceLlAddr : U8 := 1
def ndpOptTargetLlAddr : U8 := 2

/-! ### Headers -/

structure EthernetFrame where
  dstMac : MacAddr
  srcMac : MacAddr
  ethertype : U16
  payloadOffset : Nat
deriving DecidableEq, Repr

def EthernetFrame.parse (data : Bytes) : Parsed EthernetFrame :=
  if data.length < ethHeaderLen then .err ()
  else do
    let dstMac ← beAt 48 data 0
    let srcMac ← beAt 48 data 6
    let ethertype ← beAt 16 data 12
    pure ⟨dstMac, srcMac, ethertype, ethHeaderLen⟩

def EthernetFrame.encode (eth : EthernetFrame) : Bytes :=
  be eth.dstMac ++ be eth.srcMac ++ be eth.ethertype

structure Ipv6Header where
  trafficClass : U8
  flowLabel : U32
  payloadLen : U16
  nextHeader : U8
  hopLimit : U8
  srcAddr : Ipv6Addr
  dstAddr : Ipv6Addr
deriving DecidableEq, Repr

def Ipv6Header.parse (data : Bytes) : Parsed Ipv6Header :=
  if data.length < ipv6HeaderLen then .err ()
  else do
    let data0 ← beAt 8 data 0
    -- version (4 bits), traffic class (8 bits), flow label (20 bits)
    let version := (data0 >>> 4) &&& 0x0f
    if version ≠ 6 then .err ()
    else do
      let data1 ← beAt 8 data 1
      let data2 ← beAt 8 data 2
      let data3 ← beAt 8 data 3
      let trafficClass := ((data0 &&& 0x0f) <<< 4) ||| ((data1 >>> 4) &&& 0x0f)
      let flowLabel : U32 := ((data1.setWidth 32 &&& 0x0f) <<< 16) ||| (data2.setWidth 32 <<< 8)
        ||| data3.setWidth 32
      let payloadLen ← beAt 16 data 4
      let nextHeader ← beAt 8 data 6
      let hopLimit ← beAt 8 data 7
      let srcAddr ← beAt 128 data 8
      let dstAddr ← beAt 128 data 24
      pure ⟨trafficClass, flowLabel, payloadLen, nextHeader, hopLimit, srcAddr, dstAddr⟩

def Ipv6Header.encode (ipv6 : Ipv6Header) : Bytes :=
  [0x60 ||| ((ipv6.trafficClass >>> 4) &&& 0x0f),
    ((ipv6.trafficClass &&& 0x0f) <<< 4) ||| ((ipv6.flowLabel >>> 16).setWidth 8 &&& 0x0f),
    (ipv6.flowLabel >>> 8).setWidth 8,
    ipv6.flowLabel.setWidth 8]
    ++ be ipv6.payloadLen ++ be ipv6.nextHeader ++ be ipv6.hopLimit
    ++ be ipv6.srcAddr ++ be ipv6.dstAddr

/-! ### Solicitations -/

structure NeighborSolicitation where
  targetAddr : Ipv6Addr
  sourceLlAddr : Option MacAddr
deriving DecidableEq, Repr

/-- One pass of the option loop: the address found so far and the bytes still unread. -/
def optionsPass (s : Option MacAddr × Bytes) :
    Parsed (Pass (Option MacAddr × Bytes) (Option MacAddr)) :=
  let (sourceLlAddr, data) := s
  if 2 ≤ data.length then do
    let optType ← beAt 8 data 0
    let units ← beAt 8 data 1
    -- the length is in units of eight bytes
    let optLen := units.toNat * 8
    if optLen = 0 then pure (.leave sourceLlAddr)
    else if optLen > data.length then pure (.leave sourceLlAddr)
    else if optType = ndpOptSourceLlAddr ∧ 8 ≤ optLen then do
      let mac ← beAt 48 data 2
      pure (.again (some mac, data.drop optLen))
    else pure (.again (sourceLlAddr, data.drop optLen))
  else pure (.leave sourceLlAddr)

/-- The option loop of `NeighborSolicitation::parse`. -/
def parseOptions (sourceLlAddr : Option MacAddr) (data : Bytes) : Parsed (Option MacAddr) :=
  loop optionsPass (data.length + 1) (sourceLlAddr, data)

/-- `NeighborSolicitation::parse`, on the bytes from the ICMPv6 header on. -/
def NeighborSolicitation.parse (data : Bytes) : Parsed NeighborSolicitation :=
  if data.length < icmpv6HeaderLen + ndBodyLen then .err ()
  else do
    let icmpType ← beAt 8 data 0
    if icmpType ≠ icmpv6NeighborSolicitation then .err ()
    else do
      let targetAddr ← beAt 128 data 8
      let sourceLlAddr ← parseOptions none (data.drop 24)
      pure ⟨targetAddr, sourceLlAddr⟩

/-- `parse_neighbor_solicitation`. -/
def parseNeighborSolicitation (data : Bytes) :
    Parsed (EthernetFrame × Ipv6Header × NeighborSolicitation) := do
  let eth ← EthernetFrame.parse data
  if eth.ethertype ≠ ethertypeIpv6 then .err ()
  else do
    let packet ← sliceFrom data eth.payloadOffset
    let ipv6 ← Ipv6Header.parse packet
    if ipv6.nextHeader ≠ ipprotoIcmpv6 then .err ()
    else do
      let icmpv6Offset := eth.payloadOffset + ipv6HeaderLen
      let message ← sliceFrom data icmpv6Offset
      let ns ← NeighborSolicitation.parse message
      pure (eth, ipv6, ns)

/-! ### Advertisements -/

structure NeighborAdvertisement where
  targetAddr : Ipv6Addr
  targetLlAddr : MacAddr
  isRouter : Bool := false
  isSolicited : Bool := true
  isOverride : Bool := true
deriving DecidableEq, Repr

/-- `NeighborAdvertisement::new`. -/
def NeighborAdvertisement.new (targetAddr : Ipv6Addr) (targetLlAddr : MacAddr) :
    NeighborAdvertisement where
  targetAddr := targetAddr
  targetLlAddr := targetLlAddr

def NeighborAdvertisement.solicited (na : NeighborAdvertisement) (isSolicited : Bool) :
    NeighborAdvertisement :=
  { na with isSolicited := isSolicited }

/-- The flags R, S and O in the high bits of their word. -/
def NeighborAdvertisement.flags (na : NeighborAdvertisement) : U32 :=
  (if na.isRouter then 0x80000000 else 0) ||| (if na.isSolicited then 0x40000000 else 0)
    ||| (if na.isOverride then 0x20000000 else 0)

/-- `NeighborAdvertisement::encode_icmpv6`: the checksum is left zero. -/
def NeighborAdvertisement.encodeIcmpv6 (na : NeighborAdvertisement) : Bytes :=
  be icmpv6NeighborAdvertisement ++ [0] ++ [0, 0] ++ be na.flags ++ be na.targetAddr
    ++ be ndpOptTargetLlAddr ++ [1] ++ be na.targetLlAddr

/-! ### The checksum -/

section Checksum

variable (checks : Bool)

/-- The words of an address are added to the sum. -/
def addChunks (sum : U32) : Bytes → Result U32
  | hi :: lo :: rest => do
      let sum ← addIn checks sum (BitVec.ofNat 32 (fromBe [hi, lo]))
      addChunks sum rest
  | [_] => .panic
  | [] => pure sum

/-- The words of the message are added to the sum, a last odd byte as a high byte. -/
def addData (sum : U32) : Bytes → Result U32
  | hi :: lo :: rest => do
      let sum ← addIn checks sum (BitVec.ofNat 32 (fromBe [hi, lo]))
      addData sum rest
  | [last] => addIn checks sum (last.setWidth 32 <<< 8)
  | [] => pure sum

/-- One pass of the folding loop. -/
def foldPass (sum : U32) : Result (Pass U32 U32) :=
  if sum >>> 16 ≠ 0 then do
    let sum ← addIn checks (sum &&& 0xffff) (sum >>> 16)
    pure (.again sum)
  else pure (.leave sum)

/-- `icmpv6_checksum`, in a build with or without overflow checks. -/
def icmpv6Checksum (src dst : Ipv6Addr) (icmpv6Data : Bytes) : Result U16 := do
  let sum ← addChunks checks 0 (be src)
  let sum ← addChunks checks sum (be dst)
  let sum ← addIn checks sum (BitVec.ofNat 32 icmpv6Data.length)
  let sum ← addIn checks sum (ipprotoIcmpv6.setWidth 32)
  let sum ← addData checks sum icmpv6Data
  let sum ← loop (foldPass checks) (sum.toNat + 1) sum
  pure ((~~~sum).setWidth 16)

/-- `icmpv6_data[2] = (checksum >> 8) as u8; icmpv6_data[3] = checksum as u8;`. -/
def insertChecksum (icmpv6Data : Bytes) (checksum : U16) : Bytes :=
  (icmpv6Data.set 2 ((checksum >>> 8).setWidth 8)).set 3 (checksum.setWidth 8)

/-! ### The reply -/

/-- `ff02::1`. -/
def allNodes : Ipv6Addr := 0xff020000000000000000000000000001

/-- `Ipv6Addr::is_unspecified`. -/
def isUnspecified (addr : Ipv6Addr) : Bool := addr = 0

/-- `build_na_reply`. -/
def buildNaReply (nsEth : EthernetFrame) (nsIpv6 : Ipv6Header) (ns : NeighborSolicitation)
    (ourMac : MacAddr) (ourIpv6 : Ipv6Addr) : Result Bytes := do
  let dstMac := ns.sourceLlAddr.getD nsEth.srcMac
  let dstIpv6 := if isUnspecified nsIpv6.srcAddr then allNodes else nsIpv6.srcAddr
  let na := (NeighborAdvertisement.new ourIpv6 ourMac).solicited (!isUnspecified nsIpv6.srcAddr)
  let icmpv6Data := na.encodeIcmpv6
  let checksum ← icmpv6Checksum checks ourIpv6 dstIpv6 icmpv6Data
  let icmpv6Data := insertChecksum icmpv6Data checksum
  let ipv6 : Ipv6Header :=
    { trafficClass := 0
      flowLabel := 0
      payloadLen := BitVec.ofNat 16 icmpv6Data.length
      nextHeader := ipprotoIcmpv6
      hopLimit := 255
      srcAddr := ourIpv6
      dstAddr := dstIpv6 }
  let eth : EthernetFrame :=
    { dstMac := dstMac
      srcMac := ourMac
      ethertype := ethertypeIpv6
      payloadOffset := 0 }
  pure (eth.encode ++ ipv6.encode ++ icmpv6Data)

end Checksum

end Rovs.OpenFlow.Ndp

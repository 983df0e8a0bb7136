import Mathlib.Algebra.GroupWithZero.Nat
import Rovs.ActionFrames
import Rovs.Flow
import Rovs.MatchRoundTrip

/-!
# Sizes on the wire

How many bytes a match, an action, an instruction and a learn spec take, read off the value
itself: a condition of a match takes the width of its field, twice that with a mask; an action
takes a whole number of eight-byte blocks; a list takes the sum.
-/

namespace Rovs.OpenFlow

/-! ### Matches -/

/-- A condition of `n` bytes behind a field header. -/
def condSize {α : Type} (n : Nat) (value : Option α) : Nat :=
  match value with
  | some _ => 4 + n
  | none => 0

/-- A condition that has its mask behind its value. -/
def maskedSize {α : Type} (n : Nat) (value : Option α) (mask : Option α) : Nat :=
  match value, mask with
  | some _, some _ => 4 + 2 * n
  | some _, none => 4 + n
  | none, _ => 0

/-- An address condition, which has a mask where its prefix is shorter than the address. -/
def prefixedSize {α : Type} (n : Nat) (full : U8) (value : Option α) (prefixLen : Option U8) :
    Nat :=
  match value, prefixLen with
  | some _, some p => if p < full then 4 + 2 * n else 4 + n
  | some _, none => 4 + n
  | none, _ => 0

/-- `ct_state`, whose all-ones mask is not written. -/
def ctStateSize (state mask : Option U32) : Nat :=
  match state, mask with
  | some _, some k => if k = 0xffffffff then 8 else 12
  | some _, none => 8
  | none, _ => 0

/-- The bytes of the OXM fields of a match. -/
def Match.wireSize (m : Match) : Nat := List.sum [
    condSize 4 m.inPort, condSize 4 m.inPhyPort, maskedSize 8 m.metadata m.metadataMask,
    maskedSize 6 m.ethDst m.ethDstMask, maskedSize 6 m.ethSrc m.ethSrcMask, condSize 2 m.ethType,
    condSize 2 m.vlanVid, condSize 1 m.vlanPcp, condSize 1 m.ipDscp, condSize 1 m.ipEcn,
    condSize 1 m.ipProto, prefixedSize 4 32 m.ipv4Src m.ipv4SrcMask,
    prefixedSize 4 32 m.ipv4Dst m.ipv4DstMask, condSize 2 m.tcpSrc, condSize 2 m.tcpDst,
    condSize 2 m.udpSrc, condSize 2 m.udpDst, condSize 1 m.icmpType, condSize 1 m.icmpCode,
    condSize 1 m.icmpv6Type, condSize 1 m.icmpv6Code, condSize 2 m.arpOp, condSize 4 m.arpSpa,
    condSize 4 m.arpTpa, condSize 6 m.arpSha, condSize 6 m.arpTha,
    prefixedSize 16 128 m.ipv6Src m.ipv6SrcMask, prefixedSize 16 128 m.ipv6Dst m.ipv6DstMask,
    condSize 4 m.ipv6Flabel, condSize 8 m.tunnelId, ctStateSize m.ctState m.ctStateMask,
    condSize 2 m.ctZone, maskedSize 4 m.ctMark m.ctMarkMask]

section Conditions

variable {w : Nat} {length length' field full : U8} {class_ : OxmClass}

theorem ifSome_encodeValue_length (o : Option (BitVec w)) :
    (ifSome o (encodeValue length class_ field)).length = condSize (w / 8) o := by
  cases o with
  | none => rfl
  | some v => exact encodeValue_length v

theorem encodeWithMask_length (o k : Option (BitVec w)) :
    (encodeWithMask (encodeValue length class_ field) (encodeMasked length' class_ field)
      o k).length = maskedSize (w / 8) o k := by
  cases o with
  | none => rfl
  | some v =>
    cases k with
    | none => exact encodeValue_length v
    | some k => exact encodeMasked_length v k

theorem encodeWithPrefix_length {toMask : U8 → BitVec w} (o : Option (BitVec w))
    (p : Option U8) :
    (encodeWithPrefix (encodeValue length class_ field) (encodeMasked length' class_ field)
      toMask full o p).length = prefixedSize (w / 8) full o p := by
  cases o with
  | none => rfl
  | some v =>
    cases p with
    | none => exact encodeValue_length v
    | some p =>
      rw [encodeWithPrefix, ifSome_some, prefixedSize]
      dsimp only
      split
      · exact encodeMasked_length v _
      · exact encodeValue_length v

theorem encodeCtStateCondition_length (state mask : Option U32) :
    (encodeCtStateCondition state mask).length = ctStateSize state mask := by
  cases state with
  | none => rfl
  | some s =>
    cases mask with
    | none => exact encodeValue_length s
    | some k =>
      rw [encodeCtStateCondition, ifSome_some, ctStateSize]
      dsimp only
      split
      · exact encodeValue_length s
      · exact encodeMasked_length s k

end Conditions

/-- The conditions of a match have the size that is counted for them, field by field in the order of
    the encoder. -/
theorem Match.oxmFields_length (m : Match) : m.oxmFields.length = m.wireSize := by
  have hvid : (basic encodeU16 .vlanVid (m.vlanVid.map (· ||| 0x1000))).length =
      condSize 2 m.vlanVid := by
    cases m.vlanVid with
    | none => rfl
    | some vid => exact encodeValue_length (vid ||| 0x1000)
  rw [Match.oxmFields, Match.wireSize, List.length_flatten]
  congr 1
  simp only [List.map_cons, List.map_nil, encodeIpv6Prefix, encodeIpv6_eq, encodeIpv6Masked_eq,
    List.cons.injEq]
  exact ⟨ifSome_encodeValue_length _, ifSome_encodeValue_length _, encodeWithMask_length _ _,
    encodeWithMask_length _ _, encodeWithMask_length _ _, ifSome_encodeValue_length _, hvid,
    ifSome_encodeValue_length _, ifSome_encodeValue_length _, ifSome_encodeValue_length _,
    ifSome_encodeValue_length _, encodeWithPrefix_length _ _, encodeWithPrefix_length _ _,
    ifSome_encodeValue_length _, ifSome_encodeValue_length _, ifSome_encodeValue_length _,
    ifSome_encodeValue_length _, ifSome_encodeValue_length _, ifSome_encodeValue_length _,
    ifSome_encodeValue_length _, ifSome_encodeValue_length _, ifSome_encodeValue_length _,
    ifSome_encodeValue_length _, ifSome_encodeValue_length _, ifSome_encodeValue_length _,
    ifSome_encodeValue_length _, encodeWithPrefix_length _ _, encodeWithPrefix_length _ _,
    ifSome_encodeValue_length _, ifSome_encodeValue_length _, encodeCtStateCondition_length _ _,
    ifSome_encodeValue_length _, encodeWithMask_length _ _, trivial⟩

theorem Match.encode_wireSize (m : Match) : m.encode.length = pad8 (4 + m.wireSize) := by
  rw [Match.encode_length, Match.oxmFields_length]

/-! ### Actions -/

def LearnSpec.wireSize : LearnSpec → Nat
  | .matchField _ _ _ => 14
  | .matchImmediate _ _ nBits => 8 + learnValueLen nBits
  | .loadField _ _ _ => 14
  | .loadImmediate _ _ nBits => 8 + learnValueLen nBits
  | .outputField _ _ => 8

def NatConfig.wireSize (nat : NatConfig) : Nat :=
  pad8 (16 + ((if nat.ipv4Min.isSome then 4 else 0) + (if nat.ipv4Max.isSome then 4 else 0)
    + (if nat.ipv6Min.isSome then 16 else 0) + (if nat.ipv6Max.isSome then 16 else 0)
    + (if nat.portMin.isSome then 2 else 0) + (if nat.portMax.isSome then 2 else 0)))

def Action.wireSize : Action → Nat
  | .output _ => 16
  | .drop => 0
  | .controller _ => 16
  | .setEthSrc _ => 16
  | .setEthDst _ => 16
  | .setVlanVid _ => 16
  | .pushVlan _ => 8
  | .popVlan => 8
  | .setIpv4Src _ => 16
  | .setIpv4Dst _ => 16
  | .setTpSrc _ => 16
  | .setTpDst _ => 16
  | .setTtl _ => 8
  | .decTtl => 8
  | .gotoTable _ => 0
  | .writeMetadata _ _ => 0
  | .meter _ => 0
  | .group _ => 8
  | .setTunnelId _ => 24
  | .nxResubmit _ _ => 16
  | .nxLearn learn => pad8 (32 + (learn.specs.map LearnSpec.wireSize).sum)
  | .nxCt _ _ _ => 24
  | .nxCtNat _ _ _ nat => pad8 (24 + nat.wireSize)
  | .nxMove _ _ _ _ _ => 24
  | .nxRegLoad _ _ _ _ => 24

def ActionList.wireSize (l : ActionList) : Nat := pad8 (l.actions.map Action.wireSize).sum

def Instruction.wireSize : Instruction → Nat
  | .gotoTable _ => 8
  | .writeMetadata _ _ => 24
  | .applyActions actions => 8 + actions.wireSize
  | .writeActions actions => 8 + actions.wireSize
  | .clearActions => 8
  | .meter _ => 8

def InstructionList.wireSize (l : InstructionList) : Nat :=
  (l.instructions.map Instruction.wireSize).sum

theorem flatMap_length {α : Type} {write : α → Bytes} {size : α → Nat} (xs : List α)
    (h : ∀ x ∈ xs, (write x).length = size x) :
    (xs.flatMap write).length = (xs.map size).sum := by
  rw [List.length_flatMap]
  congr 1
  exact List.map_congr_left h

theorem encodeLearnSpec_length (spec : LearnSpec) :
    (encodeLearnSpec spec).length = spec.wireSize := by
  cases spec <;>
    simp only [encodeLearnSpec, LearnSpec.wireSize, encodeLearnSubfield, List.length_append,
      be_length, LearnSpec.encodeLearnValue_length] <;> omega

theorem encodeNxNat_length (nat : NatConfig) : (encodeNxNat nat).length = nat.wireSize :=
  resize_length _ _

/-- Every kind of action writes as many bytes as are counted for it, padding included; instructions
    among the actions write none. -/
theorem Action.encode_length (a : Action) : a.encode.length = a.wireSize := by
  cases a with
  | nxLearn learn =>
    rw [Action.encode, encodeNxLearn, resize_length, encodeLearnSpecs,
      flatMap_length _ fun spec _ => encodeLearnSpec_length spec]
    rfl
  | nxCtNat flags zone table nat =>
    rw [Action.encode, encodeNxCtNat, resize_length, encodeNxNat_length]
    rfl
  | _ =>
    simp only [Action.encode, Action.wireSize, encodeOutput, encodeSetFieldMac, encodeSetFieldU16,
      encodeSetFieldU32, encodeSetField, encodePushVlan, encodePopVlan, encodeBare, encodeSetNwTtl,
      encodeDecTtl, encodeGroup, encodeSetTunnelId, encodeNxResubmit, encodeNxCt, ctFields,
      encodeNxMove, encodeNxRegLoadNxm, encodeNxHeader_length, List.length_append, be_length,
      zeros_length, List.length_nil]

theorem ActionList.encode_length (l : ActionList) : l.encode.length = l.wireSize := by
  have hbuf := flatMap_length l.actions fun a _ => a.encode_length
  simp only [ActionList.encode, ActionList.wireSize, List.length_append, zeros_length, hbuf, pad8]
  omega

theorem Instruction.encode_length (i : Instruction) : i.encode.length = i.wireSize := by
  cases i with
  | applyActions actions | writeActions actions =>
    simp only [Instruction.encode, encodeApplyActions, encodeWriteActions, encodeWithActions,
      Instruction.wireSize, List.length_append, be_length, zeros_length, actions.encode_length]
  | _ => rfl

/-- The sizes of instructions add up, whatever actions are inside them. -/
theorem InstructionList.encode_length (l : InstructionList) : l.encode.length = l.wireSize :=
  flatMap_length l.instructions fun i _ => i.encode_length

end Rovs.OpenFlow

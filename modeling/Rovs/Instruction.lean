import Rovs.Action

/-!
# Instructions (`rovs-openflow/src/instruction.rs`)

Instructions are the top level of a flow: they wrap action lists and steer the
pipeline.  Each has a type and a length; the length of an instruction with
actions covers the actions.
-/

namespace Rovs.OpenFlow

inductive InstructionType where
  | gotoTable | writeMetadata | writeActions | applyActions | clearActions | meter
deriving DecidableEq, Repr

def InstructionType.toU16 : InstructionType → U16
  | .gotoTable => 1
  | .writeMetadata => 2
  | .writeActions => 3
  | .applyActions => 4
  | .clearActions => 5
  | .meter => 6

def InstructionType.ofU16 (v : U16) : Result InstructionType :=
  match v.toNat with
  | 1 => pure .gotoTable
  | 2 => pure .writeMetadata
  | 3 => pure .writeActions
  | 4 => pure .applyActions
  | 5 => pure .clearActions
  | 6 => pure .meter
  | _ => parseError s!"unknown instruction type: {v.toNat}"

theorem InstructionType.typeWords : TypeWords InstructionType.toU16 InstructionType.ofU16 where
  read t := by cases t <;> rfl
  known_or_err v := by
    unfold InstructionType.ofU16
    split
    case h_7 => exact .inr ⟨_, rfl⟩
    all_goals next h => exact .inl ⟨_, rfl, BitVec.eq_of_toNat_eq h⟩

inductive Instruction where
  | gotoTable (tableId : U8)
  | writeMetadata (metadata mask : U64)
  | applyActions (actions : ActionList)
  | writeActions (actions : ActionList)
  | clearActions
  | meter (meterId : U32)
deriving DecidableEq, Repr

structure InstructionList where
  instructions : List Instruction := []
deriving DecidableEq, Repr

/-! ### Encoding -/

def encodeGotoTable (tableId : U8) : Bytes :=
  be InstructionType.gotoTable.toU16 ++ be (8 : U16) ++ be tableId ++ zeros 3

def encodeWriteMetadata (metadata mask : U64) : Bytes :=
  be InstructionType.writeMetadata.toU16 ++ be (24 : U16) ++ zeros 4 ++ be metadata ++ be mask

/-- An instruction that carries actions. -/
def encodeWithActions (type : InstructionType) (actions : ActionList) : Bytes :=
  let actionsBytes := actions.encode
  let len := 8 + actionsBytes.length
  be type.toU16 ++ be (BitVec.ofNat 16 len) ++ zeros 4 ++ actionsBytes

def encodeApplyActions : ActionList → Bytes := encodeWithActions .applyActions

def encodeWriteActions : ActionList → Bytes := encodeWithActions .writeActions

def encodeClearActions : Bytes :=
  be InstructionType.clearActions.toU16 ++ be (8 : U16) ++ zeros 4

def encodeMeter (meterId : U32) : Bytes :=
  be InstructionType.meter.toU16 ++ be (8 : U16) ++ be meterId

def Instruction.encode : Instruction → Bytes
  | .gotoTable tableId => encodeGotoTable tableId
  | .writeMetadata metadata mask => encodeWriteMetadata metadata mask
  | .applyActions actions => encodeApplyActions actions
  | .writeActions actions => encodeWriteActions actions
  | .clearActions => encodeClearActions
  | .meter meterId => encodeMeter meterId

def InstructionList.encode (l : InstructionList) : Bytes :=
  l.instructions.flatMap Instruction.encode

/-! ### Decoding -/

/-- The instruction of a type, from bytes that hold at least its declared length. -/
def Instruction.decodeBody (data : Bytes) (length : Nat) : InstructionType → Result Instruction
  | .gotoTable => ifLong 8 length "goto_table instruction too short" do
      let tableId ← beAt 8 data 4
      pure (.gotoTable tableId)
  | .writeMetadata => ifLong 24 length "write_metadata instruction too short" do
      let metadata ← beAt 64 data 8
      let mask ← beAt 64 data 16
      pure (.writeMetadata metadata mask)
  | .applyActions => do
      let actionsData ← slice data 8 length
      let actions ← ActionList.decode actionsData
      pure (.applyActions actions)
  | .writeActions => do
      let actionsData ← slice data 8 length
      let actions ← ActionList.decode actionsData
      pure (.writeActions actions)
  | .clearActions => pure .clearActions
  | .meter => ifLong 8 length "meter instruction too short" do
      let meterId ← beAt 32 data 4
      pure (.meter meterId)

/-- `Instruction::decode`: an instruction and the bytes it takes. -/
def Instruction.decode (data : Bytes) : Result (Instruction × Nat) :=
  if data.length < 4 then parseError "instruction too short"
  else do
    let instType ← beAt 16 data 0
    let length ← beAt 16 data 2
    if data.length < length.toNat then parseError "instruction truncated"
    else do
      let instType ← InstructionType.ofU16 instType
      let instruction ← Instruction.decodeBody data length.toNat instType
      pure (instruction, length.toNat)

/-- One pass of the loop in `InstructionList::decode`. -/
def instructionListPass (s : List Instruction × Bytes) :
    Result (Outcome.Pass (List Instruction × Bytes) (List Instruction)) := do
  let (instructions, data) := s
  match ← listHeader data with
  | none => pure (.leave instructions)
  | some _ => do
      let (instruction, consumed) ← Instruction.decode data
      pure (.again (instructions ++ [instruction], data.drop consumed))

def InstructionList.decode (data : Bytes) : Result InstructionList := do
  let instructions ← Outcome.loop instructionListPass (data.length + 1) ([], data)
  pure ⟨instructions⟩

end Rovs.OpenFlow

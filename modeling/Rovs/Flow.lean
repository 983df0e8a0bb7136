import Rovs.Instruction
import Rovs.MatchFields
import Rovs.Message

/-!
# Flow modifications (`rovs-openflow/src/flow.rs`)

A flow entry to add, modify or delete.  On the wire it is forty bytes of fixed
fields, the match and the instructions.  A flow without instructions has its
actions wrapped into one apply-actions instruction.
-/

namespace Rovs.OpenFlow

inductive FlowCommand where
  | add | modify | modifyStrict | delete | deleteStrict
deriving DecidableEq, Repr

def FlowCommand.toU8 : FlowCommand → U8
  | .add => 0
  | .modify => 1
  | .modifyStrict => 2
  | .delete => 3
  | .deleteStrict => 4

structure FlowFlags where
  sendFlowRem : Bool := false
  checkOverlap : Bool := false
  resetCounts : Bool := false
  noPktCounts : Bool := false
  noByteCounts : Bool := false
deriving DecidableEq, Repr

/-- `FlowFlags::to_wire`, by the bits of `flow_flags`. -/
def FlowFlags.toWire (f : FlowFlags) : U16 :=
  (if f.sendFlowRem then 1 <<< 0 else 0)
    ||| (if f.checkOverlap then 1 <<< 1 else 0)
    ||| (if f.resetCounts then 1 <<< 2 else 0)
    ||| (if f.noPktCounts then 1 <<< 3 else 0)
    ||| (if f.noByteCounts then 1 <<< 4 else 0)

/-- `OFPP_ANY`, `OFPG_ANY` and `OFP_NO_BUFFER`. -/
def ofppAny : U32 := 0xffffffff
def ofpgAny : U32 := 0xffffffff
def ofpNoBuffer : U32 := 0xffffffff

/-- A flow entry to add, modify, or delete. -/
structure Flow where
  command : FlowCommand
  tableId : U8
  priority : U16 := 0
  cookie : U64 := 0
  cookieMask : U64 := 0
  matchFields : Match := Match.new
  actions : ActionList := {}
  instructions : InstructionList := {}
  idleTimeout : U16 := 0
  hardTimeout : U16 := 0
  flags : FlowFlags := {}
  outPort : Option U32 := none
  outGroup : Option U32 := none
  bufferId : Option U32 := none

def Flow.add : Flow := { command := .add, tableId := 0 }

/-- `Flow::delete`: from all tables. -/
def Flow.delete : Flow := { command := .delete, tableId := 0xff }

def Flow.encodeFixed (flow : Flow) : Bytes :=
  be flow.cookie ++ be flow.cookieMask ++ be flow.tableId ++ be flow.command.toU8
    ++ be flow.idleTimeout ++ be flow.hardTimeout ++ be flow.priority
    ++ be (flow.bufferId.getD ofpNoBuffer) ++ be (flow.outPort.getD ofppAny)
    ++ be (flow.outGroup.getD ofpgAny) ++ be flow.flags.toWire ++ zeros 2

/-- The instruction bytes: the instructions if there are any, else the actions in
    an apply-actions instruction. -/
def Flow.instructionBytes (flow : Flow) : Bytes :=
  if flow.instructions.instructions = [] ∧ flow.actions.actions ≠ [] then
    (Instruction.applyActions flow.actions).encode
  else flow.instructions.encode

def Flow.encode (flow : Flow) : Bytes :=
  flow.encodeFixed ++ flow.matchFields.encode ++ flow.instructionBytes

def Flow.toMessage (flow : Flow) (version : Version) (xid : U32) : Message :=
  Message.new version .flowMod xid flow.encode

@[simp] theorem Flow.encodeFixed_length (flow : Flow) : flow.encodeFixed.length = 40 := by
  simp [Flow.encodeFixed]

/-- The instructions stand behind the fixed fields and the match. -/
theorem Flow.drop_encode (flow : Flow) :
    flow.encode.drop (40 + flow.matchFields.encode.length) = flow.instructionBytes := by
  rw [Flow.encode, List.drop_left']
  rw [List.length_append, Flow.encodeFixed_length]

end Rovs.OpenFlow

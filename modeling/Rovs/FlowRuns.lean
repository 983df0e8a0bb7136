import Rovs.Datapath
import Rovs.RuleEdits

/-!
# The flow table of a switch over time

A switch keeps the flows that flow modifications add, change and delete, and others that its own
learn actions add, until their time is over.  Flow modifications are read from their bytes.  Those
that are not strict concern every flow whose match asks at least what they ask.

The table is a table of rules that is edited (`RuleEdits`), and `TableEvent.edit` says which edit
an event is.  What is proved of edits holds of every run of a switch.
-/

namespace Rovs.OpenFlow

/-! ### Flows that are kept -/

/-- A flow as the switch keeps it, with the bytes of its instructions. -/
structure StoredFlow where
  table : U8
  priority : U16
  conditions : List Tlv
  cookie : U64
  instructions : Bytes
deriving DecidableEq

namespace StoredFlow

/-- Flows with the same table, priority and match are one flow. -/
abbrev Key := U8 × U16 × Multiset Tlv

variable (r : StoredFlow)

def key : Key := (r.table, r.priority, r.conditions)

/-- The actions of an instruction that applies or writes actions. -/
def actionFramesOf (frame : Bytes) : List Bytes :=
  if wordAt 16 frame 0 = InstructionType.applyActions.toU16 ∨
      wordAt 16 frame 0 = InstructionType.writeActions.toU16 then
    (readFrames (frame.drop 8)).getD []
  else []

/-- The arguments of the actions of a type. -/
def targets (type : ActionType) : List U32 :=
  (((readFrames r.instructions).getD []).flatMap actionFramesOf).filterMap fun frame =>
    if wordAt 16 frame 0 = type.toU16 then some (wordAt 32 frame 4) else none

end StoredFlow

/-- A condition asks of the field what another one asks, or more. -/
def Tlv.asksFor (t d : Tlv) : Bool :=
  decide (t.field = d.field) && decide (t.bits.toNat &&& d.bits.toNat = d.bits.toNat) &&
    decide (t.value.toNat &&& d.bits.toNat = d.value.toNat &&& d.bits.toNat)

/-! ### Flow modifications as they are read -/

structure FlowMod where
  cookie : U64
  cookieMask : U64
  table : U8
  command : U8
  priority : U16
  outPort : U32
  outGroup : U32
  flags : U16
  conditions : List Tlv
  instructions : Bytes

def readMod (body : Bytes) : Option FlowMod := do
  let matchLen := (wordAt 16 body 42).toNat
  let conditions ← readTlvs ((body.drop 44).take (matchLen - 4))
  pure {
    cookie := wordAt 64 body 0
    cookieMask := wordAt 64 body 8
    table := wordAt 8 body 16
    command := wordAt 8 body 17
    priority := wordAt 16 body 22
    outPort := wordAt 32 body 28
    outGroup := wordAt 32 body 32
    flags := wordAt 16 body 36
    conditions := conditions
    instructions := body.drop (40 + pad8 matchLen) }

/-- `OFPTT_ALL`. -/
def allTables : U8 := 0xff

namespace FlowMod

variable (mod : FlowMod)

def stored : StoredFlow := ⟨mod.table, mod.priority, mod.conditions, mod.cookie, mod.instructions⟩

def inTables (r : StoredFlow) : Bool := mod.table = allTables ∨ r.table = mod.table

def hasCookie (r : StoredFlow) : Bool := (r.cookie ^^^ mod.cookie) &&& mod.cookieMask = 0

/-- The flow outputs to the port and the group that are given. -/
def outputsTo (r : StoredFlow) : Bool :=
  (mod.outPort = ofppAny ∨ mod.outPort ∈ r.targets .output) ∧
    (mod.outGroup = ofpgAny ∨ mod.outGroup ∈ r.targets .group)

/-- The match of the flow asks for all that is described. -/
def describes (r : StoredFlow) : Bool :=
  mod.conditions.all fun d => r.conditions.any fun t => t.asksFor d

def concerns (r : StoredFlow) : Bool := mod.inTables r && mod.hasCookie r && mod.describes r

def concernsStrictly (r : StoredFlow) : Bool :=
  mod.inTables r && mod.hasCookie r && decide (r.priority = mod.priority) &&
    decide ((r.conditions : Multiset Tlv) = mod.conditions)

/-- What the flow modification does to the table. -/
def edit : Option (Edit StoredFlow) :=
  let rewrite : StoredFlow → StoredFlow := fun r => { r with instructions := mod.instructions }
  if mod.command = FlowCommand.add.toU8 then
    if mod.table = allTables then none else some (.put mod.stored)
  else if mod.command = FlowCommand.modify.toU8 then some (.change mod.concerns rewrite)
  else if mod.command = FlowCommand.modifyStrict.toU8 then
    some (.change mod.concernsStrictly rewrite)
  else if mod.command = FlowCommand.delete.toU8 then
    some (.drop fun r => mod.concerns r && mod.outputsTo r)
  else if mod.command = FlowCommand.deleteStrict.toU8 then
    some (.drop fun r => mod.concernsStrictly r && mod.outputsTo r)
  else none

/-- A flow is to be added only if it does not overlap with another one. -/
def checksOverlap : Bool := mod.command = FlowCommand.add.toU8 ∧ mod.flags.getLsbD 1 = true

end FlowMod

/-! ### What happens to a table -/

/-- A flow modification arrives, whoever sends it; a flow is learned; flows expire. -/
inductive TableEvent where
  | modified (body : Bytes)
  | learned (r : StoredFlow)
  | expired (p : StoredFlow → Bool)

/-- Some packet would be taken by both, and neither goes first. -/
def Overlap (r r' : StoredFlow) : Prop :=
  r.table = r'.table ∧ r.priority = r'.priority ∧
    ∃ pkt : Packet, (∀ t ∈ r.conditions, t.Holds pkt) ∧ ∀ t ∈ r'.conditions, t.Holds pkt

namespace TableEvent

/-- The edit of an event that does not depend on the table. -/
def edit : TableEvent → Option (Edit StoredFlow)
  | modified body => (readMod body).bind FlowMod.edit
  | learned r => some (.put r)
  | expired p => some (.drop p)

def checksOverlap : TableEvent → Bool
  | modified body => (readMod body).elim false FlowMod.checksOverlap
  | _ => false

open Classical in
noncomputable def apply (rules : List StoredFlow) (event : TableEvent) : List StoredFlow :=
  match event.edit with
  | none => rules
  | some (.put new) =>
    if event.checksOverlap = true ∧ ∃ r ∈ rules, Overlap r new then rules
    else Edit.apply StoredFlow.key rules (.put new)
  | some e => Edit.apply StoredFlow.key rules e

/-- The table after a run of events. -/
noncomputable def run (rules : List StoredFlow) (events : List TableEvent) : List StoredFlow :=
  events.foldl apply rules

end TableEvent

/-! ### Runs as edits -/

namespace TableEvent

variable {rules : List StoredFlow} {event : TableEvent} {events : List TableEvent}

theorem apply_eq (h : event.checksOverlap = false) :
    apply rules event = (event.edit.map (Edit.apply StoredFlow.key rules)).getD rules := by
  rw [apply]
  cases hedit : event.edit with
  | none => rfl
  | some e =>
    cases e with
    | put new =>
      have hnot : ¬ (event.checksOverlap = true ∧ ∃ r ∈ rules, Overlap r new) := by
        rw [h]
        exact fun hboth => Bool.false_ne_true hboth.1
      exact if_neg hnot
    | change p f => rfl
    | drop p => rfl

/-- Without checks for overlaps a run is a list of edits. -/
theorem run_eq (h : ∀ event ∈ events, event.checksOverlap = false) :
    run rules events = Edit.applyAll StoredFlow.key rules (events.filterMap edit) := by
  induction events generalizing rules with
  | nil => rfl
  | cons event events ih =>
    rcases List.forall_mem_cons.mp h with ⟨hevent, h⟩
    rw [run, List.foldl_cons, ← run, ih h, apply_eq hevent]
    cases hedit : event.edit with
    | none => rw [List.filterMap_cons_none hedit]; rfl
    | some e => rw [List.filterMap_cons_some hedit]; rfl

theorem edit_keepsKeys {e : Edit StoredFlow} (h : event.edit = some e) :
    e.KeepsKeys StoredFlow.key := by
  cases event with
  | learned r =>
    cases h
    trivial
  | expired p =>
    cases h
    trivial
  | modified body =>
    rcases Option.bind_eq_some_iff.mp h with ⟨mod, -, hmod⟩
    unfold FlowMod.edit at hmod
    split_ifs at hmod
    all_goals
      cases hmod
      first
        | trivial
        | exact fun r => rfl

end TableEvent

/-! ### Flows of the library -/

/-- What a flow says, as it is read. -/
def Flow.modification (flow : Flow) : FlowMod where
  cookie := flow.cookie
  cookieMask := flow.cookieMask
  table := flow.tableId
  command := flow.command.toU8
  priority := flow.priority
  outPort := flow.outPort.getD ofppAny
  outGroup := flow.outGroup.getD ofpgAny
  flags := flow.flags.toWire
  conditions := flow.matchFields.tlvs
  instructions := flow.instructionBytes

theorem Flow.wordAt_mod (flow : Flow) (rest : Bytes) :
    wordAt 64 (flow.encodeFixed ++ rest) 0 = flow.cookie ∧
      wordAt 64 (flow.encodeFixed ++ rest) 8 = flow.cookieMask ∧
      wordAt 32 (flow.encodeFixed ++ rest) 28 = flow.outPort.getD ofppAny ∧
      wordAt 32 (flow.encodeFixed ++ rest) 32 = flow.outGroup.getD ofpgAny ∧
      wordAt 16 (flow.encodeFixed ++ rest) 36 = flow.flags.toWire := by
  simp only [Flow.encodeFixed, List.append_assoc]
  refine ⟨?_, ?_, ?_, ?_, ?_⟩
  · simp [wordAt_be_append]
  · simp [wordAt_append_right]
  · simp [wordAt_append_right]
  · simp [wordAt_append_right]
  · simp [wordAt_append_right]

/-- **A switch reads what a flow says.** -/
theorem readMod_encode (flow : Flow) : readMod flow.encode = some flow.modification := by
  rcases flow.wordAt_fixed (flow.matchFields.encode ++ flow.instructionBytes) with
    ⟨htable, hcommand, hpriority⟩
  rcases flow.wordAt_mod (flow.matchFields.encode ++ flow.instructionBytes) with
    ⟨hcookie, hmask, hport, hgroup, hflags⟩
  rw [← Flow.encode_split] at htable hcommand hpriority hcookie hmask hport hgroup hflags
  rw [readMod, flow.readTlvs_match, htable, hcommand, hpriority, hcookie, hmask, hport, hgroup,
    hflags, flow.wordAt_matchLen, ← Match.encode_length, Flow.drop_encode]
  rfl

/-- A flow without flags is added whether it overlaps or not. -/
theorem checksOverlap_plain {flow : Flow} (h : flow.flags = {}) :
    TableEvent.checksOverlap (.modified flow.encode) = false := by
  have hzero : ({} : FlowFlags).toWire = 0 := by decide
  have hflags : flow.modification.flags = 0 := (congrArg FlowFlags.toWire h).trans hzero
  rw [TableEvent.checksOverlap, readMod_encode, Option.elim_some, FlowMod.checksOverlap, hflags]
  exact decide_eq_false fun hboth => absurd hboth.2 (by decide)

end Rovs.OpenFlow

import Rovs.Datapath
import Rovs.WireSizes

/-!
# The learning switch (`rovs-ext/src/flows/learning.rs`)

Two flows make a learning switch: one learns from every packet and sends it on to the forwarding
table, the other floods what no learned entry of that table forwards.  On the wire the first flow
is its learn action alone, because an action list writes nothing for `goto_table`.  So packets
never reach the forwarding table, whatever has been learned.

`learns_iff` is the main result: no sequence of packets but the empty one is switched as a
learning switch should.
-/

namespace Rovs.OpenFlow

/-! ### The flows -/

/-- `nxm::IN_PORT`, `nxm::ETH_DST` and `nxm::ETH_SRC`. -/
def nxmInPort : U32 := 0x00000002
def nxmEthDst : U32 := 0x00000206
def nxmEthSrc : U32 := 0x00000406

structure LearningConfig where
  learnTable : U8 := 0
  forwardTable : U8 := 1
  idleTimeout : U16 := 300
  learnedPriority : U16 := 100
  floodPriority : U16 := 1
  learnPriority : U16 := 100
deriving DecidableEq, Repr

structure LearningSwitchFlows where
  config : LearningConfig

namespace LearningSwitchFlows

variable (flows : LearningSwitchFlows)

/-- The learn action of the learning flow. -/
def learn : NxLearn where
  tableId := flows.config.forwardTable
  idleTimeout := flows.config.idleTimeout
  priority := flows.config.learnedPriority
  specs := [.matchField nxmEthDst nxmEthSrc 48, .outputField nxmInPort 16]

def learningFlow : Flow :=
  .template flows.config.learnTable flows.config.learnPriority Match.new
    [.nxLearn flows.learn, .gotoTable flows.config.forwardTable]

def floodFlow : Flow :=
  .template flows.config.forwardTable flows.config.floodPriority Match.new [.output .flood]

def allFlows : List Flow := [flows.learningFlow, flows.floodFlow]

end LearningSwitchFlows

/-! ### Learning -/

/-- The name of a field, as a learn spec gives it. -/
structure FieldName where
  class_ : OxmClass
  number : U8
  field : Field
  known : Field.ofHeader class_ number = some field

def FieldName.ofWord (header : U32) : Option FieldName :=
  match OxmClass.ofU16 (headerClass header) with
  | none => none
  | some class_ =>
    match h : Field.ofHeader class_ (headerField header) with
    | none => none
    | some f => some ⟨class_, headerField header, f, h⟩

/-- The low bits of a value. -/
def lowBits {w : Nat} (nBits : U16) (x : BitVec w) : BitVec w :=
  x &&& BitVec.ofNat w (2 ^ nBits.toNat - 1)

/-- The condition that a spec adds to the learned entry, from the packet. -/
def LearnSpec.condition (pkt : Packet) : LearnSpec → Option Tlv
  | .matchField srcField dstField nBits => do
      let src ← FieldName.ofWord srcField
      let dst ← FieldName.ofWord dstField
      let x ← src.field.read pkt
      pure ⟨dst.class_, dst.number, dst.field, dst.known, lowBits nBits (x.setWidth _),
        some (lowBits nBits (BitVec.allOnes _))⟩
  | .matchImmediate dstField value nBits => do
      let dst ← FieldName.ofWord dstField
      pure ⟨dst.class_, dst.number, dst.field, dst.known,
        lowBits nBits (BitVec.ofNat _ (fromBe value)), some (lowBits nBits (BitVec.allOnes _))⟩
  | _ => none

/-- The action that a spec adds to the learned entry; loads are not needed here. -/
def LearnSpec.deed (pkt : Packet) : LearnSpec → Option SwitchAction
  | .outputField srcField nBits => do
      let src ← FieldName.ofWord srcField
      let x ← src.field.read pkt
      pure (.output ((lowBits nBits x).setWidth 32))
  | _ => none

/-- The entry that a packet makes a learn action add. -/
def NxLearn.learned (learn : NxLearn) (pkt : Packet) : FlowEntry where
  table := learn.tableId
  priority := learn.priority
  conditions := learn.specs.filterMap (LearnSpec.condition pkt)
  instructions := [.apply (learn.specs.filterMap (LearnSpec.deed pkt))]

/-- The table after the learn actions of an entry; a learned entry replaces the one with its
    match. -/
def learnAll (rules : List FlowEntry) (pkt : Packet) (actions : List SwitchAction) :
    List FlowEntry :=
  actions.foldl (fun rules a =>
    match a with
    | .learn learn => install FlowEntry.key rules (learn.learned pkt)
    | _ => rules) rules

/-- The ports that actions output to. -/
def outputPorts (actions : List SwitchAction) : List U32 :=
  actions.filterMap fun a =>
    match a with
    | .output port => some port
    | _ => none

/-- A packet passes a table and the tables behind it: where it is output, and what the table is
    then.  A learned entry is there for the rest of the packet's own way. -/
inductive Traverses (pkt : Packet) : List FlowEntry → U8 → List U32 → List FlowEntry → Prop
  | miss {rules : List FlowEntry} {t : U8} (hmiss : ∀ e, ¬ flowLookup.Selects rules t pkt e) :
      Traverses pkt rules t [] rules
  | stop {rules : List FlowEntry} {t : U8} {e : FlowEntry}
      (hselects : flowLookup.Selects rules t pkt e) (hstop : ∀ t', .goto t' ∉ e.instructions) :
      Traverses pkt rules t (outputPorts e.actions) (learnAll rules pkt e.actions)
  | goto {rules rules' : List FlowEntry} {t t' : U8} {e : FlowEntry} {ports : List U32}
      (hselects : flowLookup.Selects rules t pkt e) (hgoto : .goto t' ∈ e.instructions)
      (hrest : Traverses pkt (learnAll rules pkt e.actions) t' ports rules') :
      Traverses pkt rules t (outputPorts e.actions ++ ports) rules'

/-- The packets of a sequence are handled one after the other. -/
inductive Processes (table : U8) : List FlowEntry → List Packet → List (List U32) → Prop
  | nil {rules : List FlowEntry} : Processes table rules [] []
  | cons {rules rules' : List FlowEntry} {pkt : Packet} {packets : List Packet}
      {ports : List U32} {outputs : List (List U32)}
      (hfirst : Traverses pkt rules table ports rules')
      (hrest : Processes table rules' packets outputs) :
      Processes table rules (pkt :: packets) (ports :: outputs)

/-! ### What a learning switch does -/

/-- Where a packet belongs, given the packets up to it: to the port of the last one from its
    destination, or everywhere. -/
def destination (seen : List Packet) (pkt : Packet) : List U32 :=
  match seen.reverse.find? fun q => q.ethSrc = pkt.ethDst with
  | some q => [q.inPort]
  | none => [portFlood]

def destinations (seen : List Packet) : List Packet → List (List U32)
  | [] => []
  | pkt :: packets => destination (seen ++ [pkt]) pkt :: destinations (seen ++ [pkt]) packets

namespace LearningSwitchFlows

variable (flows : LearningSwitchFlows)

/-- The flows make a learning switch for a sequence of packets. -/
def Learns (packets : List Packet) : Prop :=
  ∀ outputs, Processes flows.config.learnTable (flowTable flows.allFlows) packets outputs →
    outputs = destinations [] packets

/-! ### The entries of the flows -/

/-- The learning flow as the switch reads it: there is no goto. -/
def learningEntry : FlowEntry :=
  applyEntry flows.config.learnTable flows.config.learnPriority Match.new [.learn flows.learn]

def floodEntry : FlowEntry :=
  applyEntry flows.config.forwardTable flows.config.floodPriority Match.new [.output portFlood]

theorem learn_legal : ∀ s ∈ flows.learn.specs, s.Legal := by
  intro s hs
  simp only [learn, List.mem_cons, List.not_mem_nil, or_false] at hs
  rcases hs with rfl | rfl
  · exact ⟨by decide, by decide, trivial⟩
  · exact ⟨by decide, by decide, trivial⟩

theorem readFlow_learningFlow : readFlow flows.learningFlow.encode = some flows.learningEntry := by
  have hbits : ∀ s ∈ flows.learn.specs, s.isOneBitMatch = false := by
    intro s hs
    simp only [learn, List.mem_cons, List.not_mem_nil, or_false] at hs
    rcases hs with rfl | rfl
    · rfl
    · rfl
  have hlearn := readAction_encodeNxLearn flows.learn_legal hbits
  have hsize : (Action.nxLearn flows.learn).wireSize = 56 := by
    simp [Action.wireSize, learn, LearnSpec.wireSize, pad8]
  have hwritten : (Action.nxLearn flows.learn).encode ≠ [] := by
    intro hnil
    have hlength := (Action.nxLearn flows.learn).encode_length
    simp [hnil, hsize] at hlength
  apply readFlow_template (by simp)
  · rw [ActionList.encode_length, ActionList.wireSize, List.map_cons, hsize]
    simp [Action.wireSize, pad8]
  · exact .written hlearn (.unwritten rfl .nil) hwritten

theorem readFlow_floodFlow : readFlow flows.floodFlow.encode = some flows.floodEntry := by
  apply readFlow_template (by simp)
  · simp [ActionList.encode_length, ActionList.wireSize, Action.wireSize, pad8]
  · exact .output .flood

/-- A packet makes the learn action add an entry for the packets from its destination: the fields
    of the spec are the other way round than its comment says. -/
theorem learned_accepts (pkt pkt' : Packet) :
    (flows.learn.learned pkt).Accepts pkt' ↔ pkt'.ethSrc = pkt.ethDst := by
  have hbits : ∀ x : BitVec 48, x &&& BitVec.ofNat 48 (2 ^ 48 - 1) = x := fun x =>
    BitVec.and_allOnes
  have hconditions : (flows.learn.learned pkt).conditions =
      [⟨.nxm0, 2, .part .ethSrc, rfl, pkt.ethDst.setWidth 48 &&& BitVec.ofNat 48 (2 ^ 48 - 1),
        some (BitVec.allOnes 48 &&& BitVec.ofNat 48 (2 ^ 48 - 1))⟩] := rfl
  rw [BitVec.setWidth_eq, hbits, hbits] at hconditions
  rw [FlowEntry.Accepts, hconditions, List.forall_mem_singleton]
  constructor
  case mp =>
    rintro ⟨x, hx, heq⟩
    cases Option.some.inj hx
    have heq' : pkt'.ethSrc.setWidth 48 &&& BitVec.allOnes 48 =
        pkt.ethDst &&& BitVec.allOnes 48 := heq
    rwa [BitVec.setWidth_eq, BitVec.and_allOnes, BitVec.and_allOnes] at heq'
  case mpr =>
    intro h
    refine ⟨pkt'.ethSrc.setWidth 48, rfl, ?_⟩
    rw [h, BitVec.setWidth_eq]

/-! ### Every packet is dropped -/

/-- The learning table holds nothing but the learning flow's entry. -/
def Bare (rules : List FlowEntry) : Prop :=
  ∀ e ∈ rules, e.table = flows.config.learnTable → e = flows.learningEntry

variable {flows} {rules rules' : List FlowEntry} {pkt : Packet} {ports : List U32}

theorem bare_flowTable (h : flows.config.learnTable ≠ flows.config.forwardTable) :
    flows.Bare (flowTable flows.allFlows) := by
  intro e he htable
  rcases mem_flowTable he with ⟨flow, hflow, hread⟩
  simp only [allFlows, List.mem_cons, List.not_mem_nil, or_false] at hflow
  rcases hflow with rfl | rfl
  · rw [flows.readFlow_learningFlow] at hread
    exact (Option.some.inj hread).symm
  · rw [flows.readFlow_floodFlow] at hread
    rw [← Option.some.inj hread] at htable
    exact absurd htable.symm h

/-- What is learned goes to the forwarding table. -/
theorem Bare.learnAll (hbare : flows.Bare rules)
    (h : flows.config.learnTable ≠ flows.config.forwardTable) :
    flows.Bare (learnAll rules pkt flows.learningEntry.actions) := by
  intro e he htable
  have hactions : flows.learningEntry.actions = [.learn flows.learn] := applyEntry_actions ..
  rw [hactions] at he
  rcases mem_install.mp he with ⟨hold, -⟩ | rfl
  · exact hbare e hold htable
  · exact absurd htable.symm h

/-- A packet that passes such tables is output nowhere, and leaves them so. -/
theorem Bare.traverses (hbare : flows.Bare rules)
    (h : flows.config.learnTable ≠ flows.config.forwardTable)
    (hpass : Traverses pkt rules flows.config.learnTable ports rules') :
    ports = [] ∧ flows.Bare rules' := by
  cases hpass with
  | miss => exact ⟨rfl, hbare⟩
  | stop hselects hstop =>
    rw [hbare _ hselects.mem hselects.table_eq]
    exact ⟨rfl, hbare.learnAll h⟩
  | goto hselects hgoto hrest =>
    rw [hbare _ hselects.mem hselects.table_eq] at hgoto
    simp [learningEntry, applyEntry] at hgoto

theorem Bare.exists_traverses (hbare : flows.Bare rules) (pkt : Packet) :
    ∃ ports rules', Traverses pkt rules flows.config.learnTable ports rules' := by
  by_cases hsome : ∃ e, flowLookup.Selects rules flows.config.learnTable pkt e
  · rcases hsome with ⟨e, hselects⟩
    refine ⟨_, _, .stop hselects fun t' hgoto => ?_⟩
    rw [hbare e hselects.mem hselects.table_eq] at hgoto
    simp [learningEntry, applyEntry] at hgoto
  · exact ⟨_, _, .miss fun e hselects => hsome ⟨e, hselects⟩⟩

/-- All the packets of a sequence are dropped. -/
theorem Bare.processes {packets : List Packet} {outputs : List (List U32)}
    (hbare : flows.Bare rules) (h : flows.config.learnTable ≠ flows.config.forwardTable)
    (hrun : Processes flows.config.learnTable rules packets outputs) :
    outputs = packets.map fun _ => [] := by
  induction hrun with
  | nil => rfl
  | cons hfirst hrest ih =>
    rcases hbare.traverses h hfirst with ⟨rfl, hbare'⟩
    rw [ih hbare', List.map_cons]

theorem Bare.exists_processes (hbare : flows.Bare rules)
    (h : flows.config.learnTable ≠ flows.config.forwardTable) (packets : List Packet) :
    ∃ outputs, Processes flows.config.learnTable rules packets outputs := by
  induction packets generalizing rules with
  | nil => exact ⟨[], .nil⟩
  | cons pkt packets ih =>
    rcases hbare.exists_traverses pkt with ⟨ports, rules', hfirst⟩
    rcases ih (hbare.traverses h hfirst).2 with ⟨outputs, hrest⟩
    exact ⟨ports :: outputs, .cons hfirst hrest⟩

theorem destination_ne_nil (seen : List Packet) (pkt : Packet) : destination seen pkt ≠ [] := by
  unfold destination
  split
  · simp
  · simp

/-- Such tables make a learning switch for no packet that is received. -/
theorem Bare.not_learns (hbare : flows.Bare (flowTable flows.allFlows))
    (h : flows.config.learnTable ≠ flows.config.forwardTable) (pkt : Packet)
    (packets : List Packet) : ¬ flows.Learns (pkt :: packets) := by
  intro hlearns
  rcases hbare.exists_processes h (pkt :: packets) with ⟨outputs, hrun⟩
  have hsilent := hbare.processes h hrun
  rw [hlearns outputs hrun, destinations, List.map_cons, List.cons.injEq] at hsilent
  exact destination_ne_nil _ _ hsilent.1

/-- **The flows make a learning switch for no packets at all.**  The first packet is not forwarded
    already: the jump to the forwarding table is not encoded, and the flow that is learned from it
    has its fields exchanged. -/
theorem learns_iff (flows : LearningSwitchFlows) (packets : List Packet)
    (h : flows.config.learnTable ≠ flows.config.forwardTable) :
    flows.Learns packets ↔ packets = [] := by
  have hbare := bare_flowTable h
  constructor
  case mp =>
    intro hlearns
    cases packets with
    | nil => rfl
    | cons pkt packets => exact absurd hlearns (hbare.not_learns h pkt packets)
  case mpr =>
    rintro rfl outputs hrun
    rw [hbare.processes h hrun]
    rfl

/-- A packet of all zeros but its addresses and its port. -/
def hostPacket (src dst : MacAddr) (port : U32) : Packet :=
  ((Packet.mk (fun _ => 0) none).put .ethSrc src |>.put .ethDst dst).put .inPort port

theorem learns_iff_default : LearningConfig.learnTable {} ≠ LearningConfig.forwardTable {} ∧
    ((⟨{}⟩ : LearningSwitchFlows).Learns [hostPacket 1 2 3] ↔ [hostPacket 1 2 3] = []) :=
  ⟨by decide, learns_iff ⟨{}⟩ _ (by decide)⟩

/-- The first packet of a host is not flooded. -/
theorem hostPacket_not_flooded : ¬ (⟨{}⟩ : LearningSwitchFlows).Learns [hostPacket 1 2 3] :=
  (bare_flowTable (by decide)).not_learns (by decide) _ []

end LearningSwitchFlows

end Rovs.OpenFlow

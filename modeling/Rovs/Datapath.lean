import Rovs.FlowEntry
import Rovs.RuleTable

/-!
# How a switch handles packets

A packet is looked up in a table of flow entries.  The entry that is selected may output it, send
it to another table, or hand it to the connection tracker, which sends it to the table of the ct
action with new connection state and, under NAT, with new addresses.  What the tracker answers is
open: it is an argument, as is the choice between entries of the same priority.  `Emits` says
that a packet is output on a port after certain passes through the tracker.
-/

namespace Rovs.OpenFlow

/-! ### The flow table -/

def FlowEntry.Accepts (e : FlowEntry) (pkt : Packet) : Prop := ∀ t ∈ e.conditions, t.Holds pkt

def flowLookup : Lookup FlowEntry U8 Packet where
  table := FlowEntry.table
  priority e := e.priority.toNat
  Accepts := FlowEntry.Accepts

/-- Entries with the same table, priority and match are one entry. -/
def FlowEntry.key (e : FlowEntry) : U8 × U16 × Multiset Tlv := (e.table, e.priority, e.conditions)

/-- The entries that flow modifications bring about in an empty switch. -/
def flowTable (flows : List Flow) : List FlowEntry :=
  installed FlowEntry.key (flows.filterMap fun flow => readFlow flow.encode)

/-- The actions that an entry applies. -/
def FlowEntry.actions (e : FlowEntry) : List SwitchAction :=
  e.instructions.flatMap fun i =>
    match i with
    | .apply actions => actions
    | .goto _ => []

/-! ### Connection tracking -/

/-- The parts that tracking writes. -/
def Part.isTracked : Part → Bool
  | .ctState | .ctZone | .ctMark => true
  | _ => false

/-- The parts that NAT may rewrite. -/
def Part.isTranslated : Part → Bool
  | .ipv4Src | .ipv4Dst | .ipv6Src | .ipv6Dst | .tcpSrc | .tcpDst | .udpSrc | .udpDst => true
  | _ => false

/-- One pass through the tracker: the action, and the packet as it comes back. -/
structure CtPass where
  ct : Ct
  answer : Packet

/-- A connection tracker.  Its answer may depend on the packets that were received before, on the
    packet as it was received and on its earlier passes.  It writes the connection state, and
    addresses and ports only for an action with NAT. -/
structure Tracker where
  answer (earlier : List Packet) (received : Packet) (passes : List CtPass) (ct : Ct)
    (pkt : Packet) : Packet
  keeps_vlan : ∀ earlier received passes ct pkt,
    (answer earlier received passes ct pkt).vlan = pkt.vlan
  keeps : ∀ earlier received passes ct pkt p, p.isTracked = false →
    ct.nat = none ∨ p.isTranslated = false →
    (answer earlier received passes ct pkt).part p = pkt.part p

section Keeps

variable (tracker : Tracker) (earlier : List Packet) (received : Packet) (passes : List CtPass)
  (ct : Ct) (pkt : Packet)

@[simp] theorem Tracker.answer_inPort :
    (tracker.answer earlier received passes ct pkt).inPort = pkt.inPort :=
  tracker.keeps earlier received passes ct pkt .inPort rfl (.inr rfl)

@[simp] theorem Tracker.answer_ethType :
    (tracker.answer earlier received passes ct pkt).ethType = pkt.ethType :=
  tracker.keeps earlier received passes ct pkt .ethType rfl (.inr rfl)

end Keeps

/-! ### A packet in flight -/

structure InFlight where
  table : U8
  packet : Packet
  passes : List CtPass

section Step

variable (rules : List FlowEntry) (tracker : Tracker) (earlier : List Packet) (received : Packet)

/-- One step of a packet through the tables. -/
inductive Step : InFlight → InFlight → Prop
  | recirculate {s : InFlight} {e : FlowEntry} {ct : Ct} {t : U8}
      (hselects : flowLookup.Selects rules s.table s.packet e) (hct : .ct ct ∈ e.actions)
      (htable : ct.table = some t) :
      Step s ⟨t, tracker.answer earlier received s.passes ct s.packet,
        s.passes ++ [⟨ct, tracker.answer earlier received s.passes ct s.packet⟩]⟩
  | goto {s : InFlight} {e : FlowEntry} {t : U8}
      (hselects : flowLookup.Selects rules s.table s.packet e) (hgoto : .goto t ∈ e.instructions) :
      Step s { s with table := t }

/-- The packet that is received in a table comes to a place. -/
def ComesTo (base : U8) : InFlight → Prop :=
  Relation.ReflTransGen (Step rules tracker earlier received) ⟨base, received, []⟩

/-- The packet that is received in a table is output on a port, after passes through the
    tracker. -/
def Emits (base : U8) (port : U32) (passes : List CtPass) : Prop :=
  ∃ s e, ComesTo rules tracker earlier received base s ∧
    flowLookup.Selects rules s.table s.packet e ∧ .output port ∈ e.actions ∧ s.passes = passes

variable {rules tracker earlier received} {base : U8} {Inv : InFlight → Prop}

/-- What holds where the packet starts and is kept by every step holds wherever it comes. -/
theorem ComesTo.invariant {s : InFlight} (h : ComesTo rules tracker earlier received base s)
    (hstart : Inv ⟨base, received, []⟩)
    (hstep : ∀ s s', Inv s → Step rules tracker earlier received s s' → Inv s') : Inv s := by
  induction h with
  | refl => exact hstart
  | tail _ hlast ih => exact hstep _ _ ih hlast

end Step

/-! ### Entries that only apply actions -/

/-- An entry as the flow templates write them. -/
def applyEntry (table : U8) (priority : U16) (m : Match) (actions : List SwitchAction) :
    FlowEntry :=
  ⟨table, priority, m.tlvs, [.apply actions]⟩

@[simp] theorem applyEntry_accepts (table : U8) (priority : U16) (m : Match)
    (actions : List SwitchAction) (pkt : Packet) :
    flowLookup.Accepts (applyEntry table priority m actions) pkt ↔ m.Holds pkt := Iff.rfl

@[simp] theorem applyEntry_table (table : U8) (priority : U16) (m : Match)
    (actions : List SwitchAction) :
    flowLookup.table (applyEntry table priority m actions) = table := rfl

@[simp] theorem applyEntry_priority (table : U8) (priority : U16) (m : Match)
    (actions : List SwitchAction) :
    flowLookup.priority (applyEntry table priority m actions) = priority.toNat := rfl

@[simp] theorem applyEntry_actions (table : U8) (priority : U16) (m : Match)
    (actions : List SwitchAction) : (applyEntry table priority m actions).actions = actions :=
  List.append_nil actions

/-- `Flow::add().table(..).priority(..).match_fields(..).actions(..)`. -/
def Flow.template (table : U8) (priority : U16) (m : Match) (actions : List Action) : Flow :=
  { Flow.add with tableId := table, priority := priority, matchFields := m, actions := ⟨actions⟩ }

theorem readFlow_template {table : U8} {priority : U16} {m : Match} {actions : List Action}
    {deeds : List SwitchAction} (hne : actions ≠ [])
    (hsize : 8 + (ActionList.mk actions).encode.length ≤ 65535) (hread : ReadAs actions deeds) :
    readFlow (Flow.template table priority m actions).encode =
      some (applyEntry table priority m deeds) :=
  readFlow_encode rfl rfl hne hsize hread

/-! ### Entries of a flow table -/

/-- Every entry comes from a flow. -/
theorem mem_flowTable {flows : List Flow} {e : FlowEntry} (h : e ∈ flowTable flows) :
    ∃ flow ∈ flows, readFlow flow.encode = some e :=
  List.mem_filterMap.mp (mem_of_mem_installed h)

/-- For every flow there is an entry that is looked up like the one it says. -/
theorem exists_mem_flowTable {flows : List Flow} {flow : Flow} {e : FlowEntry}
    (hflow : flow ∈ flows) (hread : readFlow flow.encode = some e) :
    ∃ e' ∈ flowTable flows, e'.table = e.table ∧ e'.priority = e.priority ∧
      ∀ pkt, e'.Accepts pkt ↔ e.Accepts pkt := by
  have hmem : e ∈ flows.filterMap fun flow => readFlow flow.encode :=
    List.mem_filterMap.mpr ⟨flow, hflow, hread⟩
  rcases exists_mem_installed FlowEntry.key hmem with ⟨e', he', hkey⟩
  simp only [FlowEntry.key, Prod.mk.injEq, Multiset.coe_eq_coe] at hkey
  rcases hkey with ⟨htable, hpriority, hconditions⟩
  refine ⟨e', he', htable, hpriority, fun pkt => ?_⟩
  simp only [FlowEntry.Accepts, hconditions.mem_iff]

end Rovs.OpenFlow

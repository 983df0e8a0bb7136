import Rovs.NatPipeline

/-!
# NAT pipelines isolate the inside

The flows of `SnatGateway` and `DnatService`, as a switch reads them, are NAT pipelines.  So a
packet from outside is output to the inside only, and only where the policy table has seen it as
part of an established connection or, under DNAT, as one that a rule lets in.

`nat_isolates` is the main result, for every tracker and every sequence of packets.
-/

namespace Rovs.OpenFlow

/-! ### Reading the flows -/

theorem single_size {a : Action} (h : a.encode.length ≤ 1000) :
    8 + (ActionList.mk [a]).encode.length ≤ 65535 := by
  simp only [ActionList.encode, List.flatMap_cons, List.flatMap_nil, List.append_nil,
    List.length_append, zeros_length]
  omega

theorem encodeNxCtNat_length_le (flags zone : U16) (table : Option U8) (nat : NatConfig) :
    (encodeNxCtNat flags zone table nat).length ≤ 1000 := by
  have hnat := encodeNxNat_length_le nat
  have hlt := pad8_lt (24 + (encodeNxNat nat).length)
  simp only [encodeNxCtNat, resize_length]
  omega

theorem encodeNxCt_length_le (flags zone : U16) (table : Option U8) :
    (encodeNxCt flags zone table).length ≤ 1000 := by
  simp [encodeNxCt, ctFields]

theorem encodeOutput_length_le (port : U32) (maxLen : U16) :
    (encodeOutput port maxLen).length ≤ 1000 := by
  simp [encodeOutput]

namespace NatPipeline

variable (p : NatPipeline)

theorem optionalTable_policy : optionalTable ((some p.policy).getD 255) = some p.policy := by
  apply if_neg
  intro h
  have hle := p.base_le
  have hnat := congrArg BitVec.toNat h
  simp [policy] at hnat
  omega

theorem optionalTable_exit : optionalTable ((some p.exit).getD 255) = some p.exit := by
  apply if_neg
  intro h
  have hle := p.base_le
  have hnat := congrArg BitVec.toNat h
  simp [exit] at hnat
  omega

/-- Which flow writes which entry. -/
inductive Writes : Flow → FlowEntry → Prop
  | track {family : U16} (h : family ∈ p.families) :
      Writes (trackFlow p.base p.priority p.zone p.policy family) (p.trackEntry family)
  | arp : Writes
      (.template p.base p.priority { Match.new with ethType := some 0x0806 } [.output .normal])
      p.arpEntry
  | invalid : Writes (dropInvalidFlow p.policy p.priority) p.invalidEntry
  | established {inPort outPort : U32} (h : p.Opposite inPort outPort) :
      Writes (establishedFlow p.policy p.priority inPort outPort)
        (p.establishedEntry inPort outPort)
  | opening {m : Match} {nat : NatConfig} (h : (m, nat) ∈ p.openings) :
      Writes (newFlow p.policy p.priority m p.zone p.exit nat) (p.openingEntry m nat)
  | exit {inPort outPort : U32} (h : p.Opposite inPort outPort) :
      Writes (outputFlow p.exit p.priority inPort outPort) (p.exitEntry inPort outPort)

variable {p} {flow : Flow} {e : FlowEntry} {flows : List Flow}

theorem Writes.has (h : p.Writes flow e) : p.Has e := by
  cases h with
  | track h => exact .track h
  | arp => exact .arp
  | invalid => exact .invalid
  | established h => exact .established h
  | opening h => exact .opening h
  | exit h => exact .exit h

theorem Writes.read (h : p.Writes flow e) : readFlow flow.encode = some e := by
  cases h with
  | @track family h =>
    have hread := ReadAs.ct 0 p.zone (some p.policy)
    rw [p.optionalTable_policy] at hread
    exact readFlow_template (by simp) (single_size (encodeNxCt_length_le _ _ _)) hread
  | arp => exact readFlow_template (by simp) (single_size (encodeOutput_length_le _ _)) (.output _)
  | invalid => exact readFlow_template (by simp) (single_size (by decide)) .drop
  | established h =>
    exact readFlow_template (by simp) (single_size (encodeOutput_length_le _ _)) (.output _)
  | @opening m nat h =>
    have hread := ReadAs.ctNat ctFlagsCommit p.zone (some p.exit) nat
    rw [p.optionalTable_exit] at hread
    exact readFlow_template (by simp) (single_size (encodeNxCtNat_length_le _ _ _ _)) hread
  | exit h =>
    exact readFlow_template (by simp) (single_size (encodeOutput_length_le _ _)) (.output _)

theorem Has.writes (h : p.Has e) : ∃ flow, p.Writes flow e := by
  cases h with
  | track h => exact ⟨_, .track h⟩
  | arp => exact ⟨_, .arp⟩
  | invalid => exact ⟨_, .invalid⟩
  | established h => exact ⟨_, .established h⟩
  | opening h => exact ⟨_, .opening h⟩
  | exit h => exact ⟨_, .exit h⟩

/-- Flows that write the entries of a pipeline, and no others, install it. -/
theorem installed_of_writes (hflows : ∀ flow ∈ flows, ∃ e, p.Writes flow e)
    (hentries : ∀ flow e, p.Writes flow e → e ≠ p.arpEntry → flow ∈ flows) :
    p.Installed (flowTable flows) where
  has e he := by
    rcases mem_flowTable he with ⟨flow, hflow, hread⟩
    rcases hflows flow hflow with ⟨e', hwrites⟩
    rw [hwrites.read] at hread
    cases hread
    exact hwrites.has
  mem e he hne := by
    rcases he.writes with ⟨flow, hwrites⟩
    exact exists_mem_flowTable (hentries flow e hwrites hne) hwrites.read

/-- Flows that have each part of a pipeline, in both directions, write all entries but the one
    that lets ARP pass. -/
theorem mem_of_writes
    (htrack : ∀ family ∈ p.families, trackFlow p.base p.priority p.zone p.policy family ∈ flows)
    (hinvalid : dropInvalidFlow p.policy p.priority ∈ flows)
    (hestablished : establishedFlow p.policy p.priority p.internal p.external ∈ flows ∧
      establishedFlow p.policy p.priority p.external p.internal ∈ flows)
    (hopening : ∀ m nat, (m, nat) ∈ p.openings →
      newFlow p.policy p.priority m p.zone p.exit nat ∈ flows)
    (hexit : outputFlow p.exit p.priority p.internal p.external ∈ flows ∧
      outputFlow p.exit p.priority p.external p.internal ∈ flows) :
    ∀ flow e, p.Writes flow e → e ≠ p.arpEntry → flow ∈ flows := by
  intro flow e hwrites hne
  cases hwrites with
  | track hfamily => exact htrack _ hfamily
  | arp => exact absurd rfl hne
  | invalid => exact hinvalid
  | established hports =>
    rcases hports with ⟨rfl, rfl⟩ | ⟨rfl, rfl⟩
    · exact hestablished.1
    · exact hestablished.2
  | opening hmem => exact hopening _ _ hmem
  | exit hports =>
    rcases hports with ⟨rfl, rfl⟩ | ⟨rfl, rfl⟩
    · exact hexit.1
    · exact hexit.2

end NatPipeline

/-! ### The SNAT gateway -/

namespace SnatGateway

variable (gateway : SnatGateway) {baseTable : U8} {priority : U16}

/-- The pipeline of a gateway. -/
def pipeline (hbase : baseTable.toNat ≤ 252) (hpriority : priority.toNat ≤ 65525)
    (hports : gateway.config.internalPort ≠ gateway.config.externalPort) : NatPipeline where
  base := baseTable
  priority := priority
  zone := gateway.config.zone
  internal := gateway.config.internalPort
  external := gateway.config.externalPort
  families := (if gateway.config.hasIpv4 then [0x0800] else []) ++
    (if gateway.config.hasIpv6 then [0x86dd] else [])
  openings :=
    (gateway.buildNatConfigV4.map fun nat => (gateway.config.newMatch 0x0800, nat)).toList ++
    (gateway.buildNatConfigV6.map fun nat => (gateway.config.newMatch 0x86dd, nat)).toList
  base_le := hbase
  priority_le := hpriority
  ports_ne := hports

variable (hbase : baseTable.toNat ≤ 252) (hpriority : priority.toNat ≤ 65525)
  (hports : gateway.config.internalPort ≠ gateway.config.externalPort)

theorem installed :
    (gateway.pipeline hbase hpriority hports).Installed
      (flowTable (gateway.allFlows baseTable priority)) := by
  let p := gateway.pipeline hbase hpriority hports
  have hout : p.Opposite gateway.config.internalPort gateway.config.externalPort :=
    .inl ⟨rfl, rfl⟩
  have hin : p.Opposite gateway.config.externalPort gateway.config.internalPort :=
    .inr ⟨rfl, rfl⟩
  apply NatPipeline.installed_of_writes
  · intro flow hflow
    simp only [allFlows, List.mem_append, List.mem_ite_nil_right, List.mem_cons, List.not_mem_nil,
      or_false, Option.mem_toList, Option.map_eq_some_iff] at hflow
    rcases hflow with ((((⟨h4, rfl⟩ | ⟨h6, rfl⟩) | rfl | rfl | rfl | rfl) | ⟨nat, hnat, rfl⟩) |
      ⟨nat, hnat, rfl⟩) | rfl | rfl
    · exact ⟨_, .track (by simp [pipeline, h4])⟩
    · exact ⟨_, .track (by simp [pipeline, h6])⟩
    · exact ⟨_, .arp⟩
    · exact ⟨_, .invalid⟩
    · exact ⟨_, .established hout⟩
    · exact ⟨_, .established hin⟩
    · exact ⟨_, .opening (by simp [pipeline, hnat])⟩
    · exact ⟨_, .opening (by simp [pipeline, hnat])⟩
    · exact ⟨_, .exit hout⟩
    · exact ⟨_, .exit hin⟩
  · apply NatPipeline.mem_of_writes
    case htrack =>
      intro family hfamily
      simp only [pipeline, List.mem_append, List.mem_ite_nil_right, List.mem_singleton] at hfamily
      rcases hfamily with ⟨h4, rfl⟩ | ⟨h6, rfl⟩
      · simp [allFlows, h4, pipeline, NatPipeline.policy]
      · simp [allFlows, h6, pipeline, NatPipeline.policy]
    case hinvalid => simp [allFlows, pipeline, NatPipeline.policy]
    case hestablished => simp [allFlows, pipeline, NatPipeline.policy]
    case hopening =>
      intro m nat hopening
      simp only [pipeline, List.mem_append, Option.mem_toList, Option.map_eq_some_iff,
        Prod.mk.injEq] at hopening
      rcases hopening with ⟨nat, hnat, rfl, rfl⟩ | ⟨nat, hnat, rfl, rfl⟩
      · simp [allFlows, hnat, pipeline, NatPipeline.policy, NatPipeline.exit]
      · simp [allFlows, hnat, pipeline, NatPipeline.policy, NatPipeline.exit]
    case hexit => simp [allFlows, pipeline, NatPipeline.exit]

end SnatGateway

/-! ### The DNAT service -/

/-- The family of a rule's packets. -/
def DnatRule.family (rule : DnatRule) : U16 :=
  match rule.internalTarget with
  | .v4 _ => 0x0800
  | .v6 _ => 0x86dd

/-- The packet has the address family, the protocol and the destination port of a rule. -/
def DnatRule.Serves (rule : DnatRule) (pkt : Packet) : Prop :=
  pkt.ethType = rule.family ∧ pkt.ipProto = rule.protocol ∧
    (if rule.protocol = 6 then pkt.tcpDst else pkt.udpDst) = rule.externalPort

theorem DnatRule.natConfig_family (rule : DnatRule) : rule.natConfig.2 = rule.family := by
  cases h : rule.internalTarget <;> simp [natConfig, family, h]

theorem DnatRule.holds_newMatch {rule : DnatRule} (h : rule.protocol = 6 ∨ rule.protocol = 17)
    (externalPort : U32) (pkt : Packet) : (rule.newMatch externalPort).Holds pkt ↔
      pkt.inPort = externalPort ∧ rule.Serves pkt ∧ CtHas pkt.ctState ctStateTrk ∧
        CtHas pkt.ctState ctStateNew := by
  have hmask := normCtStateMask_tracked ctStateNew (by simp)
  rw [← ctHas_or]
  rcases h with h | h
  · simp [Match.holds_iff, newMatch, Serves, Match.new, Match.tracked, h, hmask, CtHas,
      natConfig_family, and_assoc]
  · simp [Match.holds_iff, newMatch, Serves, Match.new, Match.tracked, h, hmask, CtHas,
      natConfig_family, and_assoc]

namespace DnatService

variable (service : DnatService) {baseTable : U8} {priority : U16}

/-- The pipeline of a service. -/
def pipeline (hbase : baseTable.toNat ≤ 252) (hpriority : priority.toNat ≤ 65525)
    (hports : service.config.internalPort ≠ service.config.externalPort) : NatPipeline where
  base := baseTable
  priority := priority
  zone := service.config.zone
  internal := service.config.internalPort
  external := service.config.externalPort
  families := (if service.config.hasIpv4Rules then [0x0800] else []) ++
    (if service.config.hasIpv6Rules then [0x86dd] else [])
  openings := service.config.rules.map fun rule =>
    (rule.newMatch service.config.externalPort, rule.natConfig.1)
  base_le := hbase
  priority_le := hpriority
  ports_ne := hports

variable (hbase : baseTable.toNat ≤ 252) (hpriority : priority.toNat ≤ 65525)
  (hports : service.config.internalPort ≠ service.config.externalPort)

theorem installed :
    (service.pipeline hbase hpriority hports).Installed
      (flowTable (service.allFlows baseTable priority)) := by
  let p := service.pipeline hbase hpriority hports
  have hout : p.Opposite service.config.internalPort service.config.externalPort :=
    .inl ⟨rfl, rfl⟩
  have hin : p.Opposite service.config.externalPort service.config.internalPort :=
    .inr ⟨rfl, rfl⟩
  apply NatPipeline.installed_of_writes
  · intro flow hflow
    simp only [allFlows, List.mem_append, List.mem_ite_nil_right, List.mem_cons, List.not_mem_nil,
      or_false, List.mem_map] at hflow
    rcases hflow with (((⟨h4, rfl⟩ | ⟨h6, rfl⟩) | rfl | rfl | rfl) | ⟨rule, hrule, rfl⟩) |
      rfl | rfl
    · exact ⟨_, .track (by simp [pipeline, h4])⟩
    · exact ⟨_, .track (by simp [pipeline, h6])⟩
    · exact ⟨_, .invalid⟩
    · exact ⟨_, .established hin⟩
    · exact ⟨_, .established hout⟩
    · exact ⟨_, .opening (List.mem_map_of_mem hrule)⟩
    · exact ⟨_, .exit hin⟩
    · exact ⟨_, .exit hout⟩
  · apply NatPipeline.mem_of_writes
    case htrack =>
      intro family hfamily
      simp only [pipeline, List.mem_append, List.mem_ite_nil_right, List.mem_singleton] at hfamily
      rcases hfamily with ⟨h4, rfl⟩ | ⟨h6, rfl⟩
      · simp [allFlows, h4, pipeline, NatPipeline.policy]
      · simp [allFlows, h6, pipeline, NatPipeline.policy]
    case hinvalid => simp [allFlows, pipeline, NatPipeline.policy]
    case hestablished => simp [allFlows, pipeline, NatPipeline.policy]
    case hopening =>
      intro m nat hopening
      simp only [pipeline, List.mem_map, Prod.mk.injEq] at hopening
      rcases hopening with ⟨rule, hrule, rfl, rfl⟩
      have hmem : newFlow (baseTable + 1) priority (rule.newMatch service.config.externalPort)
          service.config.zone (baseTable + 2) rule.natConfig.1 ∈
          service.allFlows baseTable priority := by
        simp only [allFlows, List.mem_append, List.mem_map]
        exact .inl (.inr ⟨rule, hrule, rfl⟩)
      exact hmem
    case hexit => simp [allFlows, pipeline, NatPipeline.exit]

end DnatService

/-! ### Isolation -/

/-- A packet comes to a table from the tracker, and every time it does it is as `P` says. -/
def SeenIn (table : U8) (passes : List CtPass) (P : Packet → Prop) : Prop :=
  (∃ pass ∈ passes, pass.ct.table = some table) ∧
    ∀ pass ∈ passes, pass.ct.table = some table → P pass.answer

/-- Whatever the tracker answers, a packet from the external port that is not ARP is output only
    on the internal port, and only if the policy table admits it. -/
def Isolated (flows : List Flow) (baseTable : U8) (externalPort internalPort : U32)
    (admits : Packet → Prop) : Prop :=
  ∀ tracker earlier received, received.inPort = externalPort → received.ethType ≠ 0x0806 →
    ∀ port passes, Emits (flowTable flows) tracker earlier received baseTable port passes →
      port = internalPort ∧ SeenIn (baseTable + 1) passes admits

/-- What a service lets in: established connections, and new ones that a rule is for. -/
def DnatConfig.Admits (config : DnatConfig) (pkt : Packet) : Prop :=
  pkt.Established ∨ pkt.Opening ∧ ∃ rule ∈ config.rules, rule.Serves pkt

section Isolated

variable {tracker : Tracker} {earlier : List Packet} {received : Packet} {p : NatPipeline}

theorem seenIn_first {P : Packet → Prop}
    (h : P (p.firstPass tracker earlier received).answer) :
    SeenIn p.policy [p.firstPass tracker earlier received] P := by
  simpa [SeenIn, NatPipeline.firstPass, NatPipeline.track] using h

theorem seenIn_second {P : Packet → Prop} (nat : NatConfig)
    (h : P (p.firstPass tracker earlier received).answer) :
    SeenIn p.policy
      [p.firstPass tracker earlier received, p.secondPass tracker earlier received nat] P := by
  have hne := p.exit_ne_policy
  simpa [SeenIn, NatPipeline.firstPass, NatPipeline.secondPass, NatPipeline.track,
    NatPipeline.commit, hne] using h

/-- What a pipeline lets in from outside. -/
theorem NatPipeline.isolated {flows : List Flow} {admits : Packet → Prop}
    (h : p.Installed (flowTable flows)) (hestablished : ∀ pkt, pkt.Established → admits pkt)
    (hopening : ∀ m nat pkt, (m, nat) ∈ p.openings → m.Holds pkt → pkt.inPort = p.external →
      (CtHas pkt.ctState ctStateTrk → ¬ CtHas pkt.ctState ctStateInv) → admits pkt) :
    Isolated flows p.base p.external p.internal admits := by
  intro tracker earlier received hport harp port passes hemits
  have hinPort : (p.firstPass tracker earlier received).answer.inPort = p.external :=
    (tracker.answer_inPort ..).trans hport
  have hopposite : p.Opposite received.inPort port → port = p.internal := by
    rintro (⟨hin, -⟩ | ⟨-, hout⟩)
    · exact absurd (hin.symm.trans hport) p.ports_ne
    · exact hout
  rcases NatPipeline.emits_cases h hemits with harp' | ⟨-, hports, rfl, hest⟩ |
    ⟨m, nat, hmem, hports, rfl, hholds, hvalid⟩
  · exact absurd harp' harp
  · exact ⟨hopposite hports, seenIn_first (hestablished _ hest)⟩
  · exact ⟨hopposite hports, seenIn_second nat (hopening m nat _ hmem hholds hinPort hvalid)⟩

end Isolated

theorem SnatConfig.holds_newMatch (config : SnatConfig) (ethType : U16) (pkt : Packet) :
    (config.newMatch ethType).Holds pkt ↔ pkt.inPort = config.internalPort ∧
      pkt.ethType = ethType ∧ CtHas pkt.ctState ctStateTrk ∧ CtHas pkt.ctState ctStateNew := by
  have hmask := normCtStateMask_tracked ctStateNew (by simp)
  rw [← ctHas_or]
  simp [Match.holds_iff, newMatch, Match.new, Match.tracked, hmask, CtHas]

/-- What comes from outside is output only where the tracker says that its connection is
    established. -/
theorem SnatGateway.isolated (gateway : SnatGateway) {baseTable : U8} {priority : U16}
    (hbase : baseTable.toNat ≤ 252) (hpriority : priority.toNat ≤ 65525)
    (hports : gateway.config.internalPort ≠ gateway.config.externalPort) :
    Isolated (gateway.allFlows baseTable priority) baseTable gateway.config.externalPort
      gateway.config.internalPort Packet.Established := by
  apply NatPipeline.isolated (gateway.installed hbase hpriority hports) (fun _ h => h)
  intro m nat pkt hmem hholds hinPort _
  -- connections are opened from inside only
  exfalso
  simp only [pipeline, List.mem_append, Option.mem_toList, Option.map_eq_some_iff,
    Prod.mk.injEq] at hmem
  rcases hmem with ⟨nat, -, rfl, rfl⟩ | ⟨nat, -, rfl, rfl⟩
  · exact hports (((gateway.config.holds_newMatch _ pkt).mp hholds).1.symm.trans hinPort)
  · exact hports (((gateway.config.holds_newMatch _ pkt).mp hholds).1.symm.trans hinPort)

/-- Here a packet may also open a connection, if a rule admits it. -/
theorem DnatService.isolated (service : DnatService) {baseTable : U8} {priority : U16}
    (hbase : baseTable.toNat ≤ 252) (hpriority : priority.toNat ≤ 65525)
    (hports : service.config.internalPort ≠ service.config.externalPort)
    (hprotocols : ∀ rule ∈ service.config.rules, rule.protocol = 6 ∨ rule.protocol = 17) :
    Isolated (service.allFlows baseTable priority) baseTable service.config.externalPort
      service.config.internalPort service.config.Admits := by
  apply NatPipeline.isolated (service.installed hbase hpriority hports) (fun _ h => .inl h)
  intro m nat pkt hmem hholds _ hvalid
  simp only [pipeline, List.mem_map, Prod.mk.injEq] at hmem
  rcases hmem with ⟨rule, hrule, rfl, rfl⟩
  rcases (rule.holds_newMatch (hprotocols rule hrule) _ pkt).mp hholds with
    ⟨-, hserves, htrk, hnew⟩
  exact .inr ⟨⟨htrk, hnew, hvalid htrk⟩, rule, hrule, hserves⟩

/-- **NAT pipelines isolate the inside.**  Whatever the tracker does and whatever came before, a
    packet from outside reaches the inside only if its connection is established, or if a rule of
    the service admits it.  The flows are read from their bytes. -/
theorem nat_isolates {baseTable : U8} {priority : U16} (hbase : baseTable.toNat ≤ 252)
    (hpriority : priority.toNat ≤ 65525) :
    (∀ gateway : SnatGateway, gateway.config.internalPort ≠ gateway.config.externalPort →
      Isolated (gateway.allFlows baseTable priority) baseTable gateway.config.externalPort
        gateway.config.internalPort Packet.Established) ∧
    ∀ service : DnatService, service.config.internalPort ≠ service.config.externalPort →
      (∀ rule ∈ service.config.rules, rule.protocol = 6 ∨ rule.protocol = 17) →
      Isolated (service.allFlows baseTable priority) baseTable service.config.externalPort
        service.config.internalPort service.config.Admits := by
  constructor
  case left => exact fun gateway hports => gateway.isolated hbase hpriority hports
  case right =>
    intro service hports hprotocols
    exact service.isolated hbase hpriority hports hprotocols

/-- A gateway for 203.0.113.1 between the ports 1 and 2. -/
def webGateway : SnatGateway := ⟨.new 0xcb007101 1 2⟩

/-- Port 80 is forwarded to 10.0.0.10:8080. -/
def webService : DnatService := ⟨(DnatConfig.new 2 1).addRule (.tcp 80 0x0a00000a 8080)⟩

theorem nat_isolates_web :
    Isolated (webGateway.allFlows 0 100) 0 2 1 Packet.Established ∧
      Isolated (webService.allFlows 0 100) 0 2 1 webService.config.Admits := by
  have h := @nat_isolates 0 100 (by decide) (by decide)
  refine ⟨h.1 webGateway (by decide), h.2 webService (by decide) ?_⟩
  intro rule hrule
  rw [List.mem_singleton.mp hrule]
  exact .inl rfl

end Rovs.OpenFlow

import Rovs.NatIsolation

/-!
# Port forwarding

A DNAT service opens connections from outside under the NAT of its rules.  A later rule for the
same packets takes the place of an earlier one, so the service does what all its rules say exactly
when the rules for the same packets have the same target.

`DnatService.forwards_iff` is the main result.  What the service should do is said of what leaves
the switch, for every tracker (`Forwards`).
-/

namespace Rovs.OpenFlow

/-! ### Installed rules -/

section Install

variable {R K : Type} [DecidableEq K] {key : R → K} {rules rs : List R} {r x y : R}

theorem eq_of_key_install (h : ∀ x ∈ rules, ∀ y ∈ rules, key x = key y → x = y)
    (hx : x ∈ install key rules r) (hy : y ∈ install key rules r) (hkey : key x = key y) :
    x = y := by
  rcases mem_install.mp hx with ⟨hx, hxr⟩ | rfl
  · rcases mem_install.mp hy with ⟨hy, -⟩ | rfl
    · exact h x hx y hy hkey
    · exact absurd hkey hxr
  · rcases mem_install.mp hy with ⟨-, hyr⟩ | rfl
    · exact absurd hkey.symm hyr
    · rfl

theorem eq_of_key_foldl (h : ∀ x ∈ rules, ∀ y ∈ rules, key x = key y → x = y) :
    ∀ x ∈ rs.foldl (install key) rules, ∀ y ∈ rs.foldl (install key) rules,
      key x = key y → x = y := by
  induction rs generalizing rules with
  | nil => exact h
  | cons r rs ih => exact ih fun x hx y hy hkey => eq_of_key_install h hx hy hkey

/-- Of the rules with one key only one is there. -/
theorem eq_of_key_installed (hx : x ∈ installed key rs) (hy : y ∈ installed key rs)
    (hkey : key x = key y) : x = y :=
  eq_of_key_foldl (fun _ hmem => absurd hmem List.not_mem_nil) x hx y hy hkey

end Install

/-! ### The ways through a pipeline -/

namespace NatPipeline

section Ways

variable {p : NatPipeline} {rules : List FlowEntry} {tracker : Tracker} {earlier : List Packet}
  {received : Packet} {port : U32} {passes : List CtPass}

theorem Opposite.unique {inPort outPort outPort' : U32} (h : p.Opposite inPort outPort)
    (h' : p.Opposite inPort outPort') : outPort = outPort' := by
  have hne := p.ports_ne
  rcases h with ⟨hin, rfl⟩ | ⟨hin, rfl⟩
  · rcases h' with ⟨-, rfl⟩ | ⟨hin', -⟩
    · rfl
    · exact absurd (hin.symm.trans hin') hne
  · rcases h' with ⟨hin', -⟩ | ⟨-, rfl⟩
    · exact absurd (hin'.symm.trans hin) hne
    · rfl

/-- A packet of a tracked family comes to the policy table. -/
theorem comesTo_policy (h : p.Installed rules) (hfamily : received.ethType ∈ p.families)
    (harp : received.ethType ≠ 0x0806) :
    ComesTo rules tracker earlier received p.base ⟨p.policy,
      (p.firstPass tracker earlier received).answer, [p.firstPass tracker earlier received]⟩ := by
  have hne : p.trackEntry received.ethType ≠ p.arpEntry := by
    simp [trackEntry, arpEntry, applyEntry]
  rcases h.mem _ (.track hfamily) hne with ⟨e', he', htable, -, haccepts⟩
  rcases flowLookup.exists_selects he' htable ((haccepts received).mpr (holds_ethType.mpr rfl))
    with ⟨e, hsel⟩
  rcases selects_base h hsel with ⟨family, -, rfl, -⟩ | ⟨-, heq⟩
  · have hct : .ct p.track ∈ (p.trackEntry family).actions := by simp [trackEntry]
    exact .single (.recirculate hsel hct rfl)
  · exact absurd heq harp

/-- The packet that an opening entry takes leaves from the output table. -/
theorem emits_opening (h : p.Installed rules) {m : Match} {nat : NatConfig}
    (hcomes : ComesTo rules tracker earlier received p.base ⟨p.policy,
      (p.firstPass tracker earlier received).answer, [p.firstPass tracker earlier received]⟩)
    (hsel : flowLookup.Selects rules p.policy (p.firstPass tracker earlier received).answer
      (p.openingEntry m nat)) (hports : p.Opposite received.inPort port) :
    Emits rules tracker earlier received p.base port
      [p.firstPass tracker earlier received, p.secondPass tracker earlier received nat] := by
  have hct : .ct (p.commit nat) ∈ (p.openingEntry m nat).actions := by simp [openingEntry]
  have hinPort : (p.secondPass tracker earlier received nat).answer.inPort = received.inPort :=
    (tracker.answer_inPort ..).trans (tracker.answer_inPort ..)
  have hne : p.exitEntry received.inPort port ≠ p.arpEntry := by
    simp [exitEntry, arpEntry, applyEntry, p.exit_ne_base]
  rcases h.mem _ (.exit hports) hne with ⟨e', he', htable, -, haccepts⟩
  rcases flowLookup.exists_selects he' htable ((haccepts _).mpr (holds_inPort.mpr hinPort)) with
    ⟨e, hexit⟩
  rcases selects_exit h hexit with ⟨outPort, hports', rfl⟩
  rw [hinPort] at hports'
  refine ⟨_, _, hcomes.tail (.recirculate hsel hct rfl), hexit, ?_, rfl⟩
  simp [exitEntry, hports'.unique hports]

/-- Only what an opening entry has taken comes to the output table. -/
theorem opening_of_comesTo {s : InFlight} (h : p.Installed rules)
    (hcomes : ComesTo rules tracker earlier received p.base s) (hexit : s.table = p.exit) :
    ∃ m nat, (m, nat) ∈ p.openings ∧
      flowLookup.Selects rules p.policy (p.firstPass tracker earlier received).answer
        (p.openingEntry m nat) ∧
      s = ⟨p.exit, (p.secondPass tracker earlier received nat).answer,
        [p.firstPass tracker earlier received, p.secondPass tracker earlier received nat]⟩ := by
  rcases Relation.ReflTransGen.cases_tail hcomes with rfl | ⟨before, hbefore, hstep⟩
  · exact absurd hexit p.exit_ne_base.symm
  · have hplace := place_of_reaches h hbefore
    cases hstep with
    | goto hsel hgoto => exact absurd hgoto ((h.has _ hsel.mem).no_goto _)
    | recirculate hsel hct htable =>
      cases hplace with
      | base =>
        rcases selects_base h hsel with ⟨family, -, rfl, -⟩ | ⟨rfl, -⟩
        · simp only [trackEntry, applyEntry_actions, List.mem_singleton, SwitchAction.ct.injEq]
            at hct
          subst hct
          cases htable
          exact absurd hexit p.exit_ne_policy.symm
        · simp [arpEntry] at hct
      | policy hfamily =>
        rcases selects_policy h hsel with rfl | ⟨outPort, -, rfl, -⟩ | ⟨m, nat, hopening, rfl, -⟩
        · simp [invalidEntry] at hct
        · simp [establishedEntry] at hct
        · simp only [openingEntry, applyEntry_actions, List.mem_singleton, SwitchAction.ct.injEq]
            at hct
          subst hct
          cases htable
          exact ⟨m, nat, hopening, hsel, rfl⟩
      | exit hopening hholds hvalid =>
        rcases selects_exit h hsel with ⟨outPort, -, rfl⟩
        simp [exitEntry] at hct

/-- **What is output has been selected**: as ARP, as a packet of an established connection, or as
    one that an opening entry takes. -/
theorem selected_of_emits (h : p.Installed rules)
    (hemits : Emits rules tracker earlier received p.base port passes) :
    p.arpEntry ∈ rules ∨
      (received.ethType ∈ p.families ∧ p.Opposite received.inPort port ∧
        passes = [p.firstPass tracker earlier received] ∧
        (p.firstPass tracker earlier received).answer.Established) ∨
      ∃ m nat, (m, nat) ∈ p.openings ∧ p.Opposite received.inPort port ∧
        passes = [p.firstPass tracker earlier received,
          p.secondPass tracker earlier received nat] ∧
        flowLookup.Selects rules p.policy (p.firstPass tracker earlier received).answer
          (p.openingEntry m nat) := by
  rcases hemits with ⟨s, e, hreaches, hsel, houtput, rfl⟩
  have hfirst : (p.firstPass tracker earlier received).answer.inPort = received.inPort :=
    tracker.answer_inPort ..
  by_cases hexit : s.table = p.exit
  case pos =>
    rcases opening_of_comesTo h hreaches hexit with ⟨m, nat, hopening, hselects, rfl⟩
    rcases selects_exit h hsel with ⟨outPort, hports, rfl⟩
    simp only [exitEntry, applyEntry_actions, List.mem_singleton, SwitchAction.output.injEq]
      at houtput
    subst houtput
    have hsecond : (p.secondPass tracker earlier received nat).answer.inPort = received.inPort :=
      (tracker.answer_inPort ..).trans hfirst
    rw [hsecond] at hports
    exact .inr (.inr ⟨m, nat, hopening, hports, rfl, hselects⟩)
  case neg =>
    cases place_of_reaches h hreaches with
    | base =>
      rcases selects_base h hsel with ⟨family, -, rfl, -⟩ | ⟨rfl, -⟩
      · simp [trackEntry] at houtput
      · exact .inl hsel.mem
    | policy hfamily =>
      rcases selects_policy h hsel with rfl | ⟨outPort, hports, rfl, hest⟩ | ⟨m, nat, -, rfl, -⟩
      · simp [invalidEntry] at houtput
      · simp only [establishedEntry, applyEntry_actions, List.mem_singleton,
          SwitchAction.output.injEq] at houtput
        subst houtput
        rw [hfirst] at hports
        exact .inr (.inl ⟨hfamily, hports, rfl, hest⟩)
      · simp [openingEntry] at houtput
    | exit => exact absurd rfl hexit

end Ways

end NatPipeline

/-! ### What is asked -/

/-- The packet is one that a rule is for: it has the rule's family and protocol and, as TCP or UDP,
    its destination port. -/
structure DnatRule.Concerns (rule : DnatRule) (pkt : Packet) : Prop where
  family : pkt.ethType = rule.family
  protocol : pkt.ipProto = rule.protocol
  tcp : rule.protocol = 6 → pkt.tcpDst = rule.externalPort
  udp : rule.protocol = 17 → pkt.udpDst = rule.externalPort

/-- Two rules are for the same packets. -/
structure DnatRule.Overlaps (rule rule' : DnatRule) : Prop where
  family : rule.family = rule'.family
  protocol : rule.protocol = rule'.protocol
  port : rule.protocol = 6 ∨ rule.protocol = 17 → rule.externalPort = rule'.externalPort

/-- The NAT that a rule asks for: of the destination, to the rule's target and, where the rule
    names one, to its internal port. -/
def DnatRule.forwarding (rule : DnatRule) : NatConfig :=
  match rule.internalTarget with
  | .v4 ip =>
    { flags := natFlagsDst, ipv4Min := some ip, ipv4Max := none, ipv6Min := none, ipv6Max := none,
      portMin := rule.internalPort, portMax := none }
  | .v6 ip =>
    { flags := natFlagsDst, ipv4Min := none, ipv4Max := none, ipv6Min := some ip, ipv6Max := none,
      portMin := rule.internalPort, portMax := none }

namespace DnatService

section Forwards

variable (service : DnatService) (baseTable : U8) (tracker : Tracker) (earlier : List Packet)
  (received : Packet)

/-- The first pass of a packet, without NAT. -/
def tracked : CtPass :=
  let ct : Ct := ⟨0, service.config.zone, some (baseTable + 1), none⟩
  ⟨ct, tracker.answer earlier received [] ct received⟩

/-- The second pass of a packet, which commits its connection under the NAT of a rule. -/
def translated (rule : DnatRule) : CtPass :=
  let first := service.tracked baseTable tracker earlier received
  let ct : Ct := ⟨ctFlagsCommit, service.config.zone, some (baseTable + 2), some rule.forwarding⟩
  ⟨ct, tracker.answer earlier received [first] ct first.answer⟩

/-- What a service is for.  Packets of established connections pass between the ports, and a packet
    from outside that opens a connection passes under the NAT of the rule that is for it. -/
inductive Delivers : U32 → List CtPass → Prop
  | inbound (hfamily : ∃ rule ∈ service.config.rules, rule.family = received.ethType)
      (hport : received.inPort = service.config.externalPort)
      (hest : (service.tracked baseTable tracker earlier received).answer.Established) :
      Delivers service.config.internalPort [service.tracked baseTable tracker earlier received]
  | outbound (hfamily : ∃ rule ∈ service.config.rules, rule.family = received.ethType)
      (hport : received.inPort = service.config.internalPort)
      (hest : (service.tracked baseTable tracker earlier received).answer.Established) :
      Delivers service.config.externalPort [service.tracked baseTable tracker earlier received]
  | opening {rule : DnatRule} (hrule : rule ∈ service.config.rules)
      (hconcerns : rule.Concerns received) (hport : received.inPort = service.config.externalPort)
      (hopening : (service.tracked baseTable tracker earlier received).answer.Opening)
      (hest : ¬ (service.tracked baseTable tracker earlier received).answer.Established) :
      Delivers service.config.internalPort [service.tracked baseTable tracker earlier received,
        service.translated baseTable tracker earlier received rule]

/-- The flows of a service do this and nothing else, whatever the tracker answers. -/
def Forwards (priority : U16) : Prop :=
  ∀ tracker earlier received port passes,
    Emits (flowTable (service.allFlows baseTable priority)) tracker earlier received baseTable
      port passes ↔ service.Delivers baseTable tracker earlier received port passes

end Forwards

end DnatService

/-- Rules for the same packets have the same target. -/
def DnatConfig.Consistent (config : DnatConfig) : Prop :=
  ∀ rule ∈ config.rules, ∀ rule' ∈ config.rules, rule.Overlaps rule' →
    rule.internalTarget = rule'.internalTarget ∧ rule.internalPort = rule'.internalPort

/-! ### Rules for the same packets -/

namespace DnatRule

variable {rule rule' : DnatRule} {pkt : Packet}

theorem newMatch_holds (rule : DnatRule) (externalPort : U32) (pkt : Packet) :
    (rule.newMatch externalPort).Holds pkt ↔ pkt.inPort = externalPort ∧ rule.Concerns pkt ∧
      CtHas pkt.ctState ctStateTrk ∧ CtHas pkt.ctState ctStateNew := by
  have hmask := normCtStateMask_tracked ctStateNew (by simp)
  have hconcerns : rule.Concerns pkt ↔ pkt.ethType = rule.family ∧ pkt.ipProto = rule.protocol ∧
      (rule.protocol = 6 → pkt.tcpDst = rule.externalPort) ∧
      (rule.protocol = 17 → pkt.udpDst = rule.externalPort) :=
    ⟨fun ⟨h1, h2, h3, h4⟩ => ⟨h1, h2, h3, h4⟩, fun ⟨h1, h2, h3, h4⟩ => ⟨h1, h2, h3, h4⟩⟩
  rw [← ctHas_or, hconcerns]
  by_cases htcp : rule.protocol = 6
  case pos =>
    simp [Match.holds_iff, newMatch, Match.new, Match.tracked, htcp, hmask, CtHas,
      natConfig_family, and_assoc]
  case neg =>
    by_cases hudp : rule.protocol = 17
    case pos =>
      simp [Match.holds_iff, newMatch, Match.new, Match.tracked, hudp, hmask, CtHas,
        natConfig_family, and_assoc]
    case neg =>
      rw [newMatch, if_neg htcp, if_neg hudp]
      simp [Match.holds_iff, Match.new, Match.tracked, hmask, CtHas, natConfig_family, and_assoc]
      tauto

theorem Concerns.overlaps (h : rule.Concerns pkt) (h' : rule'.Concerns pkt) :
    rule.Overlaps rule' where
  family := h.family.symm.trans h'.family
  protocol := h.protocol.symm.trans h'.protocol
  port := by
    have hprotocol := h.protocol.symm.trans h'.protocol
    rintro (htcp | hudp)
    · exact (h.tcp htcp).symm.trans (h'.tcp (hprotocol.symm.trans htcp))
    · exact (h.udp hudp).symm.trans (h'.udp (hprotocol.symm.trans hudp))

/-- Rules for the same packets write the same match. -/
theorem Overlaps.newMatch_eq (h : rule.Overlaps rule') (externalPort : U32) :
    rule.newMatch externalPort = rule'.newMatch externalPort := by
  rw [newMatch, newMatch, natConfig_family, natConfig_family, h.family, ← h.protocol]
  by_cases htcp : rule.protocol = 6
  case pos => rw [h.port (.inl htcp)]
  case neg =>
    by_cases hudp : rule.protocol = 17
    case pos => rw [h.port (.inr hudp)]
    case neg => rw [if_neg htcp, if_neg hudp, if_neg htcp, if_neg hudp]

/-- The builder of the service builds the NAT that the rule asks for. -/
theorem natConfig_fst (rule : DnatRule) : rule.natConfig.1 = rule.forwarding := by
  rcases rule with ⟨externalPort, protocol, target, port⟩
  cases target with
  | v4 ip => cases port <;> rfl
  | v6 ip => cases port <;> rfl

/-- The NAT configurations of two rules of a family say the same of the same targets only. -/
theorem natConfig_inj (hfamily : rule.family = rule'.family)
    (h : rule.natConfig.1 = rule'.natConfig.1) :
    rule.internalTarget = rule'.internalTarget ∧ rule.internalPort = rule'.internalPort := by
  rcases rule with ⟨external, protocol, target, port⟩
  rcases rule' with ⟨external', protocol', target', port'⟩
  cases target <;> cases target' <;> cases port <;> cases port' <;>
    simp_all [natConfig, family, NatConfig.dnat, NatConfig.dnatV6, NatConfig.port,
      NatConfig.ofFlags]

/-- A packet that a rule is for. -/
def packet (rule : DnatRule) (port : U32) : Packet where
  part
    | .inPort => port
    | .ethType => rule.family
    | .ipProto => rule.protocol
    | .tcpDst => rule.externalPort
    | .udpDst => rule.externalPort
    | _ => 0
  vlan := none

theorem Overlaps.concerns (h : rule.Overlaps rule') (port : U32) :
    rule'.Concerns (rule.packet port) where
  family := h.family
  protocol := h.protocol
  tcp htcp := h.port (.inl (h.protocol.trans htcp))
  udp hudp := h.port (.inr (h.protocol.trans hudp))

end DnatRule

/-! ### The pipeline of a service -/

namespace DnatService

variable {service : DnatService} {baseTable : U8} {priority : U16} {tracker : Tracker}
  {earlier : List Packet} {received : Packet} {port : U32} {passes : List CtPass}
  (hbase : baseTable.toNat ≤ 252) (hpriority : priority.toNat ≤ 65525)
  (hports : service.config.internalPort ≠ service.config.externalPort)

theorem mem_families {family : U16} :
    family ∈ (service.pipeline hbase hpriority hports).families ↔
      ∃ rule ∈ service.config.rules, rule.family = family := by
  have hv4 : ∀ rule : DnatRule, rule.isIpv4 = true ↔ rule.family = 0x0800 := by
    intro rule
    cases h : rule.internalTarget <;> simp [DnatRule.isIpv4, DnatRule.family, h]
  have hv6 : ∀ rule : DnatRule, rule.isIpv6 = true ↔ rule.family = 0x86dd := by
    intro rule
    cases h : rule.internalTarget <;> simp [DnatRule.isIpv6, DnatRule.family, h]
  have hone : ∀ rule : DnatRule, rule.family = 0x0800 ∨ rule.family = 0x86dd := by
    intro rule
    cases h : rule.internalTarget <;> simp [DnatRule.family, h]
  simp only [pipeline, List.mem_append, List.mem_ite_nil_right, List.mem_singleton,
    DnatConfig.hasIpv4Rules, DnatConfig.hasIpv6Rules, List.any_eq_true, hv4, hv6]
  constructor
  case mp =>
    rintro (⟨⟨rule, hrule, hfamily⟩, rfl⟩ | ⟨⟨rule, hrule, hfamily⟩, rfl⟩)
    · exact ⟨rule, hrule, hfamily⟩
    · exact ⟨rule, hrule, hfamily⟩
  case mpr =>
    rintro ⟨rule, hrule, rfl⟩
    rcases hone rule with hfamily | hfamily
    · exact .inl ⟨⟨rule, hrule, hfamily⟩, hfamily⟩
    · exact .inr ⟨⟨rule, hrule, hfamily⟩, hfamily⟩

theorem not_arp {family : U16}
    (h : family ∈ (service.pipeline hbase hpriority hports).families) : family ≠ 0x0806 := by
  rcases (mem_families hbase hpriority hports).mp h with ⟨rule, -, rfl⟩
  cases htarget : rule.internalTarget <;> simp [DnatRule.family, htarget]

/-- A service does not let ARP pass. -/
theorem arpEntry_not_mem : (service.pipeline hbase hpriority hports).arpEntry ∉
    flowTable (service.allFlows baseTable priority) := by
  let p := service.pipeline hbase hpriority hports
  have hout : p.Opposite service.config.internalPort service.config.externalPort :=
    .inl ⟨rfl, rfl⟩
  have hin : p.Opposite service.config.externalPort service.config.internalPort :=
    .inr ⟨rfl, rfl⟩
  have hactions : ∀ {e : FlowEntry}, .output portNormal ∉ e.actions → e ≠ p.arpEntry := by
    rintro e hnot rfl
    exact hnot (by simp [NatPipeline.arpEntry])
  have htables : ∀ {e : FlowEntry}, e.table ≠ p.base → e ≠ p.arpEntry := by
    rintro e hnot rfl
    exact hnot rfl
  have hwrites : ∀ flow ∈ service.allFlows baseTable priority, ∃ e, p.Writes flow e ∧
      e ≠ p.arpEntry := by
    intro flow hflow
    simp only [allFlows, List.mem_append, List.mem_ite_nil_right, List.mem_cons, List.not_mem_nil,
      or_false, List.mem_map] at hflow
    rcases hflow with (((⟨h4, rfl⟩ | ⟨h6, rfl⟩) | rfl | rfl | rfl) | ⟨rule, hrule, rfl⟩) |
      rfl | rfl
    · exact ⟨_, .track (by simp [p, pipeline, h4]), hactions (by simp [NatPipeline.trackEntry])⟩
    · exact ⟨_, .track (by simp [p, pipeline, h6]), hactions (by simp [NatPipeline.trackEntry])⟩
    · exact ⟨_, .invalid, htables p.policy_ne_base⟩
    · exact ⟨_, .established hin, htables p.policy_ne_base⟩
    · exact ⟨_, .established hout, htables p.policy_ne_base⟩
    · exact ⟨_, .opening (List.mem_map_of_mem hrule), htables p.policy_ne_base⟩
    · exact ⟨_, .exit hin, htables p.exit_ne_base⟩
    · exact ⟨_, .exit hout, htables p.exit_ne_base⟩
  intro hmem
  rcases mem_flowTable hmem with ⟨flow, hflow, hread⟩
  rcases hwrites flow hflow with ⟨e, hwrites, hne⟩
  rw [hwrites.read] at hread
  exact hne (Option.some.inj hread)

/-! ### What a service delivers -/

/-- The first pass leaves a packet one that a rule is for. -/
theorem concerns_tracked (rule : DnatRule) :
    rule.Concerns (service.tracked baseTable tracker earlier received).answer ↔
      rule.Concerns received := by
  have hpart : ∀ p : Part, p.isTracked = false →
      (service.tracked baseTable tracker earlier received).answer.part p = received.part p :=
    fun p hp => tracker.keeps earlier received [] _ received p hp (.inl rfl)
  have hethType := hpart .ethType rfl
  have hipProto := hpart .ipProto rfl
  have htcpDst := hpart .tcpDst rfl
  have hudpDst := hpart .udpDst rfl
  constructor
  case mp =>
    rintro ⟨hfamily, hprotocol, htcp, hudp⟩
    exact ⟨hethType.symm.trans hfamily, hipProto.symm.trans hprotocol,
      fun h => htcpDst.symm.trans (htcp h), fun h => hudpDst.symm.trans (hudp h)⟩
  case mpr =>
    rintro ⟨hfamily, hprotocol, htcp, hudp⟩
    exact ⟨hethType.trans hfamily, hipProto.trans hprotocol,
      fun h => htcpDst.trans (htcp h), fun h => hudpDst.trans (hudp h)⟩

/-- The second pass of the pipeline, under the NAT of a rule. -/
theorem secondPass_eq (rule : DnatRule) :
    (service.pipeline hbase hpriority hports).secondPass tracker earlier received
        rule.natConfig.1 = service.translated baseTable tracker earlier received rule := by
  rw [rule.natConfig_fst]
  rfl

/-- Where rules for the same packets have the same target, a packet that opens a connection is
    taken by an entry of its rule. -/
theorem selects_opening (hconsistent : service.config.Consistent) {rule : DnatRule} {pkt : Packet}
    (hrule : rule ∈ service.config.rules) (hconcerns : rule.Concerns pkt)
    (hport : pkt.inPort = service.config.externalPort) (hopening : pkt.Opening)
    (hest : ¬ pkt.Established) :
    flowLookup.Selects (flowTable (service.allFlows baseTable priority))
      (service.pipeline hbase hpriority hports).policy pkt
      ((service.pipeline hbase hpriority hports).openingEntry
        (rule.newMatch service.config.externalPort) rule.natConfig.1) := by
  have hinstalled := service.installed hbase hpriority hports
  have hmem : (rule.newMatch service.config.externalPort, rule.natConfig.1) ∈
      (service.pipeline hbase hpriority hports).openings := List.mem_map_of_mem hrule
  have hne : (service.pipeline hbase hpriority hports).openingEntry
      (rule.newMatch service.config.externalPort) rule.natConfig.1 ≠
        (service.pipeline hbase hpriority hports).arpEntry := by
    simp [NatPipeline.openingEntry, NatPipeline.arpEntry, applyEntry]
  have hholds : (rule.newMatch service.config.externalPort).Holds pkt :=
    (rule.newMatch_holds _ pkt).mpr ⟨hport, hconcerns, hopening.1, hopening.2.1⟩
  rcases hinstalled.mem _ (.opening hmem) hne with ⟨e', he', htable, -, haccepts⟩
  rcases flowLookup.exists_selects he' htable ((haccepts pkt).mpr hholds) with ⟨e, hsel⟩
  rcases NatPipeline.selects_policy hinstalled hsel with rfl | ⟨outPort, -, rfl, hest'⟩ |
    ⟨m, nat, hopening', rfl, hholds', -⟩
  · exact absurd (holds_invalid.mp hsel.accepts).2 hopening.2.2
  · exact absurd hest' hest
  · simp only [pipeline, List.mem_map, Prod.mk.injEq] at hopening'
    rcases hopening' with ⟨rule', hrule', rfl, rfl⟩
    have hoverlaps := hconcerns.overlaps ((rule'.newMatch_holds _ pkt).mp hholds').2.1
    have hnat : rule.natConfig.1 = rule'.natConfig.1 := by
      rcases hconsistent rule hrule rule' hrule' hoverlaps with ⟨htarget, hport⟩
      rw [DnatRule.natConfig, DnatRule.natConfig, htarget, hport]
    rw [hoverlaps.newMatch_eq, hnat]
    exact hsel

/-- What the flows output is delivered, whatever the rules are. -/
theorem delivers_of_emits (hbase : baseTable.toNat ≤ 252) (hpriority : priority.toNat ≤ 65525)
    (hports : service.config.internalPort ≠ service.config.externalPort)
    (hemits : Emits (flowTable (service.allFlows baseTable priority)) tracker earlier received
      baseTable port passes) :
    service.Delivers baseTable tracker earlier received port passes := by
  have hinstalled := service.installed hbase hpriority hports
  have hinPort : (service.tracked baseTable tracker earlier received).answer.inPort =
      received.inPort := tracker.answer_inPort ..
  rcases NatPipeline.selected_of_emits hinstalled hemits with
    harp | ⟨hfamily, hopposite, rfl, hest⟩ | ⟨m, nat, hopening, hopposite, rfl, hsel⟩
  · exact absurd harp (arpEntry_not_mem hbase hpriority hports)
  · have hrule := (mem_families hbase hpriority hports).mp hfamily
    rcases hopposite with ⟨hin, rfl⟩ | ⟨hin, rfl⟩
    · exact .outbound hrule hin hest
    · exact .inbound hrule hin hest
  · simp only [pipeline, List.mem_map, Prod.mk.injEq] at hopening
    rcases hopening with ⟨rule, hrule, rfl, rfl⟩
    rcases (rule.newMatch_holds _ _).mp hsel.accepts with ⟨hport, hconcerns, htrk, hnew⟩
    have hport := hinPort.symm.trans hport
    have hvalid := NatPipeline.not_invalid hinstalled hsel (Nat.lt_add_of_pos_right (by decide))
      htrk
    have hest : ¬ (service.tracked baseTable tracker earlier received).answer.Established := by
      intro hest
      have hopposite : (service.pipeline hbase hpriority hports).Opposite
          (service.tracked baseTable tracker earlier received).answer.inPort
          service.config.internalPort := .inr ⟨hinPort.trans hport, rfl⟩
      have heq := NatPipeline.selects_established hinstalled hopposite hest hsel
      simp [NatPipeline.openingEntry, NatPipeline.establishedEntry, applyEntry] at heq
    rcases hopposite with ⟨hin, -⟩ | ⟨-, rfl⟩
    · exact absurd (hin.symm.trans hport) hports
    · rw [secondPass_eq]
      exact .opening hrule ((concerns_tracked rule).mp hconcerns) hport ⟨htrk, hnew, hvalid⟩ hest

theorem forwards_of_consistent (hbase : baseTable.toNat ≤ 252) (hpriority : priority.toNat ≤ 65525)
    (hports : service.config.internalPort ≠ service.config.externalPort)
    (h : service.config.Consistent) :
    service.Forwards baseTable priority := by
  have hinstalled := service.installed hbase hpriority hports
  intro tracker earlier received port passes
  have hinPort : (service.tracked baseTable tracker earlier received).answer.inPort =
      received.inPort := tracker.answer_inPort ..
  constructor
  case mp => exact delivers_of_emits hbase hpriority hports
  case mpr =>
    intro hdelivers
    cases hdelivers with
    | inbound hfamily hport hest =>
      have hmem := (mem_families hbase hpriority hports).mpr hfamily
      exact NatPipeline.emits_established hinstalled hmem (not_arp hbase hpriority hports hmem)
        (.inr ⟨hport, rfl⟩) hest
    | outbound hfamily hport hest =>
      have hmem := (mem_families hbase hpriority hports).mpr hfamily
      exact NatPipeline.emits_established hinstalled hmem (not_arp hbase hpriority hports hmem)
        (.inl ⟨hport, rfl⟩) hest
    | @opening rule hrule hconcerns hport hopening hest =>
      have hmem : received.ethType ∈ (service.pipeline hbase hpriority hports).families :=
        (mem_families hbase hpriority hports).mpr ⟨rule, hrule, hconcerns.family.symm⟩
      rw [← secondPass_eq hbase hpriority hports]
      exact NatPipeline.emits_opening hinstalled
        (NatPipeline.comesTo_policy hinstalled hmem (not_arp hbase hpriority hports hmem))
        (selects_opening hbase hpriority hports h hrule ((concerns_tracked rule).mpr hconcerns)
          (hinPort.trans hport) hopening hest) (.inr ⟨hport, rfl⟩)

/-! ### Rules with different targets -/

/-- A tracker for which every packet opens a connection. -/
def opens : Tracker where
  answer _ _ _ _ pkt := pkt.put .ctState (ctStateTrk ||| ctStateNew)
  keeps_vlan _ _ _ _ _ := by simp [Packet.put]
  keeps _ _ _ _ pkt p htracked _ := by
    apply Packet.put_part_of_ne
    rintro rfl
    cases htracked

theorem opens_ctState (ct : Ct) (pkt : Packet) :
    (opens.answer earlier received [] ct pkt).ctState = ctStateTrk ||| ctStateNew :=
  Packet.put_part_self (p := .ctState) pkt _

theorem opens_tracked : (service.tracked baseTable opens earlier received).answer.Opening ∧
    ¬ (service.tracked baseTable opens earlier received).answer.Established := by
  rw [Packet.Opening, Packet.Established, tracked, opens_ctState]
  decide

/-- A rule whose packets are delivered has its entry. -/
theorem Forwards.mem_entry (h : service.Forwards baseTable priority)
    (hbase : baseTable.toNat ≤ 252) (hpriority : priority.toNat ≤ 65525)
    (hports : service.config.internalPort ≠ service.config.externalPort) {rule rule' : DnatRule}
    (hrule : rule' ∈ service.config.rules) (hoverlaps : rule.Overlaps rule') :
    (service.pipeline hbase hpriority hports).openingEntry
      (rule.newMatch service.config.externalPort) rule'.natConfig.1 ∈
        flowTable (service.allFlows baseTable priority) := by
  have hinstalled := service.installed hbase hpriority hports
  have hdelivers : service.Delivers baseTable opens [] (rule.packet service.config.externalPort)
      service.config.internalPort _ :=
    .opening hrule (hoverlaps.concerns _) rfl opens_tracked.1 opens_tracked.2
  rcases NatPipeline.selected_of_emits hinstalled ((h ..).mpr hdelivers) with
    harp | ⟨-, -, hpasses, -⟩ | ⟨m, nat, hopening, -, hpasses, hsel⟩
  · exact absurd harp (arpEntry_not_mem hbase hpriority hports)
  · cases hpasses
  · simp only [pipeline, List.mem_map, Prod.mk.injEq] at hopening
    rcases hopening with ⟨taken, -, rfl, rfl⟩
    have htaken : taken.Concerns (rule.packet service.config.externalPort) :=
      (concerns_tracked taken).mp ((taken.newMatch_holds _ _).mp hsel.accepts).2.1
    have hself : rule.Overlaps rule := ⟨rfl, rfl, fun _ => rfl⟩
    have hmatch := (hself.concerns _).overlaps htaken
    have hsecond := (List.cons.inj (List.cons.inj hpasses).2).1
    have hnat : rule'.natConfig.1 = taken.natConfig.1 :=
      rule'.natConfig_fst.trans (Option.some.inj (congrArg (fun pass => pass.ct.nat) hsecond))
    rw [hmatch.newMatch_eq, hnat]
    exact hsel.mem

/-- **The flows of a DNAT service do what its rules say exactly when the rules for the same packets
    have the same target.**  Of two rules for the same packets with different targets, one is not
    done. -/
theorem forwards_iff (service : DnatService) {baseTable : U8} {priority : U16}
    (hbase : baseTable.toNat ≤ 252) (hpriority : priority.toNat ≤ 65525)
    (hports : service.config.internalPort ≠ service.config.externalPort) :
    service.Forwards baseTable priority ↔ service.config.Consistent := by
  constructor
  case mp =>
    intro hforwards rule hrule rule' hrule' hoverlaps
    have hself : rule.Overlaps rule := ⟨rfl, rfl, fun _ => rfl⟩
    have hmem := hforwards.mem_entry hbase hpriority hports hrule hself
    have hmem' := hforwards.mem_entry hbase hpriority hports hrule' hoverlaps
    have heq := eq_of_key_installed hmem hmem' (by simp [FlowEntry.key, NatPipeline.openingEntry,
      applyEntry])
    apply DnatRule.natConfig_inj hoverlaps.family
    simpa [NatPipeline.openingEntry, applyEntry, NatPipeline.commit] using heq
  case mpr => exact forwards_of_consistent hbase hpriority hports

/-- Port 80 is forwarded to two hosts, port 443 to one. -/
def twoHosts : DnatService :=
  ⟨(((DnatConfig.new 2 1).addRule (.tcp 80 0x0a00000a 8080)).addRule
    (.tcp 443 0x0a00000a 8443)).addRule (.tcp 80 0x0a00000b 8080)⟩

theorem forwards_iff_twoHosts :
    (twoHosts.Forwards 0 100 ↔ twoHosts.config.Consistent) ∧ ¬ twoHosts.config.Consistent := by
  refine ⟨forwards_iff twoHosts (by decide) (by decide) (by decide), ?_⟩
  intro hconsistent
  have hoverlaps : (DnatRule.tcp 80 0x0a00000a 8080).Overlaps (.tcp 80 0x0a00000b 8080) :=
    ⟨rfl, rfl, fun _ => rfl⟩
  have htargets := (hconsistent _ (.head _) _ (.tail _ (.tail _ (.head _))) hoverlaps).1
  exact absurd htargets (by decide)

end DnatService

end Rovs.OpenFlow

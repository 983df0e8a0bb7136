import Rovs.NatIsolation

/-!
# Which packets a SNAT gateway translates

A gateway translates a packet when it hands it to the tracker in an action with NAT.  It does so
with the packets that open connections.  Those of established connections it forwards after the
first pass, whose action has no NAT, in both directions.  So all packets are translated exactly
when none comes back from the first pass as part of an established connection.

This is `snat_translates_iff`.
-/

namespace Rovs.OpenFlow

namespace SnatGateway

variable (gateway : SnatGateway) (baseTable : U8) (priority : U16)

/-- The family of the packet is one that the gateway has an external address for. -/
def Handles (pkt : Packet) : Prop :=
  pkt.ethType = 0x0800 ∧ gateway.config.hasIpv4 ∨ pkt.ethType = 0x86dd ∧ gateway.config.hasIpv6

/-- NAT of the source, to the given addresses and with the port settings of the configuration. -/
structure SourceNat (config : SnatConfig) (v4 : Option Ipv4Addr × Option Ipv4Addr)
    (v6 : Option Ipv6Addr × Option Ipv6Addr) (nat : NatConfig) : Prop where
  flags : nat.flags = if config.randomPorts then natFlagsSrc ||| natFlagsProtoRandom
    else natFlagsSrc
  ipv4 : (nat.ipv4Min, nat.ipv4Max) = v4
  ipv6 : (nat.ipv6Min, nat.ipv6Max) = v6
  ports : (nat.portMin, nat.portMax) =
    (config.portRange.map Prod.fst, config.portRange.map Prod.snd)

/-- NAT of the source to the external addresses of the packet's family, or the NAT of the committed
    connection, which names nothing. -/
def Masquerades (pkt : Packet) (nat : NatConfig) : Prop :=
  let config := gateway.config
  pkt.ethType = 0x0800 ∧ config.externalIp.isSome = true ∧
      SourceNat config (config.externalIp, config.externalIpMax) (none, none) nat ∨
    pkt.ethType = 0x86dd ∧ config.externalIpV6.isSome = true ∧
      SourceNat config (none, none) (config.externalIpV6, config.externalIpV6Max) nat ∨
    nat = { flags := 0, ipv4Min := none, ipv4Max := none, ipv6Min := none, ipv6Max := none,
            portMin := none, portMax := none }

/-- Every packet that the gateway sends out is masqueraded, and every packet that it lets in has
    passed NAT, in the whole sequence. -/
def Translates (tracker : Tracker) (packets : List Packet) : Prop :=
  ∀ earlier received later, packets = earlier ++ received :: later → gateway.Handles received →
    ∀ port passes,
      Emits (flowTable (gateway.allFlows baseTable priority)) tracker earlier received baseTable
        port passes →
      (received.inPort = gateway.config.internalPort → port = gateway.config.externalPort →
        ∃ pass ∈ passes, ∃ nat, pass.ct.nat = some nat ∧ gateway.Masquerades received nat) ∧
      (received.inPort = gateway.config.externalPort → port = gateway.config.internalPort →
        ∃ pass ∈ passes, pass.ct.nat.isSome)

/-- The action of the first table. -/
def firstAction : Ct := ⟨0, gateway.config.zone, some (baseTable + 1), none⟩

/-- No packet of the sequence comes back from the first action as one of an established
    connection. -/
def NoneEstablished (tracker : Tracker) (packets : List Packet) : Prop :=
  ∀ earlier received later, packets = earlier ++ received :: later → gateway.Handles received →
    received.inPort = gateway.config.internalPort ∨
      received.inPort = gateway.config.externalPort →
    ¬ (tracker.answer earlier received [] (gateway.firstAction baseTable) received).Established

variable {gateway baseTable priority} {tracker : Tracker} {earlier : List Packet}
  {received : Packet} {port : U32} {passes : List CtPass} (hbase : baseTable.toNat ≤ 252)
  (hpriority : priority.toNat ≤ 65525)
  (hports : gateway.config.internalPort ≠ gateway.config.externalPort)

theorem Handles.family (h : gateway.Handles received) :
    received.ethType ∈ (gateway.pipeline hbase hpriority hports).families ∧
      received.ethType ≠ 0x0806 := by
  rcases h with ⟨htype, hfamily⟩ | ⟨htype, hfamily⟩
  · constructor
    case left => simp [pipeline, htype, hfamily]
    case right => simp [htype]
  · constructor
    case left => simp [pipeline, htype, hfamily]
    case right => simp [htype]

/-- The packets of established connections leave without NAT. -/
theorem emits_untranslated (h : gateway.Handles received)
    (hopposite : (gateway.pipeline hbase hpriority hports).Opposite received.inPort port)
    (hest : (tracker.answer earlier received [] (gateway.firstAction baseTable)
      received).Established) :
    ∃ passes, Emits (flowTable (gateway.allFlows baseTable priority)) tracker earlier received
      baseTable port passes ∧ ∀ pass ∈ passes, pass.ct.nat = none := by
  rcases h.family hbase hpriority hports with ⟨hfamily, harp⟩
  refine ⟨_, NatPipeline.emits_established (gateway.installed hbase hpriority hports) hfamily harp
    hopposite hest, ?_⟩
  intro pass hpass
  rw [List.mem_singleton.mp hpass]
  rfl

/-- The port settings go into the flags and the ports only. -/
theorem SourceNat.withPorts (config : SnatConfig) (nat : NatConfig)
    (hflags : nat.flags = natFlagsSrc) (hmin : nat.portMin = none) (hmax : nat.portMax = none) :
    SourceNat config (nat.ipv4Min, nat.ipv4Max) (nat.ipv6Min, nat.ipv6Max)
      (config.withPorts nat) := by
  have hrandom : (natFlagsSrc ||| natFlagsProtoRandom) &&& ~~~natFlagsProtoHash =
      natFlagsSrc ||| natFlagsProtoRandom := by decide
  rw [SnatConfig.withPorts]
  rcases hrange : config.portRange with _ | ⟨min, max⟩ <;> cases hports : config.randomPorts
  all_goals
    constructor <;> simp [hrange, hports, hflags, hmin, hmax, hrandom, NatConfig.portRange,
      NatConfig.random]

theorem buildNatConfigV4_sourceNat {nat : NatConfig} (h : gateway.buildNatConfigV4 = some nat) :
    gateway.config.externalIp.isSome = true ∧ SourceNat gateway.config
      (gateway.config.externalIp, gateway.config.externalIpMax) (none, none) nat := by
  rcases Option.map_eq_some_iff.mp h with ⟨ip, hip, rfl⟩
  rw [hip]
  refine ⟨rfl, ?_⟩
  cases gateway.config.externalIpMax with
  | none => exact .withPorts _ (.snat ip) rfl rfl rfl
  | some max => exact .withPorts _ (.snatRange ip max) rfl rfl rfl

theorem buildNatConfigV6_sourceNat {nat : NatConfig} (h : gateway.buildNatConfigV6 = some nat) :
    gateway.config.externalIpV6.isSome = true ∧ SourceNat gateway.config
      (none, none) (gateway.config.externalIpV6, gateway.config.externalIpV6Max) nat := by
  rcases Option.map_eq_some_iff.mp h with ⟨ip, hip, rfl⟩
  rw [hip]
  refine ⟨rfl, ?_⟩
  cases gateway.config.externalIpV6Max with
  | none => exact .withPorts _ (.snatV6 ip) rfl rfl rfl
  | some max => exact .withPorts _ (.snatV6Range ip max) rfl rfl rfl

/-- The packets that open connections are masqueraded. -/
theorem opening_masquerades {m : Match} {nat : NatConfig}
    (hopening : (m, nat) ∈ (gateway.pipeline hbase hpriority hports).openings)
    {pkt : Packet} (hholds : m.Holds pkt) : gateway.Masquerades pkt nat := by
  simp only [pipeline, List.mem_append, Option.mem_toList, Option.map_eq_some_iff,
    Prod.mk.injEq] at hopening
  rcases hopening with ⟨nat, hnat, rfl, rfl⟩ | ⟨nat, hnat, rfl, rfl⟩
  · exact .inl ⟨((gateway.config.holds_newMatch _ pkt).mp hholds).2.1,
      buildNatConfigV4_sourceNat hnat⟩
  · exact .inr (.inl ⟨((gateway.config.holds_newMatch _ pkt).mp hholds).2.1,
      buildNatConfigV6_sourceNat hnat⟩)

/-- A sequence with an established packet is not translated. -/
theorem not_translates (hbase : baseTable.toNat ≤ 252) (hpriority : priority.toNat ≤ 65525)
    (hports : gateway.config.internalPort ≠ gateway.config.externalPort)
    {packets later : List Packet} (hsplit : packets = earlier ++ received :: later)
    (hhandles : gateway.Handles received)
    (hport : received.inPort = gateway.config.internalPort ∨
      received.inPort = gateway.config.externalPort)
    (hest : (tracker.answer earlier received [] (gateway.firstAction baseTable)
      received).Established) :
    ¬ gateway.Translates baseTable priority tracker packets := by
  intro htranslates
  rcases hport with hin | hout
  · rcases emits_untranslated hbase hpriority hports hhandles (.inl ⟨hin, rfl⟩) hest with
      ⟨passes, hemits, hnone⟩
    rcases (htranslates _ _ _ hsplit hhandles _ _ hemits).1 hin rfl with
      ⟨pass, hpass, nat, hnat, -⟩
    rw [hnone pass hpass] at hnat
    cases hnat
  · rcases emits_untranslated hbase hpriority hports hhandles (.inr ⟨hout, rfl⟩) hest with
      ⟨passes, hemits, hnone⟩
    rcases (htranslates _ _ _ hsplit hhandles _ _ hemits).2 hout rfl with ⟨pass, hpass, hnat⟩
    rw [hnone pass hpass] at hnat
    cases hnat

/-- **The packets of a sequence are translated exactly when none of them belongs to an established
    connection.**  The flows for established packets are without NAT, so such a packet leaves as it
    came, whatever the tracker has recorded for its connection. -/
theorem snat_translates_iff (hbase : baseTable.toNat ≤ 252) (hpriority : priority.toNat ≤ 65525)
    (hports : gateway.config.internalPort ≠ gateway.config.externalPort) (tracker : Tracker)
    (packets : List Packet) : gateway.Translates baseTable priority tracker packets ↔
      gateway.NoneEstablished baseTable tracker packets := by
  constructor
  · intro htranslates earlier received later hsplit hhandles hport hest
    exact not_translates hbase hpriority hports hsplit hhandles hport hest htranslates
  · intro hnone earlier received later hsplit hhandles port passes hemits
    rcases hhandles.family hbase hpriority hports with ⟨-, harp⟩
    rcases NatPipeline.emits_cases (gateway.installed hbase hpriority hports) hemits with
      harp' | ⟨-, hopposite, -, hest⟩ | ⟨m, nat, hopening, -, rfl, hholds, -⟩
    · exact absurd harp' harp
    · refine absurd hest (hnone _ _ _ hsplit hhandles ?_)
      rcases hopposite with ⟨hin, -⟩ | ⟨hout, -⟩
      · exact .inl hin
      · exact .inr hout
    · have hmasquerades := opening_masquerades hbase hpriority hports hopening hholds
      have htype : ((gateway.pipeline hbase hpriority hports).firstPass tracker earlier
          received).answer.ethType = received.ethType := tracker.answer_ethType ..
      rw [Masquerades, htype] at hmasquerades
      have hsecond := List.mem_cons_of_mem
        ((gateway.pipeline hbase hpriority hports).firstPass tracker earlier received)
        (List.mem_singleton_self
          ((gateway.pipeline hbase hpriority hports).secondPass tracker earlier received nat))
      constructor
      case left => exact fun _ _ => ⟨_, hsecond, nat, rfl, hmasquerades⟩
      case right => exact fun _ _ => ⟨_, hsecond, rfl⟩

/-- An IPv4 packet from inside. -/
def outbound : Packet :=
  (Packet.mk (fun _ => 0) none).put .inPort 1 |>.put .ethType 0x0800

/-- The first packet of a sequence opens a connection, the others belong to it. -/
def connection : Tracker where
  answer earlier _ _ _ pkt :=
    pkt.put .ctState (ctStateTrk ||| if earlier.isEmpty then ctStateNew else ctStateEst)
  keeps_vlan _ _ _ _ _ := rfl
  keeps earlier _ _ _ pkt p htracked _ := by
    apply Packet.put_part_of_ne
    rintro rfl
    cases htracked

theorem snat_translates_iff_web :
    webGateway.Translates 0 100 connection [outbound] ↔
      webGateway.NoneEstablished 0 connection [outbound] :=
  snat_translates_iff (by decide) (by decide) (by decide) connection [outbound]

/-- The second packet of a connection leaves with its internal address. -/
theorem secondPacket_untranslated :
    ¬ webGateway.Translates 0 100 connection [outbound, outbound] := by
  have hsplit : [outbound, outbound] = [outbound] ++ outbound :: [] := rfl
  refine not_translates (by decide) (by decide) (by decide) hsplit (.inl ⟨rfl, rfl⟩) (.inl rfl) ?_
  refine ⟨?_, ?_, ?_⟩ <;> decide

end SnatGateway

end Rovs.OpenFlow

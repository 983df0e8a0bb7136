import Rovs.ArpProxy
import Rovs.VlanDelivery

/-!
# MAC address translation (`rovs-ext/src/flows/mac_nat.rs`)

A host behind a switch appears on another port under another MAC address.  Each direction has one
flow for IPv4, one for IPv6 and one for ARP; the flows for ARP also rewrite the address in the ARP
body.  Several hosts share a table.  Frames that come in for an external address can go to one host
only, so hosts that share one are not both served.

`MacNats.Serves` says what serving a list of hosts means, on the frames that leave, and
`macNat_serves_iff` when it is done.  Ports are internal or external, not both (`TwoSided`).
-/

namespace Rovs.OpenFlow

/-! ### The flows -/

/-- `ActionList::set_arp_tha`. -/
def setArpTha (mac : U64) : Action := .nxRegLoad nxmArpTha 0 48 mac

structure MacNatConfig where
  internalMac : MacAddr
  externalMac : MacAddr
  internalPort : U32
  externalPort : U32
deriving DecidableEq, Repr

namespace MacNatConfig

variable (config : MacNatConfig)

def outboundMatch (ethType : U16) : Match :=
  { Match.new with
    inPort := some config.internalPort
    ethSrc := some config.internalMac
    ethType := some ethType }

def inboundMatch (ethType : U16) : Match :=
  { Match.new with
    inPort := some config.externalPort
    ethDst := some config.externalMac
    ethType := some ethType }

section Flows

variable (table : U8) (priority : U16)

def ipv4Outbound : Flow :=
  .template table priority (config.outboundMatch 0x0800)
    [.setEthSrc config.externalMac, .output (.port config.externalPort)]

def ipv6Outbound : Flow :=
  .template table priority (config.outboundMatch 0x86dd)
    [.setEthSrc config.externalMac, .output (.port config.externalPort)]

def arpOutbound : Flow :=
  .template table priority (config.outboundMatch 0x0806)
    [.setEthSrc config.externalMac, setArpSha (macToU64 config.externalMac),
      .output (.port config.externalPort)]

def ipv4Inbound : Flow :=
  .template table priority (config.inboundMatch 0x0800)
    [.setEthDst config.internalMac, .output (.port config.internalPort)]

def ipv6Inbound : Flow :=
  .template table priority (config.inboundMatch 0x86dd)
    [.setEthDst config.internalMac, .output (.port config.internalPort)]

def arpInbound : Flow :=
  .template table priority (config.inboundMatch 0x0806)
    [.setEthDst config.internalMac, setArpTha (macToU64 config.internalMac),
      .output (.port config.internalPort)]

/-- `MacNatFlows::all_flows`. -/
def allFlows : List Flow :=
  [config.ipv4Outbound table priority, config.ipv4Inbound table priority,
    config.ipv6Outbound table priority, config.ipv6Inbound table priority,
    config.arpOutbound table priority, config.arpInbound table priority]

end Flows

/-! ### What is asked -/

/-- The frame as it leaves on the external port. -/
def outbound (frame : EthernetFrame) : EthernetFrame :=
  (frame.write .ethSrc config.externalMac).write (.arp .sha) config.externalMac

/-- The frame as it comes to the host. -/
def inbound (frame : EthernetFrame) : EthernetFrame :=
  (frame.write .ethDst config.internalMac).write (.arp .tha) config.internalMac

end MacNatConfig

/-- The types of the frames that are translated: IPv4, IPv6 and ARP. -/
def IsNatType (ethType : U16) : Prop := ethType = 0x0800 ∨ ethType = 0x86dd ∨ ethType = 0x0806

/-- Translators, each with the priority that its flows are installed with. -/
structure MacNats where
  hosts : List (MacNatConfig × U16)

namespace MacNats

variable (nats : MacNats)

def allFlows (table : U8) : List Flow :=
  nats.hosts.flatMap fun host => host.1.allFlows table host.2

/-- No port is on both sides. -/
def TwoSided : Prop :=
  ∀ host ∈ nats.hosts, ∀ host' ∈ nats.hosts, host.1.internalPort ≠ host'.1.externalPort

/-- An address on one side belongs to one address on the other. -/
structure Apart : Prop where
  internal : ∀ host ∈ nats.hosts, ∀ host' ∈ nats.hosts,
    host.1.internalPort = host'.1.internalPort → host.1.internalMac = host'.1.internalMac →
      host.1.externalPort = host'.1.externalPort ∧ host.1.externalMac = host'.1.externalMac
  external : ∀ host ∈ nats.hosts, ∀ host' ∈ nats.hosts,
    host.1.externalPort = host'.1.externalPort → host.1.externalMac = host'.1.externalMac →
      host.1.internalPort = host'.1.internalPort ∧ host.1.internalMac = host'.1.internalMac

/-- What is asked of the flows in a table of their own.  A host sends and receives under its
    external address, and nothing else passes. -/
structure Serves (table : U8) (dissector : Dissector) : Prop where
  outbound : ∀ host ∈ nats.hosts, ∀ frame,
    IsNatType (dissector.packet host.1.internalPort frame).ethType →
    frame.src = host.1.internalMac →
      Sends (installed FrameRule.key (frameRules (nats.allFlows table))) table dissector
        host.1.internalPort frame
        ((exits host.1.internalPort host.1.externalPort).map (·, host.1.outbound frame))
  inbound : ∀ host ∈ nats.hosts, ∀ frame,
    IsNatType (dissector.packet host.1.externalPort frame).ethType →
    frame.dst = host.1.externalMac →
      Sends (installed FrameRule.key (frameRules (nats.allFlows table))) table dissector
        host.1.externalPort frame
        ((exits host.1.externalPort host.1.internalPort).map (·, host.1.inbound frame))
  other : ∀ port frame, (∀ host ∈ nats.hosts,
      ¬ (IsNatType (dissector.packet port frame).ethType ∧
        (port = host.1.internalPort ∧ frame.src = host.1.internalMac ∨
          port = host.1.externalPort ∧ frame.dst = host.1.externalMac))) →
    ∀ r, ¬ frameLookup.Selects (installed FrameRule.key (frameRules (nats.allFlows table))) table
      (dissector.packet port frame) r

end MacNats

/-! ### The rules of a host -/

/-- Rewriting an address of an ARP body, in whatever frame. -/
theorem rewrite_loadArp (f : ArpField) {value : U64} {v : BitVec f.width}
    (hv : value.setWidth _ = v) (frame : EthernetFrame) :
    (FrameAction.load (.arp f) 0 f.width value).rewrite frame = frame.write (.arp f) v := by
  by_cases harp : frame.IsArp
  case pos => exact rewrite_load (EthernetFrame.read_arp harp f) hv
  case neg =>
    have hread : frame.read (.arp f) = none := if_neg harp
    have hwrite : frame.write (.arp f) v = frame := if_neg harp
    rw [hwrite, FrameAction.rewrite, EthernetFrame.writeBits, hread]

namespace MacNatConfig

variable (config : MacNatConfig) (table : U8) (priority : U16)

/-- The outbound rule of a type, with what it rewrites behind the source. -/
def outboundRule (ethType : U16) (deeds : List FrameAction) : FrameRule where
  table := table
  priority := priority
  conditions := (config.outboundMatch ethType).tlvs
  actions := .setField .ethSrc config.externalMac :: (deeds ++ [.output config.externalPort])

def inboundRule (ethType : U16) (deeds : List FrameAction) : FrameRule where
  table := table
  priority := priority
  conditions := (config.inboundMatch ethType).tlvs
  actions := .setField .ethDst config.internalMac :: (deeds ++ [.output config.internalPort])

def loadSha : List FrameAction := [.load (.arp .sha) 0 48 (macToU64 config.externalMac)]

def loadTha : List FrameAction := [.load (.arp .tha) 0 48 (macToU64 config.internalMac)]

/-- The rules of the six flows. -/
def rules : List FrameRule :=
  [config.outboundRule table priority 0x0800 [], config.inboundRule table priority 0x0800 [],
    config.outboundRule table priority 0x86dd [], config.inboundRule table priority 0x86dd [],
    config.outboundRule table priority 0x0806 config.loadSha,
    config.inboundRule table priority 0x0806 config.loadTha]

theorem readFrameAction_setEthSrc (mac : MacAddr) :
    readFrameAction (encodeSetField 6 2 .ethSrc mac) = some (.setField .ethSrc mac) := by
  have hfield : FrameField.ofWord (setFieldHeader 6 .ethSrc) = some .ethSrc := by decide
  exact readFrameAction_setField hfield rfl rfl

theorem readFrameAction_setEthDst (mac : MacAddr) :
    readFrameAction (encodeSetField 6 2 .ethDst mac) = some (.setField .ethDst mac) := by
  have hfield : FrameField.ofWord (setFieldHeader 6 .ethDst) = some .ethDst := by decide
  exact readFrameAction_setField hfield rfl rfl

/-- A flow that sets an address, does more and puts out. -/
theorem readRule_translation (m : Match) (set : Action) {deed : FrameAction}
    (actions : List Action) (deeds : List FrameAction) (port : U32)
    (hset : readFrameAction set.encode = some deed) (hne : set.encode ≠ [])
    (hread : ReadOnFrames (actions ++ [.output (.port port)]) (deeds ++ [.output port]))
    {n : Nat} (hn : n ≤ 1000)
    (hlength : ((set :: (actions ++ [.output (.port port)])).flatMap Action.encode).length = n) :
    readRule (Flow.template table priority m (set :: (actions ++ [.output (.port port)]))).encode =
      some ⟨table, priority, m.tlvs, deed :: (deeds ++ [.output port])⟩ :=
  readRule_template (List.cons_ne_nil _ _) (hlength.trans_le hn) (hread.cons hset hne)

theorem readOnFrames_output (port : U32) :
    ReadOnFrames [.output (.port port)] [.output port] :=
  ReadOnFrames.cons (a := .output (.port port)) (readFrameAction_output ..) .nil
    (fun heq => by cases heq)

theorem readOnFrames_setArpSha (mac : MacAddr) (port : U32) :
    ReadOnFrames [setArpSha (macToU64 mac), .output (.port port)]
      [.load (.arp .sha) 0 48 (macToU64 mac), .output port] :=
  ReadOnFrames.cons (a := setArpSha (macToU64 mac))
    (readFrameAction_load (by decide) (by decide) (by decide) _) (readOnFrames_output port)
    (fun heq => by cases heq)

theorem readOnFrames_setArpTha (mac : MacAddr) (port : U32) :
    ReadOnFrames [setArpTha (macToU64 mac), .output (.port port)]
      [.load (.arp .tha) 0 48 (macToU64 mac), .output port] :=
  ReadOnFrames.cons (a := setArpTha (macToU64 mac))
    (readFrameAction_load (by decide) (by decide) (by decide) _) (readOnFrames_output port)
    (fun heq => by cases heq)

/-- The flows are read as the rules. -/
theorem frameRules_allFlows :
    frameRules (config.allFlows table priority) = config.rules table priority := by
  have hsrc := readFrameAction_setEthSrc config.externalMac
  have hdst := readFrameAction_setEthDst config.internalMac
  have hout := fun ethType => readRule_translation table priority (config.outboundMatch ethType)
    (.setEthSrc config.externalMac) [] [] config.externalPort hsrc (fun heq => by cases heq)
    (readOnFrames_output _) (show 32 ≤ 1000 by decide) rfl
  have hin := fun ethType => readRule_translation table priority (config.inboundMatch ethType)
    (.setEthDst config.internalMac) [] [] config.internalPort hdst (fun heq => by cases heq)
    (readOnFrames_output _) (show 32 ≤ 1000 by decide) rfl
  have harpOut := readRule_translation table priority (config.outboundMatch 0x0806)
    (.setEthSrc config.externalMac) [setArpSha (macToU64 config.externalMac)] config.loadSha
    config.externalPort hsrc (fun heq => by cases heq) (readOnFrames_setArpSha _ _)
    (show 56 ≤ 1000 by decide) rfl
  have harpIn := readRule_translation table priority (config.inboundMatch 0x0806)
    (.setEthDst config.internalMac) [setArpTha (macToU64 config.internalMac)] config.loadTha
    config.internalPort hdst (fun heq => by cases heq) (readOnFrames_setArpTha _ _)
    (show 56 ≤ 1000 by decide) rfl
  have h₁ : readRule (config.ipv4Outbound table priority).encode = _ := hout 0x0800
  have h₂ : readRule (config.ipv4Inbound table priority).encode = _ := hin 0x0800
  have h₃ : readRule (config.ipv6Outbound table priority).encode = _ := hout 0x86dd
  have h₄ : readRule (config.ipv6Inbound table priority).encode = _ := hin 0x86dd
  have h₅ : readRule (config.arpOutbound table priority).encode = _ := harpOut
  have h₆ : readRule (config.arpInbound table priority).encode = _ := harpIn
  simp only [frameRules, allFlows, List.filterMap_cons, h₁, h₂, h₃, h₄, h₅, h₆,
    List.filterMap_nil]
  rfl

/-! ### What the rules of a host do -/

variable {config table priority} {ethType : U16} {dissector : Dissector} {port : U32}
  {frame : EthernetFrame}

theorem outboundMatch_holds {pkt : Packet} : (config.outboundMatch ethType).Holds pkt ↔
    pkt.inPort = config.internalPort ∧ pkt.ethSrc = config.internalMac ∧
      pkt.ethType = ethType := by
  rw [Match.holds_iff]
  simp only [outboundMatch, Match.new, Option.map_none, asks_none, asks_plain, true_and, and_true]

theorem inboundMatch_holds {pkt : Packet} : (config.inboundMatch ethType).Holds pkt ↔
    pkt.inPort = config.externalPort ∧ pkt.ethDst = config.externalMac ∧
      pkt.ethType = ethType := by
  rw [Match.holds_iff]
  simp only [inboundMatch, Match.new, Option.map_none, asks_none, asks_plain, true_and, and_true]

theorem outboundRule_accepts {deeds : List FrameAction} :
    (config.outboundRule table priority ethType deeds).Accepts (dissector.packet port frame) ↔
      port = config.internalPort ∧ frame.src = config.internalMac ∧
        (dissector.packet port frame).ethType = ethType := by
  refine outboundMatch_holds.trans ?_
  rw [dissector.inPort, dissector.ethSrc]

theorem inboundRule_accepts {deeds : List FrameAction} :
    (config.inboundRule table priority ethType deeds).Accepts (dissector.packet port frame) ↔
      port = config.externalPort ∧ frame.dst = config.externalMac ∧
        (dissector.packet port frame).ethType = ethType := by
  refine inboundMatch_holds.trans ?_
  rw [dissector.inPort, dissector.ethDst]

/-- A frame with an ARP body is seen as ARP. -/
theorem ethType_of_isArp (h : frame.IsArp) : (dissector.packet port frame).ethType = 0x0806 := by
  have hlong : 0x0600 ≤ frame.etherType := by
    rw [h.1]
    decide
  rw [dissector.ethType port frame hlong, h.1]

theorem outbound_of_not_isArp (h : ¬ frame.IsArp) :
    config.outbound frame = frame.write .ethSrc config.externalMac := if_neg h

theorem inbound_of_not_isArp (h : ¬ frame.IsArp) :
    config.inbound frame = frame.write .ethDst config.internalMac := if_neg h

theorem macToU64_setWidth (mac : MacAddr) : (macToU64 mac).setWidth 48 = mac := by
  rw [macToU64]
  bv_omega

theorem runActions_output (frame : EthernetFrame) (inPort port : U32) :
    runActions inPort [.output port] frame = (exits inPort port).map (·, frame) :=
  List.append_nil _

theorem runActions_outboundRule (h : ¬ frame.IsArp) :
    runActions port (config.outboundRule table priority ethType []).actions frame =
      (exits port config.externalPort).map (·, config.outbound frame) := by
  rw [outbound_of_not_isArp h]
  exact (runActions_rewrite (fun _ heq => by cases heq) rfl).trans (runActions_output _ _ _)

theorem runActions_inboundRule (h : ¬ frame.IsArp) :
    runActions port (config.inboundRule table priority ethType []).actions frame =
      (exits port config.internalPort).map (·, config.inbound frame) := by
  rw [inbound_of_not_isArp h]
  exact (runActions_rewrite (fun _ heq => by cases heq) rfl).trans (runActions_output _ _ _)

theorem runActions_arpOutboundRule :
    runActions port (config.outboundRule table priority ethType config.loadSha).actions frame =
      (exits port config.externalPort).map (·, config.outbound frame) := by
  have hmac : (macToU64 config.externalMac).setWidth ArpField.sha.width = config.externalMac :=
    macToU64_setWidth _
  have hload := rewrite_loadArp .sha hmac (frame.write .ethSrc config.externalMac)
  apply (runActions_rewrite (fun _ heq => by cases heq) rfl).trans
  exact (runActions_rewrite (fun _ heq => by cases heq) hload).trans (runActions_output _ _ _)

theorem runActions_arpInboundRule :
    runActions port (config.inboundRule table priority ethType config.loadTha).actions frame =
      (exits port config.internalPort).map (·, config.inbound frame) := by
  have hmac : (macToU64 config.internalMac).setWidth ArpField.tha.width = config.internalMac :=
    macToU64_setWidth _
  have hload := rewrite_loadArp .tha hmac (frame.write .ethDst config.internalMac)
  apply (runActions_rewrite (fun _ heq => by cases heq) rfl).trans
  exact (runActions_rewrite (fun _ heq => by cases heq) hload).trans (runActions_output _ _ _)

/-- What a rule of a host takes, and what it makes of it. -/
theorem rules_cases {r : FrameRule} (hr : r ∈ config.rules table priority)
    (haccepts : r.Accepts (dissector.packet port frame)) :
    IsNatType (dissector.packet port frame).ethType ∧
      (port = config.internalPort ∧ frame.src = config.internalMac ∧
        runActions port r.actions frame =
          (exits port config.externalPort).map (·, config.outbound frame) ∨
      port = config.externalPort ∧ frame.dst = config.externalMac ∧
        runActions port r.actions frame =
          (exits port config.internalPort).map (·, config.inbound frame)) := by
  have hnotArp : (dissector.packet port frame).ethType ≠ 0x0806 → ¬ frame.IsArp :=
    fun hne harp => hne (ethType_of_isArp harp)
  simp only [rules, List.mem_cons, List.not_mem_nil, or_false] at hr
  rcases hr with rfl | rfl | rfl | rfl | rfl | rfl
  · rcases outboundRule_accepts.mp haccepts with ⟨hport, hsrc, htype⟩
    have hne := hnotArp (by rw [htype]; decide)
    exact ⟨.inl htype, .inl ⟨hport, hsrc, runActions_outboundRule hne⟩⟩
  · rcases inboundRule_accepts.mp haccepts with ⟨hport, hdst, htype⟩
    have hne := hnotArp (by rw [htype]; decide)
    exact ⟨.inl htype, .inr ⟨hport, hdst, runActions_inboundRule hne⟩⟩
  · rcases outboundRule_accepts.mp haccepts with ⟨hport, hsrc, htype⟩
    have hne := hnotArp (by rw [htype]; decide)
    exact ⟨.inr (.inl htype), .inl ⟨hport, hsrc, runActions_outboundRule hne⟩⟩
  · rcases inboundRule_accepts.mp haccepts with ⟨hport, hdst, htype⟩
    have hne := hnotArp (by rw [htype]; decide)
    exact ⟨.inr (.inl htype), .inr ⟨hport, hdst, runActions_inboundRule hne⟩⟩
  · rcases outboundRule_accepts.mp haccepts with ⟨hport, hsrc, htype⟩
    exact ⟨.inr (.inr htype), .inl ⟨hport, hsrc, runActions_arpOutboundRule⟩⟩
  · rcases inboundRule_accepts.mp haccepts with ⟨hport, hdst, htype⟩
    exact ⟨.inr (.inr htype), .inr ⟨hport, hdst, runActions_arpInboundRule⟩⟩

theorem exists_outboundRule (htype : IsNatType (dissector.packet config.internalPort frame).ethType)
    (hsrc : frame.src = config.internalMac) :
    ∃ r ∈ config.rules table priority, r.table = table ∧
      r.Accepts (dissector.packet config.internalPort frame) := by
  rcases htype with htype | htype | htype
  · exact ⟨_, .head _, rfl, outboundRule_accepts.mpr ⟨rfl, hsrc, htype⟩⟩
  · exact ⟨_, .tail _ (.tail _ (.head _)), rfl, outboundRule_accepts.mpr ⟨rfl, hsrc, htype⟩⟩
  · exact ⟨_, .tail _ (.tail _ (.tail _ (.tail _ (.head _)))), rfl,
      outboundRule_accepts.mpr ⟨rfl, hsrc, htype⟩⟩

theorem exists_inboundRule (htype : IsNatType (dissector.packet config.externalPort frame).ethType)
    (hdst : frame.dst = config.externalMac) :
    ∃ r ∈ config.rules table priority, r.table = table ∧
      r.Accepts (dissector.packet config.externalPort frame) := by
  rcases htype with htype | htype | htype
  · exact ⟨_, .tail _ (.head _), rfl, inboundRule_accepts.mpr ⟨rfl, hdst, htype⟩⟩
  · exact ⟨_, .tail _ (.tail _ (.tail _ (.head _))), rfl,
      inboundRule_accepts.mpr ⟨rfl, hdst, htype⟩⟩
  · exact ⟨_, .tail _ (.tail _ (.tail _ (.tail _ (.tail _ (.head _))))), rfl,
      inboundRule_accepts.mpr ⟨rfl, hdst, htype⟩⟩

end MacNatConfig

/-- Rules of a table of which those that accept a frame all do the same with it. -/
theorem sends_of_rules {rules : List FrameRule} {table : U8} {dissector : Dissector}
    {inPort : U32} {frame : EthernetFrame} {sent : List (Exit × EthernetFrame)}
    (hexists : ∃ r ∈ rules, r.table = table ∧ r.Accepts (dissector.packet inPort frame))
    (hall : ∀ r ∈ rules, r.Accepts (dissector.packet inPort frame) →
      runActions inPort r.actions frame = sent) :
    Sends (installed FrameRule.key rules) table dissector inPort frame sent := by
  rcases hexists with ⟨r, hr, htable, haccepts⟩
  rcases exists_mem_installed FrameRule.key hr with ⟨r', hr', hkey⟩
  have htable' : r'.table = table := (congrArg Prod.fst hkey).trans htable
  have haccepts' : r'.Accepts (dissector.packet inPort frame) :=
    fun t ht => haccepts t ((FrameRule.perm_of_key_eq hkey).subset ht)
  refine ⟨Lookup.exists_selects hr' htable' haccepts', ?_⟩
  intro r hselects
  exact hall r (mem_of_mem_installed hselects.mem) hselects.accepts

namespace MacNats

variable {nats : MacNats} {table : U8} {dissector : Dissector} {port : U32} {frame : EthernetFrame}

theorem mem_frameRules {r : FrameRule} : r ∈ frameRules (nats.allFlows table) ↔
    ∃ host ∈ nats.hosts, r ∈ host.1.rules table host.2 := by
  have hflatMap : frameRules (nats.allFlows table) =
      nats.hosts.flatMap fun host => frameRules (host.1.allFlows table host.2) :=
    List.filterMap_flatMap
  rw [hflatMap, List.mem_flatMap]
  constructor
  case mp =>
    rintro ⟨host, hmem, hr⟩
    rw [MacNatConfig.frameRules_allFlows] at hr
    exact ⟨host, hmem, hr⟩
  case mpr =>
    rintro ⟨host, hmem, hr⟩
    rw [← MacNatConfig.frameRules_allFlows] at hr
    exact ⟨host, hmem, hr⟩

/-! ### Hosts that are apart -/

theorem Apart.sends_outbound (h : nats.Apart) (hsides : nats.TwoSided)
    {host : MacNatConfig × U16} (hmem : host ∈ nats.hosts)
    (htype : IsNatType (dissector.packet host.1.internalPort frame).ethType)
    (hsrc : frame.src = host.1.internalMac) :
    Sends (installed FrameRule.key (frameRules (nats.allFlows table))) table dissector
      host.1.internalPort frame
      ((exits host.1.internalPort host.1.externalPort).map (·, host.1.outbound frame)) := by
  apply sends_of_rules
  · rcases MacNatConfig.exists_outboundRule htype hsrc with ⟨r, hr, htable, haccepts⟩
    exact ⟨r, mem_frameRules.mpr ⟨host, hmem, hr⟩, htable, haccepts⟩
  · intro r hr haccepts
    rcases mem_frameRules.mp hr with ⟨host', hmem', hr'⟩
    rcases MacNatConfig.rules_cases hr' haccepts with ⟨-, ⟨hport, hsrc', hrun⟩ | ⟨hport, -⟩⟩
    · rcases h.internal host hmem host' hmem' hport (hsrc.symm.trans hsrc') with ⟨heport, hemac⟩
      rw [hrun, MacNatConfig.outbound, MacNatConfig.outbound, heport, hemac]
    · exact absurd hport (hsides host hmem host' hmem')

theorem Apart.sends_inbound (h : nats.Apart) (hsides : nats.TwoSided)
    {host : MacNatConfig × U16} (hmem : host ∈ nats.hosts)
    (htype : IsNatType (dissector.packet host.1.externalPort frame).ethType)
    (hdst : frame.dst = host.1.externalMac) :
    Sends (installed FrameRule.key (frameRules (nats.allFlows table))) table dissector
      host.1.externalPort frame
      ((exits host.1.externalPort host.1.internalPort).map (·, host.1.inbound frame)) := by
  apply sends_of_rules
  · rcases MacNatConfig.exists_inboundRule htype hdst with ⟨r, hr, htable, haccepts⟩
    exact ⟨r, mem_frameRules.mpr ⟨host, hmem, hr⟩, htable, haccepts⟩
  · intro r hr haccepts
    rcases mem_frameRules.mp hr with ⟨host', hmem', hr'⟩
    rcases MacNatConfig.rules_cases hr' haccepts with ⟨-, ⟨hport, -⟩ | ⟨hport, hdst', hrun⟩⟩
    · exact absurd hport.symm (hsides host' hmem' host hmem)
    · rcases h.external host hmem host' hmem' hport (hdst.symm.trans hdst') with ⟨hiport, himac⟩
      rw [hrun, MacNatConfig.inbound, MacNatConfig.inbound, hiport, himac]

theorem Apart.serves (h : nats.Apart) (hsides : nats.TwoSided) (table : U8)
    (dissector : Dissector) : nats.Serves table dissector where
  outbound _ hmem _ htype hsrc := h.sends_outbound hsides hmem htype hsrc
  inbound _ hmem _ htype hdst := h.sends_inbound hsides hmem htype hdst
  other port frame hother r hselects := by
    rcases mem_frameRules.mp (mem_of_mem_installed hselects.mem) with ⟨host, hmem, hr⟩
    rcases MacNatConfig.rules_cases hr hselects.accepts with
      ⟨htype, ⟨hport, hsrc, -⟩ | ⟨hport, hdst, -⟩⟩
    · exact hother host hmem ⟨htype, .inl ⟨hport, hsrc⟩⟩
    · exact hother host hmem ⟨htype, .inr ⟨hport, hdst⟩⟩

/-! ### Hosts that share an address -/

/-- Where an output goes tells the port, unless it is the one the frame came in on. -/
theorem exits_injective {inPort p p' : U32} {f f' : EthernetFrame} (hp : p ≠ inPort)
    (hp' : p' ≠ inPort) (h : (exits inPort p).map (·, f) = (exits inPort p').map (·, f')) :
    p = p' ∧ f = f' := by
  unfold exits at h
  rw [if_neg hp, if_neg hp'] at h
  by_cases hback : p = portInPort <;> by_cases hback' : p' = portInPort <;>
    by_cases hport : IsPort p <;> by_cases hport' : IsPort p' <;>
      simp_all

/-- A rule that is selected sends one thing. -/
theorem sends_unique {rules : List FrameRule} {sent sent' : List (Exit × EthernetFrame)}
    (h : Sends rules table dissector port frame sent)
    (h' : Sends rules table dissector port frame sent') : sent = sent' := by
  rcases h.1 with ⟨r, hselects⟩
  exact (h.2 r hselects).symm.trans (h'.2 r hselects)

/-- An IPv4 frame between two addresses. -/
def probe (src dst : MacAddr) : EthernetFrame where
  dst := dst
  src := src
  tags := []
  etherType := 0x0800
  payload := []
  innermost := Tpid.ofU16_ipv4

theorem isNatType_probe (port : U32) (src dst : MacAddr) :
    IsNatType (dissector.packet port (probe src dst)).ethType :=
  .inl (dissector.ethType port (probe src dst) (show (0x0600 : U16) ≤ 0x0800 by decide))

theorem probe_not_isArp (src dst : MacAddr) : ¬ (probe src dst).IsArp :=
  fun h => absurd h.1 (show (0x0800 : U16) ≠ 0x0806 by decide)

theorem Serves.apart (h : nats.Serves table dissector) (hsides : nats.TwoSided) : nats.Apart where
  internal host hmem host' hmem' hport hmac := by
    have hne := hsides host hmem host hmem
    have hne' := hsides host hmem host' hmem'
    have hsends := h.outbound host hmem (probe host.1.internalMac 0) (isNatType_probe ..) rfl
    have hsends' := h.outbound host' hmem' (probe host.1.internalMac 0) (isNatType_probe ..) hmac
    rw [← hport] at hsends'
    rcases exits_injective hne.symm hne'.symm (sends_unique hsends hsends') with ⟨hexit, hframe⟩
    rw [MacNatConfig.outbound_of_not_isArp (probe_not_isArp _ _),
      MacNatConfig.outbound_of_not_isArp (probe_not_isArp _ _)] at hframe
    exact ⟨hexit, congrArg EthernetFrame.src hframe⟩
  external host hmem host' hmem' hport hmac := by
    have hne := hsides host hmem host hmem
    have hne' := hsides host' hmem' host hmem
    have hsends := h.inbound host hmem (probe 0 host.1.externalMac) (isNatType_probe ..) rfl
    have hsends' := h.inbound host' hmem' (probe 0 host.1.externalMac) (isNatType_probe ..) hmac
    rw [← hport] at hsends'
    rcases exits_injective hne hne' (sends_unique hsends hsends') with ⟨hexit, hframe⟩
    rw [MacNatConfig.inbound_of_not_isArp (probe_not_isArp _ _),
      MacNatConfig.inbound_of_not_isArp (probe_not_isArp _ _)] at hframe
    exact ⟨hexit, congrArg EthernetFrame.dst hframe⟩

end MacNats

/-- Two hosts behind one external address. -/
def sharedNats : MacNats where
  hosts := [(⟨0x020000000001, 0x020000000099, 1, 9⟩, 100),
    (⟨0x020000000002, 0x020000000099, 2, 9⟩, 100)]

end Rovs.OpenFlow

import Rovs.Datapath

/-!
# NAT flow templates (`rovs-ext/src/flows/nat.rs`)

`SnatGateway` masquerades outbound traffic and `DnatService` forwards ports to internal servers.
Both write three tables: connection tracking, the policy that looks at the connection state, and
the output of new connections behind their translation.
-/

namespace Rovs.OpenFlow

/-! ### NAT configurations (`rovs-openflow/src/action/mod.rs`) -/

/-- The bits of `nat_flags` that the templates set. -/
def natFlagsSrc : U16 := 1 <<< 0
def natFlagsDst : U16 := 1 <<< 1
def natFlagsProtoHash : U16 := 1 <<< 3
def natFlagsProtoRandom : U16 := 1 <<< 4

namespace NatConfig

/-- A configuration with its flags and nothing else. -/
def ofFlags (flags : U16) : NatConfig := ⟨flags, none, none, none, none, none, none⟩

def snat (addr : Ipv4Addr) : NatConfig := { ofFlags natFlagsSrc with ipv4Min := some addr }

def snatRange (min max : Ipv4Addr) : NatConfig :=
  { ofFlags natFlagsSrc with ipv4Min := some min, ipv4Max := some max }

def dnat (addr : Ipv4Addr) : NatConfig := { ofFlags natFlagsDst with ipv4Min := some addr }

def snatV6 (addr : Ipv6Addr) : NatConfig := { ofFlags natFlagsSrc with ipv6Min := some addr }

def dnatV6 (addr : Ipv6Addr) : NatConfig := { ofFlags natFlagsDst with ipv6Min := some addr }

def snatV6Range (min max : Ipv6Addr) : NatConfig :=
  { ofFlags natFlagsSrc with ipv6Min := some min, ipv6Max := some max }

def port (nat : NatConfig) (port : U16) : NatConfig :=
  { nat with portMin := some port, portMax := none }

def portRange (nat : NatConfig) (min max : U16) : NatConfig :=
  { nat with portMin := some min, portMax := some max }

def random (nat : NatConfig) : NatConfig :=
  { nat with flags := (nat.flags ||| natFlagsProtoRandom) &&& ~~~natFlagsProtoHash }

end NatConfig

/-! ### Parts of the templates -/

/-- `ct_state::TRK`, `ct_state::NEW`, `ct_state::EST` and `ct_state::INV`. -/
def ctStateTrk : U32 := 0x20
def ctStateNew : U32 := 0x01
def ctStateEst : U32 := 0x02
def ctStateInv : U32 := 0x10

/-- The match of a tracked packet that has a bit of the connection state. -/
def Match.tracked (m : Match) (bit : U32) : Match :=
  { m with ctState := some (ctStateTrk ||| bit), ctStateMask := some (ctStateTrk ||| bit) }

/-- Connection tracking of an address family. -/
def trackFlow (table : U8) (priority : U16) (zone : U16) (policyTable : U8) (ethType : U16) :
    Flow :=
  .template table priority { Match.new with ethType := some ethType }
    [.nxCt 0 zone (some policyTable)]

def dropInvalidFlow (policyTable : U8) (priority : U16) : Flow :=
  .template policyTable (priority + 10) (Match.new.tracked ctStateInv) [.drop]

/-- Established connections are forwarded. -/
def establishedFlow (policyTable : U8) (priority : U16) (inPort outPort : U32) : Flow :=
  .template policyTable (priority + 5)
    ({ Match.new with inPort := some inPort : Match }.tracked ctStateEst) [.output (.port outPort)]

/-- New connections are committed with NAT. -/
def newFlow (policyTable : U8) (priority : U16) (m : Match) (zone : U16) (outputTable : U8)
    (nat : NatConfig) : Flow :=
  .template policyTable priority m [.nxCtNat ctFlagsCommit zone (some outputTable) nat]

def outputFlow (outputTable : U8) (priority : U16) (inPort outPort : U32) : Flow :=
  .template outputTable priority { Match.new with inPort := some inPort }
    [.output (.port outPort)]

/-! ### SNAT -/

structure SnatConfig where
  externalIp : Option Ipv4Addr
  externalIpMax : Option Ipv4Addr
  externalIpV6 : Option Ipv6Addr
  externalIpV6Max : Option Ipv6Addr
  internalPort : U32
  externalPort : U32
  zone : U16
  portRange : Option (U16 × U16)
  randomPorts : Bool
deriving DecidableEq, Repr

def SnatConfig.new (externalIp : Ipv4Addr) (internalPort externalPort : U32) : SnatConfig where
  externalIp := some externalIp
  externalIpMax := none
  externalIpV6 := none
  externalIpV6Max := none
  internalPort := internalPort
  externalPort := externalPort
  zone := 1
  portRange := none
  randomPorts := false

def SnatConfig.hasIpv4 (config : SnatConfig) : Bool := config.externalIp.isSome

def SnatConfig.hasIpv6 (config : SnatConfig) : Bool := config.externalIpV6.isSome

/-- The port settings, which both address families share. -/
def SnatConfig.withPorts (config : SnatConfig) (nat : NatConfig) : NatConfig :=
  let nat := match config.portRange with
    | some (min, max) => nat.portRange min max
    | none => nat
  if config.randomPorts then nat.random else nat

/-- The match of new outbound connections. -/
def SnatConfig.newMatch (config : SnatConfig) (ethType : U16) : Match :=
  { Match.new with inPort := some config.internalPort, ethType := some ethType : Match }.tracked
    ctStateNew

structure SnatGateway where
  config : SnatConfig

namespace SnatGateway

def buildNatConfigV4 (gateway : SnatGateway) : Option NatConfig :=
  gateway.config.externalIp.map fun ip =>
    gateway.config.withPorts <|
      match gateway.config.externalIpMax with
      | some max => .snatRange ip max
      | none => .snat ip

def buildNatConfigV6 (gateway : SnatGateway) : Option NatConfig :=
  gateway.config.externalIpV6.map fun ip =>
    gateway.config.withPorts <|
      match gateway.config.externalIpV6Max with
      | some max => .snatV6Range ip max
      | none => .snatV6 ip

def allFlows (gateway : SnatGateway) (baseTable : U8) (priority : U16) : List Flow :=
  let config := gateway.config
  let ctTable := baseTable
  let policyTable := baseTable + 1
  let outputTable := baseTable + 2
  (if config.hasIpv4 then [trackFlow ctTable priority config.zone policyTable 0x0800] else [])
    ++ (if config.hasIpv6 then [trackFlow ctTable priority config.zone policyTable 0x86dd] else [])
    -- ARP passes
    ++ [.template ctTable priority { Match.new with ethType := some 0x0806 } [.output .normal],
      dropInvalidFlow policyTable priority,
      establishedFlow policyTable priority config.internalPort config.externalPort,
      establishedFlow policyTable priority config.externalPort config.internalPort]
    ++ (gateway.buildNatConfigV4.map
      (newFlow policyTable priority (config.newMatch 0x0800) config.zone outputTable)).toList
    ++ (gateway.buildNatConfigV6.map
      (newFlow policyTable priority (config.newMatch 0x86dd) config.zone outputTable)).toList
    ++ [outputFlow outputTable priority config.internalPort config.externalPort,
      outputFlow outputTable priority config.externalPort config.internalPort]

end SnatGateway

/-! ### DNAT -/

inductive DnatTarget where
  | v4 (ip : Ipv4Addr)
  | v6 (ip : Ipv6Addr)
deriving DecidableEq, Repr

structure DnatRule where
  externalPort : U16
  protocol : U8
  internalTarget : DnatTarget
  internalPort : Option U16
deriving DecidableEq, Repr

def DnatRule.tcp (externalPort : U16) (internalIp : Ipv4Addr) (internalPort : U16) : DnatRule :=
  ⟨externalPort, 6, .v4 internalIp, some internalPort⟩

def DnatRule.isIpv4 (rule : DnatRule) : Bool :=
  match rule.internalTarget with
  | .v4 _ => true
  | .v6 _ => false

def DnatRule.isIpv6 (rule : DnatRule) : Bool :=
  match rule.internalTarget with
  | .v4 _ => false
  | .v6 _ => true

/-- The NAT configuration of a rule, and the type of the packets it is for. -/
def DnatRule.natConfig (rule : DnatRule) : NatConfig × U16 :=
  let withPort (nat : NatConfig) : NatConfig :=
    match rule.internalPort with
    | some port => nat.port port
    | none => nat
  match rule.internalTarget with
  | .v4 ip => (withPort (.dnat ip), 0x0800)
  | .v6 ip => (withPort (.dnatV6 ip), 0x86dd)

structure DnatConfig where
  externalPort : U32
  internalPort : U32
  zone : U16
  rules : List DnatRule
deriving DecidableEq, Repr

def DnatConfig.new (externalPort internalPort : U32) : DnatConfig :=
  ⟨externalPort, internalPort, 1, []⟩

def DnatConfig.addRule (config : DnatConfig) (rule : DnatRule) : DnatConfig :=
  { config with rules := config.rules ++ [rule] }

def DnatConfig.hasIpv4Rules (config : DnatConfig) : Bool := config.rules.any DnatRule.isIpv4

def DnatConfig.hasIpv6Rules (config : DnatConfig) : Bool := config.rules.any DnatRule.isIpv6

/-- The match of a rule: `Match::tcp_dst` and `Match::udp_dst` set the protocol again. -/
def DnatRule.newMatch (rule : DnatRule) (externalPort : U32) : Match :=
  let m := { Match.new with
    inPort := some externalPort
    ethType := some rule.natConfig.2
    ipProto := some rule.protocol : Match }.tracked ctStateNew
  if rule.protocol = 6 then { m with ipProto := some 6, tcpDst := some rule.externalPort }
  else if rule.protocol = 17 then { m with ipProto := some 17, udpDst := some rule.externalPort }
  else m

structure DnatService where
  config : DnatConfig

def DnatService.allFlows (service : DnatService) (baseTable : U8) (priority : U16) : List Flow :=
  let config := service.config
  let ctTable := baseTable
  let policyTable := baseTable + 1
  let outputTable := baseTable + 2
  (if config.hasIpv4Rules then [trackFlow ctTable priority config.zone policyTable 0x0800] else [])
    ++ (if config.hasIpv6Rules then [trackFlow ctTable priority config.zone policyTable 0x86dd]
      else [])
    ++ [dropInvalidFlow policyTable priority,
      establishedFlow policyTable priority config.externalPort config.internalPort,
      establishedFlow policyTable priority config.internalPort config.externalPort]
    ++ (config.rules.map fun rule => newFlow policyTable priority
      (rule.newMatch config.externalPort) config.zone outputTable rule.natConfig.1)
    ++ [outputFlow outputTable priority config.externalPort config.internalPort,
      outputFlow outputTable priority config.internalPort config.externalPort]

end Rovs.OpenFlow

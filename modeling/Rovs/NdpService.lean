import Mathlib.Data.List.Destutter
import Rovs.FlowServices
import Rovs.NeighborProxies

/-!
# The NDP proxy as a service (`rovs-ext/src/flows/ndp_proxy.rs`)

Flows report the Neighbor Solicitations that come in on some ports to a controller, and its NDP
proxy answers them.  The flows know ports and no addresses, the proxy addresses and no ports: each
address is answered for on every port.

`Serves` says what the two do together, and `serves_iff` when they do what the entries say: when
each address has one MAC address and is on every port (`Uniform`).
-/

namespace Rovs.OpenFlow

open Outcome

/-! ### The builder -/

structure NdpProxyBuilder where
  entries : List NdpProxyConfig := []

namespace NdpProxyBuilder

variable (builder : NdpProxyBuilder)

def add (ipv6 : Ipv6Addr) (mac : MacAddr) (port : U32) : NdpProxyBuilder :=
  { builder with entries := builder.entries ++ [⟨ipv6, mac, port⟩] }

def nsToControllerFlow (table : U8) (priority : U16) (port : U32) : Flow :=
  .template table priority (solicitationMatch port) [.controller 0xffff]

/-- The ports in order, each of them once. -/
def ports : List U32 :=
  ((builder.entries.map NdpProxyConfig.port).mergeSort fun a b => decide (a ≤ b)).destutter (· ≠ ·)

def allFlows (table : U8) (priority : U16) : List Flow :=
  builder.ports.map (nsToControllerFlow table priority)

/-- A handler with the entries of the builder. -/
def handler : Controller.NdpProxyHandler :=
  builder.entries.foldl (fun handler entry => handler.addEntry entry.ipv6 entry.mac) {}

end NdpProxyBuilder

/-! ### Frames and their bytes -/

theorem be_injective {w : Nat} (hw : 8 * (w / 8) = w) {v v' : BitVec w} (h : be v = be v') :
    v = v' := by
  have hword := wordAt_be_append v [] hw
  rw [h, wordAt_be_append v' [] hw] at hword
  exact hword.symm

theorem append_injective {n m : Nat} {x x' : BitVec n} {y y' : BitVec m}
    (h : x ++ y = x' ++ y') : x = x' ∧ y = y' := by
  have hleft := congrArg (BitVec.extractLsb' m n) h
  have hright := congrArg (BitVec.extractLsb' 0 m) h
  rw [BitVec.extractLsb'_append_eq_left, BitVec.extractLsb'_append_eq_left] at hleft
  rw [BitVec.extractLsb'_append_eq_right, BitVec.extractLsb'_append_eq_right] at hright
  exact ⟨hleft, hright⟩

theorem Tpid.toU16_injective {tpid tpid' : Tpid} (h : tpid.toU16 = tpid'.toU16) : tpid = tpid' := by
  revert h
  cases tpid <;> cases tpid' <;> decide

theorem FrameTag.bytes_injective {tag tag' : FrameTag} (h : tag.bytes = tag'.bytes) :
    tag = tag' := by
  rcases List.append_inj h (by simp) with ⟨htpid, hword⟩
  have htpid := Tpid.toU16_injective (be_injective rfl htpid)
  rcases append_injective (be_injective rfl hword) with ⟨hhigh, hvid⟩
  rcases append_injective hhigh with ⟨hpcp, hdei⟩
  rcases tag with ⟨tpid, pcp, dei, vid⟩
  rcases tag' with ⟨tpid', pcp', dei', vid'⟩
  cases htpid
  cases hpcp
  cases hdei
  cases hvid
  rfl

theorem FrameTag.bytes_length (tag : FrameTag) : tag.bytes.length = 4 := by
  simp [FrameTag.bytes]

/-- A tag is told from the type of what a frame carries. -/
theorem tag_ne_etherType {tag : FrameTag} {etherType : U16} {rest rest' : Bytes}
    (hinnermost : Tpid.ofU16 etherType = none) :
    tag.bytes ++ rest ≠ be etherType ++ rest' := by
  intro h
  rw [FrameTag.bytes, List.append_assoc] at h
  have hword := be_injective rfl (List.append_inj_left h (by simp))
  rw [← hword] at hinnermost
  cases htpid : tag.tpid with
  | dot1q =>
    rw [htpid] at hinnermost
    cases hinnermost
  | dot1ad =>
    rw [htpid] at hinnermost
    cases hinnermost

/-- The tags of a frame end where the type of what it carries is. -/
theorem tags_injective {tags tags' : List FrameTag} {etherType etherType' : U16}
    {payload payload' : Bytes} (hinnermost : Tpid.ofU16 etherType = none)
    (hinnermost' : Tpid.ofU16 etherType' = none)
    (h : tags.flatMap FrameTag.bytes ++ (be etherType ++ payload) =
      tags'.flatMap FrameTag.bytes ++ (be etherType' ++ payload')) :
    tags = tags' ∧ etherType = etherType' ∧ payload = payload' := by
  induction tags generalizing tags' with
  | nil =>
    cases tags' with
    | nil =>
      rw [List.flatMap_nil, List.nil_append, List.nil_append] at h
      rcases List.append_inj h (by simp) with ⟨htype, hpayload⟩
      exact ⟨rfl, be_injective rfl htype, hpayload⟩
    | cons tag' tags' =>
      rw [List.flatMap_cons, List.append_assoc] at h
      exact absurd h.symm (tag_ne_etherType hinnermost)
  | cons tag tags ih =>
    cases tags' with
    | nil =>
      rw [List.flatMap_cons, List.append_assoc] at h
      exact absurd h (tag_ne_etherType hinnermost')
    | cons tag' tags' =>
      rw [List.flatMap_cons, List.flatMap_cons, List.append_assoc, List.append_assoc] at h
      rcases List.append_inj h (by rw [tag.bytes_length, tag'.bytes_length]) with ⟨htag, hrest⟩
      rcases ih hrest with ⟨htags, hword, hpayload⟩
      rw [FrameTag.bytes_injective htag, htags]
      exact ⟨rfl, hword, hpayload⟩

/-- **Frames are told apart by their bytes.** -/
theorem EthernetFrame.bytes_injective {frame frame' : EthernetFrame}
    (h : frame.bytes = frame'.bytes) : frame = frame' := by
  simp only [EthernetFrame.bytes, List.append_assoc] at h
  rcases List.append_inj h (by simp) with ⟨hdst, hrest⟩
  rcases List.append_inj hrest (by simp) with ⟨hsrc, hrest⟩
  rcases tags_injective frame.innermost frame'.innermost hrest with ⟨htags, hword, hpayload⟩
  have hdst := be_injective rfl hdst
  have hsrc := be_injective rfl hsrc
  rcases frame with ⟨dst, src, tags, etherType, payload, innermost⟩
  rcases frame' with ⟨dst', src', tags', etherType', payload', innermost'⟩
  cases hdst
  cases hsrc
  cases htags
  cases hword
  cases hpayload
  rfl

/-! ### What is asked -/

namespace Ndp

/-- The frame has the whole payload that its IPv6 header tells of, and nothing behind it. -/
def Whole (packet : Bytes) : Prop :=
  (packetPayloadLen packet).toNat = (packetMessage packet).length

end Ndp

/-- A switch sees what a whole solicitation is. -/
structure Dissector.SeesSolicitations (dissector : Dissector) : Prop where
  ipProto : ∀ port frame, Ndp.Accepted frame.bytes → Ndp.Whole frame.bytes →
    (dissector.packet port frame).ipProto = 58
  type : ∀ port frame, Ndp.Accepted frame.bytes → Ndp.Whole frame.bytes →
    (dissector.packet port frame).part .icmpv6Type = 135

/-- The message reports that a frame came in on a port. -/
structure Message.Reports (msg : Message) (port : U32) (frame : EthernetFrame) : Prop where
  packet : msg.header.msgType = .packetIn
  parsed : ∃ message, PacketInMessage.parse msg.body = .ok message ∧ message.inPort = port ∧
    message.data = frame.bytes

/-- Somebody asks for an address. -/
def Solicits (frame : EthernetFrame) (ipv6 : Ipv6Addr) : Prop :=
  Ndp.Accepted frame.bytes ∧ Ndp.packetTarget frame.bytes = ipv6

/-- What is written makes the switch send an advertisement back. -/
def Advertises (port : U32) (frame : EthernetFrame) (mac : MacAddr) (written : List Message) :
    Prop :=
  ∃ out reply, written = [out] ∧ out.Sends port [(.back, reply)] ∧
    Ndp.Answers mac frame.bytes reply.bytes

namespace NdpProxyBuilder

section Service

variable (builder : NdpProxyBuilder) (table : U8) (priority : U16) (dissector : Dissector)
  (checks : Bool)

/-- The switch reports the frame to the controller. -/
def Reported (port : U32) (frame : EthernetFrame) : Prop :=
  Sends (installed FrameRule.key (frameRules (builder.allFlows table priority))) table dissector
    port frame [(.reserved portController, frame)]

/-- What the controller writes when it is told of the frame. -/
def Told (port : U32) (frame : EthernetFrame) (what : List Message → Prop) : Prop :=
  ∀ conn msg, msg.Reports port frame → ∃ written conn',
    Controller.serve [Controller.ndpProxy checks builder.handler] conn msg = .ok (written, conn') ∧
      what written

/-- What is asked of the flows, in a table of their own, and of the proxy.  Who asks on the port of
    an entry for its address is told its MAC address, and nobody else is told anything. -/
structure Serves : Prop where
  answers : ∀ entry ∈ builder.entries, ∀ frame, Solicits frame entry.ipv6 → Ndp.Whole frame.bytes →
    builder.Reported table priority dissector entry.port frame ∧
      builder.Told checks entry.port frame (Advertises entry.port frame entry.mac)
  silent : ∀ port frame,
    (∀ entry ∈ builder.entries, entry.port = port → ¬ Solicits frame entry.ipv6) →
    builder.Reported table priority dissector port frame → builder.Told checks port frame (· = [])

end Service

/-- An address has one MAC address, and it is on every port. -/
structure Uniform (builder : NdpProxyBuilder) : Prop where
  mac : ∀ entry ∈ builder.entries, ∀ entry' ∈ builder.entries,
    entry.ipv6 = entry'.ipv6 → entry.mac = entry'.mac
  port : ∀ entry ∈ builder.entries, ∀ entry' ∈ builder.entries,
    ∃ same ∈ builder.entries, same.ipv6 = entry.ipv6 ∧ same.port = entry'.port

end NdpProxyBuilder

/-! ### The flows -/

theorem mem_destutter' {l : List U32} {a b : U32} : a ∈ l.destutter' (· ≠ ·) b ↔ a = b ∨ a ∈ l := by
  induction l generalizing b with
  | nil => simp
  | cons c l ih =>
    by_cases hbc : b = c
    case pos =>
      subst hbc
      rw [List.destutter'_cons_neg _ (not_not.mpr rfl), ih]
      simp
    case neg => rw [List.destutter'_cons_pos _ hbc, List.mem_cons, ih, List.mem_cons]

theorem mem_destutter {l : List U32} {a : U32} : a ∈ l.destutter (· ≠ ·) ↔ a ∈ l := by
  cases l with
  | nil => rfl
  | cons b l => rw [List.destutter_cons', mem_destutter', List.mem_cons]

namespace NdpProxyBuilder

variable {builder : NdpProxyBuilder} {table : U8} {priority : U16} {dissector : Dissector}
  {checks : Bool} {port : U32} {frame : EthernetFrame}

theorem mem_ports : port ∈ builder.ports ↔ ∃ entry ∈ builder.entries, entry.port = port := by
  rw [ports, mem_destutter, List.mem_mergeSort, List.mem_map]

/-- The rule of a port. -/
def rule (table : U8) (priority : U16) (port : U32) : FrameRule :=
  ⟨table, priority, (solicitationMatch port).tlvs, [.output portController]⟩

theorem readRule_nsToControllerFlow (table : U8) (priority : U16) (port : U32) :
    readRule (nsToControllerFlow table priority port).encode = some (rule table priority port) := by
  have hread : ReadOnFrames [.controller 0xffff] [.output portController] :=
    .cons (a := .controller 0xffff) (readFrameAction_output ..) .nil (fun heq => by cases heq)
  have hlength : ([Action.controller 0xffff].flatMap Action.encode).length ≤ 1000 := by decide
  exact readRule_template (List.cons_ne_nil _ _) hlength hread

theorem frameRules_allFlows (builder : NdpProxyBuilder) (table : U8) (priority : U16) :
    frameRules (builder.allFlows table priority) = builder.ports.map (rule table priority) := by
  rw [frameRules, allFlows, List.filterMap_map]
  have hread : (fun flow => readRule flow.encode) ∘ nsToControllerFlow table priority =
      some ∘ rule table priority := by
    funext port
    rw [Function.comp_apply, Function.comp_apply, readRule_nsToControllerFlow]
  rw [hread, List.filterMap_eq_map]

theorem solicitationMatch_holds {pkt : Packet} : (solicitationMatch port).Holds pkt ↔
    pkt.inPort = port ∧ pkt.ethType = 0x86dd ∧ pkt.ipProto = 58 ∧ pkt.part .icmpv6Type = 135 := by
  have htype : Asks (some (135 : U8)) none (some (pkt.part .icmpv6Type)) ↔
      pkt.part .icmpv6Type = 135 := asks_plain _ _
  rw [Match.holds_iff]
  simp only [solicitationMatch, Match.new, Option.map_none, asks_none, asks_plain, true_and,
    and_true, htype]

/-! ### What the switch reports -/

theorem isPort_controller : ¬ IsPort portController := by decide

/-- A solicitation is an untagged IPv6 frame. -/
theorem ethType_solicitation (h : Ndp.Accepted frame.bytes) : frame.etherType = 0x86dd := by
  have htype : wordAt 16 frame.bytes 12 = 0x86dd := h.headers.ethertype
  cases htags : frame.tags with
  | nil =>
    rw [EthernetFrame.bytes, htags] at htype
    simpa [wordAt_append_right, List.append_assoc] using htype
  | cons tag tags =>
    rw [EthernetFrame.bytes, htags] at htype
    have htpid : tag.tpid.toU16 = 0x86dd := by
      simpa [FrameTag.bytes, wordAt_append_right, List.append_assoc] using htype
    cases htpid' : tag.tpid with
    | dot1q =>
      rw [htpid'] at htpid
      exact absurd htpid (by decide)
    | dot1ad =>
      rw [htpid'] at htpid
      exact absurd htpid (by decide)

theorem reported (hsees : dissector.SeesSolicitations) (hport : IsPort port)
    (hmem : ∃ entry ∈ builder.entries, entry.port = port) (h : Ndp.Accepted frame.bytes)
    (hwhole : Ndp.Whole frame.bytes) : builder.Reported table priority dissector port frame := by
  have htype := ethType_solicitation h
  have hlong : 0x0600 ≤ frame.etherType := by
    rw [htype]
    decide
  rw [Reported, frameRules_allFlows]
  apply sends_of_rules
  · refine ⟨rule table priority port, List.mem_map_of_mem (mem_ports.mpr hmem), rfl, ?_⟩
    have hethType := (dissector.ethType port frame hlong).trans htype
    exact solicitationMatch_holds.mpr ⟨dissector.inPort .., hethType, hsees.ipProto _ _ h hwhole,
      hsees.type _ _ h hwhole⟩
  · intro r hr _
    rcases List.mem_map.mp hr with ⟨p, -, rfl⟩
    have hne : portController ≠ port := fun heq => isPort_controller (heq ▸ hport)
    have hexits : exits port portController = [.reserved portController] := by
      rw [exits, if_neg (by decide), if_neg hne, if_neg isPort_controller]
    rw [rule, MacNatConfig.runActions_output, hexits]
    rfl

/-- Only frames from the ports of the entries are reported. -/
theorem port_of_reported (h : builder.Reported table priority dissector port frame) :
    ∃ entry ∈ builder.entries, entry.port = port := by
  rcases h.1 with ⟨r, hselects⟩
  have hr := mem_of_mem_installed hselects.mem
  rw [frameRules_allFlows] at hr
  rcases List.mem_map.mp hr with ⟨p, hp, rfl⟩
  have haccepts := (solicitationMatch_holds.mp hselects.accepts).1
  rw [dissector.inPort] at haccepts
  rw [haccepts]
  exact mem_ports.mp hp

/-! ### What the controller says -/

theorem getMac_addEntry (handler : Controller.NdpProxyHandler) (ipv6 a : Ipv6Addr)
    (mac : MacAddr) : (handler.addEntry ipv6 mac).getMac a =
      if ipv6 = a then some mac else handler.getMac a := by
  by_cases h : ipv6 = a
  case pos =>
    subst h
    rw [if_pos rfl]
    exact AList.lookup_insert _
  case neg =>
    rw [if_neg h]
    exact AList.lookup_insert_ne (Ne.symm h)

/-- The handler has an address as some entry has it. -/
theorem getMac_handler (builder : NdpProxyBuilder) (a : Ipv6Addr) :
    (∃ entry ∈ builder.entries, entry.ipv6 = a ∧ builder.handler.getMac a = some entry.mac) ∨
      (∀ entry ∈ builder.entries, entry.ipv6 ≠ a) ∧ builder.handler.getMac a = none := by
  rw [handler]
  generalize hnone : ({} : Controller.NdpProxyHandler) = handler
  have hstart : handler.getMac a = none := by
    rw [← hnone]
    rfl
  clear hnone
  induction builder.entries using List.reverseRecOn with
  | nil => exact .inr ⟨fun _ h => absurd h List.not_mem_nil, hstart⟩
  | append_singleton entries entry ih =>
    rw [List.foldl_append, List.foldl_cons, List.foldl_nil, getMac_addEntry]
    by_cases h : entry.ipv6 = a
    case pos =>
      rw [if_pos h]
      exact .inl ⟨entry, List.mem_append_right _ List.mem_cons_self, h, rfl⟩
    case neg =>
      rw [if_neg h]
      rcases ih with ⟨found, hmem, ha, hmac⟩ | ⟨hne, hmac⟩
      · exact .inl ⟨found, List.mem_append_left _ hmem, ha, hmac⟩
      · refine .inr ⟨?_, hmac⟩
        intro other hother
        rcases List.mem_append.mp hother with hother | hother
        · exact hne other hother
        · exact List.mem_singleton.mp hother ▸ h

theorem serve_report {msg : Message} (h : msg.Reports port frame)
    (services : List Controller.Service) (conn : VConn) :
    ∃ message : PacketInMessage, message.inPort = port ∧ message.data = frame.bytes ∧
      Controller.serve services conn msg =
        (Controller.react (.ofMessage message) services >>= fun action =>
          pure (Controller.carryOut conn action)) := by
  rcases h with ⟨hpacket, message, hparse, hport, hdata⟩
  have hnoError : checkError msg = .ok () := checkError_of_ne (by rw [hpacket]; decide)
  refine ⟨message, hport, hdata, ?_⟩
  rw [Controller.serve, hnoError, Controller.ofOpenFlow, ok_bind, if_neg (by rw [hpacket]; decide),
    if_pos hpacket, hparse, Controller.ofOpenFlow, ok_bind]

/-- Who asks for an address of the handler is answered. -/
theorem told_advertises {mac : MacAddr} (h : Ndp.Accepted frame.bytes)
    (hmac : builder.handler.getMac (Ndp.packetTarget frame.bytes) = some mac) :
    builder.Told checks port frame (Advertises port frame mac) := by
  intro conn msg hreports
  rcases serve_report hreports [Controller.ndpProxy checks builder.handler] conn with
    ⟨message, hport, hdata, hserve⟩
  rw [← hdata] at h hmac
  rcases Controller.ndpProxy_asked checks builder.handler h hmac with ⟨reply, hverdict, hanswers⟩
  rw [hport] at hverdict
  rw [hdata] at hanswers
  rw [Controller.react_sendBack [] hverdict, ok_bind] at hserve
  exact ⟨_, _, hserve, _, reply, rfl,
    Controller.sends_sendBack conn.version conn.nextXid.1 port reply, hanswers⟩

/-- Nobody else is. -/
theorem told_nothing (h : ¬ (Ndp.Accepted frame.bytes ∧
      (builder.handler.getMac (Ndp.packetTarget frame.bytes)).isSome)) :
    builder.Told checks port frame (· = []) := by
  intro conn msg hreports
  rcases serve_report hreports [Controller.ndpProxy checks builder.handler] conn with
    ⟨message, hport, hdata, hserve⟩
  rw [← hdata] at h
  have hverdict := Controller.ndpProxy_silent checks builder.handler h
  rw [Controller.react_pass [] hverdict, Controller.react, pure_eq, ok_bind] at hserve
  exact ⟨_, _, hserve, rfl⟩

/-! ### Uniform entries -/

theorem Uniform.serves (h : builder.Uniform)
    (hports : ∀ entry ∈ builder.entries, IsPort entry.port) (hsees : dissector.SeesSolicitations)
    (table : U8) (priority : U16) (checks : Bool) :
    builder.Serves table priority dissector checks where
  answers entry hmem frame hsolicits hwhole := by
    rcases hsolicits with ⟨haccepted, htarget⟩
    constructor
    case left =>
      exact reported hsees (hports entry hmem) ⟨entry, hmem, rfl⟩ haccepted hwhole
    case right =>
      apply told_advertises haccepted
      rw [htarget]
      rcases getMac_handler builder entry.ipv6 with ⟨found, hfound, hipv6, hmac⟩ | ⟨hne, -⟩
      · rw [hmac, h.mac found hfound entry hmem hipv6]
      · exact absurd rfl (hne entry hmem)
  silent port frame hnone hreported := by
    apply told_nothing
    rintro ⟨haccepted, hsome⟩
    rcases port_of_reported hreported with ⟨entry', hmem', hport⟩
    rcases getMac_handler builder (Ndp.packetTarget frame.bytes) with
      ⟨found, hfound, hipv6, -⟩ | ⟨-, hmac⟩
    · rcases h.port found hfound entry' hmem' with ⟨same, hsame, hsameIpv6, hsamePort⟩
      exact hnone same hsame (hsamePort.trans hport) ⟨haccepted, (hsameIpv6.trans hipv6).symm⟩
    · rw [hmac] at hsome
      cases hsome

/-! ### A solicitation for every address -/

/-- For every address there is a solicitation. -/
theorem exists_solicitation (target : Ipv6Addr) : ∃ frame : EthernetFrame,
    Solicits frame target ∧ Ndp.Whole frame.bytes := by
  rcases Ndp.replyFrame_bytes 0 0 0 0 ([(135 : U8), 0, 0, 0, 0, 0, 0, 0] ++ be target) with
    ⟨frame, hframe⟩
  refine ⟨frame, ?_⟩
  rw [Solicits, ← hframe]
  refine ⟨⟨⟨Ndp.replyFrame_icmpv6Headers .., ?_, ?_⟩, ?_⟩, ?_⟩
  · rw [Ndp.replyFrame_length]
    simp
  · rw [Ndp.packetType, Ndp.replyFrame_word (n := 0)]
    rfl
  · rw [Ndp.packetTarget, Ndp.replyFrame_word (n := 8), wordAt_append_right (by simp)]
    have hword := wordAt_be_append target [] rfl
    rwa [List.append_nil] at hword
  · rw [Ndp.Whole, Ndp.replyFrame_payloadLen, Ndp.replyFrame_message]
    simp

/-- Every frame can be reported. -/
theorem exists_report (port : U32) (frame : EthernetFrame) :
    ∃ msg : Message, msg.Reports port frame := by
  let message : PacketInMessage := {
    matchFields := { Match.new with inPort := some port }
    data := frame.bytes
    bufferId := ofpNoBuffer
    totalLen := BitVec.ofNat 16 frame.bytes.length
    reason := .action
    tableId := 0
    cookie := 0 }
  have hrepresentable : message.matchFields.Representable :=
    ⟨rfl, (fun _ h => by cases h), fun _ => rfl, fun _ => rfl, fun _ => rfl, fun _ => rfl,
      fun _ => rfl, fun _ => rfl, fun _ => rfl, fun _ => rfl, fun _ => rfl⟩
  exact ⟨Message.new .of13 .packetIn 0 (message.encode 0), rfl, _,
    PacketInMessage.parse_encode message 0 hrepresentable, rfl, rfl⟩

/-- What a controller says to a frame is one thing. -/
theorem told_both {what what' : List Message → Prop} (h : builder.Told checks port frame what)
    (h' : builder.Told checks port frame what') : ∃ written, what written ∧ what' written := by
  rcases exists_report port frame with ⟨msg, hreports⟩
  rcases h ⟨.of13, 1⟩ msg hreports with ⟨written, conn, hserve, hwhat⟩
  rcases h' ⟨.of13, 1⟩ msg hreports with ⟨written', conn', hserve', hwhat'⟩
  rw [hserve] at hserve'
  cases hserve'
  exact ⟨written, hwhat, hwhat'⟩

theorem Advertises.mac_eq {mac mac' : MacAddr} {written : List Message}
    (h : Advertises port frame mac written) (h' : Advertises port frame mac' written) :
    mac = mac' := by
  rcases h with ⟨out, reply, rfl, hsends, hanswers⟩
  rcases h' with ⟨out', reply', heq, hsends', hanswers'⟩
  obtain rfl : out = out' := List.singleton_inj.mp heq
  rcases hsends with ⟨-, -, -, frames, actions, sent, hframes, hactions, hsent, hrun⟩
  rcases hsends' with ⟨-, -, -, frames', actions', sent', hframes', hactions', hsent', hrun'⟩
  cases hframes.symm.trans hframes'
  cases hactions.symm.trans hactions'
  obtain rfl : sent = sent' := EthernetFrame.bytes_injective (hsent.symm.trans hsent')
  rw [hrun] at hrun'
  cases hrun'
  have haddress := hanswers.address.symm.trans hanswers'.address
  have hmac : be mac = be mac' := by
    simpa using haddress
  exact be_injective rfl hmac

theorem Serves.uniform (h : builder.Serves table priority dissector checks)
    (hports : ∀ entry ∈ builder.entries, IsPort entry.port)
    (hsees : dissector.SeesSolicitations) : builder.Uniform := by
  have hfound : ∀ entry ∈ builder.entries, ∃ found ∈ builder.entries,
      found.ipv6 = entry.ipv6 ∧ builder.handler.getMac entry.ipv6 = some found.mac := by
    intro entry hmem
    rcases getMac_handler builder entry.ipv6 with ⟨found, hfound, hipv6, hmac⟩ | ⟨hne, -⟩
    · exact ⟨found, hfound, hipv6, hmac⟩
    · exact absurd rfl (hne entry hmem)
  have hmac : ∀ entry ∈ builder.entries, builder.handler.getMac entry.ipv6 = some entry.mac := by
    intro entry hmem
    rcases hfound entry hmem with ⟨found, -, -, hget⟩
    rcases exists_solicitation entry.ipv6 with ⟨frame, hsolicits, hwhole⟩
    have htold := (h.answers entry hmem frame hsolicits hwhole).2
    have htold' : builder.Told checks entry.port frame (Advertises entry.port frame found.mac) :=
      told_advertises hsolicits.1 (hsolicits.2 ▸ hget)
    rcases told_both htold htold' with ⟨written, hsays, hsays'⟩
    rw [hget, Advertises.mac_eq hsays hsays']
  constructor
  case mac =>
    intro entry hmem entry' hmem' hipv6
    have hget := hmac entry' hmem'
    rw [← hipv6, hmac entry hmem] at hget
    exact Option.some.inj hget
  case port =>
    intro entry hmem entry' hmem'
    by_contra hnone
    push Not at hnone
    rcases exists_solicitation entry.ipv6 with ⟨frame, hsolicits, hwhole⟩
    have hreported : builder.Reported table priority dissector entry'.port frame :=
      reported hsees (hports entry' hmem') ⟨entry', hmem', rfl⟩ hsolicits.1 hwhole
    have hsilent := h.silent entry'.port frame
      (fun same hsame hport hasks => hnone same hsame (hasks.2.symm.trans hsolicits.2) hport)
      hreported
    have htold : builder.Told checks entry'.port frame
        (Advertises entry'.port frame entry.mac) :=
      told_advertises hsolicits.1 (hsolicits.2 ▸ hmac entry hmem)
    rcases told_both htold hsilent with ⟨written, ⟨out, -, hout, -⟩, hnil⟩
    rw [hnil] at hout
    cases hout

/-- **The flows and the proxy of a builder do what its entries say exactly when each address has
    one MAC address and is on every port**, in whatever order the entries are, and whether sums are
    checked or not. -/
theorem serves_iff (builder : NdpProxyBuilder)
    (hports : ∀ entry ∈ builder.entries, IsPort entry.port) {dissector : Dissector}
    (hsees : dissector.SeesSolicitations) (table : U8) (priority : U16) (checks : Bool) :
    builder.Serves table priority dissector checks ↔ builder.Uniform := by
  constructor
  case mp => exact fun h => h.uniform hports hsees
  case mpr => exact fun h => h.serves hports hsees table priority checks

/-! ### Two addresses on two ports -/

/-- What is seen when the protocol and the type of an ICMPv6 message are looked up where they
    stand in an untagged frame. -/
def seenIcmpv6 (port : U32) (frame : EthernetFrame) : Packet where
  part
    | .ipProto => wordAt 8 frame.bytes 20
    | .icmpv6Type => wordAt 8 frame.bytes 54
    | p => (Dissector.shallow.packet port frame).part p
  vlan := frame.tags.head?.map FrameTag.vlanTag

theorem seenIcmpv6_arp (port : U32) (frame : EthernetFrame) (f : ArpField) (hne : f ≠ .op)
    (harp : frame.IsArp) :
    (seenIcmpv6 port frame).part f.part = wordAt f.width frame.payload f.offset := by
  have hshallow := Dissector.shallow.arp port frame f hne harp
  cases f with
  | _ => exact hshallow

theorem seenIcmpv6_ethType (port : U32) (frame : EthernetFrame) (_ : 0x0600 ≤ frame.etherType) :
    (seenIcmpv6 port frame).ethType = frame.etherType := rfl

theorem seenIcmpv6_arpOp (port : U32) (frame : EthernetFrame) (_ : frame.IsArp) :
    (seenIcmpv6 port frame).part .arpOp = seenArpOp frame.payload := rfl

theorem seenIcmpv6_words (port : U32) (frame : EthernetFrame) :
    (seenIcmpv6 port frame).inPort = port ∧ (seenIcmpv6 port frame).ethDst = frame.dst ∧
      (seenIcmpv6 port frame).ethSrc = frame.src := ⟨rfl, rfl, rfl⟩

theorem seenIcmpv6_vlan (port : U32) (frame : EthernetFrame) :
    (seenIcmpv6 port frame).vlan = frame.tags.head?.map FrameTag.vlanTag := rfl

def icmpv6Dissector : Dissector where
  packet := seenIcmpv6
  inPort port frame := (seenIcmpv6_words port frame).1
  ethDst port frame := (seenIcmpv6_words port frame).2.1
  ethSrc port frame := (seenIcmpv6_words port frame).2.2
  ethType := seenIcmpv6_ethType
  vlan := seenIcmpv6_vlan
  arp := seenIcmpv6_arp
  arpOp := seenIcmpv6_arpOp

theorem icmpv6Dissector_sees : icmpv6Dissector.SeesSolicitations where
  ipProto _ _ h _ := h.headers.nextHeader
  type _ _ h _ := h.type

/-- Each address is on one port only. -/
def twoPorts : NdpProxyBuilder :=
  (({} : NdpProxyBuilder).add 0xfd000000000000000000000000000001 0x020000000001 1).add
    0xfd000000000000000000000000000002 0x020000000002 2

theorem serves_iff_twoPorts :
    (∀ entry ∈ twoPorts.entries, IsPort entry.port) ∧
      (twoPorts.Serves 0 200 icmpv6Dissector true ↔ twoPorts.Uniform) ∧ ¬ twoPorts.Uniform := by
  have hports : ∀ entry ∈ twoPorts.entries, IsPort entry.port := by decide
  refine ⟨hports, serves_iff twoPorts hports icmpv6Dissector_sees 0 200 true, ?_⟩
  intro huniform
  rcases huniform.port _ (.head _) _ (.tail _ (.head _)) with ⟨same, hsame, hipv6, hport⟩
  simp only [twoPorts, add, List.nil_append, List.singleton_append, List.mem_cons,
    List.not_mem_nil, or_false] at hsame
  rcases hsame with rfl | rfl
  · exact absurd hport (by decide)
  · exact absurd hipv6 (by decide)

end NdpProxyBuilder

end Rovs.OpenFlow

import Rovs.FlowRuns
import Rovs.MacNat
import Rovs.NatTables

/-!
# Services that are installed and deleted again (`rovs-ext/src/flows`)

Some sets of flow templates can also be deleted.  The deletion is not strict: it names tables, or
fields that the flows have in common.  After it the table is as if the flows had never been there,
whatever happened to the table in the meantime.

`service_traceless` is the main result.  It compares two runs, with and without the service, by
`RuleEdits`, where the flows of the service are the hidden rules.
-/

namespace Rovs.OpenFlow

/-! ### NDP proxy flows (`rovs-ext/src/flows/ndp_proxy.rs`) -/

structure NdpProxyConfig where
  ipv6 : Ipv6Addr
  mac : MacAddr
  port : U32
deriving DecidableEq, Repr

/-- The match of Neighbor Solicitations that come in on a port. -/
def solicitationMatch (port : U32) : Match :=
  { Match.new with
    inPort := some port
    ethType := some 0x86dd
    ipProto := some 58
    icmpv6Type := some 135 }

structure NdpProxyFlows where
  config : NdpProxyConfig

namespace NdpProxyFlows

variable (flows : NdpProxyFlows) (table : U8) (priority : U16)

def toControllerFlow : Flow :=
  .template table priority (solicitationMatch flows.config.port) [.controller 0xffff]

def allFlows : List Flow := [flows.toControllerFlow table priority]

end NdpProxyFlows

/-! ### Deleting flows -/

/-- A deletion from a table of what a match describes. -/
def Flow.deleteMatching (table : U8) (m : Match) : Flow :=
  { Flow.delete with tableId := table, matchFields := m }

/-- Flow templates with an `install` and a `delete`, and where they are put.  The sums of the NAT
    templates do not overflow. -/
inductive FlowService where
  | arpProxy (flows : ArpProxyFlows) (table : U8) (priority : U16)
  | ndpProxy (flows : NdpProxyFlows) (table : U8) (priority : U16)
  | macNat (config : MacNatConfig) (table : U8) (priority : U16)
  | learning (flows : LearningSwitchFlows)
  | snat (gateway : SnatGateway) (baseTable : U8) (priority : U16)
      (htable : baseTable.toNat ≤ 252) (hpriority : priority.toNat + 10 < 2 ^ 16)

namespace FlowService

/-- The flows of `install`. -/
def installs : FlowService → List Flow
  | arpProxy flows table priority => [flows.proxyFlow table priority]
  | ndpProxy flows table priority => flows.allFlows table priority
  | macNat config table priority => config.allFlows table priority
  | learning flows => flows.allFlows
  | snat gateway baseTable priority _ _ => gateway.allFlows baseTable priority

/-- The flows of `delete`. -/
def deletes : FlowService → List Flow
  | arpProxy flows table _ =>
      [.deleteMatching table
        { Match.new with
          inPort := some flows.config.port
          ethType := some 0x0806
          arpOp := some 1
          arpTpa := some flows.config.ip }]
  | ndpProxy flows table _ => [.deleteMatching table (solicitationMatch flows.config.port)]
  | macNat config table _ =>
      [.deleteMatching table
          { Match.new with
            inPort := some config.internalPort
            ethSrc := some config.internalMac },
        .deleteMatching table
          { Match.new with
            inPort := some config.externalPort
            ethDst := some config.externalMac }]
  | learning flows =>
      [.deleteFrom flows.config.learnTable, .deleteFrom flows.config.forwardTable]
  | snat _ baseTable _ _ _ =>
      [.deleteFrom baseTable, .deleteFrom (baseTable + 1), .deleteFrom (baseTable + 2)]

/-- A flow is one that the service deletes. -/
def removes (service : FlowService) (r : StoredFlow) : Bool :=
  service.deletes.any fun flow => flow.modification.concerns r

end FlowService

/-- Two runs that differ in what a service installs, wherever it does, and in flows that a switch
    learns where the service deletes all. -/
inductive SameBut (service : FlowService) : List TableEvent → List TableEvent → Prop where
  | nil : SameBut service [] []
  | cons {events events' : List TableEvent} (event : TableEvent)
      (h : SameBut service events events') : SameBut service (event :: events) (event :: events')
  | installed {events events' : List TableEvent} {flow : Flow} (hflow : flow ∈ service.installs)
      (h : SameBut service events events') :
      SameBut service (.modified flow.encode :: events) events'
  | learned {events events' : List TableEvent} {r : StoredFlow} (hr : service.removes r = true)
      (h : SameBut service events events') : SameBut service (.learned r :: events) events'

/-! ### What is deleted -/

theorem Tlv.asksFor_self (t : Tlv) : t.asksFor t = true := by simp [Tlv.asksFor]

theorem FlowMod.describes_of_subset {mod : FlowMod} {r : StoredFlow}
    (h : ∀ d ∈ mod.conditions, d ∈ r.conditions) : mod.describes r = true := by
  rw [FlowMod.describes, List.all_eq_true]
  intro d hd
  exact List.any_eq_true.mpr ⟨d, h d hd, d.asksFor_self⟩

/-- A deletion without a cookie, of one table. -/
theorem concerns_deleteMatching {table : U8} {m : Match} {r : StoredFlow} :
    (Flow.deleteMatching table m).modification.concerns r =
      (decide (table = allTables ∨ r.table = table) &&
        m.tlvs.all fun d => r.conditions.any fun t => t.asksFor d) := by
  have hcookie : (Flow.deleteMatching table m).modification.hasCookie r = true := by
    rw [FlowMod.hasCookie, decide_eq_true_iff]
    exact BitVec.and_zero
  rw [FlowMod.concerns, hcookie, Bool.and_true]
  rfl

theorem tlvs_new : Match.new.tlvs = [] := rfl

theorem concerns_deleteFrom {table : U8} {r : StoredFlow} :
    (Flow.deleteFrom table).modification.concerns r =
      decide (table = allTables ∨ r.table = table) := by
  have hdelete : Flow.deleteFrom table = .deleteMatching table Match.new := rfl
  rw [hdelete, concerns_deleteMatching, tlvs_new, List.all_nil, Bool.and_true]

/-- A flow of a table whose match goes on from what is deleted. -/
theorem concerns_of_prefix {table : U8} {m : Match} {flow : Flow} (htable : flow.tableId = table)
    (h : m.tlvs <+: flow.matchFields.tlvs) :
    (Flow.deleteMatching table m).modification.concerns flow.modification.stored = true := by
  have hin : (Flow.deleteMatching table m).modification.inTables flow.modification.stored = true :=
    decide_eq_true (.inr htable)
  have hcookie : (Flow.deleteMatching table m).modification.hasCookie flow.modification.stored =
      true := decide_eq_true BitVec.and_zero
  have hdescribes :
      (Flow.deleteMatching table m).modification.describes flow.modification.stored = true :=
    FlowMod.describes_of_subset fun d hd => h.subset hd
  rw [FlowMod.concerns, hin, hcookie, hdescribes]
  rfl

namespace FlowService

variable {service : FlowService}

/-- **What a service installs, it deletes.** -/
theorem removes_installs {flow : Flow} (h : flow ∈ service.installs) :
    service.removes flow.modification.stored = true := by
  rw [removes, List.any_eq_true]
  cases service with
  | arpProxy flows table priority =>
    obtain rfl := List.mem_singleton.mp h
    exact ⟨_, List.mem_cons_self, concerns_of_prefix rfl (List.prefix_refl _)⟩
  | ndpProxy flows table priority =>
    obtain rfl := List.mem_singleton.mp h
    exact ⟨_, List.mem_cons_self, concerns_of_prefix rfl (List.prefix_refl _)⟩
  | macNat config table priority =>
    have hout : ∀ flow : Flow, flow.tableId = table → ∀ ethType,
        flow.matchFields = config.outboundMatch ethType →
        ∃ d ∈ (macNat config table priority).deletes,
          d.modification.concerns flow.modification.stored = true := by
      intro flow htable ethType hmatch
      refine ⟨_, List.mem_cons_self, concerns_of_prefix htable ?_⟩
      rw [hmatch]
      exact ⟨_, rfl⟩
    have hin : ∀ flow : Flow, flow.tableId = table → ∀ ethType,
        flow.matchFields = config.inboundMatch ethType →
        ∃ d ∈ (macNat config table priority).deletes,
          d.modification.concerns flow.modification.stored = true := by
      intro flow htable ethType hmatch
      refine ⟨_, List.mem_cons_of_mem _ List.mem_cons_self, concerns_of_prefix htable ?_⟩
      rw [hmatch]
      exact ⟨_, rfl⟩
    simp only [installs, MacNatConfig.allFlows, List.mem_cons, List.not_mem_nil, or_false] at h
    rcases h with rfl | rfl | rfl | rfl | rfl | rfl
    · exact hout _ rfl _ rfl
    · exact hin _ rfl _ rfl
    · exact hout _ rfl _ rfl
    · exact hin _ rfl _ rfl
    · exact hout _ rfl _ rfl
    · exact hin _ rfl _ rfl
  | learning flows =>
    simp only [installs, LearningSwitchFlows.allFlows, List.mem_cons, List.not_mem_nil,
      or_false] at h
    rcases h with rfl | rfl
    · refine ⟨_, List.mem_cons_self, ?_⟩
      rw [concerns_deleteFrom]
      exact decide_eq_true (.inr rfl)
    · refine ⟨_, List.mem_cons_of_mem _ List.mem_cons_self, ?_⟩
      rw [concerns_deleteFrom]
      exact decide_eq_true (.inr rfl)
  | snat gateway baseTable priority _ _ =>
    have htable := ((gateway.fillsPipeline baseTable priority).fits flow h).table
    refine ⟨.deleteFrom flow.tableId, ?_, ?_⟩
    · rw [htable]
      cases flow.natRole with
      | ct => exact List.mem_cons_self
      | policy => exact List.mem_cons_of_mem _ List.mem_cons_self
      | output => exact List.mem_cons_of_mem _ (List.mem_cons_of_mem _ List.mem_cons_self)
    · rw [concerns_deleteFrom]
      exact decide_eq_true (.inr rfl)

theorem installs_template {flow : Flow} (h : flow ∈ service.installs) :
    ∃ table priority m actions, flow = .template table priority m actions := by
  cases service with
  | arpProxy flows table priority => exact ⟨_, _, _, _, List.mem_singleton.mp h⟩
  | ndpProxy flows table priority => exact ⟨_, _, _, _, List.mem_singleton.mp h⟩
  | macNat config table priority =>
    simp only [installs, MacNatConfig.allFlows, List.mem_cons, List.not_mem_nil, or_false] at h
    rcases h with h | h | h | h | h | h <;> exact ⟨_, _, _, _, h⟩
  | learning flows =>
    simp only [installs, LearningSwitchFlows.allFlows, List.mem_cons, List.not_mem_nil,
      or_false] at h
    rcases h with h | h <;> exact ⟨_, _, _, _, h⟩
  | snat gateway baseTable priority _ _ =>
    simp only [installs, SnatGateway.allFlows, List.mem_append, List.mem_ite_nil_right,
      List.mem_cons, List.not_mem_nil, or_false, Option.mem_toList, Option.map_eq_some_iff] at h
    rcases h with ((((⟨-, h⟩ | ⟨-, h⟩) | h | h | h | h) | ⟨nat, -, rfl⟩) | ⟨nat, -, rfl⟩) | h | h
    · exact ⟨_, _, _, _, h⟩
    · exact ⟨_, _, _, _, h⟩
    · exact ⟨_, _, _, _, h⟩
    · exact ⟨_, _, _, _, h⟩
    · exact ⟨_, _, _, _, h⟩
    · exact ⟨_, _, _, _, h⟩
    · exact ⟨_, _, _, _, rfl⟩
    · exact ⟨_, _, _, _, rfl⟩
    · exact ⟨_, _, _, _, h⟩
    · exact ⟨_, _, _, _, h⟩

theorem deletes_matching {flow : Flow} (h : flow ∈ service.deletes) :
    ∃ table m, flow = .deleteMatching table m := by
  cases service with
  | arpProxy flows table priority => exact ⟨_, _, List.mem_singleton.mp h⟩
  | ndpProxy flows table priority => exact ⟨_, _, List.mem_singleton.mp h⟩
  | macNat config table priority => rcases List.mem_pair.mp h with h | h <;> exact ⟨_, _, h⟩
  | learning flows => rcases List.mem_pair.mp h with h | h <;> exact ⟨_, Match.new, h⟩
  | snat gateway baseTable priority _ _ =>
    rcases List.mem_cons.mp h with h | h
    · exact ⟨_, Match.new, h⟩
    · rcases List.mem_pair.mp h with h | h <;> exact ⟨_, Match.new, h⟩

/-- What is deleted is a matter of the table and the match. -/
theorem removes_byKey : Edit.ByKey StoredFlow.key service.removes := by
  intro r r' hkey
  simp only [StoredFlow.key, Prod.mk.injEq, Multiset.coe_eq_coe] at hkey
  rcases hkey with ⟨htable, -, hconditions⟩
  have hsame : ∀ flow ∈ service.deletes,
      flow.modification.concerns r = flow.modification.concerns r' := by
    intro flow hflow
    rcases deletes_matching hflow with ⟨table, m, rfl⟩
    rw [concerns_deleteMatching, concerns_deleteMatching, htable]
    congr 1
    congr 1
    funext d
    exact hconditions.any_eq
  rw [removes, removes, Bool.eq_iff_iff, List.any_eq_true, List.any_eq_true]
  constructor
  · rintro ⟨flow, hflow, h⟩
    exact ⟨flow, hflow, (hsame flow hflow).symm.trans h⟩
  · rintro ⟨flow, hflow, h⟩
    exact ⟨flow, hflow, (hsame flow hflow).trans h⟩

end FlowService

/-! ### Runs -/

section Runs

open TableEvent

variable {service : FlowService}

/-- An installed flow is put, if the table is one. -/
theorem edit_installed {flow : Flow} (h : flow ∈ service.installs) :
    edit (.modified flow.encode) =
      if flow.tableId = allTables then none else some (.put flow.modification.stored) := by
  rcases FlowService.installs_template h with ⟨table, priority, m, actions, rfl⟩
  rw [edit, readMod_encode]
  rfl

theorem edit_deleted {table : U8} {m : Match} :
    edit (.modified (Flow.deleteMatching table m).encode) =
      some (.drop (Flow.deleteMatching table m).modification.concerns) := by
  have houtputs : ∀ r, (Flow.deleteMatching table m).modification.outputsTo r = true :=
    fun r => decide_eq_true ⟨.inl rfl, .inl rfl⟩
  have hdrop : edit (.modified (Flow.deleteMatching table m).encode) =
      some (.drop fun r => (Flow.deleteMatching table m).modification.concerns r &&
        (Flow.deleteMatching table m).modification.outputsTo r) := by
    rw [edit, readMod_encode]
    rfl
  rw [hdrop]
  simp only [houtputs, Bool.and_true]

/-- The edits of the two runs differ in hidden rules only. -/
theorem SameBut.edits {events events' : List TableEvent} (h : SameBut service events events') :
    (events.filterMap edit).filter (fun e => !e.putsHidden service.removes) =
      (events'.filterMap edit).filter fun e => !e.putsHidden service.removes := by
  induction h with
  | nil => rfl
  | cons event _ ih =>
    cases hedit : event.edit with
    | none => rw [List.filterMap_cons_none hedit, List.filterMap_cons_none hedit, ih]
    | some e =>
      rw [List.filterMap_cons_some hedit, List.filterMap_cons_some hedit, List.filter_cons,
        List.filter_cons, ih]
  | installed hflow _ ih =>
    have hhidden : Edit.putsHidden service.removes (.put _) = true :=
      FlowService.removes_installs hflow
    have hedit := edit_installed hflow
    split at hedit
    · rw [List.filterMap_cons_none hedit, ih]
    · rw [List.filterMap_cons_some hedit, List.filter_cons_of_neg (by simp [hhidden]), ih]
  | @learned events events' r hr _ ih =>
    have hhidden : Edit.putsHidden service.removes (.put r) = true := hr
    have hedit : edit (.learned r) = some (.put r) := rfl
    rw [List.filterMap_cons_some hedit, List.filter_cons_of_neg (by simp [hhidden]), ih]

theorem SameBut.mem {events events' : List TableEvent} (h : SameBut service events events') :
    ∀ event ∈ events', event ∈ events := by
  induction h with
  | nil => exact fun _ hmem => hmem
  | cons event _ ih =>
    intro e hmem
    rcases List.mem_cons.mp hmem with rfl | hmem
    · exact List.mem_cons_self
    · exact List.mem_cons_of_mem _ (ih e hmem)
  | installed _ _ ih => exact fun e hmem => List.mem_cons_of_mem _ (ih e hmem)
  | learned _ _ ih => exact fun e hmem => List.mem_cons_of_mem _ (ih e hmem)

/-- A deletion drops what it describes. -/
theorem edit_delete {flow : Flow} (h : flow ∈ service.deletes) :
    edit (.modified flow.encode) = some (.drop flow.modification.concerns) := by
  rcases FlowService.deletes_matching h with ⟨table, m, rfl⟩
  exact edit_deleted

theorem edits_deletes {flows : List Flow} (h : ∀ flow ∈ flows, flow ∈ service.deletes) :
    (flows.map fun flow => TableEvent.modified flow.encode).filterMap edit =
      (flows.map fun flow => flow.modification.concerns).map Edit.drop := by
  induction flows with
  | nil => rfl
  | cons flow flows ih =>
    rcases List.forall_mem_cons.mp h with ⟨hflow, h⟩
    rw [List.map_cons, List.filterMap_cons_some (edit_delete hflow), ih h, List.map_cons,
      List.map_cons]

/-- **A service that is deleted leaves no trace**: in whatever order its flows were installed among
    other modifications, learned flows and expired ones, after `delete` the table is the one of a
    run without the service, less what `delete` describes. -/
theorem service_traceless (service : FlowService) (rules : List StoredFlow)
    {events events' : List TableEvent} (hsame : SameBut service events events')
    (hplain : ∀ event ∈ events, event.checksOverlap = false) :
    run rules (events ++ service.deletes.map fun flow => .modified flow.encode) =
      (run rules events').filter fun r => !service.removes r := by
  have hall : ∀ event ∈ events ++ service.deletes.map fun flow => .modified flow.encode,
      event.checksOverlap = false := by
    intro event hmem
    rcases List.mem_append.mp hmem with hmem | hmem
    · exact hplain event hmem
    · rcases List.mem_map.mp hmem with ⟨flow, hflow, rfl⟩
      rcases FlowService.deletes_matching hflow with ⟨table, m, rfl⟩
      exact checksOverlap_plain rfl
  have hkeeps : ∀ events : List TableEvent, ∀ e ∈ events.filterMap edit,
      e.KeepsKeys StoredFlow.key := by
    intro events e hmem
    rcases List.mem_filterMap.mp hmem with ⟨event, -, hedit⟩
    exact edit_keepsKeys hedit
  have hany : (fun r => !(service.deletes.map fun flow => flow.modification.concerns).any
      fun p => p r) = fun r => !service.removes r := by
    funext r
    rw [List.any_map]
    rfl
  rw [run_eq hall, List.filterMap_append, edits_deletes fun _ hflow => hflow, Edit.applyAll_append,
    Edit.applyAll_drops, hany, run_eq fun event hmem => hplain event (hsame.mem event hmem)]
  change Edit.visible service.removes _ = Edit.visible service.removes _
  rw [Edit.visible_applyAll FlowService.removes_byKey (hkeeps events), hsame.edits,
    Edit.visible_applyAll FlowService.removes_byKey (hkeeps events')]

/-! ### A translator beside a learning switch -/

def hostNat : MacNatConfig := ⟨0x020000000001, 0x020000000099, 1, 2⟩

def learningSwitch : LearningSwitchFlows := ⟨{}⟩

theorem service_traceless_hostNat :
    run [] ([.modified (hostNat.ipv4Outbound 0 200).encode,
        .modified learningSwitch.learningFlow.encode,
        .modified (hostNat.ipv4Inbound 0 200).encode] ++
      (FlowService.macNat hostNat 0 200).deletes.map fun flow => .modified flow.encode) =
    (run [] [.modified learningSwitch.learningFlow.encode]).filter
      fun r => !(FlowService.macNat hostNat 0 200).removes r := by
  apply service_traceless (.macNat hostNat 0 200) []
  · exact .installed List.mem_cons_self (.cons _
      (.installed (List.mem_cons_of_mem _ List.mem_cons_self) .nil))
  · intro event hmem
    simp only [List.mem_cons, List.not_mem_nil, or_false] at hmem
    rcases hmem with rfl | rfl | rfl
    · exact checksOverlap_plain rfl
    · exact checksOverlap_plain rfl
    · exact checksOverlap_plain rfl

end Runs

end Rovs.OpenFlow

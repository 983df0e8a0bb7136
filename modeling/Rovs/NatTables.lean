import Rovs.NatFlows

/-!
# Tables and priorities of the NAT templates (`rovs-ext/src/flows/nat.rs`)

The templates add small constants to the table and to the priority that they are given.  A build
with overflow checks panics where such a sum does not fit, the other build goes on with the sum
cut to its width.  Table 255 is no table: in a ct action it means that the packet does not come
back, in a deletion that all tables are meant.  No input is rejected, so the templates are sound
where all sums fit and the last table is not 255, and nowhere else.

`NatTables` names the tables of a template by their roles, and `natTemplates_sound_iff` is the
main result.
-/

namespace Rovs.OpenFlow

/-! ### The sums of the templates -/

/-- The sums in the body of `all_flows`, in their order. -/
def natSums (checks : Bool) (baseTable : U8) (priority : U16) : Result Unit := do
  let _policyTable ← addIn checks baseTable 1
  let _outputTable ← addIn checks baseTable 2
  let _invalidPriority ← addIn checks priority 10
  let _establishedPriority ← addIn checks priority 5
  let _establishedPriority ← addIn checks priority 5
  pure ()

def SnatGateway.allFlowsIn (checks : Bool) (gateway : SnatGateway) (baseTable : U8)
    (priority : U16) : Result (List Flow) := do
  natSums checks baseTable priority
  pure (gateway.allFlows baseTable priority)

def DnatService.allFlowsIn (checks : Bool) (service : DnatService) (baseTable : U8)
    (priority : U16) : Result (List Flow) := do
  natSums checks baseTable priority
  pure (service.allFlows baseTable priority)

/-- `SnatGateway::delete`: every flow is sent before the next sum. -/
def SnatGateway.deleteIn {σ : Type} (checks : Bool) (sendFlowSync : σ → Flow → Result σ) (conn : σ)
    (baseTable : U8) : Result σ := do
  let conn ← sendFlowSync conn { Flow.delete with tableId := baseTable }
  let policyTable ← addIn checks baseTable 1
  let conn ← sendFlowSync conn { Flow.delete with tableId := policyTable }
  let outputTable ← addIn checks baseTable 2
  sendFlowSync conn { Flow.delete with tableId := outputTable }

/-- A connection that only keeps what is sent. -/
def recordFlow (sent : List Flow) (flow : Flow) : Result (List Flow) := pure (sent ++ [flow])

/-! ### What is asked -/

/-- The table that an action sends the packet back to. -/
def Action.recircTable : Action → Option U8
  | .nxCt _ _ table => table
  | .nxCtNat _ _ table _ => table
  | _ => none

def Flow.recircTables (flow : Flow) : List U8 := flow.actions.actions.filterMap Action.recircTable

/-- The tables of a template by what they are for: connection tracking, the policy for tracked
    packets, and the output of new connections behind their NAT. -/
inductive NatRole where
  | ct | policy | output
deriving DecidableEq, Repr

/-- What a flow is for: flows of the policy look at the state of a connection; of the others,
    those that pick out a kind of packet stand before the tracking, and those that only look at
    the port behind it. -/
def Flow.natRole (flow : Flow) : NatRole :=
  if flow.matchFields.ctState.isSome then .policy
  else if flow.matchFields.ethType.isSome then .ct
  else .output

structure NatTables where
  ct : U8
  policy : U8
  output : U8

def NatTables.of (tables : NatTables) : NatRole → U8
  | .ct => tables.ct
  | .policy => tables.policy
  | .output => tables.output

/-- Three different tables from the given one on, none of which is the 255 that stands for no
    table or for all of them. -/
structure NatTables.Real (tables : NatTables) (baseTable : U8) : Prop where
  entry : tables.ct = baseTable
  ct_ne_policy : tables.ct ≠ tables.policy
  ct_ne_output : tables.ct ≠ tables.output
  policy_ne_output : tables.policy ≠ tables.output
  ne_all : ∀ role, tables.of role ≠ 255

/-- The flows stand on three tables, each in the table that it is for.  Tracking sends packets
    back to the policy, NAT sends them back to the output, and for each of the given roles there
    are flows. -/
structure OnThreeTables (baseTable : U8) (roles : List NatRole) (flows : List Flow)
    (tables : NatTables) : Prop where
  real : tables.Real baseTable
  holds : ∀ flow ∈ flows, flow.tableId = tables.of flow.natRole
  recirculates : ∀ flow ∈ flows, ∀ t ∈ flow.recircTables,
    (flow.natRole = .ct ∧ t = tables.policy) ∨ (flow.natRole = .policy ∧ t = tables.output)
  used : ∀ role ∈ roles, ∃ flow ∈ flows, flow.natRole = role

def Flow.DropsInvalid (flow : Flow) : Prop :=
  flow.matchFields.ctState = some (ctStateTrk ||| ctStateInv)

def Flow.ForwardsEstablished (flow : Flow) : Prop :=
  flow.matchFields.ctState = some (ctStateTrk ||| ctStateEst)

/-- There are flows that drop invalid packets and flows that forward established connections;
    the former rank above the latter, and these above everything else. -/
structure Ranked (flows : List Flow) : Prop where
  drops : ∃ invalid ∈ flows, invalid.DropsInvalid
  forwards : ∃ established ∈ flows, established.ForwardsEstablished
  ranks : ∀ invalid ∈ flows, invalid.DropsInvalid →
    ∀ established ∈ flows, established.ForwardsEstablished →
      established.priority < invalid.priority ∧
        ∀ flow ∈ flows, ¬ flow.DropsInvalid → ¬ flow.ForwardsEstablished →
          flow.priority < established.priority

/-- Both builds give flows that are as asked, or both reject the input. -/
def AsAsked (asked : List Flow → Prop) (run : Bool → Result (List Flow)) : Prop :=
  (∃ flows, (∀ checks, run checks = .ok flows) ∧ asked flows) ∨
    ∀ checks, ∃ error, run checks = .err error

/-- The flows of a NAT template are on three tables and ranked. -/
def NatSound (baseTable : U8) (roles : List NatRole) : (Bool → Result (List Flow)) → Prop :=
  AsAsked fun flows => (∃ tables, OnThreeTables baseTable roles flows tables) ∧ Ranked flows

/-- The roles that the flows of a DNAT service have: without rules nothing is tracked. -/
def DnatService.roles (service : DnatService) : List NatRole :=
  if service.config.rules = [] then [.policy, .output] else [.ct, .policy, .output]

/-- A deletion is from the three tables, one after the other. -/
def DeleteSound (baseTable : U8) : (Bool → Result (List Flow)) → Prop :=
  AsAsked fun flows => (∀ flow ∈ flows, flow.command = .delete) ∧
    ∃ tables : NatTables, tables.Real baseTable ∧
      flows.map (·.tableId) = [tables.ct, tables.policy, tables.output]

/-! ### The sums that fit -/

section Sums

variable {baseTable : U8} {priority : U16}

theorem natSums_ok (htable : baseTable.toNat + 2 < 256) (hpriority : priority.toNat + 10 < 65536)
    (checks : Bool) : natSums checks baseTable priority = .ok () := by
  have hpolicy : addIn checks baseTable 1 = .ok (baseTable + 1) :=
    addIn_ok (show baseTable.toNat + 1 < 256 by omega) checks
  have houtput : addIn checks baseTable 2 = .ok (baseTable + 2) := addIn_ok htable checks
  have hinvalid : addIn checks priority 10 = .ok (priority + 10) := addIn_ok hpriority checks
  have hestablished : addIn checks priority 5 = .ok (priority + 5) :=
    addIn_ok (show priority.toNat + 5 < 65536 by omega) checks
  rw [natSums, hpolicy, Outcome.ok_bind, houtput, Outcome.ok_bind, hinvalid, Outcome.ok_bind,
    hestablished, Outcome.ok_bind, Outcome.ok_bind, Outcome.pure_eq]

theorem natSums_checked (h : natSums true baseTable priority = .ok ()) :
    baseTable.toNat + 2 < 256 ∧ priority.toNat + 10 < 65536 := by
  rcases Outcome.bind_eq_ok.mp h with ⟨_, -, h⟩
  rcases Outcome.bind_eq_ok.mp h with ⟨_, houtput, h⟩
  rcases Outcome.bind_eq_ok.mp h with ⟨_, hinvalid, -⟩
  exact ⟨addIn_checked houtput, addIn_checked hinvalid⟩

theorem natSums_ne_err (checks : Bool) (error : Error) :
    natSums checks baseTable priority ≠ .err error := by
  have hsum : ∀ {w : Nat} {a b : BitVec w} {f : BitVec w → Result Unit},
      (∀ c, f c ≠ .err error) → (addIn checks a b >>= f) ≠ .err error := by
    intro w a b f hf
    by_cases hover : checks ∧ 2 ^ w ≤ a.toNat + b.toNat
    · rw [addIn, if_pos hover]
      intro heq
      cases heq
    · rw [addIn, if_neg hover]
      exact hf (a + b)
  rw [natSums]
  iterate 5
    apply hsum
    intro _
  intro heq
  cases heq

end Sums

/-! ### The tables of a pipeline -/

/-- The three tables that start at a base. -/
def pipelineTables (baseTable : U8) : NatTables := ⟨baseTable, baseTable + 1, baseTable + 2⟩

theorem pipelineTables_real {baseTable : U8} (h : baseTable.toNat ≤ 252) :
    (pipelineTables baseTable).Real baseTable := by
  constructor
  case entry => rfl
  case ct_ne_policy => exact show baseTable ≠ baseTable + 1 by bv_omega
  case ct_ne_output => exact show baseTable ≠ baseTable + 2 by bv_omega
  case policy_ne_output => exact show baseTable + 1 ≠ baseTable + 2 by bv_omega
  case ne_all =>
    intro role
    cases role with
    | ct => exact show baseTable ≠ 255 by bv_omega
    | policy => exact show baseTable + 1 ≠ 255 by bv_omega
    | output => exact show baseTable + 2 ≠ 255 by bv_omega

/-- What is said of every flow of a pipeline: where it is, where it sends packets back to, and the
    priority that its match goes with. -/
structure Flow.Fits (flow : Flow) (baseTable : U8) (priority : U16) : Prop where
  table : flow.tableId = (pipelineTables baseTable).of flow.natRole
  recircs : ∀ t ∈ flow.recircTables, (flow.natRole = .ct ∧ t = baseTable + 1) ∨
    (flow.natRole = .policy ∧ t = baseTable + 2)
  rank : (flow.DropsInvalid ∧ flow.priority = priority + 10) ∨
    (flow.ForwardsEstablished ∧ flow.priority = priority + 5) ∨
    (¬ flow.DropsInvalid ∧ ¬ flow.ForwardsEstablished ∧ flow.priority = priority)

/-- All flows fit, there are flows for both kinds of packets that the policy tells apart, and the
    roles are played, that of the output at least. -/
structure FillsPipeline (flows : List Flow) (baseTable : U8) (priority : U16)
    (roles : List NatRole) : Prop where
  fits : ∀ flow ∈ flows, flow.Fits baseTable priority
  drops : ∃ invalid ∈ flows, invalid.DropsInvalid
  forwards : ∃ established ∈ flows, established.ForwardsEstablished
  used : ∀ role ∈ roles, ∃ flow ∈ flows, flow.natRole = role
  last : .output ∈ roles

section Fits

variable (baseTable : U8) (priority : U16)

/-- A flow that does not look at invalid or established packets fits at the base priority. -/
theorem template_fits {table : U8} {m : Match} {actions : List Action}
    (htable : table = (pipelineTables baseTable).of
      (Flow.template table priority m actions).natRole)
    (hrecircs : ∀ t ∈ actions.filterMap Action.recircTable,
      ((Flow.template table priority m actions).natRole = .ct ∧ t = baseTable + 1) ∨
        ((Flow.template table priority m actions).natRole = .policy ∧ t = baseTable + 2))
    (hmatch : m.ctState = none ∨ m.ctState = some (ctStateTrk ||| ctStateNew)) :
    (Flow.template table priority m actions).Fits baseTable priority where
  table := htable
  recircs := hrecircs
  rank := by
    refine .inr (.inr ⟨?_, ?_, rfl⟩)
    all_goals
      intro hstate
      rcases hmatch with hm | hm
      · cases hm.symm.trans hstate
      · exact absurd (hm.symm.trans hstate) (by decide)

theorem trackFlow_fits (zone ethType : U16) :
    (trackFlow baseTable priority zone (baseTable + 1) ethType).Fits baseTable priority := by
  apply template_fits baseTable priority
  case htable => rfl
  case hrecircs =>
    intro t ht
    exact .inl ⟨rfl, List.mem_singleton.mp ht⟩
  case hmatch => exact .inl rfl

theorem arpFlow_fits : (Flow.template baseTable priority
    { Match.new with ethType := some 0x0806 } [.output .normal]).Fits baseTable priority := by
  apply template_fits baseTable priority
  case htable => rfl
  case hrecircs => exact fun _ ht => absurd ht List.not_mem_nil
  case hmatch => exact .inl rfl

/-- A match of the connection state makes a flow one of the policy. -/
theorem Flow.natRole_of_ctState {flow : Flow} {state : U32}
    (h : flow.matchFields.ctState = some state) : flow.natRole = .policy := by
  rw [natRole, h]
  rfl

theorem newFlow_fits {m : Match} (zone : U16) (nat : NatConfig)
    (hm : m.ctState = some (ctStateTrk ||| ctStateNew)) :
    (newFlow (baseTable + 1) priority m zone (baseTable + 2) nat).Fits baseTable priority := by
  have hrole : (newFlow (baseTable + 1) priority m zone (baseTable + 2) nat).natRole = .policy :=
    Flow.natRole_of_ctState hm
  apply template_fits baseTable priority
  case htable =>
    rw [newFlow] at hrole
    rw [hrole]
    rfl
  case hrecircs =>
    intro t ht
    exact .inr ⟨hrole, List.mem_singleton.mp ht⟩
  case hmatch => exact .inr hm

theorem outputFlow_fits (inPort outPort : U32) :
    (outputFlow (baseTable + 2) priority inPort outPort).Fits baseTable priority := by
  apply template_fits baseTable priority
  case htable => rfl
  case hrecircs => exact fun _ ht => absurd ht List.not_mem_nil
  case hmatch => exact .inl rfl

theorem dropInvalidFlow_fits :
    (dropInvalidFlow (baseTable + 1) priority).Fits baseTable priority where
  table := rfl
  recircs := fun _ ht => absurd ht List.not_mem_nil
  rank := .inl ⟨rfl, rfl⟩

theorem establishedFlow_fits (inPort outPort : U32) :
    (establishedFlow (baseTable + 1) priority inPort outPort).Fits baseTable priority where
  table := rfl
  recircs := fun _ ht => absurd ht List.not_mem_nil
  rank := .inr (.inl ⟨rfl, rfl⟩)

theorem SnatGateway.fillsPipeline (gateway : SnatGateway) :
    FillsPipeline (gateway.allFlows baseTable priority) baseTable priority
      [.ct, .policy, .output] where
  fits flow hflow := by
    simp only [allFlows, List.mem_append, List.mem_ite_nil_right, List.mem_cons, List.not_mem_nil,
      or_false, Option.mem_toList, Option.map_eq_some_iff] at hflow
    rcases hflow with ((((⟨-, rfl⟩ | ⟨-, rfl⟩) | rfl | rfl | rfl | rfl) | ⟨nat, -, rfl⟩) |
      ⟨nat, -, rfl⟩) | rfl | rfl
    · exact trackFlow_fits ..
    · exact trackFlow_fits ..
    · exact arpFlow_fits ..
    · exact dropInvalidFlow_fits ..
    · exact establishedFlow_fits ..
    · exact establishedFlow_fits ..
    · exact newFlow_fits baseTable priority _ nat rfl
    · exact newFlow_fits baseTable priority _ nat rfl
    · exact outputFlow_fits ..
    · exact outputFlow_fits ..
  drops := by
    simp only [allFlows, List.mem_append, List.mem_cons]
    exact ⟨_, .inl (.inl (.inl (.inr (.inr (.inl rfl))))), rfl⟩
  forwards := by
    simp only [allFlows, List.mem_append, List.mem_cons]
    exact ⟨_, .inl (.inl (.inl (.inr (.inr (.inr (.inl rfl)))))), rfl⟩
  used role _ := by
    simp only [allFlows, List.mem_append, List.mem_cons]
    cases role with
    | ct => exact ⟨_, .inl (.inl (.inl (.inr (.inl rfl)))), rfl⟩
    | policy => exact ⟨_, .inl (.inl (.inl (.inr (.inr (.inl rfl))))), rfl⟩
    | output => exact ⟨_, .inr (.inl rfl), rfl⟩
  last := by simp

theorem DnatRule.newMatch_ctState (rule : DnatRule) (externalPort : U32) :
    (rule.newMatch externalPort).ctState = some (ctStateTrk ||| ctStateNew) := by
  unfold newMatch
  split_ifs
  · rfl
  · rfl
  · rfl

/-- With a rule, packets of its address family are tracked. -/
theorem DnatService.exists_ct (service : DnatService) (hrules : service.config.rules ≠ []) :
    ∃ flow ∈ service.allFlows baseTable priority, flow.natRole = .ct := by
  obtain ⟨rule, hrule⟩ := List.exists_mem_of_ne_nil _ hrules
  have hfamily : rule.isIpv4 = true ∨ rule.isIpv6 = true := by
    cases htarget : rule.internalTarget with
    | v4 ip => exact .inl (by rw [DnatRule.isIpv4, htarget])
    | v6 ip => exact .inr (by rw [DnatRule.isIpv6, htarget])
  simp only [allFlows, List.mem_append]
  rcases hfamily with h | h
  · have hany : service.config.hasIpv4Rules = true := List.any_eq_true.mpr ⟨rule, hrule, h⟩
    refine ⟨trackFlow baseTable priority service.config.zone (baseTable + 1) 0x0800,
      .inl (.inl (.inl (.inl ?_))), rfl⟩
    rw [if_pos hany]
    exact List.mem_singleton_self _
  · have hany : service.config.hasIpv6Rules = true := List.any_eq_true.mpr ⟨rule, hrule, h⟩
    refine ⟨trackFlow baseTable priority service.config.zone (baseTable + 1) 0x86dd,
      .inl (.inl (.inl (.inr ?_))), rfl⟩
    rw [if_pos hany]
    exact List.mem_singleton_self _

theorem DnatService.fillsPipeline (service : DnatService) :
    FillsPipeline (service.allFlows baseTable priority) baseTable priority service.roles where
  fits flow hflow := by
    simp only [allFlows, List.mem_append, List.mem_ite_nil_right, List.mem_cons, List.not_mem_nil,
      or_false, List.mem_map] at hflow
    rcases hflow with (((⟨-, rfl⟩ | ⟨-, rfl⟩) | rfl | rfl | rfl) | ⟨rule, -, rfl⟩) | rfl | rfl
    · exact trackFlow_fits ..
    · exact trackFlow_fits ..
    · exact dropInvalidFlow_fits ..
    · exact establishedFlow_fits ..
    · exact establishedFlow_fits ..
    · exact newFlow_fits baseTable priority _ _ (rule.newMatch_ctState _)
    · exact outputFlow_fits ..
    · exact outputFlow_fits ..
  drops := by
    simp only [allFlows, List.mem_append, List.mem_cons]
    exact ⟨_, .inl (.inl (.inr (.inl rfl))), rfl⟩
  forwards := by
    simp only [allFlows, List.mem_append, List.mem_cons]
    exact ⟨_, .inl (.inl (.inr (.inr (.inl rfl)))), rfl⟩
  used role hrole := by
    cases role with
    | ct =>
      refine service.exists_ct baseTable priority fun hnone => ?_
      rw [roles, if_pos hnone] at hrole
      simp at hrole
    | policy =>
      simp only [allFlows, List.mem_append, List.mem_cons]
      exact ⟨_, .inl (.inl (.inr (.inl rfl))), rfl⟩
    | output =>
      simp only [allFlows, List.mem_append, List.mem_cons]
      exact ⟨_, .inr (.inl rfl), rfl⟩
  last := by
    rw [roles]
    split <;> simp

end Fits

/-! ### Where the templates are sound -/

section Sound

variable {flows : List Flow} {baseTable : U8} {priority : U16} {roles : List NatRole}

theorem FillsPipeline.ranked (h : FillsPipeline flows baseTable priority roles)
    (hpriority : priority.toNat + 10 < 65536) : Ranked flows := by
  have hdisjoint : ∀ flow : Flow, flow.DropsInvalid → ¬ flow.ForwardsEstablished := by
    intro flow hinvalid hestablished
    exact absurd (hinvalid.symm.trans hestablished) (by decide)
  refine ⟨h.drops, h.forwards, ?_⟩
  intro invalid hinvalid hdrops established hestablished hforwards
  have htop : invalid.priority = priority + 10 := by
    rcases (h.fits invalid hinvalid).rank with ⟨-, heq⟩ | ⟨hforwards', -⟩ | ⟨hnot, -, -⟩
    · exact heq
    · exact absurd hforwards' (hdisjoint invalid hdrops)
    · exact absurd hdrops hnot
  have hmiddle : established.priority = priority + 5 := by
    rcases (h.fits established hestablished).rank with ⟨hdrops', -⟩ | ⟨-, heq⟩ | ⟨-, hnot, -⟩
    · exact absurd hforwards (hdisjoint established hdrops')
    · exact heq
    · exact absurd hforwards hnot
  constructor
  · rw [htop, hmiddle]
    bv_omega
  · intro flow hflow hnotDrops hnotForwards
    rcases (h.fits flow hflow).rank with ⟨hdrops', -⟩ | ⟨hforwards', -⟩ | ⟨-, -, heq⟩
    · exact absurd hdrops' hnotDrops
    · exact absurd hforwards' hnotForwards
    · rw [heq, hmiddle]
      bv_omega

theorem FillsPipeline.onThreeTables (h : FillsPipeline flows baseTable priority roles)
    (htable : baseTable.toNat ≤ 252) :
    OnThreeTables baseTable roles flows (pipelineTables baseTable) where
  real := pipelineTables_real htable
  holds flow hflow := (h.fits flow hflow).table
  recirculates flow hflow := (h.fits flow hflow).recircs
  used := h.used

/-- Where the flows of a pipeline are on three tables, the last of them is not 255. -/
theorem FillsPipeline.output_ne_all (h : FillsPipeline flows baseTable priority roles)
    {tables : NatTables} (htables : OnThreeTables baseTable roles flows tables) :
    baseTable + 2 ≠ 255 := by
  rcases h.used .output h.last with ⟨flow, hflow, hrole⟩
  have hlast := (h.fits flow hflow).table
  rw [htables.holds flow hflow, hrole] at hlast
  intro heq
  exact htables.real.ne_all .output (hlast.trans heq)

/-- The flows of a pipeline, computed behind their sums, are as asked where the sums fit and the
    last table is not 255. -/
theorem FillsPipeline.natSound_iff (h : FillsPipeline flows baseTable priority roles) :
    NatSound baseTable roles
        (fun checks => natSums checks baseTable priority >>= fun _ => pure flows) ↔
      baseTable.toNat ≤ 252 ∧ priority.toNat ≤ 65525 := by
  constructor
  case mp =>
    rintro (⟨flows', hrun, ⟨tables, htables⟩, -⟩ | hrejected)
    · rcases Outcome.bind_eq_ok.mp (hrun true) with ⟨_, hsums, hflows⟩
      cases hflows
      have hfit := natSums_checked hsums
      have hne := h.output_ne_all htables
      constructor
      · bv_omega
      · omega
    · rcases hrejected false with ⟨error, herr⟩
      cases hsums : natSums false baseTable priority with
      | err error' => exact absurd hsums (natSums_ne_err false error')
      | ok _ => simp [hsums] at herr
      | panic => simp [hsums] at herr
      | hang => simp [hsums] at herr
  case mpr =>
    rintro ⟨htable, hpriority⟩
    refine .inl ⟨flows, ?_, ⟨_, h.onThreeTables htable⟩, h.ranked (by omega)⟩
    intro checks
    have hsums : natSums checks baseTable priority = .ok () :=
      natSums_ok (by omega) (by omega) checks
    simp only [hsums, Outcome.ok_bind, Outcome.pure_eq]

/-- A deletion from a table. -/
def Flow.deleteFrom (table : U8) : Flow := { Flow.delete with tableId := table }

theorem deleteIn_recordFlow (checks : Bool) (baseTable : U8) :
    SnatGateway.deleteIn checks recordFlow [] baseTable =
      addIn checks baseTable 1 >>= fun policyTable =>
        addIn checks baseTable 2 >>= fun outputTable =>
          pure [.deleteFrom baseTable, .deleteFrom policyTable, .deleteFrom outputTable] := rfl

theorem deleteSound_iff (baseTable : U8) :
    DeleteSound baseTable (fun checks => SnatGateway.deleteIn checks recordFlow [] baseTable) ↔
      baseTable.toNat ≤ 252 := by
  simp only [deleteIn_recordFlow]
  constructor
  case mp =>
    rintro (⟨flows, hrun, -, tables, hreal, htables⟩ | hrejected)
    · rcases Outcome.bind_eq_ok.mp (hrun true) with ⟨policyTable, -, hrest⟩
      rcases Outcome.bind_eq_ok.mp hrest with ⟨outputTable, houtput, hflows⟩
      cases hflows
      have hfit : baseTable.toNat + 2 < 256 := addIn_checked houtput
      rw [addIn_ok hfit] at houtput
      cases houtput
      simp only [List.map_cons, List.map_nil, List.cons.injEq, and_true] at htables
      have hlast : baseTable + 2 = tables.output := htables.2.2
      have hne : baseTable + 2 ≠ 255 := by
        rw [hlast]
        exact hreal.ne_all .output
      bv_omega
    · rcases hrejected false with ⟨error, herr⟩
      cases herr
  case mpr =>
    intro htable
    refine .inl ⟨[.deleteFrom baseTable, .deleteFrom (baseTable + 1),
      .deleteFrom (baseTable + 2)], ?_, ?_, pipelineTables baseTable,
      pipelineTables_real htable, rfl⟩
    · intro checks
      have hpolicy : addIn checks baseTable 1 = .ok (baseTable + 1) :=
        addIn_ok (show baseTable.toNat + 1 < 256 by omega) checks
      have houtput : addIn checks baseTable 2 = .ok (baseTable + 2) :=
        addIn_ok (show baseTable.toNat + 2 < 256 by omega) checks
      simp only [hpolicy, houtput, Outcome.ok_bind, Outcome.pure_eq]
    · simp [Flow.deleteFrom, Flow.delete]

/-- **The templates are sound exactly up to table 252 and priority 65525, and the deletion of a
    gateway exactly up to table 252.**  Further up the tables behind the base table, or the
    priorities above the base priority, wrap around or overflow, depending on how the library was
    built. -/
theorem natTemplates_sound_iff (gateway : SnatGateway) (service : DnatService) (baseTable : U8)
    (priority : U16) :
    (NatSound baseTable [.ct, .policy, .output]
        (fun checks => gateway.allFlowsIn checks baseTable priority) ↔
      baseTable.toNat ≤ 252 ∧ priority.toNat ≤ 65525) ∧
    (NatSound baseTable service.roles
        (fun checks => service.allFlowsIn checks baseTable priority) ↔
      baseTable.toNat ≤ 252 ∧ priority.toNat ≤ 65525) ∧
    (DeleteSound baseTable
        (fun checks => SnatGateway.deleteIn checks recordFlow [] baseTable) ↔
      baseTable.toNat ≤ 252) :=
  ⟨(gateway.fillsPipeline baseTable priority).natSound_iff,
    (service.fillsPipeline baseTable priority).natSound_iff, deleteSound_iff baseTable⟩

/-- A gateway at table 253 writes its last flows to table 255; one at priority 65530 ranks the
    drop of invalid packets below everything, or panics. -/
theorem gateway_not_sound :
    ¬ NatSound 253 [.ct, .policy, .output] (fun checks =>
      SnatGateway.allFlowsIn checks ⟨.new 0xcb007101 1 2⟩ 253 100) ∧
    ¬ NatSound 0 [.ct, .policy, .output] (fun checks =>
      SnatGateway.allFlowsIn checks ⟨.new 0xcb007101 1 2⟩ 0 65530) ∧
    ¬ DeleteSound 253 (fun checks => SnatGateway.deleteIn checks recordFlow [] 253) := by
  refine ⟨?_, ?_, ?_⟩
  · intro hsound
    have h := (SnatGateway.fillsPipeline 253 100 ⟨.new 0xcb007101 1 2⟩).natSound_iff.mp hsound
    exact absurd h.1 (by decide)
  · intro hsound
    have h := (SnatGateway.fillsPipeline 0 65530 ⟨.new 0xcb007101 1 2⟩).natSound_iff.mp hsound
    exact absurd h.2 (by decide)
  · intro hsound
    exact absurd ((deleteSound_iff 253).mp hsound) (by decide)

end Sound

end Rovs.OpenFlow

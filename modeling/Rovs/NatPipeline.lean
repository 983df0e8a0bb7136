import Rovs.NatFlows

/-!
# NAT pipelines

What the NAT templates have in common.  A packet of a tracked family passes the tracker once and
comes to the policy table.  Invalid packets end there, packets of established connections leave on
the opposite port, and a packet that opens a connection passes the tracker again, under NAT, and
leaves from the output table.  `NatPipeline.emits_iff` lists the ways in which a packet is output.
-/

namespace Rovs.OpenFlow

/-! ### Connection states -/

def CtHas (s bit : U32) : Prop := s &&& bit = bit

instance (s bit : U32) : Decidable (CtHas s bit) := inferInstanceAs (Decidable (_ = _))

theorem ctHas_or {s a b : U32} : CtHas s (a ||| b) ↔ CtHas s a ∧ CtHas s b := by
  simp only [CtHas, BitVec.eq_of_getLsbD_eq_iff, BitVec.getLsbD_and, BitVec.getLsbD_or,
    ← forall_and]
  apply forall_congr'
  intro i
  cases s.getLsbD i <;> cases a.getLsbD i <;> cases b.getLsbD i <;> simp

/-- The packet belongs to an established connection and is not invalid. -/
def Packet.Established (pkt : Packet) : Prop :=
  CtHas pkt.ctState ctStateTrk ∧ CtHas pkt.ctState ctStateEst ∧ ¬ CtHas pkt.ctState ctStateInv

/-- The packet opens a connection and is not invalid. -/
def Packet.Opening (pkt : Packet) : Prop :=
  CtHas pkt.ctState ctStateTrk ∧ CtHas pkt.ctState ctStateNew ∧ ¬ CtHas pkt.ctState ctStateInv

/-! ### Matches of the templates -/

section Matches

variable {pkt : Packet} {port bit : U32} {ethType : U16}

theorem holds_ethType :
    ({ Match.new with ethType := some ethType } : Match).Holds pkt ↔ pkt.ethType = ethType := by
  simp [Match.holds_iff, Match.new]

theorem holds_inPort :
    ({ Match.new with inPort := some port } : Match).Holds pkt ↔ pkt.inPort = port := by
  simp [Match.holds_iff, Match.new]

/-- The mask of a tracked match is not all ones, so it is written. -/
theorem normCtStateMask_tracked : ∀ bit ∈ [ctStateNew, ctStateEst, ctStateInv],
    normCtStateMask (some (ctStateTrk ||| bit)) = some (ctStateTrk ||| bit) := by
  simp [normCtStateMask, ctStateTrk, ctStateNew, ctStateEst, ctStateInv]

theorem holds_invalid : (Match.new.tracked ctStateInv).Holds pkt ↔
    CtHas pkt.ctState ctStateTrk ∧ CtHas pkt.ctState ctStateInv := by
  have hmask := normCtStateMask_tracked ctStateInv (by simp)
  rw [← ctHas_or]
  simp [Match.holds_iff, Match.new, Match.tracked, hmask, CtHas]

theorem holds_established :
    ({ Match.new with inPort := some port : Match }.tracked ctStateEst).Holds pkt ↔
      pkt.inPort = port ∧ CtHas pkt.ctState ctStateTrk ∧ CtHas pkt.ctState ctStateEst := by
  have hmask := normCtStateMask_tracked ctStateEst (by simp)
  rw [← ctHas_or]
  simp [Match.holds_iff, Match.new, Match.tracked, hmask, CtHas]

end Matches

/-! ### The pipeline -/

/-- The parameters of a NAT pipeline: what its three tables are, which families are tracked, and
    which packets open connections under which NAT. -/
structure NatPipeline where
  base : U8
  priority : U16
  zone : U16
  internal : U32
  external : U32
  families : List U16
  openings : List (Match × NatConfig)
  base_le : base.toNat ≤ 252
  priority_le : priority.toNat ≤ 65525
  ports_ne : internal ≠ external

namespace NatPipeline

variable (p : NatPipeline)

def policy : U8 := p.base + 1

def exit : U8 := p.base + 2

/-- The two ports are opposite each other. -/
def Opposite (inPort outPort : U32) : Prop :=
  inPort = p.internal ∧ outPort = p.external ∨ inPort = p.external ∧ outPort = p.internal

/-- The first pass of every packet, without NAT. -/
def track : Ct := ⟨0, p.zone, some p.policy, none⟩

def commit (nat : NatConfig) : Ct := ⟨ctFlagsCommit, p.zone, some p.exit, some nat⟩

def trackEntry (family : U16) : FlowEntry :=
  applyEntry p.base p.priority { Match.new with ethType := some family } [.ct p.track]

def arpEntry : FlowEntry :=
  applyEntry p.base p.priority { Match.new with ethType := some 0x0806 } [.output portNormal]

def invalidEntry : FlowEntry :=
  applyEntry p.policy (p.priority + 10) (Match.new.tracked ctStateInv) []

def establishedEntry (inPort outPort : U32) : FlowEntry :=
  applyEntry p.policy (p.priority + 5)
    ({ Match.new with inPort := some inPort : Match }.tracked ctStateEst) [.output outPort]

def openingEntry (m : Match) (nat : NatConfig) : FlowEntry :=
  applyEntry p.policy p.priority m [.ct (p.commit nat)]

def exitEntry (inPort outPort : U32) : FlowEntry :=
  applyEntry p.exit p.priority { Match.new with inPort := some inPort } [.output outPort]

/-- The entries of the pipeline. -/
inductive Has : FlowEntry → Prop
  | track {family : U16} (h : family ∈ p.families) : Has (p.trackEntry family)
  | arp : Has p.arpEntry
  | invalid : Has p.invalidEntry
  | established {inPort outPort : U32} (h : p.Opposite inPort outPort) :
      Has (p.establishedEntry inPort outPort)
  | opening {m : Match} {nat : NatConfig} (h : (m, nat) ∈ p.openings) :
      Has (p.openingEntry m nat)
  | exit {inPort outPort : U32} (h : p.Opposite inPort outPort) : Has (p.exitEntry inPort outPort)

/-- Flow entries that are those of the pipeline; ARP may be missing. -/
structure Installed (rules : List FlowEntry) : Prop where
  has : ∀ e ∈ rules, p.Has e
  mem : ∀ e, p.Has e → e ≠ p.arpEntry → ∃ e' ∈ rules, e'.table = e.table ∧
    e'.priority = e.priority ∧ ∀ pkt, e'.Accepts pkt ↔ e.Accepts pkt

section Tables

theorem policy_ne_base : p.policy ≠ p.base := by
  simp [policy]

theorem exit_ne_base : p.exit ≠ p.base := by
  simp [exit]

theorem exit_ne_policy : p.exit ≠ p.policy := by
  intro h
  have h' := congrArg (· - p.base) h
  simp [exit, policy] at h'

theorem priority_add {n : Nat} (h : n ≤ 10) :
    (p.priority + BitVec.ofNat 16 n).toNat = p.priority.toNat + n := by
  have hle := p.priority_le
  rw [BitVec.toNat_add, BitVec.toNat_ofNat]
  omega

end Tables

/-! ### What is selected -/

section Selects

variable {p} {rules : List FlowEntry} {pkt : Packet} {e : FlowEntry}

theorem selects_base (h : p.Installed rules) (hsel : flowLookup.Selects rules p.base pkt e) :
    (∃ family ∈ p.families, e = p.trackEntry family ∧ pkt.ethType = family) ∨
      e = p.arpEntry ∧ pkt.ethType = 0x0806 := by
  have htable := hsel.table_eq
  have haccepts := hsel.accepts
  cases h.has e hsel.mem with
  | track hfamily => exact .inl ⟨_, hfamily, rfl, holds_ethType.mp haccepts⟩
  | arp => exact .inr ⟨rfl, holds_ethType.mp haccepts⟩
  | invalid => exact absurd htable p.policy_ne_base
  | established _ => exact absurd htable p.policy_ne_base
  | opening _ => exact absurd htable p.policy_ne_base
  | exit _ => exact absurd htable p.exit_ne_base

/-- The invalid packets are dropped before any other entry of the policy table is looked at. -/
theorem not_invalid (h : p.Installed rules) (hsel : flowLookup.Selects rules p.policy pkt e)
    (hlt : e.priority.toNat < p.priority.toNat + 10) (htrk : CtHas pkt.ctState ctStateTrk) :
    ¬ CtHas pkt.ctState ctStateInv := by
  intro hinv
  rcases h.mem _ .invalid (by simp [invalidEntry, arpEntry, applyEntry]) with
    ⟨drop, hdrop, htable, hpriority, haccepts⟩
  have hprio : flowLookup.priority drop = p.priority.toNat + 10 := by
    change drop.priority.toNat = _
    rw [hpriority]
    exact p.priority_add (Nat.le_refl 10)
  refine hsel.not_above hdrop htable ?_ ((haccepts pkt).mpr (holds_invalid.mpr ⟨htrk, hinv⟩))
  rw [hprio]
  exact hlt

theorem selects_policy (h : p.Installed rules) (hsel : flowLookup.Selects rules p.policy pkt e) :
    e = p.invalidEntry ∨
      (∃ outPort, p.Opposite pkt.inPort outPort ∧ e = p.establishedEntry pkt.inPort outPort ∧
        pkt.Established) ∨
      ∃ m nat, (m, nat) ∈ p.openings ∧ e = p.openingEntry m nat ∧ m.Holds pkt ∧
        (CtHas pkt.ctState ctStateTrk → ¬ CtHas pkt.ctState ctStateInv) := by
  have htable := hsel.table_eq
  have haccepts := hsel.accepts
  have hne := p.policy_ne_base
  cases h.has e hsel.mem with
  | track _ => exact absurd htable hne.symm
  | arp => exact absurd htable hne.symm
  | invalid => exact .inl rfl
  | established hports =>
    rcases holds_established.mp haccepts with ⟨rfl, htrk, hest⟩
    have hprio := p.priority_add (show 5 ≤ 10 by decide)
    have hlt : (p.priority + 5).toNat < p.priority.toNat + 10 := by
      exact (hprio.trans_lt (by omega))
    exact .inr (.inl ⟨_, hports, rfl, htrk, hest, not_invalid h hsel hlt htrk⟩)
  | opening hopening =>
    have hlt : p.priority.toNat < p.priority.toNat + 10 := by omega
    exact .inr (.inr ⟨_, _, hopening, rfl, haccepts, not_invalid h hsel hlt⟩)
  | exit _ => exact absurd htable p.exit_ne_policy

theorem selects_exit (h : p.Installed rules) (hsel : flowLookup.Selects rules p.exit pkt e) :
    ∃ outPort, p.Opposite pkt.inPort outPort ∧ e = p.exitEntry pkt.inPort outPort := by
  have htable := hsel.table_eq
  have haccepts := hsel.accepts
  cases h.has e hsel.mem with
  | track _ => exact absurd htable p.exit_ne_base.symm
  | arp => exact absurd htable p.exit_ne_base.symm
  | invalid => exact absurd htable p.exit_ne_policy.symm
  | established _ => exact absurd htable p.exit_ne_policy.symm
  | opening _ => exact absurd htable p.exit_ne_policy.symm
  | exit hports =>
    rw [holds_inPort.mp haccepts]
    exact ⟨_, hports, rfl⟩

end Selects

/-! ### Where a packet comes -/

section Flight

variable {p} {rules : List FlowEntry} (tracker : Tracker) (earlier : List Packet)
  (received : Packet)

variable (p) in
/-- The first pass of a packet. -/
def firstPass : CtPass := ⟨p.track, tracker.answer earlier received [] p.track received⟩

variable (p) in
/-- The second pass of a packet that opens a connection. -/
def secondPass (nat : NatConfig) : CtPass :=
  ⟨p.commit nat, tracker.answer earlier received [p.firstPass tracker earlier received]
    (p.commit nat) (p.firstPass tracker earlier received).answer⟩

/-- The places of a packet in the pipeline. -/
inductive Place : InFlight → Prop
  | base : Place ⟨p.base, received, []⟩
  | policy (hfamily : received.ethType ∈ p.families) :
      Place ⟨p.policy, (p.firstPass tracker earlier received).answer,
        [p.firstPass tracker earlier received]⟩
  | exit {m : Match} {nat : NatConfig} (hopening : (m, nat) ∈ p.openings)
      (hholds : m.Holds (p.firstPass tracker earlier received).answer)
      (hvalid : CtHas (p.firstPass tracker earlier received).answer.ctState ctStateTrk →
        ¬ CtHas (p.firstPass tracker earlier received).answer.ctState ctStateInv) :
      Place ⟨p.exit, (p.secondPass tracker earlier received nat).answer,
        [p.firstPass tracker earlier received, p.secondPass tracker earlier received nat]⟩

variable {tracker earlier received} {s s' : InFlight} {e : FlowEntry} {port : U32}
  {passes : List CtPass}

theorem Has.no_goto (h : p.Has e) (t : U8) : .goto t ∉ e.instructions := by
  cases h <;> simp [trackEntry, arpEntry, invalidEntry, establishedEntry, openingEntry, exitEntry,
    applyEntry]

/-- Every step leads from place to place. -/
theorem Place.step (h : p.Installed rules) (hplace : p.Place tracker earlier received s)
    (hstep : Step rules tracker earlier received s s') : p.Place tracker earlier received s' := by
  cases hstep with
  | goto hsel hgoto => exact absurd hgoto ((h.has _ hsel.mem).no_goto _)
  | recirculate hsel hct htable =>
    cases hplace with
    | base =>
      rcases selects_base h hsel with ⟨family, hfamily, rfl, hethType⟩ | ⟨rfl, -⟩
      · have hmem := hethType ▸ hfamily
        simp only [trackEntry, applyEntry_actions, List.mem_singleton, SwitchAction.ct.injEq]
          at hct
        subst hct
        cases htable
        exact .policy hmem
      · simp [arpEntry] at hct
    | policy hfamily =>
      rcases selects_policy h hsel with rfl | ⟨outPort, -, rfl, -⟩ |
        ⟨m, nat, hopening, rfl, hholds, hvalid⟩
      · simp [invalidEntry] at hct
      · simp [establishedEntry] at hct
      · simp only [openingEntry, applyEntry_actions, List.mem_singleton, SwitchAction.ct.injEq]
          at hct
        subst hct
        cases htable
        exact .exit hopening hholds hvalid
    | exit hopening hholds hvalid =>
      rcases selects_exit h hsel with ⟨outPort, -, rfl⟩
      simp [exitEntry] at hct

theorem place_of_reaches (h : p.Installed rules)
    (hreaches : ComesTo rules tracker earlier received p.base s) :
    p.Place tracker earlier received s :=
  hreaches.invariant .base fun _ _ hplace hstep => hplace.step h hstep

/-- **The ways in which a packet is output**: as ARP, as a packet of an established connection
    after one pass, or as one that opens a connection after a second pass under NAT. -/
theorem emits_cases (h : p.Installed rules)
    (hemits : Emits rules tracker earlier received p.base port passes) :
    received.ethType = 0x0806 ∨
      (received.ethType ∈ p.families ∧ p.Opposite received.inPort port ∧
        passes = [p.firstPass tracker earlier received] ∧
        (p.firstPass tracker earlier received).answer.Established) ∨
      ∃ m nat, (m, nat) ∈ p.openings ∧ p.Opposite received.inPort port ∧
        passes = [p.firstPass tracker earlier received,
          p.secondPass tracker earlier received nat] ∧
        m.Holds (p.firstPass tracker earlier received).answer ∧
        (CtHas (p.firstPass tracker earlier received).answer.ctState ctStateTrk →
          ¬ CtHas (p.firstPass tracker earlier received).answer.ctState ctStateInv) := by
  rcases hemits with ⟨s, e, hreaches, hsel, houtput, rfl⟩
  cases place_of_reaches h hreaches with
  | base =>
    rcases selects_base h hsel with ⟨family, -, rfl, -⟩ | ⟨-, harp⟩
    · simp [trackEntry] at houtput
    · exact .inl harp
  | policy hfamily =>
    rcases selects_policy h hsel with rfl | ⟨outPort, hports, rfl, hest⟩ | ⟨m, nat, -, rfl, -⟩
    · simp [invalidEntry] at houtput
    · simp only [establishedEntry, applyEntry_actions, List.mem_singleton,
        SwitchAction.output.injEq] at houtput
      subst houtput
      have hinPort : (p.firstPass tracker earlier received).answer.inPort = received.inPort :=
        tracker.answer_inPort ..
      rw [hinPort] at hports
      exact .inr (.inl ⟨hfamily, hports, rfl, hest⟩)
    · simp [openingEntry] at houtput
  | @exit m nat hopening hholds hvalid =>
    rcases selects_exit h hsel with ⟨outPort, hports, rfl⟩
    simp only [exitEntry, applyEntry_actions, List.mem_singleton, SwitchAction.output.injEq]
      at houtput
    subst houtput
    have hinPort : (p.secondPass tracker earlier received nat).answer.inPort = received.inPort :=
      (tracker.answer_inPort ..).trans (tracker.answer_inPort ..)
    rw [hinPort] at hports
    exact .inr (.inr ⟨_, _, hopening, hports, rfl, hholds, hvalid⟩)

/-- In the policy table a packet of an established connection is forwarded. -/
theorem selects_established {pkt : Packet} (h : p.Installed rules)
    (hports : p.Opposite pkt.inPort port) (hest : pkt.Established) :
    flowLookup.Selects rules p.policy pkt e → e = p.establishedEntry pkt.inPort port := by
  intro hsel
  rcases hest with ⟨htrk, hest, hinv⟩
  rcases h.mem _ (.established hports) (by simp [establishedEntry, arpEntry, applyEntry]) with
    ⟨e', he', htable, hpriority, haccepts⟩
  have hhighest := hsel.highest e' he' htable
    ((haccepts pkt).mpr (holds_established.mpr ⟨rfl, htrk, hest⟩))
  have hprio : flowLookup.priority e' = p.priority.toNat + 5 := by
    change e'.priority.toNat = _
    rw [hpriority]
    exact p.priority_add (show 5 ≤ 10 by decide)
  rcases selects_policy h hsel with rfl | ⟨outPort, hports', rfl, -⟩ | ⟨m, nat, -, rfl, -⟩
  · exact absurd (holds_invalid.mp hsel.accepts).2 hinv
  · have hne := p.ports_ne
    have heq : outPort = port := by
      rcases hports with ⟨h1, rfl⟩ | ⟨h1, rfl⟩ <;> rcases hports' with ⟨h2, rfl⟩ | ⟨h2, rfl⟩
      · rfl
      · exact absurd (h1.symm.trans h2) hne
      · exact absurd (h2.symm.trans h1) hne
      · rfl
    rw [heq]
  · rw [hprio, openingEntry, applyEntry_priority] at hhighest
    omega

/-- A packet of an established connection is output, after one pass and without NAT. -/
theorem emits_established (h : p.Installed rules) (hfamily : received.ethType ∈ p.families)
    (harp : received.ethType ≠ 0x0806) (hports : p.Opposite received.inPort port)
    (hest : (p.firstPass tracker earlier received).answer.Established) :
    Emits rules tracker earlier received p.base port [p.firstPass tracker earlier received] := by
  have hreaches : ComesTo rules tracker earlier received p.base ⟨p.policy,
      (p.firstPass tracker earlier received).answer, [p.firstPass tracker earlier received]⟩ := by
    rcases h.mem _ (.track hfamily) (by simp [trackEntry, arpEntry, applyEntry]) with
      ⟨e', he', htable, -, haccepts⟩
    rcases flowLookup.exists_selects he' htable ((haccepts received).mpr (holds_ethType.mpr rfl))
      with ⟨e, hsel⟩
    rcases selects_base h hsel with ⟨family, -, rfl, -⟩ | ⟨-, heq⟩
    · have hct : .ct p.track ∈ (p.trackEntry family).actions := by simp [trackEntry]
      exact .single (.recirculate hsel hct rfl)
    · exact absurd heq harp
  have hinPort : (p.firstPass tracker earlier received).answer.inPort = received.inPort :=
    tracker.answer_inPort ..
  rw [← hinPort] at hports
  rcases h.mem _ (.established hports) (by simp [establishedEntry, arpEntry, applyEntry]) with
    ⟨e', he', htable, -, haccepts⟩
  rcases flowLookup.exists_selects he' htable
    ((haccepts _).mpr (holds_established.mpr ⟨rfl, hest.1, hest.2.1⟩)) with ⟨e, hsel⟩
  have he := selects_established h hports hest hsel
  exact ⟨_, e, hreaches, hsel, by simp [he, establishedEntry], rfl⟩

end Flight

end NatPipeline

end Rovs.OpenFlow

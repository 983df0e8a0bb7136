import Rovs.FlowReplies
import Rovs.FlowRuns
import Rovs.InstructionRoundTrip
import Rovs.LengthFields
import Rovs.MatchDecoding

/-!
# Backups of flow tables

The entries of a dump say of each flow in which table it is, with which priority, match and cookie,
and what its instructions are.  That is enough to delete exactly these flows, and to put them back
later.  The switch may list flows, and the conditions of a match, in any order.

`dump_restores` is the main result.  `TableEvent.Expressible` says which flows a dump can show in
full: those that the library's `Match` and instructions can hold.
-/

namespace Rovs.OpenFlow

open Outcome

/-! ### Conditions in any order -/

theorem reduceOption_set {α : Type} {os : List (Option α)} {i : Nat} {a : α}
    (hfree : os[i]? = some none) :
    (os.set i (some a)).reduceOption.Perm (a :: os.reduceOption) := by
  induction os generalizing i with
  | nil => simp at hfree
  | cons o os ih =>
    cases i with
    | zero =>
      rw [List.getElem?_cons_zero, Option.some.injEq] at hfree
      subst hfree
      simp [List.reduceOption_cons_of_some, List.reduceOption_cons_of_none]
    | succ i =>
      rw [List.getElem?_cons_succ] at hfree
      rw [List.set_cons_succ]
      cases o with
      | none => simpa [List.reduceOption_cons_of_none] using ih hfree
      | some b =>
        rw [List.reduceOption_cons_of_some, List.reduceOption_cons_of_some]
        exact ((ih hfree).cons b).trans (.swap ..)

theorem decodeTlvs_tlvs {ts : List Tlv} {m : Match} (hclean : m.Clean)
    (hdistinct : (ts.map fun t => t.field.piece).Nodup)
    (hfree : ∀ t ∈ ts, m.conditions[t.field.piece.slot]? = some none) :
    ∃ m', decodeTlvs m (ts.flatMap Tlv.encode) = .ok m' ∧
      m'.tlvs.Perm (ts.map Tlv.kept ++ m.tlvs) := by
  induction ts generalizing m with
  | nil => exact ⟨m, rfl, .refl _⟩
  | cons t ts ih =>
    rw [List.map_cons, List.nodup_cons] at hdistinct
    have hfirst := hfree t List.mem_cons_self
    rcases t.taken hclean hfirst with ⟨m₁, hdec, hclean₁, hset⟩
    have hfree₁ : ∀ u ∈ ts, m₁.conditions[u.field.piece.slot]? = some none := by
      intro u hu
      have hne : t.field.piece.slot ≠ u.field.piece.slot := by
        intro heq
        rw [Piece.slot_inj heq] at hdistinct
        exact hdistinct.1 (List.mem_map_of_mem hu)
      rw [hset, List.getElem?_set_ne hne]
      exact hfree u (List.mem_cons_of_mem _ hu)
    rcases ih hclean₁ hdistinct.2 hfree₁ with ⟨m', hrest, hperm⟩
    have hfilled : m₁.tlvs.Perm (t.kept :: m.tlvs) := by
      rw [Match.tlvs, hset]
      exact reduceOption_set hfirst
    refine ⟨m', ?_, ?_⟩
    · rw [List.flatMap_cons, decodeTlvs_tlv t _ hdec, hrest]
    · exact (hperm.trans (hfilled.append_left _)).trans List.perm_middle

/-- **A row is decoded to the conditions that are kept of it**, whatever their order. -/
theorem decodeOxm_tlvs {ts : List Tlv} (hdistinct : (ts.map fun t => t.field.piece).Nodup) :
    ∃ m, Match.decodeOxm (ts.flatMap Tlv.encode) = .ok m ∧ m.tlvs.Perm (ts.map Tlv.kept) := by
  have hclean : Match.new.Clean :=
    ⟨fun _ => rfl, fun _ => rfl, fun _ => rfl, fun _ => rfl, fun _ => rfl⟩
  have hfree : ∀ t ∈ ts, Match.new.conditions[t.field.piece.slot]? = some none := by
    intro t _
    have hnew : Match.new.conditions = List.replicate Piece.order.length none := rfl
    have hlt : t.field.piece.slot < Piece.order.length :=
      List.idxOf_lt_length_iff.mpr t.field.piece.mem_order
    rw [hnew, List.getElem?_replicate, if_pos hlt]
  rcases decodeTlvs_tlvs hclean hdistinct hfree with ⟨m, hdec, hperm⟩
  have hnew : Match.new.tlvs = [] := rfl
  rw [hnew, List.append_nil] at hperm
  exact ⟨m, hdec, hperm⟩

/-! ### The conditions of a match -/

section Conditions

variable {class_ : OxmClass} {number : U8} {f : Field}
  {known : Field.ofHeader class_ number = some f} {value mask : Option (BitVec f.width)}

theorem mem_condition {t : Tlv} (h : t ∈ condition known value mask) :
    ∃ v, value = some v ∧ t = ⟨class_, number, f, known, v, mask⟩ := by
  rcases Option.map_eq_some_iff.mp h with ⟨v, hv, rfl⟩
  exact ⟨v, hv, rfl⟩

/-- The conditions of a match are in the order of the pieces that they are about. -/
theorem pieces_sublist {os : List (Option Tlv)} {xs : List Piece}
    (h : List.Forall₂ (fun o x => ∀ t ∈ o, t.field.piece = x) os xs) :
    (os.reduceOption.map fun t => t.field.piece).Sublist xs := by
  induction h with
  | nil => exact .slnil
  | @cons o x os xs hpiece hrest ih =>
    cases o with
    | none => exact ih.cons x
    | some t =>
      rw [List.reduceOption_cons_of_some, List.map_cons, hpiece t rfl]
      exact ih.cons_cons x

theorem condition_piece {t : Tlv} (h : t ∈ condition known value mask) :
    t.field.piece = f.piece := by
  rcases mem_condition h with ⟨v, -, rfl⟩
  rfl

end Conditions

theorem Match.tlvs_pieces (m : Match) : (m.tlvs.map fun t => t.field.piece).Nodup := by
  have hall : List.Forall₂ (fun o x => ∀ t ∈ o, t.field.piece = x) m.conditions Piece.order := by
    unfold Match.conditions Piece.order
    repeat' first
      | exact .nil
      | refine .cons (fun _ ht => condition_piece ht) ?_
  have hnodup : Piece.order.Nodup := by decide
  exact hnodup.sublist (pieces_sublist hall)

theorem normCtStateMask_norm (mask : Option U32) :
    normCtStateMask (normCtStateMask mask) = normCtStateMask mask := by
  by_cases h : mask = some 0xffffffff
  case pos =>
    rw [h]
    rfl
  case neg =>
    have hsame : normCtStateMask mask = mask := if_neg h
    rw [hsame, hsame]

/-- The mask of a prefix is the mask of the prefix that is read off it. -/
theorem prefixMask_kept {w : Nat} {toMask : U8 → BitVec w} {full : U8}
    (htoMask : ∀ p < full, maskToPrefix (toMask p) = p) (prefixLen : Option U8) :
    prefixMask toMask full (some (((prefixMask toMask full prefixLen).map maskToPrefix).getD full))
      = prefixMask toMask full prefixLen := by
  cases prefixLen with
  | none => simp [prefixMask, Option.filter]
  | some p =>
    by_cases hp : p < full
    · simp [prefixMask, Option.filter, hp, htoMask p hp]
    · simp [prefixMask, Option.filter, hp]

section Kept

variable {m : Match}

theorem forall_conditions {P : Tlv → Prop} (h : ∀ o ∈ m.conditions, ∀ t ∈ o, P t) :
    ∀ t ∈ m.tlvs, P t := by
  intro t ht
  exact h _ (List.reduceOption_mem_iff.mp ht) t rfl

/-- **What a match asks for is kept as it is.** -/
theorem Match.tlvs_kept (hvid : ∀ vid, m.vlanVid = some vid → vid ≤ 0x0fff) :
    ∀ t ∈ m.tlvs, t.kept = t := by
  have hpart : ∀ {class_ : OxmClass} {number : U8} {p : Part}
      {known : Field.ofHeader class_ number = some (.part p)}
      {value mask : Option (BitVec p.wireWidth)}, p.class_ = class_ → p.number = number →
      p.keptMask mask = mask → ∀ t ∈ condition known value mask, t.kept = t := by
    rintro _ _ p known value mask rfl rfl hmask t ht
    rcases mem_condition ht with ⟨v, -, rfl⟩
    simp only [Tlv.kept, hmask]
  have hvlan : ∀ t ∈ condition vlanVid_known (m.vlanVid.map (· ||| 0x1000)) none, t.kept = t := by
    intro t ht
    rcases mem_condition ht with ⟨v, hv, rfl⟩
    rcases Option.map_eq_some_iff.mp hv with ⟨vid, hvid', rfl⟩
    have hword : ∀ vid : U16, vid ≤ 0x0fff → present (vidBits (vid ||| 0x1000)) = vid ||| 0x1000 :=
      fun vid hle => congrArg (· ||| 0x1000) (vlanVid_present hle)
    exact congrArg (fun word : U16 =>
      (⟨.openflowBasic, OxmField.vlanVid.toU8, .vlanVid, vlanVid_known, word, none⟩ : Tlv))
      (hword vid (hvid vid hvid'))
  have hpcp : ∀ t ∈ condition vlanPcp_known m.vlanPcp none, t.kept = t := by
    intro t ht
    rcases mem_condition ht with ⟨v, -, rfl⟩
    rfl
  apply forall_conditions
  simp only [Match.conditions, List.forall_mem_cons]
  and_intros
  all_goals first
    | exact hvlan
    | exact hpcp
    | exact hpart rfl rfl rfl
    | exact hpart rfl rfl (prefixMask_kept (fun _ => maskToPrefix_prefixToMask) _)
    | exact hpart rfl rfl (prefixMask_kept (fun _ => maskToPrefix_prefixToMaskV6) _)
    | exact hpart rfl rfl (normCtStateMask_norm _)
    | exact fun _ h => absurd h List.not_mem_nil

end Kept

/-! ### Flows that the library can express -/

/-- The library can read the flow as it is, and write it again. -/
structure StoredFlow.Expressible (r : StoredFlow) : Prop where
  table : r.table ≠ allTables
  pieces : (r.conditions.map fun t => t.field.piece).Nodup
  kept : ∀ t ∈ r.conditions, t.kept = t
  instructions : ∃ l : InstructionList, (∀ i ∈ l.instructions, i.Exact) ∧ r.instructions = l.encode

/-- What an event puts into the table, or makes of flows there, the library can express. -/
def TableEvent.Expressible (event : TableEvent) : Prop :=
  ∀ e ∈ event.edit, e.Keeps StoredFlow.Expressible

/-- **The flows of the library are expressible**, whatever they do to the table. -/
theorem Flow.expressible {flow : Flow} (hmatch : flow.matchFields.Representable)
    (hexact : ∀ i ∈ flow.written, i.Exact) :
    (TableEvent.modified flow.encode).Expressible := by
  have hinstructions : ∃ l : InstructionList, (∀ i ∈ l.instructions, i.Exact) ∧
      flow.modification.instructions = l.encode :=
    ⟨⟨flow.written⟩, hexact, flow.instructionBytes_eq⟩
  have hrewrite : ∀ r : StoredFlow, r.Expressible →
      StoredFlow.Expressible { r with instructions := flow.modification.instructions } :=
    fun r hr => ⟨hr.table, hr.pieces, hr.kept, hinstructions⟩
  intro e he
  rw [TableEvent.edit, readMod_encode, Option.bind_some, FlowMod.edit, Option.mem_def] at he
  split_ifs at he with hadd htable
  all_goals cases he
  · exact ⟨htable, flow.matchFields.tlvs_pieces, Match.tlvs_kept hmatch.vlanVid, hinstructions⟩
  · exact hrewrite
  · exact hrewrite
  · trivial
  · trivial

namespace TableEvent

variable {rules : List StoredFlow} {events : List TableEvent}

/-- An event leaves the table as it is, or it is an edit. -/
theorem apply_cases (rules : List StoredFlow) (event : TableEvent) : apply rules event = rules ∨
    ∃ e ∈ event.edit, apply rules event = Edit.apply StoredFlow.key rules e := by
  rw [apply]
  cases hedit : event.edit with
  | none => exact .inl rfl
  | some e =>
    cases e with
    | put new =>
      dsimp only
      split_ifs
      · exact .inl rfl
      · exact .inr ⟨_, rfl, rfl⟩
    | change p f => exact .inr ⟨_, rfl, rfl⟩
    | drop p => exact .inr ⟨_, rfl, rfl⟩

/-- What holds of all tables that an edit leaves holds after a run. -/
theorem run_induction {P : List StoredFlow → Prop}
    (hstep : ∀ event ∈ events, ∀ e ∈ event.edit, ∀ rules, P rules →
      P (Edit.apply StoredFlow.key rules e)) (hrules : P rules) : P (run rules events) := by
  induction events generalizing rules with
  | nil => exact hrules
  | cons event events ih =>
    rcases List.forall_mem_cons.mp hstep with ⟨hevent, hstep⟩
    rw [run, List.foldl_cons, ← run]
    apply ih hstep
    rcases apply_cases rules event with hsame | ⟨e, he, happly⟩
    · rw [hsame]
      exact hrules
    · rw [happly]
      exact hevent e he rules hrules

theorem run_expressible (h : ∀ event ∈ events, event.Expressible)
    (hrules : ∀ r ∈ rules, r.Expressible) : ∀ r ∈ run rules events, r.Expressible := by
  apply run_induction (P := fun rules => ∀ r ∈ rules, r.Expressible) _ hrules
  intro event hevent e he rules hrules
  exact (h event hevent e he).apply hrules

theorem run_nodup (events : List TableEvent) (hrules : (rules.map StoredFlow.key).Nodup) :
    ((run rules events).map StoredFlow.key).Nodup := by
  apply run_induction (P := fun rules => (rules.map StoredFlow.key).Nodup) _ hrules
  intro event hevent e he rules hrules
  exact Edit.nodup_apply (edit_keepsKeys he) hrules

end TableEvent

/-! ### What a dump shows -/

/-- The switch shows a flow with its conditions in some order, and with any statistics. -/
structure StoredFlow.ShownBy (r : StoredFlow) (w : WireEntry) : Prop where
  table : w.entry.tableId = r.table
  priority : w.entry.priority = r.priority
  cookie : w.entry.cookie = r.cookie
  instructions : w.entry.instructions = r.instructions
  conditions : ∃ ts : List Tlv, ts.Perm r.conditions ∧ w.oxmFields = ts.flatMap Tlv.encode

def DumpAnswer.entries (answer : DumpAnswer) : List WireEntry :=
  (replies answer.arrivals).flatMap FlowReply.entries

/-- The answer shows the flows in some order. -/
def DumpAnswer.Shows (answer : DumpAnswer) (flows : List StoredFlow) : Prop :=
  ∃ shown, shown.Perm flows ∧ List.Forall₂ StoredFlow.ShownBy shown answer.entries

namespace FlowStatsEntry

variable (entry : FlowStatsEntry)

def decodedInstructions : Result InstructionList := InstructionList.decode entry.instructions

/-- The flow that puts an entry back, with its instructions. -/
def flow (instructions : InstructionList) : Flow :=
  { Flow.add with
    tableId := entry.tableId
    priority := entry.priority
    cookie := entry.cookie
    matchFields := entry.matchFields
    instructions := instructions }

def restore : Result Flow := do
  let instructions ← entry.decodedInstructions
  pure (entry.flow instructions)

/-- The flow modification that deletes the flow of an entry. -/
def strictDelete : Flow :=
  { Flow.delete with
    command := .deleteStrict
    tableId := entry.tableId
    priority := entry.priority
    matchFields := entry.matchFields }

end FlowStatsEntry

/-- What makes a flow: where it is, what it matches, its cookie and its instructions. -/
def StoredFlow.content (r : StoredFlow) : StoredFlow.Key × U64 × Bytes :=
  (r.key, r.cookie, r.instructions)

/-- The flow puts a stored flow back. -/
structure Restores (r : StoredFlow) (flow : Flow) : Prop where
  edit : (TableEvent.modified flow.encode).edit = some (.put flow.modification.stored)
  unchecked : (TableEvent.modified flow.encode).checksOverlap = false
  content : flow.modification.stored.content = r.content

namespace StoredFlow.ShownBy

variable {r : StoredFlow} {w : WireEntry}

/-- The entry has the conditions of the flow. -/
theorem tlvs (h : r.ShownBy w) (hr : r.Expressible) :
    w.entry.matchFields.tlvs.Perm r.conditions := by
  rcases h.conditions with ⟨ts, hperm, hbytes⟩
  have hdistinct : (ts.map fun t => t.field.piece).Nodup :=
    (hperm.map fun t => t.field.piece).nodup_iff.mpr hr.pieces
  have hkept : ts.map Tlv.kept = ts :=
    List.map_congr_left (fun t ht => hr.kept t (hperm.mem_iff.mp ht)) |>.trans (List.map_id _)
  rcases decodeOxm_tlvs hdistinct with ⟨m, hdecode, htlvs⟩
  have hreads := w.reads
  rw [hbytes, hdecode] at hreads
  cases hreads
  rw [hkept] at htlvs
  exact htlvs.trans hperm

theorem key (h : r.ShownBy w) (hr : r.Expressible) :
    ((w.entry.tableId, w.entry.priority, (w.entry.matchFields.tlvs : Multiset Tlv)) :
      StoredFlow.Key) = r.key := by
  rw [h.table, h.priority, Multiset.coe_eq_coe.mpr (h.tlvs hr)]
  rfl

theorem restore (h : r.ShownBy w) (hr : r.Expressible) :
    ∃ flow, w.entry.restore = .ok flow ∧ Restores r flow := by
  rcases hr.instructions with ⟨l, hexact, hinstructions⟩
  have hdecoded : w.entry.decodedInstructions = .ok l := by
    rw [FlowStatsEntry.decodedInstructions, h.instructions, hinstructions,
      InstructionList.decode, InstructionList.encode, instructionList_loop hexact, ok_bind]
    rfl
  have hrestore : w.entry.restore = .ok (w.entry.flow l) := by
    rw [FlowStatsEntry.restore, hdecoded, ok_bind]
    rfl
  refine ⟨w.entry.flow l, hrestore, ?_⟩
  constructor
  case edit =>
    have htable : w.entry.tableId ≠ allTables := by
      rw [h.table]
      exact hr.table
    rw [TableEvent.edit, readMod_encode, Option.bind_some, FlowMod.edit]
    exact (if_pos rfl).trans (if_neg htable)
  case unchecked => exact checksOverlap_plain rfl
  case content =>
    have hbytes : (w.entry.flow l).instructionBytes = l.encode := if_neg fun hnone => hnone.2 rfl
    have hcontent : (w.entry.flow l).modification.stored.content =
        ((w.entry.tableId, w.entry.priority, (w.entry.matchFields.tlvs : Multiset Tlv)),
          w.entry.cookie, (w.entry.flow l).instructionBytes) := rfl
    rw [hcontent, h.key hr, h.cookie, hbytes, ← hinstructions]
    rfl

/-- The strict deletion drops the flow and no other. -/
theorem strictDelete (h : r.ShownBy w) (hr : r.Expressible) :
    (TableEvent.modified w.entry.strictDelete.encode).edit =
      some (.drop fun x => decide (x.key = r.key)) := by
  have houtputs : ∀ x, w.entry.strictDelete.modification.outputsTo x = true :=
    fun x => decide_eq_true ⟨.inl rfl, .inl rfl⟩
  have hstrict : ∀ x, w.entry.strictDelete.modification.concernsStrictly x =
      decide (x.key = r.key) := by
    intro x
    have hcookie : w.entry.strictDelete.modification.hasCookie x = true := by
      rw [FlowMod.hasCookie, decide_eq_true_iff]
      exact BitVec.and_zero
    have htable : w.entry.tableId ≠ allTables := by
      rw [h.table]
      exact hr.table
    have hin : w.entry.strictDelete.modification.inTables x = decide (x.table = w.entry.tableId) :=
      decide_eq_decide.mpr (or_iff_right htable)
    rw [← h.key hr, FlowMod.concernsStrictly, hin, hcookie, Bool.and_true, ← Bool.decide_and,
      ← Bool.decide_and]
    apply decide_eq_decide.mpr
    rw [and_assoc, StoredFlow.key, Prod.mk.injEq, Prod.mk.injEq]
    rfl
  have hdrop : (TableEvent.modified w.entry.strictDelete.encode).edit =
      some (.drop fun x => w.entry.strictDelete.modification.concernsStrictly x &&
        w.entry.strictDelete.modification.outputsTo x) := by
    rw [TableEvent.edit, readMod_encode]
    rfl
  rw [hdrop]
  simp only [houtputs, Bool.and_true, hstrict]

end StoredFlow.ShownBy

/-! ### Backups -/

section Backup

variable {shown : List StoredFlow} {ws : List WireEntry} {flows : List Flow}

theorem exists_restores (h : List.Forall₂ StoredFlow.ShownBy shown ws)
    (hexpressible : ∀ r ∈ shown, r.Expressible) :
    ∃ flows, List.Forall₂ (fun entry flow => entry.restore = .ok flow)
        (ws.map WireEntry.entry) flows ∧ List.Forall₂ Restores shown flows := by
  induction h with
  | nil => exact ⟨[], .nil, .nil⟩
  | cons hfirst hrest ih =>
    rcases List.forall_mem_cons.mp hexpressible with ⟨hr, hexpressible⟩
    rcases hfirst.restore hr with ⟨flow, hrestore, hflow⟩
    rcases ih hexpressible with ⟨flows, hflows, hall⟩
    exact ⟨flow :: flows, .cons hrestore hflows, .cons hflow hall⟩

theorem restores_contents (h : List.Forall₂ Restores shown flows) :
    (flows.map fun flow => flow.modification.stored).map StoredFlow.content =
      shown.map StoredFlow.content := by
  induction h with
  | nil => rfl
  | cons hfirst hrest ih =>
    rw [List.map_cons, List.map_cons, List.map_cons, hfirst.content, ih]

/-- Flows that are put back are edits of the table. -/
theorem restores_edits (h : List.Forall₂ Restores shown flows) :
    (flows.map fun flow => TableEvent.modified flow.encode).filterMap TableEvent.edit =
        (flows.map fun flow => flow.modification.stored).map .put ∧
      ∀ event ∈ flows.map fun flow => TableEvent.modified flow.encode,
        event.checksOverlap = false := by
  induction h with
  | nil => exact ⟨rfl, fun _ hmem => absurd hmem List.not_mem_nil⟩
  | cons hfirst hrest ih =>
    rcases ih with ⟨hedits, hunchecked⟩
    constructor
    · rw [List.map_cons, List.filterMap_cons_some hfirst.edit, hedits]
      rfl
    · rw [List.map_cons, List.forall_mem_cons]
      exact ⟨hfirst.unchecked, hunchecked⟩

/-- So are strict deletions. -/
theorem deletes_edits (h : List.Forall₂ StoredFlow.ShownBy shown ws)
    (hexpressible : ∀ r ∈ shown, r.Expressible) :
    ((ws.map WireEntry.entry).map fun entry =>
        TableEvent.modified entry.strictDelete.encode).filterMap TableEvent.edit =
      (shown.map StoredFlow.key).map fun k => .drop fun r => decide (r.key = k) := by
  induction h with
  | nil => rfl
  | cons hfirst hrest ih =>
    rcases List.forall_mem_cons.mp hexpressible with ⟨hr, hexpressible⟩
    rw [List.map_cons, List.map_cons, List.filterMap_cons_some (hfirst.strictDelete hr),
      ih hexpressible]
    rfl

/-- The loop of a dump returns all entries that the answer shows. -/
theorem dump_entries (request : FlowStatsRequest) (answer : DumpAnswer) (conn : VConn)
    (rest : Bytes) (sent : List Message) :
    (SwitchLink.dumpFlowsFiltered request
        ⟨conn, wire (flowReplies.messages answer.arrivals) ++ rest, sent⟩).1 =
      .ok (answer.entries.map WireEntry.entry) := by
  have hloop : VConn.awaitDump = awaitSeries parseFlowStatsReply := funext awaitDump_eq
  have hcontents : flowReplies.contents answer.arrivals = answer.entries.map WireEntry.entry := by
    rw [DumpAnswer.entries, List.map_flatMap]
    rfl
  rw [SwitchLink.dumpFlowsFiltered, hloop, ← hcontents]
  exact congrArg Prod.fst (awaitSeries_done flowReplies_readBy (conn.dumpFlowsFiltered request).2
    rest answer.more answer.version answer.xid answer.done []
    (sent ++ [(conn.dumpFlowsFiltered request).1]))

/-- **A dump is a backup.**  Flows that a dump shows, whatever made the table and in whatever order
    they are shown, are put back by the flows that its entries decode to, whatever the table is by
    then, and the strict deletions of the entries delete them and no others. -/
theorem dump_restores {events : List TableEvent} (h : ∀ event ∈ events, event.Expressible)
    {dumped : List StoredFlow} (hdumped : dumped.Sublist (TableEvent.run [] events))
    {answer : DumpAnswer} (hshows : answer.Shows dumped) (request : FlowStatsRequest)
    (conn : VConn) (rest : Bytes) (sent : List Message) :
    ∃ entries flows,
      (SwitchLink.dumpFlowsFiltered request
        ⟨conn, wire (flowReplies.messages answer.arrivals) ++ rest, sent⟩).1 = .ok entries ∧
      List.Forall₂ (fun entry flow => entry.restore = .ok flow) entries flows ∧
      ∀ later : List StoredFlow,
        ((TableEvent.run later (flows.map fun flow => .modified flow.encode)).map
            StoredFlow.content).Perm
          ((Edit.beside StoredFlow.key (dumped.map StoredFlow.key) later ++ dumped).map
            StoredFlow.content) ∧
        TableEvent.run later (entries.map fun entry => .modified entry.strictDelete.encode) =
          Edit.beside StoredFlow.key (dumped.map StoredFlow.key) later := by
  rcases hshows with ⟨shown, hperm, hshown⟩
  have hexpressible : ∀ r ∈ shown, r.Expressible := by
    intro r hr
    have hnone : ∀ r ∈ ([] : List StoredFlow), r.Expressible :=
      fun _ hmem => absurd hmem List.not_mem_nil
    exact TableEvent.run_expressible h hnone r (hdumped.subset (hperm.mem_iff.mp hr))
  have hrun : ((TableEvent.run [] events).map StoredFlow.key).Nodup :=
    TableEvent.run_nodup events List.nodup_nil
  have hnodup : (dumped.map StoredFlow.key).Nodup := hrun.sublist (hdumped.map _)
  have hkeys : (shown.map StoredFlow.key).Perm (dumped.map StoredFlow.key) := hperm.map _
  rcases exists_restores hshown hexpressible with ⟨flows, hflows, hrestores⟩
  refine ⟨_, flows, dump_entries request answer conn rest sent, hflows, ?_⟩
  intro later
  constructor
  case left =>
    have hcontents := restores_contents hrestores
    have hsame : (flows.map fun flow => flow.modification.stored).map StoredFlow.key =
        shown.map StoredFlow.key := by
      have hfst : ∀ rs : List StoredFlow, (rs.map StoredFlow.content).map Prod.fst =
          rs.map StoredFlow.key := fun rs => List.map_map
      rw [← hfst, hcontents, hfst]
    have hdistinct := hkeys.nodup_iff.mpr hnodup
    rcases restores_edits hrestores with ⟨hedits, hunchecked⟩
    rw [TableEvent.run_eq hunchecked, hedits, Edit.applyAll_puts (hsame ▸ hdistinct), hsame,
      Edit.beside_congr hkeys, List.map_append, List.map_append, hcontents]
    exact (hperm.map _).append_left _
  case right =>
    have hunchecked : ∀ event ∈ (answer.entries.map WireEntry.entry).map fun entry =>
        TableEvent.modified entry.strictDelete.encode, event.checksOverlap = false := by
      intro event hevent
      rcases List.mem_map.mp hevent with ⟨entry, -, rfl⟩
      exact checksOverlap_plain rfl
    rw [TableEvent.run_eq hunchecked, deletes_edits hshown hexpressible, Edit.applyAll_dropKeys,
      Edit.beside_congr hkeys]

/-! ### A table with one flow -/

def webFlow : Flow := .template 0 100 webMatch [.output (.port 2)]

theorem webFlow_run :
    TableEvent.run [] [.modified webFlow.encode] = [webFlow.modification.stored] := by
  have hedit : (TableEvent.modified webFlow.encode).edit =
      some (.put webFlow.modification.stored) := by
    rw [TableEvent.edit, readMod_encode]
    rfl
  have hunchecked : ∀ event ∈ [TableEvent.modified webFlow.encode],
      event.checksOverlap = false := by
    intro event hevent
    obtain rfl := List.mem_singleton.mp hevent
    exact checksOverlap_plain rfl
  rw [TableEvent.run_eq hunchecked, List.filterMap_cons_some hedit]
  rfl

theorem webFlow_expressible : (TableEvent.modified webFlow.encode).Expressible := by
  apply Flow.expressible webMatch_representable
  intro i hi
  obtain rfl := List.mem_singleton.mp hi
  refine ⟨?_, by decide +kernel⟩
  intro a ha
  obtain rfl := List.mem_singleton.mp ha
  exact ⟨nofun, fun p hp => by cases hp; decide⟩

theorem webWireEntry_fits : FlowStatsEntry.fixedSize + pad8 (4 + webMatch.oxmFields.length) +
    webFlow.instructionBytes.length < 65536 := by decide +kernel

/-- The flow as it is shown. -/
def webWireEntry : WireEntry where
  entry := {
    tableId := 0
    durationSec := 7
    durationNsec := 0
    priority := 100
    idleTimeout := 0
    hardTimeout := 0
    flags := 0
    cookie := 0
    packetCount := 3
    byteCount := 180
    matchFields := webMatch.norm
    instructions := webFlow.instructionBytes }
  oxmFields := webMatch.oxmFields
  reads := decodeTlvs_oxmFields webMatch_representable
  fits := webWireEntry_fits

theorem webReply_fits : Header.size + MultipartHeader.size +
    ([webWireEntry].flatMap WireEntry.encode).length < 65536 := by decide +kernel

def webReply : FlowReply := ⟨0, [webWireEntry], webReply_fits⟩

theorem replies_none {P : FlowReply → Prop} : ∀ r ∈ replies ([] : List (Arrival FlowReply)), P r :=
  fun _ h => absurd h List.not_mem_nil

theorem webReply_last : flowReplies.hasMore webReply = false := by decide

def webAnswer : DumpAnswer where
  front := []
  version := .of13
  xid := 1
  last := webReply
  more := replies_none
  done := webReply_last

theorem webAnswer_shows : webAnswer.Shows [webFlow.modification.stored] := by
  refine ⟨_, .refl _, .cons ?_ .nil⟩
  exact ⟨rfl, rfl, rfl, rfl, webMatch.tlvs, .refl _, webMatch.tlvs_encode.symm⟩

theorem dump_restores_web :
    ∃ entries flows,
      (SwitchLink.dumpFlowsFiltered .new
        ⟨⟨.of13, 1⟩, wire (flowReplies.messages webAnswer.arrivals) ++ [], []⟩).1 = .ok entries ∧
      List.Forall₂ (fun entry flow => entry.restore = .ok flow) entries flows ∧
      ∀ later : List StoredFlow,
        ((TableEvent.run later (flows.map fun flow => .modified flow.encode)).map
            StoredFlow.content).Perm
          ((Edit.beside StoredFlow.key [webFlow.modification.stored.key] later ++
            [webFlow.modification.stored]).map StoredFlow.content) ∧
        TableEvent.run later (entries.map fun entry => .modified entry.strictDelete.encode) =
          Edit.beside StoredFlow.key [webFlow.modification.stored.key] later := by
  have hevents : ∀ event ∈ [TableEvent.modified webFlow.encode], event.Expressible :=
    fun _ h => List.mem_singleton.mp h ▸ webFlow_expressible
  exact dump_restores hevents (webFlow_run ▸ List.Sublist.refl _) webAnswer_shows .new _ [] []

end Backup

end Rovs.OpenFlow

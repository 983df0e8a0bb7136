import Mathlib.Data.List.Forall2
import Rovs.ActionFrames

/-!
# Round trip of action lists

An encoded list is a row of action frames without padding, and the list decoder
reads one frame after the other.  It leaves out the placeholder, so moves and
register loads are missing from its result, as are the actions that are not
written at all.  Every other action comes back once, in its place.

`Action.ReadBackAs` says of each action what it may come back as, without the encoder
and the decoder, and `action_roundTrip` says that it comes back so, alone and in a list.
-/

namespace Rovs.OpenFlow

open Outcome

/-! ### One pass -/

theorem actionListPass_frame {bytes : Bytes} {a : Action} (h : DecodesTo bytes a)
    (acc : List Action) (rest : Bytes) : actionListPass (acc, bytes ++ rest) =
      .ok (.again (if a = .drop then acc else acc ++ [a], rest)) := by
  simp only [actionListPass, listHeader_some (hasHeader_of_isFrame h.isFrame rest), ok_bind,
    h.decode, List.drop_left, pure_eq]

theorem actionListPass_nil (acc : List Action) :
    actionListPass (acc, []) = .ok (.leave acc) := rfl

/-! ### What the list decoder gives back -/

/-- An action that the list decoder gives back in some form. -/
def Action.isReadBack : Action → Bool
  | .drop | .gotoTable _ | .writeMetadata .. | .meter _ | .nxMove .. | .nxRegLoad .. => false
  | _ => true

theorem Action.decoded_eq_drop_iff {a : Action} (hne : a.encode ≠ []) :
    a.decoded = .drop ↔ a.isReadBack = false := by
  cases a with
  | drop | gotoTable | writeMetadata | meter => exact absurd rfl hne
  | output port =>
    simp only [Action.decoded, Action.received, Action.wireForm, Action.isReadBack]
    split <;> simp
  | _ => simp [Action.decoded, Action.received, Action.wireForm, Action.isReadBack]

theorem Action.isReadBack_of_encode_nil {a : Action} (h : a.Encodable) (hnil : a.encode = []) :
    a.isReadBack = false := by
  by_contra hread
  cases a with
  | drop | gotoTable | writeMetadata | meter | nxMove | nxRegLoad => exact hread rfl
  | nxLearn learn =>
    have hframe := (encodeNxLearn_decodesTo h.1 h.2).isFrame.header
    rw [show encodeNxLearn learn = [] from hnil] at hframe
    exact absurd hframe (by decide)
  | nxCtNat flags zone table nat =>
    have hframe := (encodeNxCtNat_decodesTo flags zone table nat).isFrame.header
    rw [show encodeNxCtNat flags zone table nat = [] from hnil] at hframe
    exact absurd hframe (by decide)
  | _ => cases hnil

/-- The list decoder's result on an encoded list. -/
def ActionList.decoded (l : ActionList) : ActionList :=
  ⟨(l.actions.filter Action.isReadBack).map Action.decoded⟩

theorem actionList_loop {actions : List Action} (h : ∀ a ∈ actions, a.Encodable)
    (acc : List Action) :
    loop actionListPass ((actions.flatMap Action.encode).length + 1)
      (acc, actions.flatMap Action.encode) =
      .ok (acc ++ (actions.filter Action.isReadBack).map Action.decoded) := by
  induction actions generalizing acc with
  | nil =>
    rw [List.filter_nil, List.map_nil, List.append_nil]
    exact loop_leave (actionListPass_nil acc) _
  | cons a actions ih =>
    have ha := h a (List.mem_cons_self ..)
    have hrest := ih fun b hb => h b (List.mem_cons_of_mem _ hb)
    rw [List.flatMap_cons]
    by_cases hnil : a.encode = []
    · -- nothing is written, so the next action stands at the head
      rw [hnil, List.nil_append,
        List.filter_cons_of_neg (by simp [Action.isReadBack_of_encode_nil ha hnil])]
      exact hrest acc
    · have hpass := actionListPass_frame (Action.encode_decodesTo ha hnil) acc
        (actions.flatMap Action.encode)
      refine (loop_step actions_walkedBy.decreases hpass).trans ?_
      by_cases hread : a.isReadBack = true
      · have hdrop : a.decoded ≠ .drop := fun hd => by
          rw [(Action.decoded_eq_drop_iff hnil).mp hd] at hread
          cases hread
        rw [if_neg hdrop, List.filter_cons_of_pos hread, List.map_cons,
          List.append_cons acc a.decoded (List.map Action.decoded _)]
        exact hrest _
      · have hdrop := (Action.decoded_eq_drop_iff hnil).mpr (Bool.eq_false_iff.mpr hread)
        rw [if_pos hdrop, List.filter_cons_of_neg hread]
        exact hrest _

theorem flatMap_encode_aligned {actions : List Action} (h : ∀ a ∈ actions, a.Encodable) :
    (actions.flatMap Action.encode).length % 8 = 0 := by
  induction actions with
  | nil => rfl
  | cons a actions ih =>
    have hrest := ih fun b hb => h b (List.mem_cons_of_mem _ hb)
    rw [List.flatMap_cons, List.length_append]
    by_cases hnil : a.encode = []
    · rw [hnil, List.length_nil]; omega
    · have ha := (Action.encode_decodesTo (h a (List.mem_cons_self ..)) hnil).aligned
      omega

/-- No padding is needed behind the actions. -/
theorem ActionList.encode_eq {l : ActionList} (h : ∀ a ∈ l.actions, a.Encodable) :
    l.encode = l.actions.flatMap Action.encode := by
  simp only [ActionList.encode, flatMap_encode_aligned h]
  exact List.append_nil _

/-- **Decoding an encoded list gives what is read back of its actions, in order.** -/
theorem ActionList.decode_encode {l : ActionList} (h : ∀ a ∈ l.actions, a.Encodable) :
    ActionList.decode l.encode = .ok l.decoded := by
  rw [ActionList.encode_eq h, ActionList.decode, actionList_loop h, ok_bind]
  rfl

/-! ### Which actions survive -/

/-- A learn action with a one-bit match. -/
def Action.HasOneBitMatch : Action → Prop
  | .nxLearn learn => ∃ s ∈ learn.specs, s.isOneBitMatch = true
  | _ => False

theorem LearnSpec.fitted_isOneBitMatch (spec : LearnSpec) :
    spec.fitted.isOneBitMatch = spec.isOneBitMatch := by
  cases spec <;> rfl

theorem NxLearn.decoded_eq {learn : NxLearn} (h : ∀ s ∈ learn.specs, s.isOneBitMatch = false) :
    learn.decoded = { learn with specs := learn.specs.map LearnSpec.fitted } := by
  have hall : (learn.specs.map LearnSpec.fitted).takeWhile (fun s => !s.isOneBitMatch) =
      learn.specs.map LearnSpec.fitted := by
    rw [List.takeWhile_eq_self_iff]
    intro s hs
    obtain ⟨spec, hspec, rfl⟩ := List.mem_map.mp hs
    rw [LearnSpec.fitted_isOneBitMatch, h spec hspec]
    rfl
  rw [NxLearn.decoded, hall]

theorem Action.decoded_eq_received {a : Action} (h : ¬ a.HasOneBitMatch) :
    a.decoded = a.received := by
  cases a with
  | nxLearn learn =>
    rw [Action.decoded, Action.received, Action.wireForm, NxLearn.decoded_eq]
    · exact fun s hs => Bool.eq_false_iff.mpr fun hone => h ⟨s, hs, hone⟩
    all_goals exact fun _ _ _ _ => nofun
  | _ => rfl

/-! ### What an action may come back as

What follows is stated without the encoder and the decoder: which ports a number stands for,
how a short immediate is padded, and what each action may turn into on its way. -/

/-- OpenFlow's reserved port numbers. -/
def reservedPorts : List (U32 × OutputPort) :=
  [(0xfffffff8, .inPort), (0xfffffffa, .normal), (0xfffffffb, .flood), (0xfffffffc, .all),
    (0xfffffffd, .controller), (0xfffffffe, .local), (0xffffffff, .none)]

/-- A port by its name where its number is a reserved one. -/
def OutputPort.canonical : OutputPort → OutputPort
  | .port p => (reservedPorts.lookup p).getD (.port p)
  | named => named

/-- The bytes of an immediate of a width: whole 16-bit words. -/
def LearnSpec.valueBytes (nBits : U16) : Nat := 2 * ((nBits.toNat + 15) / 16)

/-- A spec comes back as it is, a short immediate value with zeros before it; of an immediate
    value that is longer than its width nothing is said. -/
def LearnSpec.ReadBackAs : LearnSpec → LearnSpec → Prop
  | .matchImmediate dst value n, s' => ∃ value', s' = .matchImmediate dst value' n ∧
      (value.length ≤ valueBytes n → value' = zeros (valueBytes n - value.length) ++ value)
  | .loadImmediate dst value n, s' => ∃ value', s' = .loadImmediate dst value' n ∧
      (value.length ≤ valueBytes n → value' = zeros (valueBytes n - value.length) ++ value)
  | s, s' => s' = s

/-- Specs come back one for one up to the first one-bit match, behind which nothing is said. -/
def LearnSpec.AllReadBackAs (specs specs' : List LearnSpec) : Prop :=
  ∃ kept rest, specs' = kept ++ rest ∧
    List.Forall₂ LearnSpec.ReadBackAs (specs.takeWhile fun s => !s.isOneBitMatch) kept ∧
    ((∀ s ∈ specs, s.isOneBitMatch = false) → rest = [])

/-- What decoding may make of an encoded action.  Reserved numbers turn into their names and the
    sentinels into what they mean; a move and a register load are the placeholder, and a ct
    action with NAT is the ct action without it. -/
def Action.ReadBackAs (a a' : Action) : Prop :=
  match a with
  | .output port =>
      a' = if port.canonical = .controller then .controller 0xffff else .output port.canonical
  | .nxResubmit port table =>
      a' = .nxResubmit (port.filter (· ≠ 0xfff8)) (table.filter (· ≠ 255))
  | .nxCt flags zone table => a' = .nxCt flags zone (table.filter (· ≠ 255))
  | .nxCtNat flags zone table _ => a' = .nxCt flags zone (table.filter (· ≠ 255))
  | .nxMove .. | .nxRegLoad .. => a' = .drop
  | .nxLearn learn => ∃ specs', a' = .nxLearn { learn with specs := specs' } ∧
      LearnSpec.AllReadBackAs learn.specs specs'
  | a => a' = a

theorem reservedPorts_lookup_eq_none {p : U32} (h : p ∉ reservedPorts.map Prod.fst) :
    reservedPorts.lookup p = none := by
  rw [List.lookup_eq_none_iff]
  intro entry hentry
  rw [bne_iff_ne]
  rintro rfl
  exact h (List.mem_map_of_mem hentry)

theorem OutputPort.fromWire_of_not_reserved {p : U32} (h : p ∉ reservedPorts.map Prod.fst) :
    OutputPort.fromWire p = .port p := by
  simp only [reservedPorts, List.map_cons, List.map_nil, List.mem_cons, List.not_mem_nil,
    or_false, not_or] at h
  obtain ⟨hinPort, hnormal, hflood, hall, hcontroller, hlocal, hnone⟩ :
    p ≠ portInPort ∧ p ≠ portNormal ∧ p ≠ portFlood ∧ p ≠ portAll ∧ p ≠ portController ∧
      p ≠ portLocal ∧ p ≠ portNone := h
  rw [OutputPort.fromWire, if_neg hcontroller, if_neg hflood, if_neg hall, if_neg hinPort,
    if_neg hlocal, if_neg hnormal, if_neg hnone]

theorem OutputPort.fromWire_eq_lookup (p : U32) :
    OutputPort.fromWire p = (reservedPorts.lookup p).getD (.port p) := by
  by_cases hreserved : p ∈ reservedPorts.map Prod.fst
  case pos =>
    simp only [reservedPorts, List.map_cons, List.map_nil, List.mem_cons, List.not_mem_nil,
      or_false] at hreserved
    rcases hreserved with rfl | rfl | rfl | rfl | rfl | rfl | rfl <;> rfl
  case neg =>
    rw [OutputPort.fromWire_of_not_reserved hreserved, reservedPorts_lookup_eq_none hreserved]
    rfl

theorem OutputPort.fromWire_eq_canonical (port : OutputPort) :
    OutputPort.fromWire port.toWirePort = port.canonical := by
  cases port with
  | port p => exact OutputPort.fromWire_eq_lookup p
  | _ => rfl

theorem OutputPort.toWirePort_eq_controller (port : OutputPort) :
    port.toWirePort = portController ↔ port.canonical = .controller := by
  rw [← OutputPort.fromWire_eq_canonical]
  constructor
  · intro h
    rw [h]
    rfl
  · intro h
    by_contra hne
    rw [OutputPort.fromWire, if_neg hne] at h
    split_ifs at h

theorem resubmitPort_eq_filter (port : Option U16) :
    resubmitPort (port.getD 0xfff8) = port.filter (· ≠ 0xfff8) := by
  cases port with
  | none => rfl
  | some p => by_cases h : p = 0xfff8 <;> simp [resubmitPort, Option.filter, h]

theorem optionalTable_eq_filter (table : Option U8) :
    optionalTable (table.getD 255) = table.filter (· ≠ 255) := by
  cases table with
  | none => rfl
  | some t => by_cases h : t = 255 <;> simp [optionalTable, Option.filter, h]

theorem encodeLearnValue_of_le {value : Bytes} {n : U16}
    (h : value.length ≤ LearnSpec.valueBytes n) :
    encodeLearnValue value n = zeros (LearnSpec.valueBytes n - value.length) ++ value := by
  have hbytes : learnValueLen n = LearnSpec.valueBytes n := by
    rw [learnValueLen, LearnSpec.valueBytes, Nat.mul_comm]
  rw [encodeLearnValue, hbytes, Nat.min_eq_left h, List.take_length]

theorem LearnSpec.readBackAs_fitted (spec : LearnSpec) : spec.ReadBackAs spec.fitted := by
  cases spec with
  | matchImmediate dst value n => exact ⟨_, rfl, fun h => encodeLearnValue_of_le h⟩
  | loadImmediate dst value n => exact ⟨_, rfl, fun h => encodeLearnValue_of_le h⟩
  | _ => rfl

/-- The specs before the first one-bit match are read back. -/
theorem NxLearn.readBackAs_decoded (learn : NxLearn) :
    LearnSpec.AllReadBackAs learn.specs learn.decoded.specs := by
  have hspecs : learn.decoded.specs =
      (learn.specs.takeWhile fun s => !s.isOneBitMatch).map LearnSpec.fitted := by
    rw [NxLearn.decoded, List.takeWhile_map]
    simp only [Function.comp_def, LearnSpec.fitted_isOneBitMatch]
  refine ⟨_, [], (List.append_nil _).symm, ?_, fun _ => rfl⟩
  rw [hspecs, List.forall₂_map_right_iff, List.forall₂_same]
  exact fun s _ => s.readBackAs_fitted

/-- What the decoder makes of an action is what it may come back as. -/
theorem Action.readBackAs_decoded (a : Action) : a.ReadBackAs a.decoded := by
  cases a with
  | output port =>
    simp only [Action.ReadBackAs, Action.decoded, Action.received, Action.wireForm,
      OutputPort.toWirePort_eq_controller, OutputPort.fromWire_eq_canonical]
  | nxResubmit port table =>
    simp only [Action.ReadBackAs, Action.decoded, Action.received, Action.wireForm,
      resubmitPort_eq_filter, optionalTable_eq_filter]
  | nxCt flags zone table =>
    simp only [Action.ReadBackAs, Action.decoded, Action.received, Action.wireForm,
      optionalTable_eq_filter]
  | nxCtNat flags zone table nat =>
    simp only [Action.ReadBackAs, Action.decoded, Action.received, Action.wireForm,
      optionalTable_eq_filter]
  | nxLearn learn => exact ⟨learn.decoded.specs, rfl, learn.readBackAs_decoded⟩
  | _ => rfl

/-- **An action comes back as itself, as its sentinels mean it, or as what the decoder has for
    it, and a list comes back with one action for each that is not a move or a register load.** -/
theorem action_roundTrip :
    (∀ a : Action, a.Encodable → a.encode ≠ [] →
      ∃ a', Action.decode a.encode = .ok (a', a.encode.length) ∧ a.ReadBackAs a') ∧
    ∀ l : ActionList, (∀ a ∈ l.actions, a.Encodable ∧ a.encode ≠ []) →
      ∃ l', ActionList.decode l.encode = .ok l' ∧
        List.Forall₂ Action.ReadBackAs (l.actions.filter Action.isReadBack) l'.actions := by
  constructor
  · intro a ha hne
    have hdecode := (Action.encode_decodesTo ha hne).decode []
    rw [List.append_nil] at hdecode
    exact ⟨a.decoded, hdecode, a.readBackAs_decoded⟩
  · intro l hl
    refine ⟨l.decoded, ActionList.decode_encode fun a ha => (hl a ha).1, ?_⟩
    rw [ActionList.decoded, List.forall₂_map_right_iff, List.forall₂_same]
    exact fun a _ => a.readBackAs_decoded

/-- A resubmit with the packet's original port written out. -/
def originalPort : Action := .nxResubmit (some 0xfff8) (some 3)

def natActions : ActionList where
  actions := [originalPort,
    .nxCtNat ctFlagsCommit 1 none ⟨1, some 0x0a000001, none, none, none, none, none⟩,
    .nxMove 0x00000206 0x00000406 48 0 0]

theorem action_roundTrip_natActions :
    (∃ a', Action.decode originalPort.encode = .ok (a', originalPort.encode.length) ∧
      originalPort.ReadBackAs a') ∧
    ∃ l', ActionList.decode natActions.encode = .ok l' ∧
      List.Forall₂ Action.ReadBackAs (natActions.actions.filter Action.isReadBack)
        l'.actions := by
  refine ⟨action_roundTrip.1 originalPort trivial (by decide), action_roundTrip.2 natActions ?_⟩
  intro a ha
  simp only [natActions, List.mem_cons, List.not_mem_nil, or_false] at ha
  rcases ha with rfl | rfl | rfl
  · exact ⟨trivial, by decide⟩
  · exact ⟨trivial, by decide⟩
  · exact ⟨show 1 ≤ (48 : U16).toNat by decide, by decide⟩

/-! ### Which do not -/

/-- A learn action that announces only its header and fields, whatever specs follow. -/
theorem decode_wrappedLearn {learn : NxLearn}
    (h : pad8 (32 + (encodeLearnSpecs learn.specs).length) % 65536 = 32) :
    Action.decode (encodeNxLearn learn) = .ok (.nxLearn { learn with specs := [] }, 32) := by
  have hempty : decodeLearn (learnFields learn ++ []) = .ok (.nxLearn { learn with specs := [] }) :=
    @decodeLearn_fields { learn with specs := [] } nofun 0
  rw [List.append_nil] at hempty
  have hlen : BitVec.ofNat 16 (pad8 (32 + (encodeLearnSpecs learn.specs).length)) =
      BitVec.ofNat 16 32 := by
    apply BitVec.eq_of_toNat_eq
    rw [BitVec.toNat_ofNat, BitVec.toNat_ofNat]
    omega
  have hframe : DecodesTo (encodeNxHeader .learn (BitVec.ofNat 16 32) ++ learnFields learn)
      (.nxLearn { learn with specs := [] }) :=
    decodesTo_nicira (by rw [learnFields_length]) (by decide) rfl
      ((decodeNiciraAction_be .learn _).trans hempty)
  have hlength : (encodeNxHeader .learn (BitVec.ofNat 16 32) ++ learnFields learn).length = 32 := by
    rw [List.length_append, encodeNxHeader_length, learnFields_length]
  rw [encodeNxLearn_eq, hlen, hframe.decode, hlength]

/-- A learn action with a spec and nothing else. -/
def oneSpecLearn (spec : LearnSpec) : Action := .nxLearn { specs := [spec] }

/-- A learn action with more specs than its length word can count. -/
def wrappedLearn : NxLearn where
  specs := List.replicate 8192 (.outputField 0x00000002 16)

theorem wrappedLearn_decode :
    Action.decode (encodeNxLearn wrappedLearn) =
      .ok (.nxLearn { wrappedLearn with specs := [] }, 32) := by
  apply decode_wrappedLearn
  have hspec : (encodeLearnSpec (.outputField 0x00000002 16)).length = 8 := rfl
  rw [encodeLearnSpecs, List.length_flatMap, wrappedLearn, List.map_replicate, hspec,
    List.sum_replicate_nat]
  rfl

/-- A move and a NAT are lost, a list gets shorter, and learn specs that are too wide,
    that do not fill their width or that are too many come back as others. -/
theorem actions_lost :
    Action.decode (Action.nxMove 0x00000206 0x00000406 48 0 0).encode = .ok (.drop, 24) ∧
      ActionList.decode (ActionList.encode ⟨[.nxMove 0x00000206 0x00000406 48 0 0]⟩) = .ok ⟨[]⟩ ∧
      Action.decode (Action.nxRegLoad 0x00010004 0 32 7).encode = .ok (.drop, 24) ∧
      Action.decode (Action.nxCtNat 1 0 none ⟨1, none, none, none, none, none, none⟩).encode =
        .ok (.nxCt 1 0 none, 40) ∧
      Action.decode (oneSpecLearn (.matchField 0x00000406 0x00000206 2049)).encode =
        .ok (oneSpecLearn (.loadField 0x00000406 0x00000206 1), 48) ∧
      Action.decode (oneSpecLearn (.loadImmediate 0x00010004 [7] 16)).encode =
        .ok (oneSpecLearn (.loadImmediate 0x00010004 [0, 7] 16), 48) ∧
      Action.decode (Action.nxLearn wrappedLearn).encode =
        .ok (.nxLearn { wrappedLearn with specs := [] }, 32) :=
  ⟨by decide, by decide, by decide, by decide, by decide, by decide, wrappedLearn_decode⟩

end Rovs.OpenFlow

import Rovs.ActionFrames
import Rovs.Flow
import Rovs.InstructionRoundTrip

/-!
# What the instruction bytes of a flow say

`Flow::encode` wraps the actions of a flow without instructions into one
apply-actions instruction.  Three kinds of action are instructions on the wire and
write nothing inside it, so a flow with one of them says less than its action list.
The bytes are read here as what they are, a row of instruction frames some of
which hold a row of action frames, and they express the list exactly when it has
no such action and fits the length word of the instruction.

`Expresses` is that reading and `flow_expresses_iff` the main result.
-/

namespace Rovs.OpenFlow

/-! ### Expressing actions -/

/-- The instruction that an action is on the wire. -/
def Action.asInstruction : Action → Option Instruction
  | .gotoTable table => some (.gotoTable table)
  | .writeMetadata metadata mask => some (.writeMetadata metadata mask)
  | .meter meterId => some (.meter meterId)
  | _ => none

/-- An action of the OpenFlow protocol: neither a drop nor an instruction. -/
def Action.isOpenFlowAction (a : Action) : Bool :=
  a ≠ .drop && a.asInstruction.isNone

/-- The action frames inside the apply-actions frames of a row of instructions. -/
def appliedActions (frames : List Bytes) : List Bytes :=
  frames.flatMap fun frame =>
    if wordAt 16 frame 0 = InstructionType.applyActions.toU16 then
      (readFrames (frame.drop 8)).getD []
    else []

/-- Instruction bytes express a list of actions: they are a row of instructions, the
    OpenFlow actions are applied in order, and the other actions stand there as
    instructions.  Only drops may be absent. -/
def Expresses (bytes : Bytes) (actions : List Action) : Prop :=
  ∃ frames, readFrames bytes = some frames ∧
    ((actions.filter Action.isOpenFlowAction).map Action.encode).Sublist
      (appliedActions frames) ∧
    ∀ a ∈ actions, ∀ i, a.asInstruction = some i → i.encode ∈ frames

/-! ### The action list -/

theorem Action.encode_eq_nil_iff {a : Action} (h : a.asInstruction = none) :
    a.encode = [] ↔ a.isOpenFlowAction = false := by
  cases a with
  | gotoTable | writeMetadata | meter => cases h
  | drop => exact ⟨fun _ => rfl, fun _ => rfl⟩
  | nxLearn learn =>
    refine iff_of_false (fun hnil => ?_) (by simp [Action.isOpenFlowAction, Action.asInstruction])
    have hlen := congrArg List.length hnil
    rw [Action.encode, encodeNxLearn, resize_length] at hlen
    have hle := le_pad8 (32 + (encodeLearnSpecs learn.specs).length)
    rw [List.length_nil] at hlen
    omega
  | nxCtNat flags zone table nat =>
    refine iff_of_false (fun hnil => ?_) (by simp [Action.isOpenFlowAction, Action.asInstruction])
    have hframe := (encodeNxCtNat_decodesTo flags zone table nat).isFrame.header
    rw [show encodeNxCtNat flags zone table nat = [] from hnil] at hframe
    exact absurd hframe (by decide)
  | _ =>
    refine iff_of_false (fun hnil => ?_) (by simp [Action.isOpenFlowAction, Action.asInstruction])
    cases hnil

/-- The frames of the actions that are written. -/
def actionFrames (actions : List Action) : List Bytes :=
  (actions.filter fun a => a.encode ≠ []).map Action.encode

theorem actionFrames_flatten (actions : List Action) :
    (actionFrames actions).flatten = actions.flatMap Action.encode := by
  induction actions with
  | nil => rfl
  | cons a actions ih =>
    rw [List.flatMap_cons, ← ih, actionFrames, actionFrames]
    by_cases hnil : a.encode = []
    · rw [List.filter_cons_of_neg (by simp [hnil]), hnil, List.nil_append]
    · rw [List.filter_cons_of_pos (by simp [hnil]), List.map_cons, List.flatten_cons]

section Frames

variable {actions : List Action}

theorem actionFrames_isFrame (h : (actions.flatMap Action.encode).length ≤ 65535) :
    ∀ f ∈ actionFrames actions, IsFrame f ∧ f.length % 8 = 0 := by
  intro f hf
  have hle : f.length ≤ (actionFrames actions).flatten.length :=
    (List.sublist_flatten_of_mem hf).length_le
  rw [actionFrames_flatten] at hle
  obtain ⟨a, ha, rfl⟩ := List.mem_map.mp hf
  have hne : a.encode ≠ [] := by simpa using (List.mem_filter.mp ha).2
  exact Action.encode_isFrame hne (by omega)

theorem flatten_aligned {frames : List Bytes} (h : ∀ f ∈ frames, f.length % 8 = 0) :
    frames.flatten.length % 8 = 0 := by
  induction frames with
  | nil => rfl
  | cons f frames ih =>
    have hf := h f (List.mem_cons_self ..)
    have hrest := ih fun g hg => h g (List.mem_cons_of_mem _ hg)
    rw [List.flatten_cons, List.length_append]
    omega

theorem ActionList.length_le_encode (l : ActionList) :
    (l.actions.flatMap Action.encode).length ≤ l.encode.length := by
  simp only [ActionList.encode, List.length_append]
  exact Nat.le_add_right ..

/-- Within the limit of a length word a list is written as its frames, without
    padding. -/
theorem ActionList.encode_eq_frames {l : ActionList} (h : l.encode.length ≤ 65535) :
    l.encode = (actionFrames l.actions).flatten := by
  have hle := l.length_le_encode
  have h8 := flatten_aligned fun f hf =>
    (actionFrames_isFrame (show (l.actions.flatMap Action.encode).length ≤ 65535 by omega) f hf).2
  rw [actionFrames_flatten] at h8
  rw [actionFrames_flatten]
  simp only [ActionList.encode, h8]
  exact List.append_nil _

theorem ActionList.encode_aligned {l : ActionList} (h : l.encode.length ≤ 65535) :
    l.encode.length % 8 = 0 := by
  have hle := l.length_le_encode
  rw [ActionList.encode_eq_frames h]
  exact flatten_aligned fun f hf => (actionFrames_isFrame (by omega) f hf).2

theorem ActionList.readFrames_encode {l : ActionList} (h : l.encode.length ≤ 65535) :
    readFrames l.encode = some (actionFrames l.actions) := by
  have hle := l.length_le_encode
  rw [ActionList.encode_eq_frames h]
  exact readFrames_flatten fun f hf => (actionFrames_isFrame (by omega) f hf).1

/-- Without instructions among them the OpenFlow actions are those that are written. -/
theorem actionFrames_eq (h : ∀ a ∈ actions, a.asInstruction = none) :
    actionFrames actions = (actions.filter Action.isOpenFlowAction).map Action.encode := by
  rw [actionFrames]
  congr 1
  refine List.filter_congr fun a ha => ?_
  rw [Bool.eq_iff_iff, decide_eq_true_iff, ne_eq, Action.encode_eq_nil_iff (h a ha),
    Bool.not_eq_false]

end Frames

/-! ### The flow -/

theorem applyActions_encode (l : ActionList) : (Instruction.applyActions l).encode =
    frame InstructionType.applyActions.toU16 (zeros 4 ++ l.encode) :=
  Instruction.encode_eq (.applyActions l)

theorem applyActions_length (l : ActionList) :
    (Instruction.applyActions l).encode.length = 8 + l.encode.length := by
  rw [applyActions_encode, frame_length, List.length_append, zeros_length]
  omega

/-- An apply-actions instruction whose length word overflows is no instruction. -/
theorem readFrames_applyActions_none {l : ActionList} (h : 8 + l.encode.length = 65536) :
    readFrames (Instruction.applyActions l).encode = none := by
  have hlen := applyActions_length l
  have hzero : frameLength (Instruction.applyActions l).encode = 0 := by
    have hmod := frameLength_frame_mod InstructionType.applyActions.toU16 (zeros 4 ++ l.encode) []
    rw [List.append_nil, ← applyActions_encode, List.length_append, zeros_length] at hmod
    omega
  have hne : (Instruction.applyActions l).encode ≠ [] := by
    intro hnil
    rw [hnil, List.length_nil] at hlen
    omega
  rw [readFrames, readFramesFrom, if_neg hne, hzero, if_neg (by omega)]

theorem readFrames_applyActions {l : ActionList} (h : 8 + l.encode.length ≤ 65535) :
    readFrames (Instruction.applyActions l).encode =
      some [(Instruction.applyActions l).encode] := by
  have hframe := Instruction.encode_isFrame (i := .applyActions l)
    (by rw [applyActions_length]; exact h)
  have hread := @readFrames_flatten [(Instruction.applyActions l).encode]
    (List.forall_mem_singleton.mpr hframe)
  rwa [List.flatten_cons, List.flatten_nil, List.append_nil] at hread

theorem appliedActions_applyActions {l : ActionList} (h : l.encode.length ≤ 65535) :
    appliedActions [(Instruction.applyActions l).encode] = actionFrames l.actions := by
  have hword := wordAt_frame InstructionType.applyActions.toU16 (zeros 4 ++ l.encode) []
  rw [List.append_nil, ← applyActions_encode] at hword
  have hdrop : (Instruction.applyActions l).encode.drop 8 = l.encode := by
    rw [applyActions_encode, frame, ← List.append_assoc, ← List.append_assoc,
      List.drop_left' (by simp)]
  rw [appliedActions, List.flatMap_cons, List.flatMap_nil, List.append_nil, if_pos hword, hdrop,
    ActionList.readFrames_encode h]
  rfl

/-- The instruction of an action is not an apply-actions instruction. -/
theorem Action.asInstruction_encode_ne {a : Action} {i : Instruction}
    (h : a.asInstruction = some i) (l : ActionList) :
    i.encode ≠ (Instruction.applyActions l).encode := by
  intro heq
  have hword := wordAt_frame i.type.toU16 i.body []
  have hword' := wordAt_frame InstructionType.applyActions.toU16 (zeros 4 ++ l.encode) []
  rw [List.append_nil, ← Instruction.encode_eq, heq] at hword
  rw [List.append_nil, ← applyActions_encode, hword] at hword'
  have htype := InstructionType.typeWords.injective hword'
  cases a with
  | gotoTable | writeMetadata | meter => cases h; cases htype
  | _ => cases h

/-- **A flow expresses its actions exactly when none of them is an instruction and the actions fit
    an apply-actions instruction.**  What is behind the match is read as a switch reads it; a jump
    to a table among the actions encodes to nothing. -/
theorem flow_expresses_iff {flow : Flow} (hinstructions : flow.instructions.instructions = [])
    (hactions : flow.actions.actions ≠ []) (hsize : flow.actions.encode.length ≤ 65535) :
    Expresses (flow.encode.drop (40 + flow.matchFields.encode.length)) flow.actions.actions ↔
      (∀ a ∈ flow.actions.actions, a.asInstruction = none) ∧
        8 + flow.actions.encode.length ≤ 65535 := by
  rw [Flow.drop_encode, Flow.instructionBytes, if_pos ⟨hinstructions, hactions⟩]
  constructor
  · rintro ⟨frames, hframes, -, hinst⟩
    have hfits : 8 + flow.actions.encode.length ≤ 65535 := by
      by_contra hbig
      have h8 := ActionList.encode_aligned hsize
      rw [readFrames_applyActions_none (by omega)] at hframes
      cases hframes
    refine ⟨fun a ha => ?_, hfits⟩
    rw [readFrames_applyActions hfits] at hframes
    cases hframes
    rcases hi : a.asInstruction with _ | i
    · rfl
    · exact absurd (List.mem_singleton.mp (hinst a ha i hi)) (Action.asInstruction_encode_ne hi _)
  · rintro ⟨hnone, hfits⟩
    refine ⟨_, readFrames_applyActions hfits, ?_, fun a ha i hi => ?_⟩
    · rw [appliedActions_applyActions hsize, actionFrames_eq hnone]
    · rw [hnone a ha] at hi
      cases hi

def forwardFlow : Flow := { Flow.add with actions := ⟨[.decTtl, .output (.port 1), .drop]⟩ }

theorem flow_expresses_iff_forwardFlow :
    Expresses (forwardFlow.encode.drop (40 + forwardFlow.matchFields.encode.length))
        forwardFlow.actions.actions ↔
      (∀ a ∈ forwardFlow.actions.actions, a.asInstruction = none) ∧
        8 + forwardFlow.actions.encode.length ≤ 65535 :=
  flow_expresses_iff rfl (by decide) (by decide)

/-- A flow that learns nothing and goes to table 1. -/
def gotoFlow : Flow := { Flow.add with actions := ⟨[.decTtl, .gotoTable 1]⟩ }

/-- The instruction bytes of the flow are those of the flow without its last action. -/
theorem gotoFlow_lost :
    gotoFlow.encode = (Flow.encode { Flow.add with actions := ⟨[.decTtl]⟩ }) ∧
      ¬ Expresses (gotoFlow.encode.drop (40 + gotoFlow.matchFields.encode.length))
        gotoFlow.actions.actions := by
  refine ⟨by decide, ?_⟩
  rintro ⟨frames, hframes, -, hinst⟩
  have hread := readFrames_applyActions (l := gotoFlow.actions) (by decide)
  rw [Flow.drop_encode, Flow.instructionBytes, if_pos ⟨rfl, by decide⟩, hread] at hframes
  cases hframes
  have hgoto := hinst (.gotoTable 1) (by decide) _ rfl
  exact Action.asInstruction_encode_ne (a := .gotoTable 1) rfl _ (List.mem_singleton.mp hgoto)

end Rovs.OpenFlow

import Rovs.ActionRoundTrip

/-!
# Round trip of instruction lists

Instructions are frames as actions are, and the actions inside one are bounded by
its length.  A list of instructions is decoded to itself when its actions are of
the kinds that decoding gives back unchanged and everything fits its length word.

`Exact` names these kinds, and `instructionList_roundTrip` is the main result.
-/

namespace Rovs.OpenFlow

open Outcome

/-! ### Actions that come back unchanged -/

/-- An action that decoding gives back as it was: not one of the reserved ports by its number,
    no sentinel, and learn specs that are legal and not one-bit matches. -/
def Action.Exact : Action → Prop
  | .output port =>
      port ≠ .controller ∧ ∀ p, port = .port p → p ∉ reservedPorts.map Prod.fst
  | .setVlanVid vid => vid ≤ 0x0fff
  | .nxResubmit port table => port ≠ some 0xfff8 ∧ table ≠ some 255
  | .nxCt _ _ table => table ≠ some 255
  | .nxLearn learn => (∀ s ∈ learn.specs, s.Legal ∧ s.isOneBitMatch = false) ∧
      (encodeNxLearn learn).length ≤ 65535
  | .drop | .gotoTable _ | .writeMetadata .. | .meter _ | .nxCtNat .. | .nxMove ..
  | .nxRegLoad .. => False
  | _ => True

theorem map_eq_self {α : Type} {f : α → α} {l : List α} (h : ∀ a ∈ l, f a = a) : l.map f = l :=
  (List.map_congr_left h).trans (List.map_id l)

theorem resubmitPort_getD {port : Option U16} (h : port ≠ some 0xfff8) :
    resubmitPort (port.getD 0xfff8) = port := by
  cases port with
  | none => rfl
  | some p => exact if_neg fun hp => h (congrArg some hp)

theorem optionalTable_getD {table : Option U8} (h : table ≠ some 255) :
    optionalTable (table.getD 255) = table := by
  cases table with
  | none => rfl
  | some t => exact if_neg fun ht => h (congrArg some ht)

theorem OutputPort.fromWire_toWirePort {port : OutputPort}
    (h : ∀ p, port = .port p → p ∉ reservedPorts.map Prod.fst) :
    OutputPort.fromWire port.toWirePort = port := by
  cases port with
  | port p => exact OutputPort.fromWire_of_not_reserved (h p rfl)
  | _ => rfl

theorem Action.Exact.wireForm {a : Action} (h : a.Exact) : a.wireForm = a := by
  cases a with
  | output port =>
    obtain ⟨hcontroller, hport⟩ := h
    have hsame := OutputPort.fromWire_toWirePort hport
    have hne : port.toWirePort ≠ portController := by
      intro heq
      rw [heq] at hsame
      exact hcontroller hsame.symm
    rw [Action.wireForm, if_neg hne, hsame]
  | nxResubmit port table =>
    rw [Action.wireForm, resubmitPort_getD h.1, optionalTable_getD h.2]
  | nxCt flags zone table => rw [Action.wireForm, optionalTable_getD h]
  | nxLearn learn =>
    have hfitted : learn.specs.map LearnSpec.fitted = learn.specs :=
      map_eq_self fun s hs => LearnSpec.fitted_of_valueFits (h.1 s hs).1.value
    rw [Action.wireForm, hfitted]
  | nxCtNat => exact h.elim
  | _ => rfl

theorem Action.Exact.encodable {a : Action} (h : a.Exact) : a.Encodable := by
  cases a with
  | setVlanVid vid => exact h
  | nxLearn learn => exact ⟨fun s hs => ⟨(h.1 s hs).1.pos, (h.1 s hs).1.le⟩, h.2⟩
  | nxMove | nxRegLoad => exact h.elim
  | _ => trivial

theorem Action.Exact.isReadBack {a : Action} (h : a.Exact) : a.isReadBack = true := by
  cases a with
  | drop | gotoTable | writeMetadata | meter | nxMove | nxRegLoad => exact h.elim
  | _ => rfl

/-- An exact action is decoded to itself: none of its fields is a sentinel, and nothing in it is
    cut. -/
theorem Action.Exact.decoded {a : Action} (h : a.Exact) : a.decoded = a := by
  have hbits : ¬ a.HasOneBitMatch := by
    cases a with
    | nxLearn learn =>
      rintro ⟨s, hs, hone⟩
      rw [(h.1 s hs).2] at hone
      cases hone
    | _ => exact id
  rw [Action.decoded_eq_received hbits]
  cases a with
  | nxMove | nxRegLoad | nxCtNat => exact h.elim
  | _ => exact h.wireForm

/-- A list of exact actions is decoded to itself, so an instruction with such a list inside is too.
    -/
theorem ActionList.decode_encode_exact {l : ActionList} (h : ∀ a ∈ l.actions, a.Exact) :
    ActionList.decode l.encode = .ok l := by
  have hfilter : l.actions.filter Action.isReadBack = l.actions :=
    List.filter_eq_self.mpr fun a ha => (h a ha).isReadBack
  have hmap : l.actions.map Action.decoded = l.actions :=
    map_eq_self fun a ha => (h a ha).decoded
  rw [ActionList.decode_encode fun a ha => (h a ha).encodable, ActionList.decoded, hfilter, hmap]

/-! ### One instruction -/

/-- The type of an instruction. -/
def Instruction.type : Instruction → InstructionType
  | .gotoTable _ => .gotoTable
  | .writeMetadata .. => .writeMetadata
  | .applyActions _ => .applyActions
  | .writeActions _ => .writeActions
  | .clearActions => .clearActions
  | .meter _ => .meter

/-- What an instruction writes behind its type and length. -/
def Instruction.body : Instruction → Bytes
  | .gotoTable tableId => be tableId ++ zeros 3
  | .writeMetadata metadata mask => zeros 4 ++ (be metadata ++ be mask)
  | .applyActions actions | .writeActions actions => zeros 4 ++ actions.encode
  | .clearActions => zeros 4
  | .meter meterId => be meterId

theorem encodeWithActions_eq (t : InstructionType) (actions : ActionList) :
    encodeWithActions t actions = frame t.toU16 (zeros 4 ++ actions.encode) := by
  simp only [encodeWithActions, frame, List.append_assoc, List.length_append, zeros_length,
    ← Nat.add_assoc]

theorem Instruction.encode_eq (i : Instruction) : i.encode = frame i.type.toU16 i.body := by
  cases i with
  | applyActions actions => exact encodeWithActions_eq _ actions
  | writeActions actions => exact encodeWithActions_eq _ actions
  | gotoTable tableId => rfl
  | writeMetadata metadata mask =>
    simp only [Instruction.encode, encodeWriteMetadata, frame, Instruction.type, Instruction.body,
      List.append_assoc, List.length_append, zeros_length, be_length]
    rfl
  | clearActions => rfl
  | meter meterId => rfl

theorem Instruction.encode_isFrame {i : Instruction} (h : i.encode.length ≤ 65535) :
    IsFrame i.encode := by
  rw [Instruction.encode_eq, frame_length] at h
  rw [Instruction.encode_eq]
  exact frame_isFrame h

def Instruction.actions : Instruction → List Action
  | .applyActions l | .writeActions l => l.actions
  | _ => []

theorem Instruction.decodeBody_frame {i : Instruction} (h : ∀ a ∈ i.actions, a.Exact)
    (rest : Bytes) : Instruction.decodeBody (frame i.type.toU16 i.body ++ rest)
      (4 + i.body.length) i.type = .ok i := by
  cases i with
  | gotoTable tableId =>
    rw [Instruction.type, Instruction.body, Instruction.decodeBody, ifLong,
      if_neg (by simp), beAt_frame_head _ rest _ rfl]
    rfl
  | writeMetadata metadata mask =>
    have hmetadata : beAt (E := Error) 64 (frame InstructionType.writeMetadata.toU16
        (zeros 4 ++ (be metadata ++ be mask)) ++ rest) 8 = .ok metadata :=
      beAt_frame (zeros 4) _ rest metadata rfl
    have hmask : beAt (E := Error) 64 (frame InstructionType.writeMetadata.toU16
        ((zeros 4 ++ be metadata) ++ (be mask ++ [])) ++ rest) 16 = .ok mask :=
      beAt_frame (zeros 4 ++ be metadata) [] rest mask rfl
    rw [List.append_nil, List.append_assoc] at hmask
    rw [Instruction.type, Instruction.body, Instruction.decodeBody, ifLong, if_neg (by simp),
      hmetadata, ok_bind, hmask]
    rfl
  | applyActions l | writeActions l =>
    have hslice : ∀ t : InstructionType, slice (E := Error)
        (frame t.toU16 (zeros 4 ++ l.encode) ++ rest) 8 (4 + (zeros 4 ++ l.encode).length) =
        .ok l.encode := fun t => slice_frame (zeros 4) rest rfl rfl
    rw [Instruction.type, Instruction.body, Instruction.decodeBody, hslice, ok_bind,
      ActionList.decode_encode_exact h]
    rfl
  | clearActions => rfl
  | meter meterId =>
    have hmeter := @beAt_frame_head InstructionType.meter.toU16 Error 32 [] rest meterId rfl
    rw [List.append_nil] at hmeter
    rw [Instruction.type, Instruction.body, Instruction.decodeBody, ifLong, if_neg (by simp),
      hmeter]
    rfl

/-- An instruction whose actions come back unchanged and that fits its length word. -/
structure Instruction.Exact (i : Instruction) : Prop where
  actions : ∀ a ∈ i.actions, a.Exact
  fits : i.encode.length ≤ 65535

/-- **One instruction in front of any bytes** is decoded to itself, and exactly its own bytes are
    taken. -/
theorem Instruction.decode_encode {i : Instruction} (h : i.Exact) (rest : Bytes) :
    Instruction.decode (i.encode ++ rest) = .ok (i, i.encode.length) := by
  have hfits := h.fits
  rw [Instruction.encode_eq, frame_length] at hfits
  rw [Instruction.encode_eq,
    Instruction.decode_eq (by rw [List.length_append, frame_length]; omega)]
  exact decodeFramed_frame InstructionType.typeWords hfits
    (Instruction.decodeBody_frame h.actions rest)

/-! ### The list -/

theorem instructionListPass_encode {i : Instruction} (h : i.Exact) (acc : List Instruction)
    (rest : Bytes) :
    instructionListPass (acc, i.encode ++ rest) = .ok (.again (acc ++ [i], rest)) := by
  have hheader := hasHeader_of_isFrame (Instruction.encode_isFrame h.fits) rest
  simp only [instructionListPass, listHeader_some hheader, ok_bind, Instruction.decode_encode h,
    List.drop_left, pure_eq]

theorem instructionListPass_nil (acc : List Instruction) :
    instructionListPass (acc, []) = .ok (.leave acc) := rfl

/-- By induction on the list: the loop collects the instructions that are left behind those that it
    has. -/
theorem instructionList_loop {instructions : List Instruction}
    (h : ∀ i ∈ instructions, i.Exact) (acc : List Instruction) :
    loop instructionListPass ((instructions.flatMap Instruction.encode).length + 1)
      (acc, instructions.flatMap Instruction.encode) = .ok (acc ++ instructions) := by
  have hpos : ∀ i ∈ instructions, 0 < i.encode.length := by
    intro i hi
    have h4 := (Instruction.encode_isFrame (h i hi).fits).header
    omega
  have hpass : ∀ i ∈ instructions, ∀ rest acc,
      instructionListPass (acc, i.encode ++ rest) = .ok (.again (acc ++ [i], rest)) :=
    fun i hi rest acc => instructionListPass_encode (h i hi) acc rest
  have hloop := loop_flatMap hpos hpass instructionListPass_nil (Nat.lt_succ_self _) acc
  rwa [List.map_id'] at hloop

/-- **A list of instructions is decoded to itself.**  It suffices that each instruction is exact;
    the actions in it may be nested, and `Exact` says of each of them that nothing of it is lost on
    the wire. -/
theorem instructionList_roundTrip {l : InstructionList} (h : ∀ i ∈ l.instructions, i.Exact) :
    InstructionList.decode l.encode = .ok l := by
  rw [InstructionList.decode, InstructionList.encode, instructionList_loop h, ok_bind]
  rfl

/-- A learning table: learn MAC addresses, flood, and go on. -/
def learningInstructions : InstructionList where
  instructions :=
    [.applyActions ⟨[.nxLearn macLearn, .setVlanVid 10, .nxResubmit none (some 1),
      .output .flood]⟩, .meter 3, .writeMetadata 1 0xff, .clearActions,
      .writeActions ⟨[.output (.port 2), .nxCt 1 0 (some 2)]⟩, .gotoTable 1]

theorem instructionList_roundTrip_learning :
    InstructionList.decode learningInstructions.encode = .ok learningInstructions := by
  have hlearn : (Action.nxLearn macLearn).Exact :=
    ⟨fun s hs => ⟨macLearn_legal s hs, by revert s; decide⟩, by decide⟩
  apply instructionList_roundTrip
  intro i hi
  simp only [learningInstructions, List.mem_cons, List.not_mem_nil, or_false] at hi
  rcases hi with rfl | rfl | rfl | rfl | rfl | rfl
  · refine ⟨fun a ha => ?_, by decide +kernel⟩
    simp only [Instruction.actions, List.mem_cons, List.not_mem_nil, or_false] at ha
    rcases ha with rfl | rfl | rfl | rfl
    · exact hlearn
    · exact show (10 : U16) ≤ 0x0fff by decide
    · exact ⟨nofun, by decide⟩
    · exact ⟨nofun, nofun⟩
  · exact ⟨fun a ha => absurd ha List.not_mem_nil, by decide +kernel⟩
  · exact ⟨fun a ha => absurd ha List.not_mem_nil, by decide +kernel⟩
  · exact ⟨fun a ha => absurd ha List.not_mem_nil, by decide +kernel⟩
  · refine ⟨fun a ha => ?_, by decide +kernel⟩
    simp only [Instruction.actions, List.mem_cons, List.not_mem_nil, or_false] at ha
    rcases ha with rfl | rfl
    · exact ⟨nofun, fun p hp => by cases hp; decide⟩
    · exact show some (2 : U8) ≠ some 255 by decide
  · exact ⟨fun a ha => absurd ha List.not_mem_nil, by decide +kernel⟩

end Rovs.OpenFlow

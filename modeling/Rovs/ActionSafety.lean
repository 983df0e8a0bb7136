import Rovs.Instruction
import Rovs.MatchSafety
import Rovs.NiciraSafety

/-!
# Action and instruction decoding on arbitrary bytes

Actions and instructions come as rows of elements with a type and a length.  Every
decoder checks the length it needs before it reads, with three exceptions: a
set-field action slices from byte 4 to its length, and an instruction with actions
from byte 8 to its length, whatever the length is.  A length below that makes the
slice run backwards.

The lists are walked by declared lengths.  The list decoders panic exactly when the
walk comes to such a short element; on all other inputs they return, and this file
says which inputs they accept.

`decodesSafely_iff` is the main result; its two conditions are about the bytes alone.
-/

namespace Rovs.OpenFlow

open Outcome

/-! ### One action -/

/-- An OXM header and as many bytes as it announces. -/
def SetFieldAccepted (data : Bytes) : Prop :=
  4 ≤ data.length ∧ 4 + headerLength (wordAt 32 data 0) ≤ data.length

theorem setFieldValue_ok {w length : Nat} {value : Bytes} (action : BitVec w → Action)
    (h : length ≤ value.length) : ∃ a, setFieldValue w length value action = .ok a := by
  unfold setFieldValue
  split
  · rw [beAt_eq_ok (by omega), ok_bind]
    exact ⟨_, rfl⟩
  · exact ⟨_, rfl⟩

theorem decodeBasicField_ok (field : U8) {length : Nat} {value : Bytes}
    (h : length ≤ value.length) : ∃ a, decodeBasicField field length value = .ok a := by
  unfold decodeBasicField
  repeat' with_reducible apply ite_ok
  all_goals first
    | exact setFieldValue_ok _ h
    | exact ⟨_, rfl⟩

/-- A set-field action is accepted exactly if its OXM header and the value that it announces are
    there. -/
theorem decodeSetFieldAction_accepts (data : Bytes) :
    Accepts (decodeSetFieldAction data) (SetFieldAccepted data) := by
  by_cases h4 : 4 ≤ data.length
  · rw [decodeSetFieldAction, if_neg (Nat.not_lt.mpr h4), beAt_eq_ok (by omega), ok_bind]
    dsimp only
    by_cases hvalue : 4 + headerLength (wordAt 32 data 0) ≤ data.length
    · have hslice := slice_eq (E := Error)
        (show 4 ≤ 4 + headerLength (wordAt 32 data 0) ∧ _ from ⟨Nat.le_add_right .., hvalue⟩)
      obtain ⟨-, hlen, -, -⟩ := slice_eq_ok hslice
      rw [if_neg (Nat.not_lt.mpr hvalue), hslice, ok_bind]
      refine .inl ⟨⟨h4, hvalue⟩, ?_⟩
      repeat' with_reducible apply ite_ok
      · exact decodeBasicField_ok _ (by omega)
      · exact setFieldValue_ok _ (by omega)
      all_goals exact ⟨_, rfl⟩
    · rw [if_pos (Nat.not_le.mp hvalue)]
      exact .inr ⟨fun h => hvalue h.2, _, rfl⟩
  · rw [decodeSetFieldAction, if_pos (Nat.not_le.mp h4)]
    exact .inr ⟨fun h => h4 h.1, _, rfl⟩

/-- What an action of a type must hold inside its declared length; the types that
    are not here are accepted as they stand. -/
def ActionBodyAccepted (data : Bytes) : ActionType → Prop
  | .output => 16 ≤ frameLength data
  | .pushVlan | .setNwTtl | .group => 8 ≤ frameLength data
  | .setField => 4 ≤ frameLength data ∧ SetFieldAccepted ((data.take (frameLength data)).drop 4)
  | .experimenter => 10 ≤ frameLength data ∧ wordAt 32 data 4 = niciraVendorId ∧
      NiciraAccepted ((data.take (frameLength data)).drop 8)
  | _ => True

/-- An action of a known type, whole, with what its type needs. -/
def ActionAccepted (data : Bytes) : Prop :=
  frameLength data ≤ data.length ∧
    ∃ t : ActionType, wordAt 16 data 0 = t.toU16 ∧ ActionBodyAccepted data t

/-- A set-field action that declares less than its own header. -/
def ShortSetField (data : Bytes) : Prop :=
  wordAt 16 data 0 = ActionType.setField.toU16 ∧ frameLength data < 4

section Action

variable {data : Bytes}

theorem ifLong_accepts {α : Type} {x : Result α} {P : Prop} {min length : Nat} {what : String}
    (hx : min ≤ length → Accepts x P) :
    Accepts (ifLong min length what x) (min ≤ length ∧ P) := by
  by_cases h : min ≤ length
  · rw [ifLong, if_neg (Nat.not_lt.mpr h)]
    exact (hx h).congr ⟨fun hP => ⟨h, hP⟩, And.right⟩
  · rw [ifLong, if_pos (Nat.not_le.mp h)]
    exact .inr ⟨fun hP => h hP.1, _, rfl⟩

theorem beAt_then {β : Type} {P : Prop} {w off : Nat} {f : BitVec w → Result β}
    (h : off + w / 8 ≤ data.length) (hf : Accepts (f (wordAt w data off)) P) :
    Accepts (beAt w data off >>= f) P := by
  rwa [beAt_eq_ok h, ok_bind]

theorem slice_then {β : Type} {P : Prop} {a b : Nat} {f : Bytes → Result β}
    (h : a ≤ b ∧ b ≤ data.length) (hf : Accepts (f ((data.take b).drop a)) P) :
    Accepts (slice data a b >>= f) P := by
  rwa [slice_eq h, ok_bind]

theorem Action.decodeBody_accepts (hfits : frameLength data ≤ data.length) (t : ActionType)
    (hshort : ¬ (t = .setField ∧ frameLength data < 4)) :
    Accepts (Action.decodeBody data (frameLength data) t) (ActionBodyAccepted data t) := by
  cases t
  case output =>
    refine Accepts.congr (ifLong_accepts fun h => beAt_then (by omega) (beAt_then (by omega) ?_))
      (iff_of_eq (and_true _))
    dsimp only
    split <;> exact .ok _
  case pushVlan | setNwTtl | group =>
    exact Accepts.congr (ifLong_accepts fun h => beAt_then (by omega) (.ok _))
      (iff_of_eq (and_true _))
  case setField =>
    have h4 : 4 ≤ frameLength data := Nat.not_lt.mp fun h => hshort ⟨rfl, h⟩
    exact (slice_then ⟨h4, hfits⟩ (decodeSetFieldAction_accepts _)).congr
      ⟨fun h => ⟨h4, h⟩, And.right⟩
  case experimenter =>
    refine ifLong_accepts fun h10 => beAt_then (by omega) ?_
    split
    · next hvendor =>
      exact (slice_then ⟨by omega, hfits⟩ (decodeNiciraAction_accepts _)).congr
        ⟨fun h => ⟨hvendor, h⟩, And.right⟩
    · next hvendor => exact .inr ⟨fun h => hvendor h.1, _, rfl⟩
  all_goals exact .ok _

theorem Action.decode_eq (h4 : 4 ≤ data.length) : Action.decode data =
    decodeFramed (.parse "action truncated") ActionType.ofU16 Action.decodeBody data := by
  rw [Action.decode, if_neg (Nat.not_lt.mpr h4), beAt_eq_ok (by omega), ok_bind,
    beAt_eq_ok (by omega), ok_bind]
  rfl

theorem Action.decode_accepts (h4 : 4 ≤ data.length) (hshort : ¬ ShortSetField data) :
    Accepts (Action.decode data) (ActionAccepted data) := by
  rw [Action.decode_eq h4]
  refine ActionType.typeWords.decodeFramed_accepts ?_
  intro hfits t ht
  apply Action.decodeBody_accepts hfits
  rintro ⟨rfl, hlen⟩
  exact hshort ⟨ht, hlen⟩

/-- A set-field action with a length below four makes the slice of its value run backwards. -/
theorem Action.decode_panics (h4 : 4 ≤ data.length) (hshort : ShortSetField data) :
    Action.decode data = .panic := by
  obtain ⟨htype, hlen⟩ := hshort
  have hslice : slice (E := Error) data 4 (frameLength data) = .panic :=
    if_neg fun h => absurd h.1 (Nat.not_le.mpr hlen)
  rw [Action.decode_eq h4, ActionType.typeWords.decodeFramed_of_type (by omega) htype,
    Action.decodeBody, hslice]
  rfl

theorem Action.decode_consumed (h4 : 4 ≤ data.length) {a : Action} {n : Nat}
    (h : Action.decode data = .ok (a, n)) : n = frameLength data := by
  rw [Action.decode_eq h4] at h
  exact decodeFramed_consumed h

end Action

/-! ### A list of actions -/

/-- An element header with a length that is not zero. -/
def HasHeader (data : Bytes) : Prop := 4 ≤ data.length ∧ frameLength data ≠ 0

theorem listHeader_some {data : Bytes} (h : HasHeader data) :
    listHeader data = .ok (some (frameLength data)) := by
  obtain ⟨h4, hne⟩ := h
  rw [listHeader, if_pos (by omega), if_neg (Nat.not_lt.mpr h4), beAt_eq_ok (by omega), ok_bind]
  exact if_neg hne

theorem listHeader_none {data : Bytes} (h : ¬ HasHeader data) : listHeader data = .ok none := by
  rw [listHeader]
  split
  · split
    · rfl
    · next h4 =>
      rw [beAt_eq_ok (by omega), ok_bind]
      exact if_pos (not_not.mp fun hne => h ⟨by omega, hne⟩)
  · rfl

theorem hasHeader_of_isFrame {frame : Bytes} (h : IsFrame frame) (rest : Bytes) :
    HasHeader (frame ++ rest) := by
  have h4 := h.header
  refine ⟨by rw [List.length_append]; omega, ?_⟩
  rw [frameLength_append h4, h.length_eq]
  omega

/-- A loop over a list of elements walks over them by their lengths, if their decoder
    panics at the short elements and consumes the declared length of the others. -/
theorem walkedBy_of_decode {α : Type} (decode : Bytes → Result (α × Nat))
    (push : List α → α → List α) {pass : List α × Bytes → Result (Pass (List α × Bytes) (List α))}
    {read short : Bytes → Prop}
    (hpass : ∀ acc data, pass (acc, data) = (do
      match ← listHeader data with
      | none => pure (.leave acc)
      | some _ => do
          let (a, consumed) ← decode data
          pure (.again (push acc a, data.drop consumed))))
    (hread : ∀ data, read data → HasHeader data ∧ ¬ short data)
    (haccepts : ∀ data, HasHeader data → ¬ short data → Accepts (decode data) (read data))
    (hpanics : ∀ data, HasHeader data → short data → decode data = .panic)
    (hconsumed : ∀ data a n, HasHeader data → decode data = .ok (a, n) → n = frameLength data) :
    WalkedBy pass frameLength read (fun data => ¬ HasHeader data)
      (fun data => HasHeader data ∧ short data) where
  again := by
    intro data hdata acc
    obtain ⟨hheader, hlong⟩ := hread data hdata
    obtain ⟨⟨a, n⟩, ha⟩ := (haccepts data hheader hlong).eq_ok hdata
    obtain rfl := hconsumed data a n hheader ha
    simp only [hpass, listHeader_some hheader, ok_bind, ha]
    exact ⟨_, rfl⟩
  progress := by
    intro data hdata
    obtain ⟨⟨h4, hne⟩, -⟩ := hread data hdata
    exact ⟨Nat.pos_of_ne_zero hne, by omega⟩
  leaves := by
    intro data hend acc
    simp only [hpass, listHeader_none hend, ok_bind]
    exact ⟨_, rfl⟩
  fails := by
    rintro data ⟨hheader, hshort⟩ acc
    simp only [hpass, listHeader_some hheader, ok_bind, hpanics data hheader hshort, panic_bind]
  refuses := by
    intro data hrefused hheader hlong acc
    have hheader := not_not.mp hheader
    obtain ⟨e, he⟩ := (haccepts data hheader fun h => hlong ⟨hheader, h⟩).eq_err hrefused
    simp only [hpass, listHeader_some hheader, ok_bind, he]
    exact ⟨e, rfl⟩

/-- An action that the list decoder reads. -/
def ActionRead (data : Bytes) : Prop := HasHeader data ∧ ActionAccepted data

/-- The list decoder comes to no set-field action with a length below four. -/
def NoShortSetField (data : Bytes) : Prop :=
  ∀ rest, Walk frameLength ActionRead data rest → HasHeader rest → ¬ ShortSetField rest

/-- A row of accepted actions up to the end of the data or to zero padding. -/
def ActionsAccepted (data : Bytes) : Prop :=
  ∀ rest, Walk frameLength ActionRead data rest → ActionRead rest ∨ ¬ HasHeader rest

theorem not_shortSetField {data : Bytes} (h : ActionAccepted data) : ¬ ShortSetField data := by
  rintro ⟨htype, hlen⟩
  obtain ⟨-, t, ht, hbody⟩ := h
  rw [ActionType.typeWords.injective (ht.symm.trans htype)] at hbody
  exact absurd hbody.1 (Nat.not_le.mpr hlen)

/-- The loop over actions is a walk by their lengths, which ends well, at a refused element, or at a
    short one in a panic. -/
theorem actions_walkedBy : WalkedBy actionListPass frameLength ActionRead
    (fun data => ¬ HasHeader data) (fun data => HasHeader data ∧ ShortSetField data) := by
  refine walkedBy_of_decode Action.decode
    (fun actions action => if action = .drop then actions else actions ++ [action])
    (fun _ _ => rfl) ?_ ?_ ?_ ?_
  · rintro data ⟨hheader, haccepted⟩
    exact ⟨hheader, not_shortSetField haccepted⟩
  · intro data hheader hlong
    exact (Action.decode_accepts hheader.1 hlong).congr ⟨fun h => ⟨hheader, h⟩, And.right⟩
  · intro data hheader hshort
    exact Action.decode_panics hheader.1 hshort
  · intro data a n hheader ha
    exact Action.decode_consumed hheader.1 ha

/-- **A list of actions is decoded without a panic exactly if the walk comes to no short set-field
    action.** -/
theorem ActionList.decode_returns_iff (data : Bytes) :
    (ActionList.decode data).Returns ↔ NoShortSetField data := by
  rw [ActionList.decode, returns_bind, actions_walkedBy.loop_returns_iff (Nat.lt_succ_self _)]
  exact ⟨fun h rest hrest hheader hshort => h.1 rest hrest ⟨hheader, hshort⟩,
    fun h => ⟨fun rest hrest hbad => h rest hrest hbad.1 hbad.2, fun _ _ => trivial⟩⟩

theorem ActionList.decode_accepts {data : Bytes} (h : NoShortSetField data) :
    Accepts (ActionList.decode data) (ActionsAccepted data) := by
  have hloop := actions_walkedBy.loop_accepts [] (Nat.lt_succ_self data.length)
    fun rest hrest hbad => h rest hrest hbad.1 hbad.2
  exact (hloop.bind fun _ _ => .ok _).congr (iff_of_eq (and_true _))

theorem ActionList.decode_panics {data : Bytes} (h : ¬ NoShortSetField data) :
    ActionList.decode data = .panic := by
  simp only [NoShortSetField, not_forall, not_not] at h
  obtain ⟨rest, hrest, hheader, hshort⟩ := h
  rw [ActionList.decode,
    actions_walkedBy.loop_panics hrest ⟨hheader, hshort⟩ (Nat.lt_succ_self _), panic_bind]

/-! ### Instructions -/

def instructionActions (data : Bytes) : Bytes := (data.take (frameLength data)).drop 8

/-- An instruction that carries actions. -/
def InstructionType.HasActions : InstructionType → Prop
  | .applyActions | .writeActions => True
  | _ => False

/-- What an instruction of a type must hold inside its declared length. -/
def InstructionBodyAccepted (data : Bytes) : InstructionType → Prop
  | .gotoTable | .meter => 8 ≤ frameLength data
  | .writeMetadata => 24 ≤ frameLength data
  | .applyActions | .writeActions => ActionsAccepted (instructionActions data)
  | .clearActions => True

/-- A known instruction, whole, with what its type needs. -/
def InstructionAccepted (data : Bytes) : Prop :=
  frameLength data ≤ data.length ∧
    ∃ t : InstructionType, wordAt 16 data 0 = t.toU16 ∧ InstructionBodyAccepted data t

/-- An instruction with actions that declares less than the eight bytes before
    them, or whose actions come to a short set-field action. -/
def ShortActions (data : Bytes) : Prop :=
  frameLength data ≤ data.length ∧
    (∃ t : InstructionType, wordAt 16 data 0 = t.toU16 ∧ t.HasActions) ∧
    (frameLength data < 8 ∨ ¬ NoShortSetField (instructionActions data))

section Instruction

variable {data : Bytes}

theorem Instruction.decode_eq (h4 : 4 ≤ data.length) : Instruction.decode data =
    decodeFramed (.parse "instruction truncated") InstructionType.ofU16 Instruction.decodeBody
      data := by
  rw [Instruction.decode, if_neg (Nat.not_lt.mpr h4), beAt_eq_ok (by omega), ok_bind,
    beAt_eq_ok (by omega), ok_bind]
  rfl

/-- The two instructions with actions are decoded alike. -/
theorem decodeActions_accepts (hfits : frameLength data ≤ data.length)
    (h8 : 8 ≤ frameLength data) (hno : NoShortSetField (instructionActions data))
    (f : ActionList → Instruction) : Accepts (do
      let actionsData ← slice data 8 (frameLength data)
      let actions ← ActionList.decode actionsData
      pure (f actions) : Result Instruction) (ActionsAccepted (instructionActions data)) :=
  slice_then ⟨h8, hfits⟩
    (((ActionList.decode_accepts hno).bind fun _ _ => .ok _).congr (iff_of_eq (and_true _)))

theorem decodeActions_panics (hfits : frameLength data ≤ data.length)
    (hshort : frameLength data < 8 ∨ ¬ NoShortSetField (instructionActions data))
    (f : ActionList → Instruction) : (do
      let actionsData ← slice data 8 (frameLength data)
      let actions ← ActionList.decode actionsData
      pure (f actions) : Result Instruction) = .panic := by
  by_cases h8 : 8 ≤ frameLength data
  · have hno := hshort.resolve_left (Nat.not_lt.mpr h8)
    rw [slice_eq ⟨h8, hfits⟩, ok_bind]
    show (ActionList.decode (instructionActions data) >>= _) = _
    rw [ActionList.decode_panics hno, panic_bind]
  · rw [slice, if_neg (fun h => h8 h.1), panic_bind]

theorem Instruction.decodeBody_accepts (hfits : frameLength data ≤ data.length)
    (t : InstructionType) (hlong : t.HasActions →
      8 ≤ frameLength data ∧ NoShortSetField (instructionActions data)) :
    Accepts (Instruction.decodeBody data (frameLength data) t)
      (InstructionBodyAccepted data t) := by
  cases t
  case gotoTable | meter =>
    exact Accepts.congr (ifLong_accepts fun h => beAt_then (by omega) (.ok _))
      (iff_of_eq (and_true _))
  case writeMetadata =>
    exact Accepts.congr
      (ifLong_accepts fun h => beAt_then (by omega) (beAt_then (by omega) (.ok _)))
      (iff_of_eq (and_true _))
  case applyActions | writeActions =>
    obtain ⟨h8, hno⟩ := hlong trivial
    exact decodeActions_accepts hfits h8 hno _
  case clearActions => exact .ok _

theorem Instruction.decode_accepts (h4 : 4 ≤ data.length) (hshort : ¬ ShortActions data) :
    Accepts (Instruction.decode data) (InstructionAccepted data) := by
  rw [Instruction.decode_eq h4]
  refine InstructionType.typeWords.decodeFramed_accepts ?_
  intro hfits t ht
  apply Instruction.decodeBody_accepts hfits
  intro hactions
  by_contra hlong
  rw [not_and_or, Nat.not_le] at hlong
  exact hshort ⟨hfits, ⟨t, ht, hactions⟩, hlong⟩

theorem Instruction.decode_panics (h4 : 4 ≤ data.length) (hshort : ShortActions data) :
    Instruction.decode data = .panic := by
  obtain ⟨hfits, ⟨t, ht, hactions⟩, hshort⟩ := hshort
  rw [Instruction.decode_eq h4, InstructionType.typeWords.decodeFramed_of_type hfits ht]
  cases t with
  | applyActions => rw [Instruction.decodeBody, decodeActions_panics hfits hshort]; rfl
  | writeActions => rw [Instruction.decodeBody, decodeActions_panics hfits hshort]; rfl
  | gotoTable | writeMetadata | clearActions | meter => exact hactions.elim

theorem Instruction.decode_consumed (h4 : 4 ≤ data.length) {i : Instruction} {n : Nat}
    (h : Instruction.decode data = .ok (i, n)) : n = frameLength data := by
  rw [Instruction.decode_eq h4] at h
  exact decodeFramed_consumed h

end Instruction

/-- An instruction that the list decoder reads. -/
def InstructionRead (data : Bytes) : Prop :=
  HasHeader data ∧ ¬ ShortActions data ∧ InstructionAccepted data

/-- The list decoder comes to no instruction with short actions. -/
def NoShortActions (data : Bytes) : Prop :=
  ∀ rest, Walk frameLength InstructionRead data rest → HasHeader rest → ¬ ShortActions rest

/-- The loop over instructions is a walk of the same kind; the actions inside are walked over in
    turn. -/
theorem instructions_walkedBy : WalkedBy instructionListPass frameLength InstructionRead
    (fun data => ¬ HasHeader data) (fun data => HasHeader data ∧ ShortActions data) := by
  refine walkedBy_of_decode Instruction.decode
    (fun instructions instruction => instructions ++ [instruction]) (fun _ _ => rfl) ?_ ?_ ?_ ?_
  · rintro data ⟨hheader, hlong, -⟩
    exact ⟨hheader, hlong⟩
  · intro data hheader hlong
    exact (Instruction.decode_accepts hheader.1 hlong).congr
      ⟨fun h => ⟨hheader, hlong, h⟩, fun h => h.2.2⟩
  · intro data hheader hshort
    exact Instruction.decode_panics hheader.1 hshort
  · intro data i n hheader hi
    exact Instruction.decode_consumed hheader.1 hi

theorem InstructionList.decode_returns_iff (data : Bytes) :
    (InstructionList.decode data).Returns ↔ NoShortActions data := by
  rw [InstructionList.decode, returns_bind,
    instructions_walkedBy.loop_returns_iff (Nat.lt_succ_self _)]
  exact ⟨fun h rest hrest hheader hshort => h.1 rest hrest ⟨hheader, hshort⟩,
    fun h => ⟨fun rest hrest hbad => h rest hrest hbad.1 hbad.2, fun _ _ => trivial⟩⟩

/-! ### Both lists -/

/-- Safe decoding of some bytes as actions and as instructions: both decoders
    return, and every pass of their loops consumes at least one byte. -/
structure DecodesSafely (data : Bytes) : Prop where
  actions : (ActionList.decode data).Returns
  instructions : (InstructionList.decode data).Returns
  actionPass : Decreases actionListPass fun s => s.2.length
  instructionPass : Decreases instructionListPass fun s => s.2.length
  learnSpecPass : Decreases learnSpecsPass fun s => s.2.length

/-- **Actions and instructions are decoded safely exactly when no short element is reached.**  An
    element behind the first one that is refused is never reached, which is why both conditions
    speak of walks and not of all positions of the bytes. -/
theorem decodesSafely_iff (data : Bytes) :
    DecodesSafely data ↔ NoShortSetField data ∧ NoShortActions data := by
  constructor
  · exact fun h => ⟨(ActionList.decode_returns_iff data).mp h.actions,
      (InstructionList.decode_returns_iff data).mp h.instructions⟩
  · exact fun h => ⟨(ActionList.decode_returns_iff data).mpr h.1,
      (InstructionList.decode_returns_iff data).mpr h.2, actions_walkedBy.decreases,
      instructions_walkedBy.decreases, learnSpecs_walkedBy.decreases⟩

/-- A set-field header that declares three bytes. -/
def shortSetField : Bytes := be ActionType.setField.toU16 ++ be (3 : U16)

/-- An apply-actions instruction that declares only its header. -/
def shortApplyActions : Bytes := be InstructionType.applyActions.toU16 ++ be (4 : U16)

theorem shortElements_panic :
    ActionList.decode shortSetField = .panic ∧
      InstructionList.decode shortApplyActions = .panic ∧
      ¬ DecodesSafely shortSetField ∧ ¬ DecodesSafely shortApplyActions := by
  have hactions : ActionList.decode shortSetField = .panic := by decide
  have hinstructions : InstructionList.decode shortApplyActions = .panic := by decide
  refine ⟨hactions, hinstructions, fun h => ?_, fun h => ?_⟩
  · have hreturns := h.actions
    rw [hactions] at hreturns
    exact hreturns
  · have hreturns := h.instructions
    rw [hinstructions] at hreturns
    exact hreturns

end Rovs.OpenFlow

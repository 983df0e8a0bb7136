import Rovs.Datapath
import Rovs.EthernetFrame

/-!
# Actions that rewrite frames

A flow on the wire, read as a rule on Ethernet frames: its conditions, and the actions that push,
pop and rewrite.  Actions are applied in order, and an output sends the frame as it is at that
point.  `readRule_encode` says what rule the bytes of `Flow.encode` are, and `runActions` which
frames leave the switch.
-/

namespace Rovs.OpenFlow

/-! ### Actions -/

inductive FrameAction where
  | output (port : U32)
  | pushVlan (tpid : Tpid)
  | popVlan
  | setField (field : FrameField) (value : BitVec field.width)
  | move (src dst : FrameField) (nBits srcOfs dstOfs : Nat)
  | load (dst : FrameField) (dstOfs nBits : Nat) (value : U64)
deriving DecidableEq

def readSetField (frame : Bytes) : Option FrameAction := do
  let field ← FrameField.ofWord (wordAt 32 frame 4)
  pure (.setField field (wordAt field.width frame 8))

def readMove (frame : Bytes) : Option FrameAction := do
  let src ← FrameField.ofWord (wordAt 32 frame 16)
  let dst ← FrameField.ofWord (wordAt 32 frame 20)
  pure (.move src dst (wordAt 16 frame 10).toNat (wordAt 16 frame 12).toNat
    (wordAt 16 frame 14).toNat)

/-- The offset and the width of a load share a word, the width less one. -/
def readLoad (frame : Bytes) : Option FrameAction := do
  let dst ← FrameField.ofWord (wordAt 32 frame 12)
  pure (.load dst (wordAt 16 frame 10 >>> 6).toNat ((wordAt 16 frame 10 &&& 0x3f).toNat + 1)
    (wordAt 64 frame 16))

def readFrameAction (frame : Bytes) : Option FrameAction :=
  if wordAt 16 frame 0 = ActionType.output.toU16 then some (.output (wordAt 32 frame 4))
  else if wordAt 16 frame 0 = ActionType.pushVlan.toU16 then
    (Tpid.ofU16 (wordAt 16 frame 4)).map .pushVlan
  else if wordAt 16 frame 0 = ActionType.popVlan.toU16 then some .popVlan
  else if wordAt 16 frame 0 = ActionType.setField.toU16 then readSetField frame
  else if niciraSubtype frame = some NxActionSubtype.move.toU16 then readMove frame
  else if niciraSubtype frame = some NxActionSubtype.regLoad.toU16 then readLoad frame
  else none

/-- A word with `n` bits, from an offset on, those of another. -/
def insertBits {w : Nat} (x : BitVec w) (ofs n : Nat) (bits : BitVec w) : BitVec w :=
  (x &&& ~~~(BitVec.ofNat w (2 ^ n - 1) <<< ofs)) |||
    ((bits &&& BitVec.ofNat w (2 ^ n - 1)) <<< ofs)

/-- A frame with some bits of a field rewritten. -/
def EthernetFrame.writeBits (frame : EthernetFrame) (dst : FrameField) (ofs n : Nat)
    (bits : BitVec dst.width) : EthernetFrame :=
  match frame.read dst with
  | none => frame
  | some x => frame.write dst (insertBits x ofs n bits)

/-- The frame after an action. -/
def FrameAction.rewrite (frame : EthernetFrame) : FrameAction → EthernetFrame
  | .output _ => frame
  -- a new tag has the id and the priority zero
  | .pushVlan tpid => { frame with tags := ⟨tpid, 0, 0, 0⟩ :: frame.tags }
  | .popVlan => { frame with tags := frame.tags.tail }
  | .setField field value => frame.write field value
  | .move src dst nBits srcOfs dstOfs =>
    match frame.read src with
    | none => frame
    | some x => frame.writeBits dst dstOfs nBits ((x >>> srcOfs).setWidth _)
  | .load dst dstOfs nBits value => frame.writeBits dst dstOfs nBits (value.setWidth _)

/-! ### Output -/

/-- Where a frame goes: out of a port, back out of the one it came in on, or to what else a
    reserved number stands for. -/
inductive Exit where
  | port (port : U32)
  | back
  | reserved (number : U32)
deriving DecidableEq, Repr

/-- The numbers of ports: from 1 up to the reserved numbers, of which one is a port. -/
def IsPort (port : U32) : Prop := (0 < port ∧ port < 0xffffff00) ∨ port = portLocal

instance (port : U32) : Decidable (IsPort port) := by
  unfold IsPort
  infer_instance

/-- Where an output to a port sends a frame that came in on one: it does not go back, except by
    the number that says so. -/
def exits (inPort port : U32) : List Exit :=
  if port = portInPort then [.back]
  else if port = inPort then []
  else if IsPort port then [.port port]
  else [.reserved port]

/-- The frames that the actions send, in order. -/
def runActions (inPort : U32) : List FrameAction → EthernetFrame → List (Exit × EthernetFrame)
  | [], _ => []
  | .output port :: rest, frame =>
    (exits inPort port).map (·, frame) ++ runActions inPort rest frame
  | a :: rest, frame => runActions inPort rest (a.rewrite frame)

/-! ### Rules -/

structure FrameRule where
  table : U8
  priority : U16
  conditions : List Tlv
  actions : List FrameAction
deriving DecidableEq

def readApply (frame : Bytes) : Option (List FrameAction) :=
  if wordAt 16 frame 0 = InstructionType.applyActions.toU16 then do
    let frames ← readFrames (frame.drop 8)
    frames.mapM readFrameAction
  else none

/-- The rule that the body of a flow modification adds. -/
def readRule (body : Bytes) : Option FrameRule :=
  if wordAt 8 body 17 = FlowCommand.add.toU8 then do
    let matchLen := (wordAt 16 body 42).toNat
    let conditions ← readTlvs ((body.drop 44).take (matchLen - 4))
    let frames ← readFrames (body.drop (40 + pad8 matchLen))
    let actions ← frames.mapM readApply
    pure ⟨wordAt 8 body 16, wordAt 16 body 22, conditions, actions.flatten⟩
  else none

def FrameRule.Accepts (r : FrameRule) (pkt : Packet) : Prop := ∀ t ∈ r.conditions, t.Holds pkt

instance (r : FrameRule) (pkt : Packet) : Decidable (r.Accepts pkt) := by
  unfold FrameRule.Accepts
  infer_instance

def frameLookup : Lookup FrameRule U8 Packet where
  table := FrameRule.table
  priority r := r.priority.toNat
  Accepts := FrameRule.Accepts

/-- Rules with the same table, priority and match are one rule. -/
def FrameRule.key (r : FrameRule) : U8 × U16 × Multiset Tlv := (r.table, r.priority, r.conditions)

/-- What a rule sends of a frame that comes in on a port. -/
def FrameRule.run (r : FrameRule) (dissector : Dissector) (inPort : U32) (frame : EthernetFrame) :
    List (Exit × EthernetFrame) :=
  if r.Accepts (dissector.packet inPort frame) then runActions inPort r.actions frame else []

/-! ### Whole fields -/

theorem insertBits_all {w : Nat} (x bits : BitVec w) : insertBits x 0 w bits = bits := by
  have hmask : BitVec.ofNat w (2 ^ w - 1) = BitVec.allOnes w := by
    apply BitVec.eq_of_toNat_eq
    simp
  rw [insertBits, hmask, BitVec.shiftLeft_zero, BitVec.shiftLeft_zero, BitVec.not_allOnes,
    BitVec.and_zero, BitVec.zero_or, BitVec.and_allOnes]

section WholeFields

variable {frame : EthernetFrame} {src dst : FrameField} {y v : BitVec dst.width}

theorem rewrite_move {x : BitVec src.width} (hsrc : frame.read src = some x)
    (hdst : frame.read dst = some y) (hv : x.setWidth _ = v) :
    (FrameAction.move src dst dst.width 0 0).rewrite frame = frame.write dst v := by
  simp only [FrameAction.rewrite, hsrc, EthernetFrame.writeBits, hdst, insertBits_all,
    BitVec.ushiftRight_zero, hv]

theorem rewrite_load {value : U64} (hdst : frame.read dst = some y) (hv : value.setWidth _ = v) :
    (FrameAction.load dst 0 dst.width value).rewrite frame = frame.write dst v := by
  simp only [FrameAction.rewrite, EthernetFrame.writeBits, hdst, insertBits_all, hv]

end WholeFields

/-- An action that is no output goes before the others. -/
theorem runActions_rewrite {inPort : U32} {a : FrameAction} {rest : List FrameAction}
    {frame frame' : EthernetFrame} (ha : ∀ port, a ≠ .output port)
    (h : a.rewrite frame = frame') :
    runActions inPort (a :: rest) frame = runActions inPort rest frame' := by
  subst h
  cases a with
  | output port => exact absurd rfl (ha port)
  | _ => rfl

/-! ### Reading the actions -/

theorem readFrameAction_output (port : U32) (maxLen : U16) :
    readFrameAction (encodeOutput port maxLen) = some (.output port) := by
  have htype : wordAt 16 (encodeOutput port maxLen) 0 = ActionType.output.toU16 :=
    wordAt_of_drop rfl rfl
  have hport : wordAt 32 (encodeOutput port maxLen) 4 = port := wordAt_of_drop rfl rfl
  rw [readFrameAction, if_pos htype, hport]

theorem readFrameAction_pushVlan {ethertype : U16} {tpid : Tpid}
    (h : Tpid.ofU16 ethertype = some tpid) :
    readFrameAction (encodePushVlan ethertype) = some (.pushVlan tpid) := by
  have htype : wordAt 16 (encodePushVlan ethertype) 0 = ActionType.pushVlan.toU16 :=
    wordAt_of_drop rfl rfl
  have hword : wordAt 16 (encodePushVlan ethertype) 4 = ethertype := wordAt_of_drop rfl rfl
  rw [readFrameAction, htype, if_neg (by decide), if_pos rfl, hword, h]
  rfl

theorem readFrameAction_popVlan : readFrameAction encodePopVlan = some .popVlan := by decide

/-- A set-field action is read as its field, whatever the padding. -/
theorem readFrameAction_setField {w : Nat} {length : U32} {padding : Nat} {field : OxmField}
    {value : BitVec w} {f : FrameField}
    (hfield : FrameField.ofWord (setFieldHeader length field) = some f)
    (hw : 8 * (w / 8) = w) (hwidth : f.width = w) :
    readFrameAction (encodeSetField length padding field value) =
      some (.setField f (hwidth ▸ value)) := by
  subst hwidth
  have htype : wordAt 16 (encodeSetField length padding field value) 0 =
      ActionType.setField.toU16 := wordAt_of_drop rfl rfl
  have hheader : wordAt 32 (encodeSetField length padding field value) 4 =
      setFieldHeader length field := wordAt_of_drop rfl rfl
  have hvalue : wordAt f.width (encodeSetField length padding field value) 8 = value :=
    wordAt_of_drop hw rfl
  rw [readFrameAction, htype, if_neg (by decide), if_neg (by decide), if_neg (by decide),
    if_pos rfl, readSetField, hheader, hfield]
  simp [hvalue]

/-- An action with a Nicira header is none of the standard actions. -/
theorem readFrameAction_nicira {frame rest : Bytes} {subtype : NxActionSubtype} {len : U16}
    (h : frame = encodeNxHeader subtype len ++ rest) : readFrameAction frame =
      if subtype.toU16 = NxActionSubtype.move.toU16 then readMove frame
      else if subtype.toU16 = NxActionSubtype.regLoad.toU16 then readLoad frame
      else none := by
  rcases nxHeader_words h with ⟨htype, hsubtype⟩
  rw [readFrameAction, htype, if_neg (by decide), if_neg (by decide), if_neg (by decide),
    if_neg (by decide), hsubtype]
  simp only [Option.some.injEq]

theorem readFrameAction_move {srcField dstField : U32} {src dst : FrameField}
    (hsrc : FrameField.ofWord srcField = some src) (hdst : FrameField.ofWord dstField = some dst)
    (nBits srcOfs dstOfs : U16) :
    readFrameAction (encodeNxMove srcField dstField nBits srcOfs dstOfs) =
      some (.move src dst nBits.toNat srcOfs.toNat dstOfs.toNat) := by
  let frame := encodeNxMove srcField dstField nBits srcOfs dstOfs
  have hencode : frame = encodeNxHeader .move 24 ++ (be nBits ++ (be srcOfs ++ (be dstOfs ++
      (be srcField ++ be dstField)))) := by
    simp only [frame, encodeNxMove, List.append_assoc]
  have hnBits : wordAt 16 frame 10 = nBits := wordAt_of_drop rfl (by rw [hencode]; rfl)
  have hsrcOfs : wordAt 16 frame 12 = srcOfs := wordAt_of_drop rfl (by rw [hencode]; rfl)
  have hdstOfs : wordAt 16 frame 14 = dstOfs := wordAt_of_drop rfl (by rw [hencode]; rfl)
  have hsrcWord : wordAt 32 frame 16 = srcField := wordAt_of_drop rfl (by rw [hencode]; rfl)
  have hlast : frame.drop 20 = be dstField ++ [] := by
    rw [hencode, List.append_nil]
    rfl
  have hdstWord : wordAt 32 frame 20 = dstField := wordAt_of_drop rfl hlast
  rw [readFrameAction_nicira hencode, if_pos rfl, readMove, hnBits, hsrcOfs, hdstOfs, hsrcWord,
    hdstWord, hsrc, hdst]
  rfl

theorem readFrameAction_load {dstField : U32} {dst : FrameField}
    (hdst : FrameField.ofWord dstField = some dst) {dstOfs nBits : U16}
    (hofs : (dstOfs <<< 6 ||| (nBits - 1)) >>> 6 = dstOfs)
    (hbits : (dstOfs <<< 6 ||| (nBits - 1)) &&& 0x3f = nBits - 1) (value : U64) :
    readFrameAction (encodeNxRegLoadNxm dstField dstOfs nBits value) =
      some (.load dst dstOfs.toNat ((nBits - 1).toNat + 1) value) := by
  let frame := encodeNxRegLoadNxm dstField dstOfs nBits value
  have hencode : frame = encodeNxHeader .regLoad 24 ++ (be (dstOfs <<< 6 ||| (nBits - 1)) ++
      (be dstField ++ be value)) := by
    simp only [frame, encodeNxRegLoadNxm, List.append_assoc]
  have hword : wordAt 16 frame 10 = dstOfs <<< 6 ||| (nBits - 1) :=
    wordAt_of_drop rfl (by rw [hencode]; rfl)
  have hdstWord : wordAt 32 frame 12 = dstField := wordAt_of_drop rfl (by rw [hencode]; rfl)
  have hlast : frame.drop 16 = be value ++ [] := by
    rw [hencode, List.append_nil]
    rfl
  have hvalue : wordAt 64 frame 16 = value := wordAt_of_drop rfl hlast
  rw [readFrameAction_nicira hencode, if_neg (by decide), if_pos rfl, readLoad, hword, hdstWord,
    hvalue, hdst, hofs, hbits]
  rfl

/-- What is read of a list of actions that are all written. -/
def ReadOnFrames (actions : List Action) (deeds : List FrameAction) : Prop :=
  (actionFrames actions).mapM readFrameAction = some deeds

namespace ReadOnFrames

variable {actions : List Action} {deeds : List FrameAction} {a : Action} {d : FrameAction}

theorem nil : ReadOnFrames [] [] := rfl

theorem cons (hread : readFrameAction a.encode = some d) (h : ReadOnFrames actions deeds)
    (hne : a.encode ≠ []) : ReadOnFrames (a :: actions) (d :: deeds) :=
  mapM_actionFrames_cons hread h hne

end ReadOnFrames

/-- **A flow that is added with actions is read as a rule with its table, its priority, the
    conditions of its match and its actions.** -/
theorem readRule_encode {flow : Flow} {deeds : List FrameAction} (hadd : flow.command = .add)
    (hinstructions : flow.instructions.instructions = []) (hactions : flow.actions.actions ≠ [])
    (hsize : 8 + flow.actions.encode.length ≤ 65535)
    (hread : ReadOnFrames flow.actions.actions deeds) :
    readRule flow.encode =
      some ⟨flow.tableId, flow.priority, flow.matchFields.tlvs, deeds⟩ := by
  rcases flow.wordAt_fixed (flow.matchFields.encode ++ flow.instructionBytes) with
    ⟨htable, hcommand, hpriority⟩
  rw [← Flow.encode_split] at htable hcommand hpriority
  rw [hadd] at hcommand
  have happly : readApply (Instruction.applyActions flow.actions).encode = some deeds := by
    have htype : wordAt 16 (Instruction.applyActions flow.actions).encode 0 =
        InstructionType.applyActions.toU16 := wordAt_of_drop rfl rfl
    have hdrop : (Instruction.applyActions flow.actions).encode.drop 8 = flow.actions.encode := rfl
    rw [ReadOnFrames] at hread
    rw [readApply, if_pos htype, hdrop, ActionList.readFrames_encode (by omega)]
    exact hread
  rw [readRule, if_pos hcommand]
  simp [flow.readTlvs_match, Flow.readFrames_instructions hinstructions hactions hsize, happly,
    htable, hpriority]

theorem readRule_template {table : U8} {priority : U16} {m : Match} {actions : List Action}
    {deeds : List FrameAction} (hne : actions ≠ [])
    (hfew : (actions.flatMap Action.encode).length ≤ 1000) (hread : ReadOnFrames actions deeds) :
    readRule (Flow.template table priority m actions).encode =
      some ⟨table, priority, m.tlvs, deeds⟩ := by
  apply readRule_encode rfl rfl hne _ hread
  simp only [Flow.template, ActionList.encode, List.length_append, zeros_length]
  omega

end Rovs.OpenFlow

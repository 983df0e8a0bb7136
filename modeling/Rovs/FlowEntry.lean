import Rovs.FlowExpressiveness
import Rovs.MatchMeaning

/-!
# The flow entry that a switch reads

A flow modification that adds a flow, read by the layout of its bytes: the table, the priority,
the conditions of the match and the instructions.  Of the actions those are known that the flow
templates use: outputs, connection tracking with and without NAT, and learning; an instruction
applies actions or goes to another table.  `readFlow_encode` says what is read when the bytes are
those of `Flow.encode`.
-/

namespace Rovs.OpenFlow

/-! ### Actions as the switch has them -/

/-- A connection-tracking action; it recirculates to its table, when it has one. -/
structure Ct where
  flags : U16
  zone : U16
  table : Option U8
  nat : Option NatConfig
deriving DecidableEq, Repr

inductive SwitchAction where
  | output (port : U32)
  | ct (ct : Ct)
  | learn (learn : NxLearn)
deriving DecidableEq, Repr

inductive SwitchInstruction where
  | apply (actions : List SwitchAction)
  | goto (table : U8)
deriving DecidableEq, Repr

structure FlowEntry where
  table : U8
  priority : U16
  conditions : List Tlv
  instructions : List SwitchInstruction
deriving DecidableEq

/-! ### Reading -/

/-- An optional field of a NAT action, by its bit among those present; and what is behind it. -/
def readRange (present : U16) (bit w : Nat) (data : Bytes) : Option (BitVec w) × Bytes :=
  if present.getLsbD bit then (some (wordAt w data 0), data.drop (w / 8)) else (none, data)

/-- The optional fields in the order of their bits. -/
def readRanges (flags present : U16) (data : Bytes) : NatConfig :=
  let ipv4Min := readRange present 0 32 data
  let ipv4Max := readRange present 1 32 ipv4Min.2
  let ipv6Min := readRange present 2 128 ipv4Max.2
  let ipv6Max := readRange present 3 128 ipv6Min.2
  let portMin := readRange present 4 16 ipv6Max.2
  let portMax := readRange present 5 16 portMin.2
  ⟨flags, ipv4Min.1, ipv4Max.1, ipv6Min.1, ipv6Max.1, portMin.1, portMax.1⟩

/-- The subtype of a Nicira action. -/
def niciraSubtype (frame : Bytes) : Option U16 :=
  if wordAt 16 frame 0 = ActionType.experimenter.toU16 ∧ wordAt 32 frame 4 = niciraVendorId then
    some (wordAt 16 frame 8)
  else none

/-- The NAT action among those nested in a ct action. -/
def readNat (frame : Bytes) : Option NatConfig :=
  if niciraSubtype frame = some NxActionSubtype.nat.toU16 then
    some (readRanges (wordAt 16 frame 12) (wordAt 16 frame 14) (frame.drop 16))
  else none

def readCt (frame : Bytes) : Ct where
  flags := wordAt 16 frame 10
  zone := wordAt 16 frame 16
  table := optionalTable (wordAt 8 frame 18)
  nat := ((readFrames (frame.drop 24)).getD []).findSome? readNat

def readLearn (frame : Bytes) : NxLearn where
  idleTimeout := wordAt 16 frame 10
  hardTimeout := wordAt 16 frame 12
  priority := wordAt 16 frame 14
  cookie := wordAt 64 frame 16
  flags := wordAt 16 frame 24
  tableId := wordAt 8 frame 26
  finIdleTimeout := wordAt 16 frame 28
  finHardTimeout := wordAt 16 frame 30
  specs :=
    match decodeLearnSpecs (frame.drop 32) with
    | .ok specs => specs
    | _ => []

def readAction (frame : Bytes) : Option SwitchAction :=
  if wordAt 16 frame 0 = ActionType.output.toU16 then some (.output (wordAt 32 frame 4))
  else if niciraSubtype frame = some NxActionSubtype.ct.toU16 then some (.ct (readCt frame))
  else if niciraSubtype frame = some NxActionSubtype.learn.toU16 then
    some (.learn (readLearn frame))
  else none

def readInstruction (frame : Bytes) : Option SwitchInstruction :=
  if wordAt 16 frame 0 = InstructionType.applyActions.toU16 then do
    let frames ← readFrames (frame.drop 8)
    let actions ← frames.mapM readAction
    pure (.apply actions)
  else if wordAt 16 frame 0 = InstructionType.gotoTable.toU16 then some (.goto (wordAt 8 frame 4))
  else none

/-- The entry that the body of a flow modification adds. -/
def readFlow (body : Bytes) : Option FlowEntry :=
  if wordAt 8 body 17 = FlowCommand.add.toU8 then do
    let matchLen := (wordAt 16 body 42).toNat
    let conditions ← readTlvs ((body.drop 44).take (matchLen - 4))
    let frames ← readFrames (body.drop (40 + pad8 matchLen))
    let instructions ← frames.mapM readInstruction
    pure ⟨wordAt 8 body 16, wordAt 16 body 22, conditions, instructions⟩
  else none

/-! ### NAT -/

theorem wordAt_of_drop {w : Nat} {data rest : Bytes} {off : Nat} {v : BitVec w}
    (hw : 8 * (w / 8) = w) (h : data.drop off = be v ++ rest) : wordAt w data off = v := by
  have hread := wordAt_be_append v rest hw
  rwa [← h, wordAt, List.drop_zero] at hread

theorem readRange_ifSome {present : U16} {bit w : Nat} {o : Option (BitVec w)}
    (hw : 8 * (w / 8) = w) (h : present.getLsbD bit = o.isSome) (rest : Bytes) :
    readRange present bit w (ifSome o be ++ rest) = (o, rest) := by
  cases o with
  | none => simp [readRange, h]
  | some v =>
    have hdrop : (be v ++ rest).drop (w / 8) = rest := List.drop_left' (be_length v)
    simp [readRange, h, wordAt_be_append v rest hw, hdrop]

/-- Each optional field has its bit. -/
theorem rangePresent_bits (nat : NatConfig) :
    nat.rangePresent.getLsbD 0 = nat.ipv4Min.isSome ∧
      nat.rangePresent.getLsbD 1 = nat.ipv4Max.isSome ∧
      nat.rangePresent.getLsbD 2 = nat.ipv6Min.isSome ∧
      nat.rangePresent.getLsbD 3 = nat.ipv6Max.isSome ∧
      nat.rangePresent.getLsbD 4 = nat.portMin.isSome ∧
      nat.rangePresent.getLsbD 5 = nat.portMax.isSome := by
  unfold NatConfig.rangePresent
  generalize nat.ipv4Min.isSome = a, nat.ipv4Max.isSome = b, nat.ipv6Min.isSome = c,
    nat.ipv6Max.isSome = d, nat.portMin.isSome = e, nat.portMax.isSome = f
  revert a b c d e f
  decide

/-- The optional fields of a NAT action on the wire. -/
def natRanges (nat : NatConfig) : Bytes :=
  ifSome nat.ipv4Min be ++ (ifSome nat.ipv4Max be ++ (ifSome nat.ipv6Min be ++
    (ifSome nat.ipv6Max be ++ (ifSome nat.portMin be ++ ifSome nat.portMax be))))

theorem readRanges_natRanges (nat : NatConfig) (rest : Bytes) :
    readRanges nat.flags nat.rangePresent (natRanges nat ++ rest) = nat := by
  rcases rangePresent_bits nat with ⟨h0, h1, h2, h3, h4, h5⟩
  simp only [natRanges, List.append_assoc, readRanges, readRange_ifSome rfl h0,
    readRange_ifSome rfl h1, readRange_ifSome rfl h2, readRange_ifSome rfl h3,
    readRange_ifSome rfl h4, readRange_ifSome rfl h5]

/-- A NAT action is its header, its fields and padding. -/
theorem encodeNxNat_eq (nat : NatConfig) : ∃ pad,
    10 + (6 + (natRanges nat).length + pad) = pad8 (16 + (natRanges nat).length) ∧
      encodeNxNat nat =
        encodeNxHeader .nat (BitVec.ofNat 16 (pad8 (16 + (natRanges nat).length))) ++
          (zeros 2 ++ (be nat.flags ++ (be nat.rangePresent ++ (natRanges nat ++ zeros pad)))) := by
  have hranges : (natRanges nat).length =
      (if nat.ipv4Min.isSome then 4 else 0) + (if nat.ipv4Max.isSome then 4 else 0)
        + (if nat.ipv6Min.isSome then 16 else 0) + (if nat.ipv6Max.isSome then 16 else 0)
        + (if nat.portMin.isSome then 2 else 0) + (if nat.portMax.isSome then 2 else 0) := by
    simp only [natRanges, List.length_append, ifSome_be_length, Nat.reduceDiv, Nat.add_assoc]
  have hle := le_pad8 (16 + (natRanges nat).length)
  have hfields : (zeros 2 ++ (be nat.flags ++ (be nat.rangePresent ++ natRanges nat))).length =
      6 + (natRanges nat).length := by
    simp only [List.length_append, be_length, zeros_length]
    omega
  have hresize := (@resize_nicira .nat
    (zeros 2 ++ (be nat.flags ++ (be nat.rangePresent ++ natRanges nat)))
    (pad8 (16 + (natRanges nat).length)) (by rw [hfields]; omega)).1
  refine ⟨pad8 (16 + (natRanges nat).length) - (16 + (natRanges nat).length), by omega, ?_⟩
  simp only [encodeNxNat, ← hranges]
  rw [hfields, show 10 + (6 + (natRanges nat).length) = 16 + (natRanges nat).length by omega]
    at hresize
  simpa only [natRanges, List.append_assoc] using hresize

theorem natRanges_length_le (nat : NatConfig) : (natRanges nat).length ≤ 44 := by
  have hle : ∀ {w : Nat} (o : Option (BitVec w)), (ifSome o be).length ≤ w / 8 := fun o =>
    ifSome_length_le o fun v => (be_length v).le
  have h0 := hle nat.ipv4Min
  have h1 := hle nat.ipv4Max
  have h2 := hle nat.ipv6Min
  have h3 := hle nat.ipv6Max
  have h4 := hle nat.portMin
  have h5 := hle nat.portMax
  simp only [natRanges, List.length_append]
  omega

theorem encodeNxNat_isFrame (nat : NatConfig) : IsFrame (encodeNxNat nat) := by
  have hle := natRanges_length_le nat
  have hpad8 := pad8_lt (16 + (natRanges nat).length)
  rcases encodeNxNat_eq nat with ⟨pad, hlength, hencode⟩
  have hfields : (zeros 2 ++ (be nat.flags ++ (be nat.rangePresent ++
      (natRanges nat ++ zeros pad)))).length = 6 + (natRanges nat).length + pad := by
    simp only [List.length_append, be_length, zeros_length]
    omega
  rw [hencode, encodeNxHeader_append (by rw [hfields, hlength])]
  apply frame_isFrame
  rw [niciraBody_length, hfields]
  omega

/-- What the header of a Nicira action says. -/
theorem nxHeader_words {frame rest : Bytes} {subtype : NxActionSubtype} {len : U16}
    (h : frame = encodeNxHeader subtype len ++ rest) :
    wordAt 16 frame 0 = ActionType.experimenter.toU16 ∧
      niciraSubtype frame = some subtype.toU16 := by
  have htype : wordAt 16 frame 0 = ActionType.experimenter.toU16 :=
    wordAt_of_drop rfl (by rw [h]; rfl)
  have hvendor : wordAt 32 frame 4 = niciraVendorId := wordAt_of_drop rfl (by rw [h]; rfl)
  have hword : wordAt 16 frame 8 = subtype.toU16 := wordAt_of_drop rfl (by rw [h]; rfl)
  constructor
  case left => exact htype
  case right => rw [niciraSubtype, if_pos ⟨htype, hvendor⟩, hword]

/-- What the header of a NAT action says, and where its optional fields are. -/
theorem encodeNxNat_words (nat : NatConfig) :
    niciraSubtype (encodeNxNat nat) = some NxActionSubtype.nat.toU16 ∧
      wordAt 16 (encodeNxNat nat) 12 = nat.flags ∧
      wordAt 16 (encodeNxNat nat) 14 = nat.rangePresent ∧
      ∃ pad < 8, (encodeNxNat nat).drop 16 = natRanges nat ++ zeros pad := by
  rcases encodeNxNat_eq nat with ⟨pad, hlength, hencode⟩
  have hpad := pad8_lt (16 + (natRanges nat).length)
  have hflags : wordAt 16 (encodeNxNat nat) 12 = nat.flags :=
    wordAt_of_drop rfl (by rw [hencode]; rfl)
  have hpresent : wordAt 16 (encodeNxNat nat) 14 = nat.rangePresent :=
    wordAt_of_drop rfl (by rw [hencode]; rfl)
  have hdrop : (encodeNxNat nat).drop 16 = natRanges nat ++ zeros pad := by
    rw [hencode]
    rfl
  exact ⟨(nxHeader_words hencode).2, hflags, hpresent, pad, by omega, hdrop⟩

theorem readNat_encode (nat : NatConfig) : readNat (encodeNxNat nat) = some nat := by
  obtain ⟨hsubtype, hflags, hpresent, pad, -, hdrop⟩ := encodeNxNat_words nat
  rw [readNat, if_pos hsubtype, hflags, hpresent, hdrop, readRanges_natRanges]

/-! ### Actions -/

theorem readAction_encodeOutput (port : U32) (maxLen : U16) :
    readAction (encodeOutput port maxLen) = some (.output port) := by
  have htype : wordAt 16 (encodeOutput port maxLen) 0 = ActionType.output.toU16 :=
    wordAt_of_drop rfl rfl
  have hport : wordAt 32 (encodeOutput port maxLen) 4 = port := wordAt_of_drop rfl rfl
  rw [readAction, if_pos htype, hport]

theorem wordAt_nxHeader {w off : Nat} {subtype : NxActionSubtype} {len : U16} {fields : Bytes}
    (h : 10 ≤ off) :
    wordAt w (encodeNxHeader subtype len ++ fields) off = wordAt w fields (off - 10) :=
  wordAt_append_right h

/-- An action with a Nicira header is read by its subtype. -/
theorem readAction_nicira {frame rest : Bytes} {subtype : NxActionSubtype} {len : U16}
    (h : frame = encodeNxHeader subtype len ++ rest) : readAction frame =
      if subtype.toU16 = NxActionSubtype.ct.toU16 then some (.ct (readCt frame))
      else if subtype.toU16 = NxActionSubtype.learn.toU16 then some (.learn (readLearn frame))
      else none := by
  rcases nxHeader_words h with ⟨htype, hsubtype⟩
  have hne : ActionType.experimenter.toU16 ≠ ActionType.output.toU16 := by decide
  rw [readAction, htype, if_neg hne, hsubtype]
  simp only [Option.some.injEq]

/-- What the fixed part of a ct action says, and where its nested actions are. -/
theorem ctFields_words {frame : Bytes} {len flags zone : U16} {table : Option U8} {nested : Bytes}
    (h : frame = encodeNxHeader .ct len ++ (ctFields flags zone table ++ nested)) :
    wordAt 16 frame 10 = flags ∧ wordAt 16 frame 16 = zone ∧
      wordAt 8 frame 18 = table.getD 255 ∧ frame.drop 24 = nested := by
  have hflags : wordAt 16 frame 10 = flags := by
    rw [h, wordAt_nxHeader (Nat.le_refl 10)]
    simp [ctFields]
  have hzone : wordAt 16 frame 16 = zone := by
    rw [h, wordAt_nxHeader (by decide)]
    simp [ctFields, wordAt_append_right]
  have htable : wordAt 8 frame 18 = table.getD 255 := by
    rw [h, wordAt_nxHeader (by decide)]
    simp [ctFields, wordAt_append_right]
  have hdrop : frame.drop 24 = nested := by
    rw [h]
    rfl
  exact ⟨hflags, hzone, htable, hdrop⟩

/-- The fixed part of a ct action, whatever is nested in it. -/
theorem readCt_fields {frame : Bytes} {len flags zone : U16} {table : Option U8} {nested : Bytes}
    (h : frame = encodeNxHeader .ct len ++ (ctFields flags zone table ++ nested)) :
    readCt frame = ⟨flags, zone, optionalTable (table.getD 255),
      ((readFrames nested).getD []).findSome? readNat⟩ := by
  obtain ⟨hflags, hzone, htable, hdrop⟩ := ctFields_words h
  rw [readCt, hflags, hzone, htable, hdrop]

theorem readAction_encodeNxCt (flags zone : U16) (table : Option U8) :
    readAction (encodeNxCt flags zone table) =
      some (.ct ⟨flags, zone, optionalTable (table.getD 255), none⟩) := by
  have hfields : encodeNxCt flags zone table =
      encodeNxHeader .ct 24 ++ (ctFields flags zone table ++ []) := by
    rw [List.append_nil, encodeNxCt]
  rw [readAction_nicira hfields, if_pos rfl, readCt_fields hfields]
  rfl

theorem encodeNxCtNat_eq (flags zone : U16) (table : Option U8) (nat : NatConfig) :
    ∃ len, encodeNxCtNat flags zone table nat =
      encodeNxHeader .ct len ++ (ctFields flags zone table ++ encodeNxNat nat) := by
  rcases encodeNxNat_eq nat with ⟨pad, hlength, hencode⟩
  have hnat : (encodeNxNat nat).length = pad8 (16 + (natRanges nat).length) := by
    rw [hencode]
    simp only [List.length_append, encodeNxHeader_length, be_length, zeros_length]
    omega
  have hmod := pad8_mod (16 + (natRanges nat).length)
  have hbuf : ∀ len : U16, (encodeNxHeader .ct len ++ ctFields flags zone table ++
      encodeNxNat nat).length = 24 + (encodeNxNat nat).length := by
    intro len
    simp only [List.length_append, encodeNxHeader_length]
    rfl
  have hexact : pad8 (24 + (encodeNxNat nat).length) = 24 + (encodeNxNat nat).length := by
    unfold pad8
    omega
  refine ⟨BitVec.ofNat 16 (24 + (encodeNxNat nat).length), ?_⟩
  simp only [encodeNxCtNat, hexact]
  rw [resize_eq (by rw [hbuf]), hbuf, Nat.sub_self, List.append_assoc, List.append_assoc]
  exact congrArg _ (congrArg _ (List.append_nil _))

theorem readAction_encodeNxCtNat (flags zone : U16) (table : Option U8) (nat : NatConfig) :
    readAction (encodeNxCtNat flags zone table nat) =
      some (.ct ⟨flags, zone, optionalTable (table.getD 255), some nat⟩) := by
  rcases encodeNxCtNat_eq flags zone table nat with ⟨len, hfields⟩
  have hframes : readFrames (encodeNxNat nat) = some [encodeNxNat nat] := by
    have hread := @readFrames_flatten [encodeNxNat nat]
      (List.forall_mem_singleton.mpr (encodeNxNat_isFrame nat))
    rwa [List.flatten_cons, List.flatten_nil, List.append_nil] at hread
  rw [readAction_nicira hfields, if_pos rfl, readCt_fields hfields, hframes, Option.getD_some,
    List.findSome?_cons_of_isSome (by rw [readNat_encode]; rfl), readNat_encode]

theorem readAction_encodeNxLearn {learn : NxLearn} (h : ∀ s ∈ learn.specs, s.Legal)
    (hbits : ∀ s ∈ learn.specs, s.isOneBitMatch = false) :
    readAction (encodeNxLearn learn) = some (.learn learn) := by
  have hencode := encodeNxLearn_eq learn
  have hspecs : decodeLearnSpecs ((encodeNxLearn learn).drop 32) = .ok learn.specs :=
    ((specsSurvive_iff h).mpr hbits).1
  rw [List.append_assoc] at hencode
  rw [readAction_nicira hencode, if_neg (by decide), if_pos rfl, readLearn, hspecs, hencode]
  simp [learnFields, wordAt_nxHeader, wordAt_append_right]

/-- An action that is written is read in front of the others. -/
theorem mapM_actionFrames_cons {δ : Type} {read : Bytes → Option δ} {actions : List Action}
    {deeds : List δ} {a : Action} {d : δ} (hread : read a.encode = some d)
    (h : (actionFrames actions).mapM read = some deeds) (hne : a.encode ≠ []) :
    (actionFrames (a :: actions)).mapM read = some (d :: deeds) := by
  rw [actionFrames] at h ⊢
  rw [List.filter_cons_of_pos (by simp [hne]), List.map_cons, List.mapM_cons, hread, h]
  rfl

/-- What the switch reads of a list of actions: nothing of those that write nothing. -/
def ReadAs (actions : List Action) (deeds : List SwitchAction) : Prop :=
  (actionFrames actions).mapM readAction = some deeds

namespace ReadAs

variable {actions : List Action} {deeds : List SwitchAction} {a : Action} {d : SwitchAction}

theorem nil : ReadAs [] [] := rfl

theorem written (hread : readAction a.encode = some d) (h : ReadAs actions deeds)
    (hne : a.encode ≠ []) : ReadAs (a :: actions) (d :: deeds) :=
  mapM_actionFrames_cons hread h hne

theorem unwritten (hnil : a.encode = []) (h : ReadAs actions deeds) :
    ReadAs (a :: actions) deeds := by
  rw [ReadAs, actionFrames] at h ⊢
  rwa [List.filter_cons_of_neg (by simp [hnil])]

theorem output (port : OutputPort) : ReadAs [.output port] [.output port.toWirePort] :=
  written (readAction_encodeOutput port.toWirePort 0xffff) nil nofun

theorem drop : ReadAs [.drop] [] := unwritten rfl nil

theorem ct (flags zone : U16) (table : Option U8) :
    ReadAs [.nxCt flags zone table] [.ct ⟨flags, zone, optionalTable (table.getD 255), none⟩] :=
  written (readAction_encodeNxCt flags zone table) nil nofun

theorem ctNat (flags zone : U16) (table : Option U8) (nat : NatConfig) :
    ReadAs [.nxCtNat flags zone table nat]
      [.ct ⟨flags, zone, optionalTable (table.getD 255), some nat⟩] := by
  apply written (a := .nxCtNat flags zone table nat)
    (readAction_encodeNxCtNat flags zone table nat) nil
  rcases encodeNxCtNat_eq flags zone table nat with ⟨len, hencode⟩
  intro hnil
  rw [Action.encode, hencode] at hnil
  cases hnil

end ReadAs

/-! ### The flow -/

section Flow

variable {flow : Flow}

/-- The words of the fixed part that say where the entry goes. -/
theorem Flow.wordAt_fixed (flow : Flow) (rest : Bytes) :
    wordAt 8 (flow.encodeFixed ++ rest) 16 = flow.tableId ∧
      wordAt 8 (flow.encodeFixed ++ rest) 17 = flow.command.toU8 ∧
      wordAt 16 (flow.encodeFixed ++ rest) 22 = flow.priority := by
  simp only [Flow.encodeFixed, List.append_assoc]
  refine ⟨?_, ?_, ?_⟩
  · simp [wordAt_append_right]
  · simp [wordAt_append_right]
  · simp [wordAt_append_right]

theorem Flow.encode_split (flow : Flow) : flow.encode =
    flow.encodeFixed ++ (flow.matchFields.encode ++ flow.instructionBytes) := List.append_assoc ..

/-- The length of the match, as its header gives it. -/
theorem Flow.wordAt_matchLen (flow : Flow) : (wordAt 16 flow.encode 42).toNat =
    4 + flow.matchFields.oxmFields.length := by
  have hread := flow.matchFields.beAt_encode flow.instructionBytes
  have hfits : 2 + 16 / 8 ≤ (flow.matchFields.encode ++ flow.instructionBytes).length := by
    have hle := le_pad8 (4 + flow.matchFields.oxmFields.length)
    rw [List.length_append, Match.encode_length]
    omega
  rw [beAt_eq_ok hfits] at hread
  rw [Flow.encode_split, wordAt_append_right (by simp), flow.encodeFixed_length,
    Outcome.ok.inj hread, oxmFields_length_toNat]

theorem Flow.readTlvs_match (flow : Flow) :
    readTlvs ((flow.encode.drop 44).take ((wordAt 16 flow.encode 42).toNat - 4)) =
      some flow.matchFields.tlvs := by
  have hdrop : ∃ rest, flow.encode.drop 44 = flow.matchFields.oxmFields ++ rest := by
    refine ⟨zeros (pad8 (4 + flow.matchFields.oxmFields.length) -
      (4 + flow.matchFields.oxmFields.length)) ++ flow.instructionBytes, ?_⟩
    have hheader : (flow.encodeFixed ++ (be MatchType.oxm.toU16 ++
        be (BitVec.ofNat 16 (4 + flow.matchFields.oxmFields.length)))).length = 44 := by
      simp
    rw [Flow.encode_split, Match.encode_eq, ← List.append_assoc (be MatchType.oxm.toU16),
      List.append_assoc (be MatchType.oxm.toU16 ++ _), List.append_assoc flow.matchFields.oxmFields,
      ← List.append_assoc flow.encodeFixed, List.drop_left' hheader]
  rcases hdrop with ⟨rest, hdrop⟩
  rw [flow.wordAt_matchLen, hdrop, Nat.add_sub_cancel_left, List.take_left,
    Match.readTlvs_oxmFields]

theorem Flow.readFrames_instructions (hinstructions : flow.instructions.instructions = [])
    (hactions : flow.actions.actions ≠ []) (hsize : 8 + flow.actions.encode.length ≤ 65535) :
    readFrames (flow.encode.drop (40 + pad8 (wordAt 16 flow.encode 42).toNat)) =
      some [(Instruction.applyActions flow.actions).encode] := by
  rw [flow.wordAt_matchLen, ← Match.encode_length, Flow.drop_encode, Flow.instructionBytes,
    if_pos ⟨hinstructions, hactions⟩, readFrames_applyActions hsize]

theorem readInstruction_applyActions {l : ActionList} {deeds : List SwitchAction}
    (hsize : l.encode.length ≤ 65535) (hread : ReadAs l.actions deeds) :
    readInstruction (Instruction.applyActions l).encode = some (.apply deeds) := by
  have htype : wordAt 16 (Instruction.applyActions l).encode 0 =
      InstructionType.applyActions.toU16 := wordAt_of_drop rfl rfl
  have hdrop : (Instruction.applyActions l).encode.drop 8 = l.encode := rfl
  rw [ReadAs] at hread
  rw [readInstruction, if_pos htype, hdrop, ActionList.readFrames_encode hsize]
  simp [hread]

/-- **A flow that is added with actions is read as its table, its priority, the conditions of its
    match and the actions that are written.** -/
theorem readFlow_encode {deeds : List SwitchAction} (hadd : flow.command = .add)
    (hinstructions : flow.instructions.instructions = []) (hactions : flow.actions.actions ≠ [])
    (hsize : 8 + flow.actions.encode.length ≤ 65535) (hread : ReadAs flow.actions.actions deeds) :
    readFlow flow.encode =
      some ⟨flow.tableId, flow.priority, flow.matchFields.tlvs, [.apply deeds]⟩ := by
  rcases flow.wordAt_fixed (flow.matchFields.encode ++ flow.instructionBytes) with
    ⟨htable, hcommand, hpriority⟩
  rw [← Flow.encode_split] at htable hcommand hpriority
  rw [hadd] at hcommand
  have happly := readInstruction_applyActions (by omega) hread
  rw [readFlow, if_pos hcommand]
  simp [flow.readTlvs_match, Flow.readFrames_instructions hinstructions hactions hsize, happly,
    htable, hpriority]

end Flow

end Rovs.OpenFlow

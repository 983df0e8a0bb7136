import Rovs.ActionSafety
import Rovs.LearnRoundTrip
import Rovs.MatchRoundTrip

/-!
# Decoding one encoded action

Every encoded action is a frame: its type, its length and a body.  Decoding looks
at the frame and leaves what follows it alone, so one decoding lemma for each kind
of body is enough.  `Action.decoded` says what comes back.  It is the action in its
wire form, except where the decoder knows less than was written: moves and register
loads become the placeholder and a ct action loses its NAT.  A learn action loses
the specs from its first one-bit match on.
-/

namespace Rovs.OpenFlow

open Outcome

/-! ### Frames -/

/-- An action or an instruction on the wire: its type, its length and a body. -/
def frame (type : U16) (body : Bytes) : Bytes :=
  be type ++ (be (BitVec.ofNat 16 (4 + body.length)) ++ body)

section Frame

variable {type : U16} {body : Bytes}

@[simp] theorem frame_length (type : U16) (body : Bytes) :
    (frame type body).length = 4 + body.length := by
  simp only [frame, List.length_append, be_length]
  omega

theorem wordAt_frame (type : U16) (body rest : Bytes) :
    wordAt 16 (frame type body ++ rest) 0 = type := by
  rw [frame, List.append_assoc, wordAt_be_append _ _ rfl]

theorem frameLength_frame_mod (type : U16) (body rest : Bytes) :
    frameLength (frame type body ++ rest) = (4 + body.length) % 65536 := by
  rw [frameLength, frame, List.append_assoc, wordAt_append_right (by simp), List.append_assoc,
    be_length, wordAt_be_append _ _ rfl, BitVec.toNat_ofNat]

theorem frameLength_frame (h : 4 + body.length ≤ 65535) (rest : Bytes) :
    frameLength (frame type body ++ rest) = 4 + body.length := by
  rw [frameLength_frame_mod, Nat.mod_eq_of_lt (by omega)]

theorem decodeFramed_frame {E T α : Type} {toWord : T → U16} {ofWord : U16 → Outcome E T}
    (hwords : TypeWords toWord ofWord) {truncated : E}
    {decodeBody : Bytes → Nat → T → Outcome E α} {t : T} {a : α} {rest : Bytes}
    (h : 4 + body.length ≤ 65535)
    (hbody : decodeBody (frame (toWord t) body ++ rest) (4 + body.length) t = .ok a) :
    decodeFramed truncated ofWord decodeBody (frame (toWord t) body ++ rest) =
      .ok (a, (frame (toWord t) body).length) := by
  have hlength : frameLength (frame (toWord t) body ++ rest) = 4 + body.length :=
    frameLength_frame h rest
  have hwhole : frameLength (frame (toWord t) body ++ rest) ≤
      (frame (toWord t) body ++ rest).length := by
    rw [hlength, List.length_append, frame_length]
    omega
  rw [hwords.decodeFramed_of_type hwhole (wordAt_frame _ _ _), hlength, hbody, ok_bind,
    frame_length]
  rfl

/-- A frame whose length fits its length word is one that a walk takes as a whole. -/
theorem frame_isFrame (h : 4 + body.length ≤ 65535) : IsFrame (frame type body) where
  header := by rw [frame_length]; omega
  length_eq := by
    rw [← List.append_nil (frame type body), frameLength_frame h, List.append_nil, frame_length]

theorem beAt_frame {E : Type} {w : Nat} (xs ys rest : Bytes) (v : BitVec w)
    (hw : 8 * (w / 8) = w) :
    beAt (E := E) w (frame type (xs ++ (be v ++ ys)) ++ rest) (4 + xs.length) = .ok v := by
  rw [frame, ← List.append_assoc (be type), List.append_assoc, beAt_append_right (by simp),
    List.append_assoc, beAt_append_right (by simp), List.append_assoc]
  simp only [List.length_append, be_length]
  rw [show 4 + xs.length - (16 / 8 + 16 / 8) - xs.length = 0 by omega, beAt_be_append _ _ hw]

theorem beAt_frame_head {E : Type} {w : Nat} (ys rest : Bytes) (v : BitVec w)
    (hw : 8 * (w / 8) = w) :
    beAt (E := E) w (frame type (be v ++ ys) ++ rest) 4 = .ok v :=
  beAt_frame [] ys rest v hw

theorem slice_frame {E : Type} (xs : Bytes) {ys : Bytes} (rest : Bytes) {off : Nat}
    (hbody : body = xs ++ ys) (hoff : off = 4 + xs.length) :
    slice (E := E) (frame type body ++ rest) off (4 + body.length) = .ok ys := by
  subst hbody hoff
  have hsplit : frame type (xs ++ ys) ++ rest =
      (be type ++ (be (BitVec.ofNat 16 (4 + (xs ++ ys).length)) ++ xs)) ++ (ys ++ rest) := by
    simp only [frame, List.append_assoc]
  rw [hsplit, slice_middle]
  · simp only [List.length_append, be_length]; omega
  · simp only [List.length_append, be_length]; omega

theorem slice_frame_body {E : Type} (rest : Bytes) :
    slice (E := E) (frame type body ++ rest) 4 (4 + body.length) = .ok body :=
  slice_frame [] rest rfl rfl

end Frame

/-! ### Frames of actions -/

/-- One action on the wire, in whole blocks of eight bytes, that is decoded to `a`
    whatever follows it. -/
structure DecodesTo (bytes : Bytes) (a : Action) : Prop where
  isFrame : IsFrame bytes
  aligned : bytes.length % 8 = 0
  decode : ∀ rest, Action.decode (bytes ++ rest) = .ok (a, bytes.length)

/-- **An action is decoded from its frame** if its body is, whatever bytes stand behind it. -/
theorem decodesTo_frame {t : ActionType} {body : Bytes} {a : Action}
    (h : 4 + body.length ≤ 65535) (h8 : (4 + body.length) % 8 = 0)
    (hbody : ∀ rest,
      Action.decodeBody (frame t.toU16 body ++ rest) (4 + body.length) t = .ok a) :
    DecodesTo (frame t.toU16 body) a where
  isFrame := frame_isFrame h
  aligned := by rw [frame_length, h8]
  decode rest := by
    rw [Action.decode_eq (by rw [List.length_append, frame_length]; omega)]
    exact decodeFramed_frame ActionType.typeWords h (hbody rest)

/-- A Nicira body: the vendor, the subtype and its fields. -/
def niciraBody (subtype : NxActionSubtype) (fields : Bytes) : Bytes :=
  be niciraVendorId ++ (be subtype.toU16 ++ fields)

theorem niciraBody_length (subtype : NxActionSubtype) (fields : Bytes) :
    (niciraBody subtype fields).length = 6 + fields.length := by
  simp only [niciraBody, List.length_append, be_length]
  omega

theorem encodeNxHeader_append {subtype : NxActionSubtype} {len : U16} {fields : Bytes}
    (h : len = BitVec.ofNat 16 (10 + fields.length)) :
    encodeNxHeader subtype len ++ fields =
      frame ActionType.experimenter.toU16 (niciraBody subtype fields) := by
  rw [frame, niciraBody_length, ← Nat.add_assoc, ← h]
  simp only [encodeNxHeader, niciraBody, List.append_assoc]

/-- For an action of the Nicira extension it is enough to decode the fields behind the subtype. -/
theorem decodesTo_nicira {subtype : NxActionSubtype} {fields : Bytes} {n : Nat} {a : Action}
    (hn : 10 + fields.length = n) (h : n ≤ 65535) (h8 : n % 8 = 0)
    (ha : decodeNiciraAction (be subtype.toU16 ++ fields) = .ok a) :
    DecodesTo (encodeNxHeader subtype (BitVec.ofNat 16 n) ++ fields) a := by
  have hbody := niciraBody_length subtype fields
  rw [encodeNxHeader_append (by rw [hn])]
  refine decodesTo_frame (by omega) (by omega) fun rest => ?_
  have hvendor : beAt (E := Error) 32
      (frame ActionType.experimenter.toU16 (niciraBody subtype fields) ++ rest) 4 =
      .ok niciraVendorId := beAt_frame_head _ rest _ rfl
  have hsub : slice (E := Error)
      (frame ActionType.experimenter.toU16 (niciraBody subtype fields) ++ rest) 8
      (4 + (niciraBody subtype fields).length) = .ok (be subtype.toU16 ++ fields) :=
    slice_frame (be niciraVendorId) rest rfl rfl
  rw [Action.decodeBody, ifLong, if_neg (by omega), hvendor, ok_bind, if_pos rfl, hsub, ok_bind,
    ha]

theorem resize_nicira {subtype : NxActionSubtype} {fields : Bytes} {n : Nat}
    (hn : 10 + fields.length ≤ n) :
    resize (encodeNxHeader subtype (BitVec.ofNat 16 n) ++ fields) n =
      encodeNxHeader subtype (BitVec.ofNat 16 n) ++
        (fields ++ zeros (n - (10 + fields.length))) ∧
      10 + (fields ++ zeros (n - (10 + fields.length))).length = n := by
  have hbuf : (encodeNxHeader subtype (BitVec.ofNat 16 n) ++ fields).length =
      10 + fields.length := by rw [List.length_append, encodeNxHeader_length]
  constructor
  · rw [resize_eq (by omega), hbuf, List.append_assoc]
  · rw [List.length_append, zeros_length]; omega

/-! ### Set-field actions -/

/-- The OXM header of a set-field action. -/
def setFieldHeader (length : U32) (field : OxmField) : U32 :=
  (OxmClass.openflowBasic.toU16.setWidth 32 <<< 16) ||| (field.toU8.setWidth 32 <<< 9) ||| length

theorem encodeSetField_eq {w : Nat} {length : U32} {padding : Nat} (field : OxmField)
    (value : BitVec w) (h : w / 8 + padding = 8) : encodeSetField length padding field value =
      frame ActionType.setField.toU16
        (be (setFieldHeader length field) ++ (be value ++ zeros padding)) := by
  have hlen :
      4 + (be (setFieldHeader length field) ++ (be value ++ zeros padding)).length = 16 := by
    simp only [List.length_append, be_length, zeros_length]
    omega
  rw [frame, hlen]
  simp only [encodeSetField, setFieldHeader, List.append_assoc]
  rfl

theorem setFieldValue_be {w : Nat} (value : BitVec w) (action : BitVec w → Action)
    (hw : 8 * (w / 8) = w) : setFieldValue w (w / 8) (be value) action = .ok (action value) := by
  rw [setFieldValue, if_pos (Nat.le_refl _), beAt_be value hw]
  rfl

/-- For a set-field action it is enough to decode the value behind the OXM header. -/
theorem decodesTo_setField {w : Nat} {length : U32} {padding : Nat} {field : OxmField}
    {value : BitVec w} {a : Action} (h : w / 8 + padding = 8)
    (hlength : headerLength (setFieldHeader length field) = w / 8)
    (hclass : headerClass (setFieldHeader length field) = OxmClass.openflowBasic.toU16)
    (ha : decodeBasicField (headerField (setFieldHeader length field)) (w / 8) (be value) = .ok a) :
    DecodesTo (encodeSetField length padding field value) a := by
  have hlen : (be (setFieldHeader length field) ++ (be value ++ zeros padding)).length = 12 := by
    simp only [List.length_append, be_length, zeros_length]
    omega
  have hvalue : slice (E := Error)
      (be (setFieldHeader length field) ++ (be value ++ zeros padding)) 4 (4 + w / 8) =
      .ok (be value) := slice_middle rfl (by rw [be_length, be_length])
  rw [encodeSetField_eq field value h]
  refine decodesTo_frame (by omega) (by omega) fun rest => ?_
  rw [Action.decodeBody, slice_frame_body, ok_bind, decodeSetFieldAction, if_neg (by omega),
    beAt_be_append _ _ rfl, ok_bind]
  dsimp only
  rw [hlength, if_neg (by omega), hvalue, ok_bind, if_pos hclass, ha]

/-! ### Nicira fields -/

theorem decodeNiciraAction_be (subtype : NxActionSubtype) (fields : Bytes) :
    decodeNiciraAction (be subtype.toU16 ++ fields) =
      (match subtype with
      | .resubmitTable => decodeResubmitTable fields
      | .resubmit => decodeResubmit fields
      | .ct => decodeCt fields
      | .regLoad2 => decodeRegLoad2 fields
      | .learn => decodeLearn fields
      | .move | .regLoad | .nat => .ok .drop) := by
  rw [decodeNiciraAction, Cursor.read_be _ _ rfl, ok_bind]
  cases subtype <;> rfl

theorem decodeResubmitTable_fields (inPort : U16) (table : U8) (rest : Bytes) :
    decodeResubmitTable (be inPort ++ (be table ++ rest)) =
      .ok (.nxResubmit (resubmitPort inPort) (optionalTable table)) := by
  simp only [decodeResubmitTable, Cursor.read_be _ _ (show 8 * (16 / 8) = 16 from rfl),
    Cursor.read_be _ _ (show 8 * (8 / 8) = 8 from rfl), ok_bind, pure_eq]

/-- The ct part is read whatever actions are nested behind it. -/
theorem decodeCt_fields (flags zone : U16) (table : Option U8) (rest : Bytes) :
    decodeCt (ctFields flags zone table ++ rest) =
      .ok (.nxCt flags zone (optionalTable (table.getD 255))) := by
  have hpos : 0 < (be (table.getD 255) ++ (zeros 3 ++ (be (0 : U16) ++ rest))).length := by
    rw [List.length_append, be_length]; omega
  simp only [decodeCt, ctFields, List.append_assoc,
    Cursor.read_be _ _ (show 8 * (16 / 8) = 16 from rfl),
    Cursor.take_append (show (be (0 : U32)).length = 4 from rfl), ok_bind, if_pos hpos,
    Cursor.read_be _ _ (show 8 * (8 / 8) = 8 from rfl), pure_eq]

theorem decodeRegLoad2_tunnel (tunId : U64) (rest : Bytes) :
    decodeRegLoad2 (be ((1 <<< 16) ||| (16 <<< 9) ||| 8 : U32) ++ (be tunId ++ rest)) =
      .ok (.setTunnelId tunId) := by
  have hlength : headerLength ((1 <<< 16) ||| (16 <<< 9) ||| 8 : U32) = 8 := by decide
  simp only [decodeRegLoad2, Cursor.read_be _ _ (show 8 * (32 / 8) = 32 from rfl), ok_bind,
    hlength, Cursor.take_append (be_length tunId)]
  rw [if_pos (by decide), beAt_be _ rfl]
  rfl

/-! ### Learning -/

namespace LearnSpec

/-- A spec as the encoder writes it: an immediate value takes the bytes of its width, whatever
    is padded or cut off for it. -/
def fitted : LearnSpec → LearnSpec
  | .matchImmediate dst value n => .matchImmediate dst (encodeLearnValue value n) n
  | .loadImmediate dst value n => .loadImmediate dst (encodeLearnValue value n) n
  | spec => spec

theorem encodeLearnValue_length (value : Bytes) (nBits : U16) :
    (encodeLearnValue value nBits).length = learnValueLen nBits := by
  simp only [encodeLearnValue, List.length_append, zeros_length, List.length_take]
  omega

theorem encode_fitted (spec : LearnSpec) : encodeLearnSpec spec.fitted = encodeLearnSpec spec := by
  cases spec <;> simp only [fitted, encodeLearnSpec, encodeLearnValue_eq
    (encodeLearnValue_length _ _)]

theorem fitted_of_valueFits {spec : LearnSpec} (h : spec.ValueFits) : spec.fitted = spec := by
  cases spec <;> simp only [fitted]
  all_goals rw [encodeLearnValue_eq h]

theorem fitted_legal {spec : LearnSpec} (hpos : 1 ≤ spec.nBits.toNat)
    (hle : spec.nBits.toNat ≤ 2048) : spec.fitted.Legal := by
  cases spec
  case matchImmediate | loadImmediate =>
    exact ⟨hpos, hle, encodeLearnValue_length _ _⟩
  all_goals exact ⟨hpos, hle, trivial⟩

end LearnSpec

/-- Encoding fits every immediate to its width, so fitting it before makes no difference to the
    bytes. -/
theorem encodeLearnSpecs_fitted (specs : List LearnSpec) :
    encodeLearnSpecs (specs.map LearnSpec.fitted) = encodeLearnSpecs specs := by
  rw [encodeLearnSpecs, encodeLearnSpecs, List.flatMap_map]
  simp only [LearnSpec.encode_fitted]

/-- A learn action as its decoder reads it: up to the first one-bit match. -/
def NxLearn.decoded (learn : NxLearn) : NxLearn :=
  { learn with
    specs := (learn.specs.map LearnSpec.fitted).takeWhile fun s => !s.isOneBitMatch }

/-- A list of specs is read back as the specs fitted to their widths, up to a one-bit match. -/
theorem decodeLearnSpecs_fitted {specs : List LearnSpec}
    (h : ∀ s ∈ specs, 1 ≤ s.nBits.toNat ∧ s.nBits.toNat ≤ 2048) (n : Nat) :
    decodeLearnSpecs (encodeLearnSpecs specs ++ zeros n) =
      .ok ((specs.map LearnSpec.fitted).takeWhile fun s => !s.isOneBitMatch) := by
  have hlegal : ∀ s ∈ specs.map LearnSpec.fitted, s.Legal := by
    intro s hs
    obtain ⟨spec, hspec, rfl⟩ := List.mem_map.mp hs
    exact LearnSpec.fitted_legal (h spec hspec).1 (h spec hspec).2
  rw [← encodeLearnSpecs_fitted, decodeLearnSpecs_encode hlegal]

/-- The fields of a learn action and its specs are read as `NxLearn.decoded`: up to the first spec
    whose header is zero, or up to the padding. -/
theorem decodeLearn_fields {learn : NxLearn}
    (h : ∀ s ∈ learn.specs, 1 ≤ s.nBits.toNat ∧ s.nBits.toNat ≤ 2048) (n : Nat) :
    decodeLearn (learnFields learn ++ (encodeLearnSpecs learn.specs ++ zeros n)) =
      .ok (.nxLearn learn.decoded) := by
  have h2 : 2 ≤ (be learn.finHardTimeout ++ (encodeLearnSpecs learn.specs ++ zeros n)).length := by
    rw [List.length_append, be_length]; omega
  simp only [decodeLearn, learnFields, List.append_assoc,
    Cursor.read_be _ _ (show 8 * (16 / 8) = 16 from rfl),
    Cursor.read_be _ _ (show 8 * (64 / 8) = 64 from rfl),
    Cursor.read_be _ _ (show 8 * (8 / 8) = 8 from rfl),
    Cursor.take_append (zeros_length 1), ok_bind, if_pos h2]
  rw [decodeLearnSpecs_fitted h]
  rfl

/-! ### What comes back -/

/-- An action as the wire can say it: sentinels stand for what they mean, and a
    learned value has the width of its spec. -/
def Action.wireForm : Action → Action
  | .output port =>
      if port.toWirePort = portController then .controller 0xffff
      else .output (OutputPort.fromWire port.toWirePort)
  | .nxResubmit port table =>
      .nxResubmit (resubmitPort (port.getD 0xfff8)) (optionalTable (table.getD 255))
  | .nxCt flags zone table => .nxCt flags zone (optionalTable (table.getD 255))
  | .nxCtNat flags zone table nat => .nxCtNat flags zone (optionalTable (table.getD 255)) nat
  | .nxLearn learn => .nxLearn { learn with specs := learn.specs.map LearnSpec.fitted }
  | a => a

/-- An action as its decoder knows it: moves and register loads are not decoded, and
    of a ct action with NAT only the ct part is. -/
def Action.received : Action → Action
  | .nxMove .. | .nxRegLoad .. => .drop
  | .nxCtNat flags zone table _ => Action.wireForm (.nxCt flags zone table)
  | a => a.wireForm

/-- What decoding makes of an encoded action. -/
def Action.decoded : Action → Action
  | .nxLearn learn => .nxLearn learn.decoded
  | a => a.received

/-- An action within the limits of its wire format. -/
def Action.Encodable : Action → Prop
  | .setVlanVid vid => vid ≤ 0x0fff
  | .nxLearn learn => (∀ s ∈ learn.specs, 1 ≤ s.nBits.toNat ∧ s.nBits.toNat ≤ 2048) ∧
      (encodeNxLearn learn).length ≤ 65535
  | .nxMove _ _ nBits _ _ => 1 ≤ nBits.toNat
  | .nxRegLoad _ _ nBits _ => 1 ≤ nBits.toNat
  | _ => True

theorem decodesTo_padded {subtype : NxActionSubtype} {fields : Bytes} {n : Nat} {a : Action}
    (hn : 10 + fields.length ≤ n) (h : n ≤ 65535) (h8 : n % 8 = 0)
    (ha : decodeNiciraAction (be subtype.toU16 ++ (fields ++ zeros (n - (10 + fields.length)))) =
      .ok a) :
    DecodesTo (resize (encodeNxHeader subtype (BitVec.ofNat 16 n) ++ fields) n) a := by
  obtain ⟨hresize, hlen⟩ := @resize_nicira subtype fields n hn
  rw [hresize]
  exact decodesTo_nicira hlen h h8 ha

theorem encodeOutput_decodesTo (portNum : U32) (maxLen : U16) :
    DecodesTo (encodeOutput portNum maxLen)
      (if portNum = portController then .controller maxLen
        else .output (OutputPort.fromWire portNum)) := by
  have hframe : encodeOutput portNum maxLen =
      frame ActionType.output.toU16 (be portNum ++ (be maxLen ++ zeros 6)) := by
    simp only [encodeOutput, frame, List.append_assoc, List.length_append, be_length, zeros_length]
    rfl
  rw [hframe]
  have hlen : (be portNum ++ (be maxLen ++ zeros 6)).length = 12 := by
    simp only [List.length_append, be_length, zeros_length]
  refine decodesTo_frame (by omega) (by omega) fun rest => ?_
  have hmaxLen : beAt (E := Error) 16
      (frame ActionType.output.toU16 (be portNum ++ (be maxLen ++ zeros 6)) ++ rest) 8 =
      .ok maxLen := beAt_frame (be portNum) _ rest maxLen rfl
  rw [Action.decodeBody, ifLong, if_neg (by omega), beAt_frame_head _ rest _ rfl, ok_bind,
    hmaxLen, ok_bind]
  split <;> rfl

theorem encodeBare_decodesTo {t : ActionType} {a : Action}
    (ha : ∀ data length, Action.decodeBody data length t = .ok a) :
    DecodesTo (encodeBare t) a := by
  have hframe : encodeBare t = frame t.toU16 (zeros 4) := by
    simp only [encodeBare, frame, List.append_assoc, zeros_length]
    rfl
  rw [hframe]
  exact decodesTo_frame (by rw [zeros_length]; decide) (by rw [zeros_length])
    fun _ => ha _ _

theorem decodesTo_word {t : ActionType} {w : Nat} {v : BitVec w} {n : Nat} {a : Action}
    (hlen : w / 8 + n = 4) (hw : 8 * (w / 8) = w)
    (ha : ∀ data, beAt (E := Error) w data 4 = .ok v → Action.decodeBody data 8 t = .ok a) :
    DecodesTo (be t.toU16 ++ be (8 : U16) ++ be v ++ zeros n) a := by
  have hbody : 4 + (be v ++ zeros n).length = 8 := by
    simp only [List.length_append, be_length, zeros_length]; omega
  have hframe :
      be t.toU16 ++ be (8 : U16) ++ be v ++ zeros n = frame t.toU16 (be v ++ zeros n) := by
    rw [frame, hbody]
    simp only [List.append_assoc]
    rfl
  rw [hframe]
  refine decodesTo_frame (by omega) (by omega) fun rest => ?_
  rw [hbody]
  exact ha _ (beAt_frame_head _ rest _ hw)

theorem encodePushVlan_decodesTo (ethertype : U16) :
    DecodesTo (encodePushVlan ethertype) (.pushVlan ethertype) :=
  decodesTo_word rfl rfl fun data h => by
    rw [Action.decodeBody, ifLong, if_neg (by decide), h]
    rfl

theorem encodeSetNwTtl_decodesTo (ttl : U8) : DecodesTo (encodeSetNwTtl ttl) (.setTtl ttl) :=
  decodesTo_word rfl rfl fun data h => by
    rw [Action.decodeBody, ifLong, if_neg (by decide), h]
    rfl

theorem encodeGroup_decodesTo (groupId : U32) :
    DecodesTo (encodeGroup groupId) (.group groupId) := by
  rw [encodeGroup, ← List.append_nil (_ ++ be groupId)]
  exact decodesTo_word (n := 0) rfl rfl fun data h => by
    rw [Action.decodeBody, ifLong, if_neg (by decide), h]
    rfl

/-! ### The Nicira actions -/

theorem encodeSetTunnelId_decodesTo (tunId : U64) :
    DecodesTo (encodeSetTunnelId tunId) (.setTunnelId tunId) := by
  rw [encodeSetTunnelId, List.append_assoc, List.append_assoc]
  exact decodesTo_nicira (n := 24) (by simp) (by decide) rfl
    ((decodeNiciraAction_be .regLoad2 _).trans (decodeRegLoad2_tunnel tunId _))

theorem encodeNxResubmit_decodesTo (port : Option U16) (table : Option U8) :
    DecodesTo (encodeNxResubmit port table)
      (.nxResubmit (resubmitPort (port.getD 0xfff8)) (optionalTable (table.getD 255))) := by
  rw [encodeNxResubmit, List.append_assoc, List.append_assoc]
  exact decodesTo_nicira (n := 16) (by simp) (by decide) rfl
    ((decodeNiciraAction_be .resubmitTable _).trans (decodeResubmitTable_fields _ _ _))

theorem encodeNxCt_decodesTo (flags zone : U16) (table : Option U8) :
    DecodesTo (encodeNxCt flags zone table)
      (.nxCt flags zone (optionalTable (table.getD 255))) := by
  rw [encodeNxCt, ← List.append_nil (ctFields flags zone table)]
  exact decodesTo_nicira (n := 24) (by simp [ctFields]) (by decide) rfl
    ((decodeNiciraAction_be .ct _).trans (decodeCt_fields _ _ _ _))

theorem encodeNxNat_length_le (nat : NatConfig) : (encodeNxNat nat).length ≤ 64 := by
  have hopt : ∀ {α : Type} (o : Option α) (n : Nat), (if o.isSome then n else 0) ≤ n := by
    intro α o n
    split <;> omega
  have h1 := hopt nat.ipv4Min 4
  have h2 := hopt nat.ipv4Max 4
  have h3 := hopt nat.ipv6Min 16
  have h4 := hopt nat.ipv6Max 16
  have h5 := hopt nat.portMin 2
  have h6 := hopt nat.portMax 2
  rw [encodeNxNat, resize_length]
  unfold pad8
  omega

theorem encodeNxCtNat_decodesTo (flags zone : U16) (table : Option U8) (nat : NatConfig) :
    DecodesTo (encodeNxCtNat flags zone table nat)
      (.nxCt flags zone (optionalTable (table.getD 255))) := by
  have hnat := encodeNxNat_length_le nat
  have hle := le_pad8 (24 + (encodeNxNat nat).length)
  have hlt := pad8_lt (24 + (encodeNxNat nat).length)
  have hct : (ctFields flags zone table).length = 14 := rfl
  rw [encodeNxCtNat, List.append_assoc]
  refine decodesTo_padded ?_ (by omega) (pad8_mod _) ?_
  · rw [List.length_append]; omega
  · rw [decodeNiciraAction_be, List.append_assoc]
    exact decodeCt_fields _ _ _ _

theorem encodeNxMove_decodesTo (srcField dstField : U32) (nBits srcOfs dstOfs : U16) :
    DecodesTo (encodeNxMove srcField dstField nBits srcOfs dstOfs) .drop := by
  simp only [encodeNxMove, List.append_assoc]
  exact decodesTo_nicira (n := 24) (by simp) (by decide) rfl (decodeNiciraAction_be .move _)

theorem encodeNxRegLoadNxm_decodesTo (dstField : U32) (dstOfs nBits : U16) (value : U64) :
    DecodesTo (encodeNxRegLoadNxm dstField dstOfs nBits value) .drop := by
  simp only [encodeNxRegLoadNxm, List.append_assoc]
  exact decodesTo_nicira (n := 24) (by simp) (by decide) rfl (decodeNiciraAction_be .regLoad _)

theorem encodeNxLearn_decodesTo {learn : NxLearn}
    (h : ∀ s ∈ learn.specs, 1 ≤ s.nBits.toNat ∧ s.nBits.toNat ≤ 2048)
    (hlen : (encodeNxLearn learn).length ≤ 65535) :
    DecodesTo (encodeNxLearn learn) (.nxLearn learn.decoded) := by
  have hle := le_pad8 (32 + (encodeLearnSpecs learn.specs).length)
  have hfields := learnFields_length learn
  rw [encodeNxLearn, resize_length] at hlen
  rw [encodeNxLearn, List.append_assoc]
  refine decodesTo_padded ?_ hlen (pad8_mod _) ?_
  · rw [List.length_append]; omega
  · rw [decodeNiciraAction_be, List.append_assoc]
    exact decodeLearn_fields h _

/-! ### Every action -/

/-- **Every action that is written is one frame, and this is what it is read as.** -/
theorem Action.encode_decodesTo {a : Action} (h : a.Encodable) (hne : a.encode ≠ []) :
    DecodesTo a.encode a.decoded := by
  cases a with
  | drop | gotoTable | writeMetadata | meter => exact absurd rfl hne
  | output port => exact encodeOutput_decodesTo port.toWirePort 0xffff
  | controller maxLen => exact encodeOutput_decodesTo portController maxLen
  | setEthSrc mac =>
    exact decodesTo_setField rfl (by decide) (by decide) (setFieldValue_be mac _ rfl)
  | setEthDst mac =>
    exact decodesTo_setField rfl (by decide) (by decide) (setFieldValue_be mac _ rfl)
  | setVlanVid vid =>
    have hread : decodeBasicField OxmField.vlanVid.toU8 2 (be (vid ||| 0x1000)) =
        .ok (.setVlanVid ((vid ||| 0x1000) &&& 0x0fff)) :=
      setFieldValue_be (w := 16) (vid ||| 0x1000) (fun v => .setVlanVid (v &&& 0x0fff)) rfl
    rw [vlanVid_present h] at hread
    exact decodesTo_setField rfl (by decide) (by decide) hread
  | setIpv4Src addr =>
    exact decodesTo_setField rfl (by decide) (by decide) (setFieldValue_be addr _ rfl)
  | setIpv4Dst addr =>
    exact decodesTo_setField rfl (by decide) (by decide) (setFieldValue_be addr _ rfl)
  | setTpSrc port =>
    exact decodesTo_setField rfl (by decide) (by decide) (setFieldValue_be port _ rfl)
  | setTpDst port =>
    exact decodesTo_setField rfl (by decide) (by decide) (setFieldValue_be port _ rfl)
  | pushVlan ethertype => exact encodePushVlan_decodesTo ethertype
  | popVlan => exact encodeBare_decodesTo fun _ _ => rfl
  | setTtl ttl => exact encodeSetNwTtl_decodesTo ttl
  | decTtl => exact encodeBare_decodesTo fun _ _ => rfl
  | group groupId => exact encodeGroup_decodesTo groupId
  | setTunnelId tunId => exact encodeSetTunnelId_decodesTo tunId
  | nxResubmit port table => exact encodeNxResubmit_decodesTo port table
  | nxLearn learn => exact encodeNxLearn_decodesTo h.1 h.2
  | nxCt flags zone table => exact encodeNxCt_decodesTo flags zone table
  | nxCtNat flags zone table nat => exact encodeNxCtNat_decodesTo flags zone table nat
  | nxMove src dst n srcOfs dstOfs => exact encodeNxMove_decodesTo src dst n srcOfs dstOfs
  | nxRegLoad dst dstOfs n value => exact encodeNxRegLoadNxm_decodesTo dst dstOfs n value

/-- Within the limit of its length word every action that is written is one frame of
    whole blocks, whatever it is read as. -/
theorem Action.encode_isFrame {a : Action} (hne : a.encode ≠ []) (h : a.encode.length ≤ 65535) :
    IsFrame a.encode ∧ a.encode.length % 8 = 0 := by
  have hframe : ∀ {a' : Action}, DecodesTo a.encode a' →
      IsFrame a.encode ∧ a.encode.length % 8 = 0 := fun hd => ⟨hd.isFrame, hd.aligned⟩
  cases a with
  | setVlanVid vid =>
    rw [Action.encode, encodeSetFieldU16, encodeSetField_eq _ _ rfl]
    exact ⟨frame_isFrame (by simp), by simp⟩
  | nxLearn learn =>
    have hle := le_pad8 (32 + (encodeLearnSpecs learn.specs).length)
    have hfields := learnFields_length learn
    rw [Action.encode, encodeNxLearn, resize_length] at h
    obtain ⟨hresize, hlen⟩ := @resize_nicira .learn
      (learnFields learn ++ encodeLearnSpecs learn.specs)
      (pad8 (32 + (encodeLearnSpecs learn.specs).length)) (by rw [List.length_append]; omega)
    rw [Action.encode]
    refine ⟨?_, by rw [encodeNxLearn, resize_length]; exact pad8_mod _⟩
    rw [encodeNxLearn, List.append_assoc, hresize, encodeNxHeader_append (by rw [hlen])]
    exact frame_isFrame (by rw [niciraBody_length]; omega)
  | nxMove src dst n srcOfs dstOfs => exact hframe (encodeNxMove_decodesTo src dst n srcOfs dstOfs)
  | nxRegLoad dst dstOfs n value => exact hframe (encodeNxRegLoadNxm_decodesTo dst dstOfs n value)
  | _ => exact hframe (Action.encode_decodesTo trivial hne)

end Rovs.OpenFlow

import Rovs.Nicira
import Rovs.Walk

/-!
# Nicira decoding on arbitrary bytes

Every read of the Nicira decoders goes through the bounds-checked cursor, so they
never panic.  This file says exactly which bodies each of them accepts: a number
of bytes for most actions, a value of the length its header gives for a register
load, and for the learn action a row of specs up to the zero header or the end.
-/

namespace Rovs.OpenFlow

open Outcome

/-! ### The cursor -/

namespace Cursor

variable {w n : Nat} {what : String} {cur : Bytes}

theorem take_eq (h : n ≤ cur.length) : take n what cur = .ok (cur.take n, cur.drop n) := by
  rw [take, if_neg (Nat.not_lt.mpr h), slice_eq ⟨Nat.zero_le n, h⟩]
  rfl

theorem take_accepts (n : Nat) (what : String) (cur : Bytes) :
    Accepts (take n what cur) (n ≤ cur.length) := by
  by_cases h : n ≤ cur.length
  · exact .inl ⟨h, _, take_eq h⟩
  · exact .inr ⟨h, _, if_pos (Nat.not_le.mp h)⟩

theorem read_eq (h : w / 8 ≤ cur.length) :
    read w what cur = .ok (wordAt w cur 0, cur.drop (w / 8)) := by
  have hword : wordAt w (cur.take (w / 8)) 0 = wordAt w cur 0 := by
    rw [wordAt, wordAt, List.drop_zero, List.drop_zero, List.take_take, Nat.min_self]
  rw [read, take_eq h]
  dsimp only [ok_bind]
  rw [beAt_eq_ok (by rw [List.length_take]; omega), ok_bind, hword]
  rfl

theorem read_accepts (w : Nat) (what : String) (cur : Bytes) :
    Accepts (read w what cur) (w / 8 ≤ cur.length) := by
  by_cases h : w / 8 ≤ cur.length
  · exact .inl ⟨h, _, read_eq h⟩
  · obtain ⟨e, he⟩ := (take_accepts (w / 8) what cur).eq_err h
    exact .inr ⟨h, e, by rw [read, he]; rfl⟩

section Then

variable {β : Type} {P : Prop}

/-- A read at the front followed by `f` is accepted when the bytes are there and `f` accepts what
    was read. -/
theorem read_then {f : BitVec w × Bytes → Result β}
    (hf : w / 8 ≤ cur.length → Accepts (f (wordAt w cur 0, cur.drop (w / 8))) P) :
    Accepts (read w what cur >>= f) (w / 8 ≤ cur.length ∧ P) := by
  by_cases h : w / 8 ≤ cur.length
  · rw [read_eq h, ok_bind]
    exact (hf h).congr ⟨fun hP => ⟨h, hP⟩, And.right⟩
  · obtain ⟨e, he⟩ := (read_accepts w what cur).eq_err h
    rw [he, err_bind]
    exact (Accepts.err e).congr ⟨False.elim, fun hP => h hP.1⟩

theorem take_then {f : Bytes × Bytes → Result β}
    (hf : n ≤ cur.length → Accepts (f (cur.take n, cur.drop n)) P) :
    Accepts (take n what cur >>= f) (n ≤ cur.length ∧ P) := by
  by_cases h : n ≤ cur.length
  · rw [take_eq h, ok_bind]
    exact (hf h).congr ⟨fun hP => ⟨h, hP⟩, And.right⟩
  · obtain ⟨e, he⟩ := (take_accepts n what cur).eq_err h
    rw [he, err_bind]
    exact (Accepts.err e).congr ⟨False.elim, fun hP => h hP.1⟩

end Then

theorem readSubfield_eq (h : 6 ≤ cur.length) :
    readSubfield what cur = .ok (wordAt 32 cur 0, cur.drop 6) := by
  have h2 : 2 ≤ (cur.drop (32 / 8)).length := by rw [List.length_drop]; omega
  rw [readSubfield, read_eq (by omega)]
  dsimp only [ok_bind]
  rw [take_eq h2, ok_bind]
  simp only [List.drop_drop, pure_eq]

theorem readSubfield_accepts (what : String) (cur : Bytes) :
    Accepts (readSubfield what cur) (6 ≤ cur.length) := by
  refine Accepts.congr (read_then fun _ => take_then fun _ => .ok _) ?_
  simp only [List.length_drop, and_true]
  omega

theorem readSubfield_then {β : Type} {P : Prop} {f : U32 × Bytes → Result β}
    (hf : 6 ≤ cur.length → Accepts (f (wordAt 32 cur 0, cur.drop 6)) P) :
    Accepts (readSubfield what cur >>= f) (6 ≤ cur.length ∧ P) := by
  by_cases h : 6 ≤ cur.length
  · rw [readSubfield_eq h, ok_bind]
    exact (hf h).congr ⟨fun hP => ⟨h, hP⟩, And.right⟩
  · obtain ⟨e, he⟩ := (readSubfield_accepts what cur).eq_err h
    rw [he, err_bind]
    exact (Accepts.err e).congr ⟨False.elim, fun hP => h hP.1⟩

theorem take_eq_ok {bytes cur' : Bytes} (h : take n what cur = .ok (bytes, cur')) :
    bytes = cur.take n ∧ cur' = cur.drop n ∧ n ≤ cur.length := by
  by_cases hn : n ≤ cur.length
  · rw [take_eq hn] at h
    cases h
    exact ⟨rfl, rfl, hn⟩
  · obtain ⟨e, he⟩ := (take_accepts n what cur).eq_err hn
    rw [he] at h
    cases h

theorem readSubfield_eq_ok {v : U32} {cur' : Bytes} (h : readSubfield what cur = .ok (v, cur')) :
    cur' = cur.drop 6 := by
  by_cases hn : 6 ≤ cur.length
  · rw [readSubfield_eq hn] at h
    cases h
    rfl
  · obtain ⟨e, he⟩ := (readSubfield_accepts what cur).eq_err hn
    rw [he] at h
    cases h

end Cursor

/-! ### Actions of a fixed layout -/

theorem decodeResubmitTable_accepts (cur : Bytes) :
    Accepts (decodeResubmitTable cur) (3 ≤ cur.length) := by
  refine Accepts.congr (Cursor.read_then fun _ => Cursor.read_then fun _ => .ok _) ?_
  simp only [List.length_drop, and_true]
  omega

theorem decodeResubmit_accepts (cur : Bytes) :
    Accepts (decodeResubmit cur) (2 ≤ cur.length) := by
  refine Accepts.congr (Cursor.read_then fun _ => .ok _) ?_
  simp only [and_true, Nat.reduceDiv]

theorem decodeCt_accepts (cur : Bytes) : Accepts (decodeCt cur) (8 ≤ cur.length) := by
  refine Accepts.congr (Cursor.read_then fun _ => Cursor.take_then fun _ =>
    Cursor.read_then (P := True) fun _ => ?_) ?_
  · dsimp only
    split
    · next hcur =>
      rw [Cursor.read_eq (by omega)]
      exact .ok _
    · exact .ok _
  · simp only [List.length_drop, and_true]
    omega

/-- An OXM header and as many bytes as it announces. -/
def RegLoad2Accepted (cur : Bytes) : Prop :=
  4 ≤ cur.length ∧ headerLength (wordAt 32 cur 0) ≤ cur.length - 4

theorem decodeRegLoad2_accepts (cur : Bytes) :
    Accepts (decodeRegLoad2 cur) (RegLoad2Accepted cur) := by
  refine Accepts.congr (Cursor.read_then fun _ => Cursor.take_then (P := True) fun hvalue => ?_) ?_
  · dsimp only
    split
    · next htun =>
      rw [beAt_eq_ok (by rw [List.length_take]; omega)]
      exact .ok _
    · exact .ok _
  · simp only [RegLoad2Accepted, List.length_drop, and_true]

/-! ### The learn action -/

/-- The bytes a spec takes behind its header, by the kind in the header. -/
def learnSpecLength (header : U16) : Option Nat :=
  let valueLen := learnValueLen ((header &&& 0x07ff) + 1)
  match ((header >>> 13) &&& 0x01).toNat, ((header >>> 11) &&& 0x03).toNat with
  | 0, 0 => some 12
  | 1, 0 => some (valueLen + 6)
  | 0, 1 => some 12
  | 1, 1 => some (valueLen + 6)
  | 0, 2 => some 6
  | _, _ => none

/-- A spec of a known kind with all its bytes. -/
def LearnSpecAccepted (header : U16) (cur : Bytes) : Prop :=
  ∃ n, learnSpecLength header = some n ∧ n ≤ cur.length

theorem LearnSpecAccepted.of_eq {header : U16} {cur : Bytes} {n : Nat}
    (h : learnSpecLength header = some n) : LearnSpecAccepted header cur ↔ n ≤ cur.length := by
  constructor
  · rintro ⟨n', hn', hle⟩
    rw [h] at hn'
    cases hn'
    exact hle
  · exact fun hle => ⟨n, h, hle⟩

/-- A learn spec is accepted exactly if its kind is known and its length, which the header
    determines, is there. -/
theorem decodeLearnSpec_accepts (header : U16) (cur : Bytes) :
    Accepts (decodeLearnSpec header cur) (LearnSpecAccepted header cur) := by
  have hfields : ∀ {what : String} (f : U32 → U32 → LearnSpec),
      learnSpecLength header = some 12 → Accepts (do
        let src ← Cursor.readSubfield what cur
        let dst ← Cursor.readSubfield what src.2
        pure (f src.1 dst.1, dst.2)) (LearnSpecAccepted header cur) := by
    intro what f hlen
    refine Accepts.congr (Cursor.readSubfield_then fun _ =>
      Cursor.readSubfield_then fun _ => .ok _) ?_
    rw [LearnSpecAccepted.of_eq hlen]
    simp only [List.length_drop, and_true]
    omega
  have hvalue : ∀ {n : Nat} {whatValue what : String} (f : Bytes → U32 → LearnSpec),
      learnSpecLength header = some (n + 6) → Accepts (do
        let value ← Cursor.take n whatValue cur
        let dst ← Cursor.readSubfield what value.2
        pure (f value.1 dst.1, dst.2)) (LearnSpecAccepted header cur) := by
    intro n whatValue what f hlen
    refine Accepts.congr (Cursor.take_then fun _ => Cursor.readSubfield_then fun _ => .ok _) ?_
    rw [LearnSpecAccepted.of_eq hlen]
    simp only [List.length_drop, and_true]
    omega
  unfold decodeLearnSpec
  dsimp only
  split
  case h_1 hsrc hdst =>
    exact hfields (.matchField · · _) (by simp only [learnSpecLength, hsrc, hdst])
  case h_2 hsrc hdst =>
    exact hvalue (fun v d => .matchImmediate d v _) (by simp only [learnSpecLength, hsrc, hdst])
  case h_3 hsrc hdst =>
    exact hfields (.loadField · · _) (by simp only [learnSpecLength, hsrc, hdst])
  case h_4 hsrc hdst =>
    exact hvalue (fun v d => .loadImmediate d v _) (by simp only [learnSpecLength, hsrc, hdst])
  case h_5 hsrc hdst =>
    refine Accepts.congr (Cursor.readSubfield_then fun _ => .ok _) ?_
    rw [LearnSpecAccepted.of_eq (n := 6) (by simp only [learnSpecLength, hsrc, hdst])]
    simp only [and_true]
  case h_6 h1 h2 h3 h4 h5 =>
    refine (Accepts.err _).congr ⟨False.elim, ?_⟩
    rintro ⟨n, hn, -⟩
    simp only [learnSpecLength] at hn
    cases hn

theorem decodeLearnSpec_rest {header : U16} {cur cur' : Bytes} {spec : LearnSpec}
    (h : decodeLearnSpec header cur = .ok (spec, cur')) :
    ∃ n, learnSpecLength header = some n ∧ cur' = cur.drop n := by
  have hfield : ∀ {what : String} (f : U32 → U32 → LearnSpec), (do
      let src ← Cursor.readSubfield what cur
      let dst ← Cursor.readSubfield what src.2
      pure (f src.1 dst.1, dst.2) : Result _) = .ok (spec, cur') → cur' = cur.drop 12 := by
    intro what f h
    obtain ⟨⟨src, cur1⟩, hsrc, h⟩ := bind_eq_ok.mp h
    obtain ⟨⟨dst, cur2⟩, hdst, h⟩ := bind_eq_ok.mp h
    cases h
    rw [Cursor.readSubfield_eq_ok hdst, Cursor.readSubfield_eq_ok hsrc, List.drop_drop]
  have hvalue : ∀ {what what' : String} {n : Nat} (f : Bytes → U32 → LearnSpec), (do
      let value ← Cursor.take n what cur
      let dst ← Cursor.readSubfield what' value.2
      pure (f value.1 dst.1, dst.2) : Result _) = .ok (spec, cur') → cur' = cur.drop (n + 6) := by
    intro what what' n f h
    obtain ⟨⟨value, cur1⟩, hval, h⟩ := bind_eq_ok.mp h
    obtain ⟨⟨dst, cur2⟩, hdst, h⟩ := bind_eq_ok.mp h
    cases h
    rw [Cursor.readSubfield_eq_ok hdst, (Cursor.take_eq_ok hval).2.1, List.drop_drop]
  unfold decodeLearnSpec at h
  dsimp only at h
  split at h
  case h_1 hsrc hdst =>
    exact ⟨12, by simp only [learnSpecLength, hsrc, hdst], hfield (.matchField · · _) h⟩
  case h_2 hsrc hdst =>
    exact ⟨learnValueLen ((header &&& 0x07ff) + 1) + 6,
      by simp only [learnSpecLength, hsrc, hdst], hvalue (fun v d => .matchImmediate d v _) h⟩
  case h_3 hsrc hdst =>
    exact ⟨12, by simp only [learnSpecLength, hsrc, hdst], hfield (.loadField · · _) h⟩
  case h_4 hsrc hdst =>
    exact ⟨learnValueLen ((header &&& 0x07ff) + 1) + 6,
      by simp only [learnSpecLength, hsrc, hdst], hvalue (fun v d => .loadImmediate d v _) h⟩
  case h_5 hsrc hdst =>
    obtain ⟨⟨src, cur1⟩, hread, h⟩ := bind_eq_ok.mp h
    cases h
    exact ⟨6, by simp only [learnSpecLength, hsrc, hdst], Cursor.readSubfield_eq_ok hread⟩
  case h_6 => cases h

/-- The header word at the front of the unread specs. -/
def learnSpecHeader (data : Bytes) : U16 := wordAt 16 data 0

/-- A spec that is read. -/
def LearnSpecRead (data : Bytes) : Prop :=
  2 ≤ data.length ∧ learnSpecHeader data ≠ 0 ∧
    LearnSpecAccepted (learnSpecHeader data) (data.drop 2)

/-- The end of the specs: no room for a header, or the zero header. -/
def LearnSpecsEnd (data : Bytes) : Prop := data.length < 2 ∨ learnSpecHeader data = 0

/-- A spec with its header. -/
def learnSpecStep (data : Bytes) : Nat := 2 + (learnSpecLength (learnSpecHeader data)).getD 0

/-- The specs are a row of known kinds, each with all its bytes, up to the end. -/
def LearnSpecsAccepted (data : Bytes) : Prop :=
  ∀ rest, Walk learnSpecStep LearnSpecRead data rest → LearnSpecRead rest ∨ LearnSpecsEnd rest

theorem learnSpecsPass_eq {data : Bytes} (h2 : 2 ≤ data.length) (hne : learnSpecHeader data ≠ 0)
    (specs : List LearnSpec) : learnSpecsPass (specs, data) = (do
      let (spec, cur) ← decodeLearnSpec (learnSpecHeader data) (data.drop 2)
      pure (.again (specs ++ [spec], cur))) := by
  simp only [learnSpecsPass, if_pos h2]
  rw [Cursor.read_eq (by omega), ok_bind]
  exact if_neg hne

/-- The loop over the specs of a learn action is a walk, in which each spec says by its header how
    long it is. -/
theorem learnSpecs_walkedBy : WalkedBy learnSpecsPass learnSpecStep LearnSpecRead LearnSpecsEnd
    (fun _ => False) where
  again := by
    rintro data ⟨h2, hne, haccepted⟩ specs
    obtain ⟨⟨spec, cur⟩, hspec⟩ := (decodeLearnSpec_accepts _ _).eq_ok haccepted
    obtain ⟨n, hn, rfl⟩ := decodeLearnSpec_rest hspec
    rw [learnSpecsPass_eq h2 hne, hspec, learnSpecStep, hn, ← List.drop_drop]
    exact ⟨_, rfl⟩
  progress := by
    rintro data ⟨h2, -, -⟩
    exact ⟨by unfold learnSpecStep; omega, by omega⟩
  leaves := by
    rintro data hend specs
    refine ⟨specs, ?_⟩
    by_cases h2 : 2 ≤ data.length
    · have hzero : wordAt 16 data 0 = 0 := hend.resolve_left (Nat.not_lt.mpr h2)
      simp only [learnSpecsPass, if_pos h2]
      rw [Cursor.read_eq (by omega), ok_bind]
      exact if_pos hzero
    · simp only [learnSpecsPass, if_neg h2, pure_eq]
  fails := fun h => h.elim
  refuses := by
    intro data hgood hend _ specs
    have h2 : 2 ≤ data.length := Nat.not_lt.mp fun h => hend (.inl h)
    have hne : learnSpecHeader data ≠ 0 := fun h => hend (.inr h)
    obtain ⟨e, he⟩ := (decodeLearnSpec_accepts _ _).eq_err fun h => hgood ⟨h2, hne, h⟩
    rw [learnSpecsPass_eq h2 hne, he]
    exact ⟨e, rfl⟩

theorem decodeLearnSpecs_accepts (data : Bytes) :
    Accepts (decodeLearnSpecs data) (LearnSpecsAccepted data) :=
  learnSpecs_walkedBy.loop_accepts _ (Nat.lt_succ_self _) fun _ _ => id

/-- The fixed fields of a learn action, the last of them optional, and its specs. -/
def LearnAccepted (cur : Bytes) : Prop :=
  20 ≤ cur.length ∧
    LearnSpecsAccepted (if 22 ≤ cur.length then cur.drop 22 else cur.drop 20)

theorem readFinHardTimeout_then {β : Type} {P : Prop} {f : U16 × Bytes → Result β} {cur : Bytes}
    (hf : ∀ fin, Accepts (f (fin, if 2 ≤ cur.length then cur.drop 2 else cur)) P) :
    Accepts (if 2 ≤ cur.length then Cursor.read 16 "learn action" cur >>= f
      else pure (0, cur) >>= f) P := by
  by_cases h2 : 2 ≤ cur.length
  · have hread := hf (wordAt 16 cur 0)
    rw [if_pos h2] at hread
    rwa [if_pos h2, Cursor.read_eq h2, ok_bind]
  · have hdefault := hf 0
    rw [if_neg h2] at hdefault
    rwa [if_neg h2, pure_eq, ok_bind]

/-- A learn action is accepted exactly if its fixed part is there and the walk over its specs comes
    to no bad one. -/
theorem decodeLearn_accepts (cur : Bytes) : Accepts (decodeLearn cur) (LearnAccepted cur) := by
  refine Accepts.congr (Cursor.read_then fun _ => Cursor.read_then fun _ =>
    Cursor.read_then fun _ => Cursor.read_then fun _ => Cursor.read_then fun _ =>
    Cursor.read_then fun _ => Cursor.take_then fun _ => Cursor.read_then fun _ =>
    readFinHardTimeout_then fun _ => (decodeLearnSpecs_accepts _).bind fun _ _ => .ok _) ?_
  simp only [LearnAccepted, List.drop_drop, List.length_drop, Nat.reduceDiv, Nat.reduceAdd,
    and_true]
  rw [if_congr (show 2 ≤ cur.length - 20 ↔ 22 ≤ cur.length by omega) rfl rfl]
  constructor
  · rintro ⟨h1, h2, h3, h4, h5, h6, h7, h8, hs⟩
    exact ⟨by omega, hs⟩
  · rintro ⟨h20, hs⟩
    exact ⟨by omega, by omega, by omega, by omega, by omega, by omega, by omega, by omega, hs⟩

/-! ### Every Nicira action -/

/-- What a body must hold, by its subtype; unknown subtypes are skipped. -/
def NiciraBodyAccepted (subtype : U16) (cur : Bytes) : Prop :=
  if subtype = NxActionSubtype.resubmitTable.toU16 then 3 ≤ cur.length
  else if subtype = NxActionSubtype.resubmit.toU16 then 2 ≤ cur.length
  else if subtype = NxActionSubtype.ct.toU16 then 8 ≤ cur.length
  else if subtype = NxActionSubtype.regLoad2.toU16 then RegLoad2Accepted cur
  else if subtype = NxActionSubtype.learn.toU16 then LearnAccepted cur
  else True

/-- A subtype with its body. -/
def NiciraAccepted (data : Bytes) : Prop :=
  2 ≤ data.length ∧ NiciraBodyAccepted (wordAt 16 data 0) (data.drop 2)

/-- **Nicira decoding never panics**: it accepts exactly the well-formed bodies. -/
theorem decodeNiciraAction_accepts (data : Bytes) :
    Accepts (decodeNiciraAction data) (NiciraAccepted data) :=
  Cursor.read_then fun _ =>
    .ite (fun _ => decodeResubmitTable_accepts _) fun _ =>
    .ite (fun _ => decodeResubmit_accepts _) fun _ =>
    .ite (fun _ => decodeCt_accepts _) fun _ =>
    .ite (fun _ => decodeRegLoad2_accepts _) fun _ =>
    .ite (fun _ => decodeLearn_accepts _) fun _ => .ok _

end Rovs.OpenFlow

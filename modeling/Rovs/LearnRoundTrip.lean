import Mathlib.Data.List.TakeWhile
import Rovs.NiciraSafety

/-!
# Round trip of learn specs

The specs of a learn action have no count.  Each starts with a header of its kind
and its width less one, and the decoder takes the zero header for the end.  A
match between fields has kind zero, so at width one its header is that end mark:
decoding gives back exactly the specs before the first one-bit match.

`specsSurvive_iff` is the main result.
-/

namespace Rovs.OpenFlow

open Outcome

/-! ### Cursors over what was written -/

namespace Cursor

variable {w : Nat} {what : String}

theorem take_append {bytes : Bytes} {n : Nat} (h : bytes.length = n) (rest : Bytes) :
    take n what (bytes ++ rest) = .ok (bytes, rest) := by
  subst h
  rw [take_eq (by rw [List.length_append]; omega), List.take_left, List.drop_left]

theorem read_be (v : BitVec w) (rest : Bytes) (hw : 8 * (w / 8) = w) :
    read w what (be v ++ rest) = .ok (v, rest) := by
  rw [read, take_append (be_length v), ok_bind]
  dsimp only
  rw [beAt_be v hw]
  rfl

theorem readSubfield_encode (field : U32) (ofs : U16) (rest : Bytes) :
    readSubfield what (encodeLearnSubfield field ofs ++ rest) = .ok (field, rest) := by
  rw [readSubfield, encodeLearnSubfield, List.append_assoc, read_be _ _ rfl, ok_bind]
  dsimp only
  rw [take_append (be_length ofs), ok_bind]
  rfl

end Cursor

/-! ### One spec -/

namespace LearnSpec

def nBits : LearnSpec → U16
  | .matchField _ _ n | .matchImmediate _ _ n | .loadField _ _ n | .loadImmediate _ _ n
  | .outputField _ n => n

/-- An immediate value fills its bytes. -/
def ValueFits : LearnSpec → Prop
  | .matchImmediate _ value n | .loadImmediate _ value n => value.length = learnValueLen n
  | _ => True

/-- A spec that a learn action may hold. -/
structure Legal (spec : LearnSpec) : Prop where
  pos : 1 ≤ spec.nBits.toNat
  le : spec.nBits.toNat ≤ 2048
  value : spec.ValueFits

/-- A match of one bit of a field against one bit of a field. -/
def isOneBitMatch : LearnSpec → Bool
  | .matchField _ _ n => n == 1
  | _ => false

end LearnSpec

theorem encodeLearnValue_eq {value : Bytes} {nBits : U16} (h : value.length = learnValueLen nBits) :
    encodeLearnValue value nBits = value := by
  have hmin : min value.length (learnValueLen nBits) = learnValueLen nBits := by omega
  simp only [encodeLearnValue, hmin, Nat.sub_self]
  rw [← h, List.take_length]
  rfl

namespace LearnSpec

/-- The source and destination bits of a spec header. -/
def kind : LearnSpec → U16
  | .matchField .. => learnSpecSrcField ||| learnSpecDstMatch
  | .matchImmediate .. => learnSpecSrcImmediate ||| learnSpecDstMatch
  | .loadField .. => learnSpecSrcField ||| learnSpecDstLoad
  | .loadImmediate .. => learnSpecSrcImmediate ||| learnSpecDstLoad
  | .outputField .. => learnSpecSrcField ||| learnSpecDstOutput

def kindNumber : LearnSpec → Nat
  | .matchField .. => 0
  | .matchImmediate .. => 4
  | .loadField .. => 1
  | .loadImmediate .. => 5
  | .outputField .. => 2

theorem kind_toNat (spec : LearnSpec) : spec.kind.toNat = 2 ^ 11 * spec.kindNumber := by
  cases spec <;> simp only [kind, kindNumber] <;> decide

/-- The header word of a spec. -/
def header (spec : LearnSpec) : U16 := spec.kind ||| (spec.nBits - 1)

/-- What a spec writes behind its header. -/
def body : LearnSpec → Bytes
  | .matchField src dst _ | .loadField src dst _ =>
      encodeLearnSubfield src 0 ++ encodeLearnSubfield dst 0
  | .matchImmediate dst value n | .loadImmediate dst value n =>
      encodeLearnValue value n ++ encodeLearnSubfield dst 0
  | .outputField src _ => encodeLearnSubfield src 0

theorem encode_eq (spec : LearnSpec) : encodeLearnSpec spec = be spec.header ++ spec.body := by
  cases spec <;> simp only [encodeLearnSpec, header, body, kind, nBits, List.append_assoc]

section Header

variable {spec : LearnSpec}

theorem header_toNat (h : spec.Legal) :
    spec.header.toNat = 2 ^ 11 * spec.kindNumber + (spec.nBits.toNat - 1) := by
  obtain ⟨hpos, hle, -⟩ := h
  have hsub : (spec.nBits - 1).toNat = spec.nBits.toNat - 1 :=
    BitVec.toNat_sub_of_le (by rw [BitVec.le_def]; exact hpos)
  rw [header, BitVec.toNat_or, kind_toNat, hsub]
  exact (Nat.two_pow_add_eq_or_of_lt (by omega) _).symm

theorem header_nBits (h : spec.Legal) : (spec.header &&& 0x07ff) + 1 = spec.nBits := by
  have hpos := h.pos
  have hle := h.le
  apply BitVec.eq_of_toNat_eq
  rw [BitVec.toNat_add, BitVec.toNat_and, header_toNat h,
    show (0x07ff : U16).toNat = 2 ^ 11 - 1 from rfl, Nat.and_two_pow_sub_one_eq_mod,
    show (1 : U16).toNat = 1 from rfl]
  omega

theorem header_srcType (h : spec.Legal) :
    ((spec.header >>> 13) &&& 0x01).toNat = spec.kindNumber / 4 % 2 := by
  have hle := h.le
  rw [BitVec.toNat_and, BitVec.toNat_ushiftRight, Nat.shiftRight_eq_div_pow, header_toNat h,
    show (0x01 : U16).toNat = 2 ^ 1 - 1 from rfl, Nat.and_two_pow_sub_one_eq_mod]
  omega

theorem header_dstType (h : spec.Legal) :
    ((spec.header >>> 11) &&& 0x03).toNat = spec.kindNumber % 4 := by
  have hle := h.le
  rw [BitVec.toNat_and, BitVec.toNat_ushiftRight, Nat.shiftRight_eq_div_pow, header_toNat h,
    show (0x03 : U16).toNat = 2 ^ 2 - 1 from rfl, Nat.and_two_pow_sub_one_eq_mod]
  omega

/-- The header of a legal spec is the end mark exactly for a one-bit match. -/
theorem header_eq_zero_iff (h : spec.Legal) : spec.header = 0 ↔ spec.isOneBitMatch = true := by
  have hpos := h.pos
  rw [BitVec.toNat_eq, header_toNat h]
  cases spec with
  | matchField src dst n =>
    have hpos : 1 ≤ n.toNat := hpos
    rw [isOneBitMatch, beq_iff_eq, BitVec.toNat_eq]
    show 2 ^ 11 * 0 + (n.toNat - 1) = 0 ↔ n.toNat = 1
    omega
  | matchImmediate | loadField | loadImmediate | outputField =>
    simp [isOneBitMatch, kindNumber]

/-- **A legal spec is decoded from its header and body.** -/
theorem decode_body (h : spec.Legal) (rest : Bytes) :
    decodeLearnSpec spec.header (spec.body ++ rest) = .ok (spec, rest) := by
  have hvalue := h.value
  simp only [decodeLearnSpec, header_nBits h, header_srcType h, header_dstType h]
  cases spec with
  | matchField src dst n | loadField src dst n =>
    simp only [kindNumber, body, List.append_assoc, Cursor.readSubfield_encode, ok_bind, pure_eq]
    rfl
  | matchImmediate dst value n | loadImmediate dst value n =>
    simp only [kindNumber, body, encodeLearnValue_eq hvalue, List.append_assoc,
      Cursor.take_append hvalue, Cursor.readSubfield_encode, ok_bind, pure_eq, nBits]
  | outputField src n =>
    simp only [kindNumber, body, Cursor.readSubfield_encode, ok_bind, pure_eq]
    rfl

end Header

end LearnSpec

/-! ### The list of specs -/

theorem learnSpecsPass_encode {spec : LearnSpec} (h : spec.Legal) (acc : List LearnSpec)
    (rest : Bytes) : learnSpecsPass (acc, encodeLearnSpec spec ++ rest) =
      .ok (if spec.isOneBitMatch then .leave acc else .again (acc ++ [spec], rest)) := by
  have h2 : 2 ≤ (be spec.header ++ (spec.body ++ rest)).length := by
    rw [List.length_append, be_length]; omega
  rw [spec.encode_eq, List.append_assoc]
  simp only [learnSpecsPass, if_pos h2, Cursor.read_be _ _ (show 8 * (16 / 8) = 16 from rfl),
    ok_bind, LearnSpec.header_eq_zero_iff h, LearnSpec.decode_body h, pure_eq]
  split <;> rfl

theorem learnSpecsPass_zeros (acc : List LearnSpec) (n : Nat) :
    learnSpecsPass (acc, zeros n) = .ok (.leave acc) := by
  by_cases h2 : 2 ≤ (zeros n).length
  · have hsplit : zeros n = be (0 : U16) ++ zeros (n - 2) := by
      rw [zeros_length] at h2
      rw [be_zero, ← zeros_add]
      congr 1
      omega
    simp only [learnSpecsPass, if_pos h2]
    rw [hsplit, Cursor.read_be _ _ rfl]
    rfl
  · simp only [learnSpecsPass, if_neg h2, pure_eq]

theorem learnSpecs_loop {specs : List LearnSpec} (h : ∀ s ∈ specs, s.Legal) (n : Nat)
    (acc : List LearnSpec) :
    loop learnSpecsPass ((encodeLearnSpecs specs ++ zeros n).length + 1)
      (acc, encodeLearnSpecs specs ++ zeros n) =
      .ok (acc ++ specs.takeWhile fun s => !s.isOneBitMatch) := by
  induction specs generalizing acc with
  | nil =>
    rw [List.takeWhile_nil, List.append_nil]
    exact loop_leave (learnSpecsPass_zeros acc n) _
  | cons spec specs ih =>
    have hpass := learnSpecsPass_encode (h spec (List.mem_cons_self ..)) acc
      (encodeLearnSpecs specs ++ zeros n)
    rw [encodeLearnSpecs, List.flatMap_cons, List.append_assoc]
    by_cases hone : spec.isOneBitMatch = true
    · rw [if_pos hone] at hpass
      rw [List.takeWhile_cons_of_neg (by simp [hone]), List.append_nil]
      exact loop_leave hpass _
    · rw [if_neg hone] at hpass
      have hrest := ih (fun s hs => h s (List.mem_cons_of_mem _ hs)) (acc ++ [spec])
      rw [List.takeWhile_cons_of_pos (by simp [hone]), List.append_cons]
      exact (loop_step learnSpecs_walkedBy.decreases hpass).trans hrest

/-- **Decoding gives back the specs before the first one-bit match.** -/
theorem decodeLearnSpecs_encode {specs : List LearnSpec} (h : ∀ s ∈ specs, s.Legal) (n : Nat) :
    decodeLearnSpecs (encodeLearnSpecs specs ++ zeros n) =
      .ok (specs.takeWhile fun s => !s.isOneBitMatch) :=
  learnSpecs_loop h n []

/-! ### The learn action -/

@[simp] theorem encodeNxHeader_length (subtype : NxActionSubtype) (len : U16) :
    (encodeNxHeader subtype len).length = 10 := rfl

@[simp] theorem learnFields_length (learn : NxLearn) : (learnFields learn).length = 22 := by
  simp [learnFields]

/-- The specs of a learn action stand behind its 32 bytes of header and fields. -/
theorem encodeNxLearn_eq (learn : NxLearn) : encodeNxLearn learn =
    encodeNxHeader .learn (BitVec.ofNat 16 (pad8 (32 + (encodeLearnSpecs learn.specs).length))) ++
      learnFields learn ++ (encodeLearnSpecs learn.specs ++
        zeros (pad8 (32 + (encodeLearnSpecs learn.specs).length) -
          (32 + (encodeLearnSpecs learn.specs).length))) := by
  have hle := le_pad8 (32 + (encodeLearnSpecs learn.specs).length)
  have hlen : ∀ len : U16, (encodeNxHeader .learn len ++ learnFields learn ++
      encodeLearnSpecs learn.specs).length = 32 + (encodeLearnSpecs learn.specs).length := by
    intro len
    simp only [List.length_append, encodeNxHeader_length, learnFields_length]
  simp only [encodeNxLearn]
  rw [resize_eq (by rw [hlen]; exact hle), hlen, List.append_assoc]

/-- The bytes of the specs, with the padding behind them. -/
def learnSpecBytes (learn : NxLearn) : Bytes := (encodeNxLearn learn).drop 32

theorem learnSpecBytes_eq (learn : NxLearn) : learnSpecBytes learn =
    encodeLearnSpecs learn.specs ++ zeros (pad8 (32 + (encodeLearnSpecs learn.specs).length) -
      (32 + (encodeLearnSpecs learn.specs).length)) := by
  rw [learnSpecBytes, encodeNxLearn_eq, List.drop_left' (by simp)]

/-- The specs of a learn action survive the wire: they are decoded as they were, and
    no header is the end mark. -/
def SpecsSurvive (learn : NxLearn) : Prop :=
  decodeLearnSpecs (learnSpecBytes learn) = .ok learn.specs ∧
    ∀ spec ∈ learn.specs, learnSpecHeader (encodeLearnSpec spec) ≠ 0

/-- **Legal specs survive exactly when none is a one-bit match.**  The header of such a spec is
    zero, which the decoder takes for padding; it stops there, and every spec behind it is lost with
    it. -/
theorem specsSurvive_iff {learn : NxLearn} (h : ∀ s ∈ learn.specs, s.Legal) :
    SpecsSurvive learn ↔ ∀ s ∈ learn.specs, s.isOneBitMatch = false := by
  have hheader : ∀ s : LearnSpec, learnSpecHeader (encodeLearnSpec s) = s.header := by
    intro s
    rw [learnSpecHeader, s.encode_eq]
    have hread := beAt_be_append (E := Error) s.header s.body rfl
    rw [beAt_eq_ok (by simp)] at hread
    exact Outcome.ok.inj hread
  have hdecode : decodeLearnSpecs (learnSpecBytes learn) = .ok learn.specs ↔
      ∀ s ∈ learn.specs, s.isOneBitMatch = false := by
    rw [learnSpecBytes_eq, decodeLearnSpecs_encode h, Outcome.ok.injEq, List.takeWhile_eq_self_iff]
    simp
  refine ⟨fun hs => hdecode.mp hs.1, fun hall => ⟨hdecode.mpr hall, fun s hs hzero => ?_⟩⟩
  rw [hheader, LearnSpec.header_eq_zero_iff (h s hs), hall s hs] at hzero
  cases hzero

/-- A MAC learning action: match and load of whole fields, and an output. -/
def macLearn : NxLearn where
  tableId := 1
  idleTimeout := 300
  specs :=
    [.matchField 0x00000406 0x00000206 48, .loadImmediate 0x00010004 [0, 7] 16,
      .outputField 0x00000002 16]

theorem macLearn_legal : ∀ s ∈ macLearn.specs, s.Legal := by
  intro s hs
  simp only [macLearn, List.mem_cons, List.not_mem_nil, or_false] at hs
  rcases hs with rfl | rfl | rfl
  · exact ⟨by decide, by decide, trivial⟩
  · exact ⟨by decide, by decide, rfl⟩
  · exact ⟨by decide, by decide, trivial⟩

theorem macLearn_survives : SpecsSurvive macLearn :=
  (specsSurvive_iff macLearn_legal).mpr (by decide)

/-- A one-bit match before an output. -/
def oneBitLearn : NxLearn where
  specs := [.matchField 0x00010804 0x00010804 1, .outputField 0x00000002 16]

theorem oneBitLearn_lost : (∀ s ∈ oneBitLearn.specs, s.Legal) ∧
    decodeLearnSpecs (learnSpecBytes oneBitLearn) = .ok [] ∧ ¬ SpecsSurvive oneBitLearn := by
  have hlegal : ∀ s ∈ oneBitLearn.specs, s.Legal := by
    intro s hs
    simp only [oneBitLearn, List.mem_cons, List.not_mem_nil, or_false] at hs
    rcases hs with rfl | rfl
    · exact ⟨by decide, by decide, trivial⟩
    · exact ⟨by decide, by decide, trivial⟩
  have hdecode : decodeLearnSpecs (learnSpecBytes oneBitLearn) = .ok [] := by decide
  refine ⟨hlegal, hdecode, fun h => ?_⟩
  have hsame := h.1
  rw [hdecode] at hsame
  cases hsame

end Rovs.OpenFlow

import Rovs.ActionRoundTrip

/-!
# The numbers in learn immediates

An immediate of a learn spec is a big-endian number, written in sixteen-bit units
wide enough for its bits.  A shorter value is aligned with the low end of its
bytes, a longer one is cut at that end: its leading bytes are kept, which are zero
when the number fits its bits.  So the number is kept exactly for values that are
not longer than their width, and for zero.

`immediateKept_iff` says so for a spec at any place of a list.
-/

namespace Rovs.OpenFlow

open Outcome

/-! ### Numbers of padded and cut bytes -/

theorem fromBe_zeros_append (n : Nat) (bytes : Bytes) :
    fromBe (zeros n ++ bytes) = fromBe bytes := by
  have hzeros : fromBe (zeros n) = 0 := by
    induction n with
    | zero => rfl
    | succ n ih =>
      rw [zeros_add, fromBe_append, ih]
      rfl
  rw [fromBe_append, hzeros, Nat.zero_mul, Nat.zero_add]

/-- Cutting bytes off the low end divides the number. -/
theorem fromBe_take (bytes : Bytes) (n : Nat) :
    fromBe (bytes.take n) = fromBe bytes / 256 ^ (bytes.length - n) := by
  have hsplit : fromBe bytes =
      fromBe (bytes.take n) * 256 ^ (bytes.length - n) + fromBe (bytes.drop n) := by
    conv => lhs; rw [← List.take_append_drop n bytes]
    rw [fromBe_append, List.length_drop]
  have hlt : fromBe (bytes.drop n) < 256 ^ (bytes.length - n) := by
    have h := fromBe_lt (bytes.drop n)
    rwa [List.length_drop] at h
  have hpos : 0 < 256 ^ (bytes.length - n) := Nat.pow_pos (by decide)
  rw [hsplit, Nat.mul_comm, Nat.mul_add_div hpos, Nat.div_eq_of_lt hlt, Nat.add_zero]

/-- A number stays the same when bytes are cut off its low end only if none are or it is zero. -/
theorem div_pow_eq_self_iff (a k : Nat) : a / 256 ^ k = a ↔ k = 0 ∨ a = 0 := by
  constructor
  case mp =>
    intro h
    by_cases hk : k = 0
    · exact .inl hk
    · by_contra hne
      have ha : 0 < a := Nat.pos_of_ne_zero fun ha => hne (.inr ha)
      have hlt : a / 256 ^ k < a := Nat.div_lt_self ha (Nat.one_lt_pow hk (by decide))
      omega
  case mpr =>
    rintro (rfl | rfl)
    · exact Nat.div_one a
    · exact Nat.zero_div _

/-- The number that is written for a value. -/
theorem fromBe_encodeLearnValue (value : Bytes) (nBits : U16) :
    fromBe (encodeLearnValue value nBits) =
      fromBe value / 256 ^ (value.length - learnValueLen nBits) := by
  have htake : value.take (min value.length (learnValueLen nBits)) =
      value.take (learnValueLen nBits) := by
    rw [Nat.min_comm, ← List.take_take, List.take_length]
  rw [encodeLearnValue, fromBe_zeros_append, htake, fromBe_take]

/-! ### The immediate of a spec -/

namespace LearnSpec

/-- The value of a spec with an immediate. -/
def immediate : LearnSpec → Option Bytes
  | .matchImmediate _ value _ | .loadImmediate _ value _ => some value
  | _ => none

/-- A width that the header of a spec has room for. -/
def WidthLegal (spec : LearnSpec) : Prop := 1 ≤ spec.nBits.toNat ∧ spec.nBits.toNat ≤ 2048

instance : DecidablePred WidthLegal := fun _ => inferInstanceAs (Decidable (_ ∧ _))

end LearnSpec

/-- What `encode_learn_specs` writes for one spec of a list between its header word and the six
    bytes of its destination. -/
def emittedImmediate (before : List LearnSpec) (spec : LearnSpec) (after : List LearnSpec) :
    Bytes :=
  ((encodeLearnSpecs (before ++ spec :: after)).drop ((encodeLearnSpecs before).length + 2)).take
    ((encodeLearnSpec spec).length - 8)

/-- A spec of a list whose immediate is written as it should be, and read back as its number. -/
structure ImmediateKept (before : List LearnSpec) (spec : LearnSpec) (after : List LearnSpec)
    (value : Bytes) : Prop where
  width : (emittedImmediate before spec after).length = 2 * ((spec.nBits.toNat + 15) / 16)
  number : fromBe (emittedImmediate before spec after) = fromBe value
  decoded : ∀ padding, ∃ specs read readValue,
    decodeLearnSpecs (encodeLearnSpecs (before ++ spec :: after) ++ zeros padding) = .ok specs ∧
      specs[before.length]? = some read ∧ read.immediate = some readValue ∧
      fromBe readValue = fromBe value

namespace LearnSpec

variable {spec : LearnSpec} {value : Bytes}

theorem body_immediate (h : spec.immediate = some value) :
    ∃ dst, spec.body = encodeLearnValue value spec.nBits ++ encodeLearnSubfield dst 0 := by
  cases spec with
  | matchImmediate dst v n | loadImmediate dst v n =>
    cases h
    exact ⟨dst, rfl⟩
  | matchField | loadField | outputField => cases h

theorem fitted_immediate (h : spec.immediate = some value) :
    spec.fitted.immediate = some (encodeLearnValue value spec.nBits) := by
  cases spec with
  | matchImmediate dst v n | loadImmediate dst v n =>
    cases h
    rfl
  | matchField | loadField | outputField => cases h

theorem not_oneBitMatch_of_immediate (h : spec.immediate = some value) :
    spec.isOneBitMatch = false := by
  cases spec with
  | matchField => cases h
  | matchImmediate | loadField | loadImmediate | outputField => rfl

end LearnSpec

section Immediate

variable {before after : List LearnSpec} {spec : LearnSpec} {value : Bytes}

theorem emittedImmediate_eq (hvalue : spec.immediate = some value) :
    emittedImmediate before spec after = encodeLearnValue value spec.nBits := by
  obtain ⟨dst, hbody⟩ := LearnSpec.body_immediate hvalue
  have hspecs : encodeLearnSpecs (before ++ spec :: after) =
      (encodeLearnSpecs before ++ be spec.header) ++
        (encodeLearnValue value spec.nBits ++ (encodeLearnSubfield dst 0 ++
          encodeLearnSpecs after)) := by
    simp only [encodeLearnSpecs, List.flatMap_append, List.flatMap_cons, spec.encode_eq, hbody,
      List.append_assoc]
  have hfront : (encodeLearnSpecs before ++ be spec.header).length =
      (encodeLearnSpecs before).length + 2 := by
    rw [List.length_append, be_length]
  have hlength : (encodeLearnSpec spec).length - 8 =
      (encodeLearnValue value spec.nBits).length := by
    rw [spec.encode_eq, hbody, List.length_append, List.length_append, be_length,
      encodeLearnSubfield, List.length_append, be_length, be_length]
    omega
  rw [emittedImmediate, hspecs, hlength, ← hfront, List.drop_left, List.take_left]

/-- Behind specs that are not one-bit matches, a spec is read back as the next one. -/
theorem decodeLearnSpecs_context (hwidths : ∀ s ∈ before ++ spec :: after, s.WidthLegal)
    (hbefore : ∀ s ∈ before, s.isOneBitMatch = false) (hspec : spec.isOneBitMatch = false)
    (padding : Nat) : ∃ specs,
      decodeLearnSpecs (encodeLearnSpecs (before ++ spec :: after) ++ zeros padding) = .ok specs ∧
        specs[before.length]? = some spec.fitted := by
  refine ⟨_, decodeLearnSpecs_fitted hwidths padding, ?_⟩
  have hfront : ∀ s ∈ before.map LearnSpec.fitted, (!s.isOneBitMatch) = true := by
    intro s hs
    obtain ⟨b, hb, rfl⟩ := List.mem_map.mp hs
    rw [LearnSpec.fitted_isOneBitMatch, hbefore b hb]
    rfl
  have hhead : (!spec.fitted.isOneBitMatch) = true := by
    rw [LearnSpec.fitted_isOneBitMatch, hspec]
    rfl
  rw [List.map_append, List.map_cons, List.takeWhile_append_of_pos hfront,
    List.takeWhile_cons_of_pos (p := fun s : LearnSpec => !s.isOneBitMatch) hhead,
    List.getElem?_append_right (by rw [List.length_map])]
  rw [List.length_map, Nat.sub_self]
  rfl

/-- **An immediate is written in its width, and it keeps its number, on the wire and when it is
    read back, exactly if its value is not longer than the width or the number is zero.** -/
theorem immediateKept_iff (hvalue : spec.immediate = some value)
    (hwidths : ∀ s ∈ before ++ spec :: after, s.WidthLegal)
    (hbefore : ∀ s ∈ before, s.isOneBitMatch = false) :
    ImmediateKept before spec after value ↔
      value.length ≤ 2 * ((spec.nBits.toNat + 15) / 16) ∨ fromBe value = 0 := by
  have hlen : learnValueLen spec.nBits = 2 * ((spec.nBits.toNat + 15) / 16) := Nat.mul_comm _ _
  have hnumber : fromBe (encodeLearnValue value spec.nBits) = fromBe value ↔
      value.length ≤ 2 * ((spec.nBits.toNat + 15) / 16) ∨ fromBe value = 0 := by
    rw [fromBe_encodeLearnValue, div_pow_eq_self_iff, hlen, Nat.sub_eq_zero_iff_le]
  rw [← hnumber]
  constructor
  case mp =>
    intro h
    rw [← emittedImmediate_eq hvalue]
    exact h.number
  case mpr =>
    intro h
    constructor
    case width => rw [emittedImmediate_eq hvalue, LearnSpec.encodeLearnValue_length, hlen]
    case number => rwa [emittedImmediate_eq hvalue]
    case decoded =>
      intro padding
      obtain ⟨specs, hdecode, hread⟩ := decodeLearnSpecs_context hwidths hbefore
        (LearnSpec.not_oneBitMatch_of_immediate hvalue) padding
      exact ⟨specs, _, _, hdecode, hread, LearnSpec.fitted_immediate hvalue, h⟩

end Immediate

/-- Seven, written with the four bytes of a word: register zero is loaded from it. -/
theorem immediateKept_seven :
    ImmediateKept [.matchField 0x00000406 0x00000206 48]
      (.loadImmediate 0x00010004 [0, 0, 0, 7] 32) [] [0, 0, 0, 7] :=
  (immediateKept_iff rfl (by decide) (by decide)).mpr (.inl (by decide))

/-- Seven as a longer word. -/
def longSeven : Bytes := [0, 0, 0, 0, 0, 0, 0, 7]

/-- Seven fits sixteen bits, but of its eight bytes the leading two are written: zero is loaded. -/
theorem longSeven_lost : fromBe longSeven < 2 ^ 16 ∧
    emittedImmediate [] (.loadImmediate 0x00010004 longSeven 16) [] = [0, 0] ∧
      decodeLearnSpecs (encodeLearnSpecs [.loadImmediate 0x00010004 longSeven 16]) =
        .ok [.loadImmediate 0x00010004 [0, 0] 16] ∧
      ¬ ImmediateKept [] (.loadImmediate 0x00010004 longSeven 16) [] longSeven := by
  refine ⟨by decide, by decide, by decide, fun h => ?_⟩
  exact absurd h.number (by decide)

end Rovs.OpenFlow

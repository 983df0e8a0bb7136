import Mathlib.Algebra.Group.Nat.Defs
import Mathlib.Data.List.Basic

/-!
# Numerals

Unsigned integers as texts in some radix: the integer parser of the standard library and the
texts that it accepts.  The parser takes one leading plus sign and any number of leading zeros;
what `Nat.toDigits` writes is read back, also behind zeros.
-/

namespace Rovs

/-- `core::num::IntErrorKind`, as far as unsigned integers have it. -/
inductive ParseIntError where
  | empty
  | invalidDigit
  | posOverflow
deriving DecidableEq, Repr

def ParseIntError.display : ParseIntError → String
  | .empty => "cannot parse integer from empty string"
  | .invalidDigit => "invalid digit found in string"
  | .posOverflow => "number too large to fit in target type"

/-! ### Digits -/

/-- `char::to_digit`. -/
def toDigit (radix : Nat) (c : Char) : Option Nat :=
  let value :=
    if 48 ≤ c.toNat ∧ c.toNat ≤ 57 then some (c.toNat - 48)
    else if 97 ≤ c.toNat ∧ c.toNat ≤ 122 then some (c.toNat - 87)
    else if 65 ≤ c.toNat ∧ c.toNat ≤ 90 then some (c.toNat - 55)
    else none
  value.filter (· < radix)

/-- The code points of digits. -/
theorem toDigit_range {radix : Nat} {c : Char} (h : (toDigit radix c).isSome) :
    48 ≤ c.toNat ∧ c.toNat ≤ 57 ∨ 97 ≤ c.toNat ∧ c.toNat ≤ 122 ∨
      65 ≤ c.toNat ∧ c.toNat ≤ 90 := by
  unfold toDigit at h
  simp only at h
  split at h
  case isTrue hdec => exact .inl hdec
  split at h
  case isTrue hlower => exact .inr (.inl hlower)
  split at h
  case isTrue hupper => exact .inr (.inr hupper)
  case isFalse => cases h

/-- The value of a row of digits behind the value of those in front of it. -/
def valueFrom (radix acc : Nat) (digits : List Char) : Nat :=
  digits.foldl (fun acc c => acc * radix + (toDigit radix c).getD 0) acc

/-- The value of a row of digits. -/
def numeral (radix : Nat) (digits : List Char) : Nat := valueFrom radix 0 digits

/-- At least one digit, and nothing but digits. -/
structure IsNumeral (radix : Nat) (digits : List Char) : Prop where
  ne_nil : digits ≠ []
  digit : ∀ c ∈ digits, (toDigit radix c).isSome

section Values

variable {radix acc n : Nat} {c : Char} {digits : List Char}

@[simp] theorem valueFrom_nil : valueFrom radix acc [] = acc := rfl

theorem valueFrom_cons :
    valueFrom radix acc (c :: digits) =
      valueFrom radix (acc * radix + (toDigit radix c).getD 0) digits := rfl

theorem valueFrom_append (front : List Char) :
    valueFrom radix acc (front ++ digits) = valueFrom radix (valueFrom radix acc front) digits :=
  List.foldl_append

/-- More digits do not make the value smaller. -/
theorem le_valueFrom (hradix : 0 < radix) : acc ≤ valueFrom radix acc digits := by
  induction digits generalizing acc with
  | nil => exact Nat.le_refl _
  | cons c digits ih =>
    rw [valueFrom_cons]
    have hmul : acc * 1 ≤ acc * radix := Nat.mul_le_mul_left acc hradix
    exact Nat.le_trans (by omega) ih

theorem numeral_zeros_append (k : Nat) :
    numeral radix (List.replicate k '0' ++ digits) = numeral radix digits := by
  have hzero : (toDigit radix '0').getD 0 = 0 := by
    cases radix with
    | zero => rfl
    | succ radix => rfl
  have hzeros : valueFrom radix 0 (List.replicate k '0') = 0 := by
    induction k with
    | zero => rfl
    | succ k ih =>
      rw [List.replicate_succ, valueFrom_cons, hzero, Nat.zero_mul]
      exact ih
  rw [numeral, valueFrom_append, hzeros]
  rfl

theorem IsNumeral.zeros_append (h : IsNumeral radix digits) (hradix : 0 < radix) (k : Nat) :
    IsNumeral radix (List.replicate k '0' ++ digits) := by
  have hzero : (toDigit radix '0').isSome := by
    cases radix with
    | zero => exact absurd hradix (Nat.lt_irrefl 0)
    | succ radix => rfl
  constructor
  case ne_nil =>
    intro hnil
    exact h.ne_nil (List.append_eq_nil_iff.mp hnil).2
  case digit =>
    intro c hc
    rcases List.mem_append.mp hc with hc | hc
    · rw [List.eq_of_mem_replicate hc]
      exact hzero
    · exact h.digit c hc

end Values

/-! ### The parser -/

/-- The checked loop of `from_str_radix`: each digit is looked at before the value is tried. -/
def addDigits (radix limit : Nat) (result : Nat) : List Char → Except ParseIntError Nat
  | [] => .ok result
  | c :: rest =>
    match toDigit radix c with
    | none => .error .invalidDigit
    | some x =>
      if result * radix + x < limit then addDigits radix limit (result * radix + x) rest
      else .error .posOverflow

/-- `from_str_radix` of an unsigned integer of `w` bits; `parse` is the same in radix ten. -/
def fromStrRadix (w radix : Nat) (src : List Char) : Except ParseIntError (BitVec w) :=
  if src = [] then .error .empty
  else if src = ['+'] ∨ src = ['-'] then .error .invalidDigit
  else
    let digits := if src.head? = some '+' then src.tail else src
    (addDigits radix (2 ^ w) 0 digits).map (BitVec.ofNat w)

section Parser

variable {radix limit acc n w : Nat} {digits src : List Char}

/-- The loop ends with a value exactly on digits whose value is below the limit. -/
theorem addDigits_eq_ok (hradix : 0 < radix) (hacc : acc < limit) :
    addDigits radix limit acc digits = .ok n ↔
      (∀ c ∈ digits, (toDigit radix c).isSome) ∧ valueFrom radix acc digits = n ∧ n < limit := by
  induction digits generalizing acc with
  | nil =>
    simp only [addDigits, Except.ok.injEq, List.not_mem_nil, false_implies, implies_true,
      valueFrom_nil, true_and]
    constructor
    case mp =>
      rintro rfl
      exact ⟨rfl, hacc⟩
    case mpr => exact And.left
  | cons c digits ih =>
    cases hc : toDigit radix c with
    | none => simp [addDigits, hc]
    | some x =>
      simp only [addDigits, hc, valueFrom_cons, Option.getD_some, List.mem_cons, forall_eq_or_imp,
        Option.isSome_some, true_and]
      by_cases hfits : acc * radix + x < limit
      case pos =>
        rw [if_pos hfits]
        exact ih hfits
      case neg =>
        rw [if_neg hfits]
        simp only [reduceCtorEq, false_iff]
        rintro ⟨-, rfl, hlt⟩
        exact hfits (Nat.lt_of_le_of_lt (le_valueFrom hradix) hlt)

theorem toDigit_plus (radix : Nat) : toDigit radix '+' = none := rfl

theorem toDigit_minus (radix : Nat) : toDigit radix '-' = none := rfl

theorem IsNumeral.head_ne_plus (h : IsNumeral radix digits) : digits.head? ≠ some '+' := by
  intro hhead
  have hdigit := h.digit '+' (List.mem_of_mem_head? hhead)
  rw [toDigit_plus] at hdigit
  cases hdigit

theorem addDigits_map_eq_ok (hradix : 0 < radix) {v : BitVec w} :
    (addDigits radix (2 ^ w) 0 digits).map (BitVec.ofNat w) = .ok v ↔
      (∀ c ∈ digits, (toDigit radix c).isSome) ∧ numeral radix digits = v.toNat := by
  have hzero : 0 < 2 ^ w := Nat.two_pow_pos w
  constructor
  case mp =>
    intro h
    cases hn : addDigits radix (2 ^ w) 0 digits with
    | error e =>
      rw [hn] at h
      cases h
    | ok n =>
      rw [hn] at h
      cases h
      obtain ⟨hdigits, hvalue, hlt⟩ := (addDigits_eq_ok hradix hzero).mp hn
      rw [BitVec.toNat_ofNat, Nat.mod_eq_of_lt hlt]
      exact ⟨hdigits, hvalue⟩
  case mpr =>
    rintro ⟨hdigits, hvalue⟩
    rw [(addDigits_eq_ok hradix hzero).mpr ⟨hdigits, hvalue, v.isLt⟩]
    simp only [Except.map, BitVec.ofNat_toNat, BitVec.setWidth_eq]

/-- Behind a plus sign the parser accepts a numeral that fits. -/
theorem fromStrRadix_plus (hradix : 0 < radix) {v : BitVec w} :
    fromStrRadix w radix ('+' :: digits) = .ok v ↔
      IsNumeral radix digits ∧ numeral radix digits = v.toNat := by
  by_cases hnil : digits = []
  case pos =>
    subst hnil
    have herror : fromStrRadix w radix ['+'] = .error .invalidDigit := rfl
    rw [herror]
    simp only [reduceCtorEq, false_iff]
    rintro ⟨hnumeral, -⟩
    exact hnumeral.ne_nil rfl
  case neg =>
    have hsign : ¬ ('+' :: digits = ['+'] ∨ '+' :: digits = ['-']) := by simp [hnil]
    simp only [fromStrRadix, if_neg (List.cons_ne_nil _ _), if_neg hsign, List.head?_cons,
      if_pos, List.tail_cons]
    rw [addDigits_map_eq_ok hradix]
    constructor
    case mp =>
      rintro ⟨hdigits, hvalue⟩
      exact ⟨⟨hnil, hdigits⟩, hvalue⟩
    case mpr =>
      rintro ⟨hnumeral, hvalue⟩
      exact ⟨hnumeral.digit, hvalue⟩

/-- Without one it accepts a numeral that fits. -/
theorem fromStrRadix_plain (hradix : 0 < radix) (hplus : src.head? ≠ some '+') {v : BitVec w} :
    fromStrRadix w radix src = .ok v ↔ IsNumeral radix src ∧ numeral radix src = v.toNat := by
  unfold fromStrRadix
  split
  case isTrue hnil =>
    simp only [reduceCtorEq, false_iff]
    rintro ⟨hnumeral, -⟩
    exact hnumeral.ne_nil hnil
  split
  case isTrue hsign =>
    simp only [reduceCtorEq, false_iff]
    rintro ⟨hnumeral, -⟩
    rcases hsign with rfl | rfl
    · exact hplus rfl
    · have hdigit := hnumeral.digit '-' (List.mem_singleton_self _)
      rw [toDigit_minus] at hdigit
      cases hdigit
  case isFalse hnil hsign =>
    rw [addDigits_map_eq_ok hradix]
    constructor
    case mp =>
      rintro ⟨hdigits, hvalue⟩
      exact ⟨⟨hnil, hdigits⟩, hvalue⟩
    case mpr =>
      rintro ⟨hnumeral, hvalue⟩
      exact ⟨hnumeral.digit, hvalue⟩

/-- The parser accepts a numeral that fits, and the same behind one plus sign. -/
theorem fromStrRadix_eq_ok (hradix : 0 < radix) {v : BitVec w} :
    fromStrRadix w radix src = .ok v ↔
      ∃ digits, (src = digits ∨ src = '+' :: digits) ∧ IsNumeral radix digits ∧
        numeral radix digits = v.toNat := by
  by_cases hplus : src.head? = some '+'
  case pos =>
    obtain ⟨tail, rfl⟩ := List.head?_eq_some_iff.mp hplus
    rw [fromStrRadix_plus hradix]
    constructor
    case mp => exact fun h => ⟨tail, .inr rfl, h⟩
    case mpr =>
      rintro ⟨digits, rfl | heq, hnumeral, hvalue⟩
      · exact absurd hplus hnumeral.head_ne_plus
      · cases heq
        exact ⟨hnumeral, hvalue⟩
  case neg =>
    rw [fromStrRadix_plain hradix hplus]
    constructor
    case mp => exact fun h => ⟨src, .inl rfl, h⟩
    case mpr =>
      rintro ⟨digits, rfl | rfl, h⟩
      · exact h
      · exact absurd rfl hplus

/-- A numeral is read as its value. -/
theorem fromStrRadix_numeral (hradix : 0 < radix) {v : BitVec w} (h : IsNumeral radix digits)
    (hvalue : numeral radix digits = v.toNat) : fromStrRadix w radix digits = .ok v :=
  (fromStrRadix_eq_ok hradix).mpr ⟨digits, .inl rfl, h, hvalue⟩

end Parser

/-! ### Printed numbers -/

theorem toDigit_digitChar_all : ∀ b ≤ 16, ∀ d < b, toDigit b d.digitChar = some d := by
  decide

section Printed

variable {b : Nat}

theorem isNumeral_toDigits (hb : 1 < b) (hb' : b ≤ 16) (n : Nat) :
    IsNumeral b (Nat.toDigits b n) := by
  constructor
  case ne_nil => exact Nat.toDigits_ne_nil
  case digit =>
    induction n using Nat.strongRecOn with
    | ind n ih =>
      intro c hc
      rw [Nat.toDigits_eq_if hb] at hc
      split at hc
      case isTrue hlt =>
        rw [List.mem_singleton.mp hc, toDigit_digitChar_all b hb' n hlt]
        rfl
      case isFalse hge =>
        rcases List.mem_append.mp hc with hc | hc
        · exact ih _ (Nat.div_lt_self (by omega) hb) c hc
        · rw [List.mem_singleton.mp hc, toDigit_digitChar_all b hb' _ (Nat.mod_lt _ (by omega))]
          rfl

theorem numeral_toDigits (hb : 1 < b) (hb' : b ≤ 16) (n : Nat) :
    numeral b (Nat.toDigits b n) = n := by
  induction n using Nat.strongRecOn with
  | ind n ih =>
    rw [Nat.toDigits_eq_if hb]
    split
    case isTrue hlt =>
      rw [numeral, valueFrom_cons, toDigit_digitChar_all b hb' n hlt, valueFrom_nil]
      simp
    case isFalse hge =>
      have hdiv := ih _ (Nat.div_lt_self (by omega) hb)
      rw [numeral] at hdiv
      rw [numeral, valueFrom_append, hdiv, valueFrom_cons, valueFrom_nil,
        toDigit_digitChar_all b hb' _ (Nat.mod_lt _ (by omega))]
      exact Nat.div_add_mod' n b

end Printed

end Rovs

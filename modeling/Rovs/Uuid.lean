import Rovs.Bytes

/-!
# UUIDs and their text form

A UUID is a 128-bit word.  Its text form comes from the UUID library, so it is a
parameter of the model: a way to write a UUID and a parser that reads back what was
written.  `hyphenated` is the form that the library writes, 32 hexadecimal digits in
groups of 8, 4, 4, 4 and 12.
-/

namespace Rovs

abbrev Uuid := BitVec 128

/-- How UUIDs are written and read. -/
structure UuidFormat where
  display : Uuid → String
  parse : String → Option Uuid
  parse_display : ∀ u, parse (display u) = some u

theorem UuidFormat.display_inj (fmt : UuidFormat) {u v : Uuid}
    (h : fmt.display u = fmt.display v) : u = v := by
  have hparse := congrArg fmt.parse h
  rw [fmt.parse_display, fmt.parse_display] at hparse
  exact Option.some.inj hparse

/-! ### Hexadecimal digits -/

def hexDigits : List Char := "0123456789abcdef".toList

def hexDigit (n : Nat) : Char := hexDigits.getD (n % 16) '0'

def hexValue (c : Char) : Option Nat := hexDigits.findIdx? (· == c.toLower)

theorem hexValue_hexDigit (n : Nat) : hexValue (hexDigit n) = some (n % 16) := by
  have hall : ∀ i < 16, hexValue (hexDigits.getD i '0') = some i := by decide +kernel
  exact hall (n % 16) (Nat.mod_lt n (by decide))

/-- The last `k` hexadecimal digits of a number. -/
def toHex : Nat → Nat → List Char
  | 0, _ => []
  | k + 1, n => toHex k (n / 16) ++ [hexDigit n]

def ofHex (cs : List Char) : Option Nat :=
  cs.foldl (fun acc c => acc.bind fun n => (hexValue c).map (n * 16 + ·)) (some 0)

theorem toHex_length (k n : Nat) : (toHex k n).length = k := by
  induction k generalizing n with
  | zero => rfl
  | succ k ih => rw [toHex, List.length_append, ih, List.length_singleton]

theorem ofHex_toHex (k n : Nat) : ofHex (toHex k n) = some (n % 16 ^ k) := by
  induction k generalizing n with
  | zero => rw [Nat.pow_zero, Nat.mod_one]; rfl
  | succ k ih =>
    have hstep : ofHex (toHex (k + 1) n) =
        (ofHex (toHex k (n / 16))).bind fun m => (hexValue (hexDigit n)).map (m * 16 + ·) := by
      rw [toHex, ofHex, List.foldl_append]
      rfl
    rw [hstep, ih, hexValue_hexDigit, Option.bind_some, Option.map_some, Nat.pow_succ',
      Nat.mod_mul]
    congr 1
    omega

/-! ### The hyphenated form -/

/-- A group of digits: how many digits it has and how many bits stand behind it. -/
abbrev HexGroup := Nat × Nat

def uuidGroups : List HexGroup := [(8, 96), (4, 80), (4, 64), (4, 48), (12, 0)]

/-- The groups of a number, each behind a hyphen. -/
def displayGroups (n : Nat) (groups : List HexGroup) : List Char :=
  groups.flatMap fun group => '-' :: toHex group.1 (n / 2 ^ group.2)

def parseGroups : List HexGroup → List Char → Option Nat
  | [], [] => some 0
  | (k, shift) :: groups, '-' :: cs =>
    if k ≤ cs.length then do
      let high ← ofHex (cs.take k)
      let low ← parseGroups groups (cs.drop k)
      return high * 2 ^ shift + low
    else none
  | _, _ => none

def groupsValue (n : Nat) : List HexGroup → Nat
  | [] => 0
  | (k, shift) :: groups => n / 2 ^ shift % 16 ^ k * 2 ^ shift + groupsValue n groups

/-- Groups of hexadecimal digits are read back with the value they were printed from. -/
theorem parseGroups_displayGroups (n : Nat) (groups : List HexGroup) :
    parseGroups groups (displayGroups n groups) = some (groupsValue n groups) := by
  induction groups with
  | nil => rfl
  | cons group groups ih =>
    obtain ⟨k, shift⟩ := group
    have hdisplay : displayGroups n ((k, shift) :: groups) =
        '-' :: (toHex k (n / 2 ^ shift) ++ displayGroups n groups) := rfl
    have hlen := toHex_length k (n / 2 ^ shift)
    rw [hdisplay, parseGroups, if_pos (by rw [List.length_append]; omega),
      List.take_left' hlen, List.drop_left' hlen, ofHex_toHex, ih]
    rfl

theorem groupsValue_uuidGroups (u : Uuid) : groupsValue u.toNat uuidGroups = u.toNat := by
  have hlt := u.isLt
  simp only [uuidGroups, groupsValue]
  omega

/-- The form that the library writes, `xxxxxxxx-xxxx-xxxx-xxxx-xxxxxxxxxxxx`. -/
def hyphenated : UuidFormat where
  display u := String.ofList (displayGroups u.toNat uuidGroups).tail
  parse s := (parseGroups uuidGroups ('-' :: s.toList)).map (BitVec.ofNat 128)
  parse_display u := by
    have hcons : '-' :: (displayGroups u.toNat uuidGroups).tail =
        displayGroups u.toNat uuidGroups := rfl
    rw [String.toList_ofList, hcons, parseGroups_displayGroups, groupsValue_uuidGroups,
      Option.map_some, BitVec.ofNat_toNat, BitVec.setWidth_eq]

example : hyphenated.parse "00000000-0000-0000-0000-0000000000Ff" = some 255 := by decide +kernel

end Rovs

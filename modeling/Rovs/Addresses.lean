import Mathlib.Data.List.Forall2
import Rovs.MatchDisplay
import Rovs.Numerals
import Rovs.Texts

/-!
# Addresses as text (`rovs-ext/src/util/convert.rs`)

The parsers split an address at its separators and hand each part to the integer parser of the
standard library.  That parser takes a plus sign in front of the digits and zeros in front of
the value, so both address parsers accept texts that are not addresses.  `[u8; 6]` and
`[u8; 4]` are words, first octet most significant.

`MacText` and `Ipv4Text` are the grammar that is documented, `LooseMac` and `LooseIpv4` the
texts that are accepted besides.  `addresses_grammar` is the main result.
-/

namespace Rovs.Ext

open OpenFlow (MacAddr Ipv4Addr)
open Texts

/-- The variants of the crate's error that the conversions return. -/
inductive ConvertError where
  | invalidMac (what : String)
  | invalidIp (what : String)
deriving DecidableEq, Repr

/-- `format_mac`, the same format string as in the text of a match. -/
def formatMac (mac : MacAddr) : String := OpenFlow.formatMac mac

/-- `format_ipv4`. -/
def formatIpv4 (ip : Ipv4Addr) : String := OpenFlow.formatIpv4 ip

/-! ### The parsers -/

/-- The number of parts is checked, then each part is read as an octet of the address. -/
def readOctets (w radix : Nat) (invalid : String → ConvertError) (label s : String)
    (parts : List (List Char)) : Except ConvertError (BitVec w) :=
  if parts.length ≠ w / 8 then
    .error (invalid ("expected " ++ toString (w / 8) ++ " octets, got " ++ toString parts.length
      ++ ": " ++ s))
  else do
    let octets ← parts.mapM fun part =>
      (fromStrRadix 8 radix part).mapError fun e =>
        invalid ("invalid " ++ label ++ " '" ++ String.ofList part ++ "': " ++ e.display)
    pure (BitVec.ofNat w (fromBe octets))

/-- The parts of a MAC address: colons are looked for before dashes. -/
def macParts (s : String) : Except ConvertError (List (List Char)) :=
  if ':' ∈ s.toList then .ok (s.toList.splitOn ':')
  else if '-' ∈ s.toList then .ok (s.toList.splitOn '-')
  else .error (.invalidMac ("invalid format, expected xx:xx:xx:xx:xx:xx: " ++ s))

def parseMac (s : String) : Except ConvertError MacAddr := do
  let parts ← macParts s
  readOctets 48 16 .invalidMac "hex octet" s parts

def parseIpv4 (s : String) : Except ConvertError Ipv4Addr :=
  readOctets 32 10 .invalidIp "octet" s (s.toList.splitOn '.')

/-! ### The grammar -/

/-- The groups of a MAC address, between colons or between dashes. -/
def MacGroups (s : String) (groups : List (List Char)) : Prop :=
  ∃ sep, (sep = ':' ∨ sep = '-') ∧ s.toList = [sep].intercalate groups

/-- The numbers of an IPv4 address, between dots. -/
def Ipv4Groups (s : String) (groups : List (List Char)) : Prop :=
  s.toList = ['.'].intercalate groups

/-- One or two hexadecimal digits. -/
structure HexOctet (group : List Char) (octet : U8) : Prop where
  digits : IsNumeral 16 group
  length_le : group.length ≤ 2
  value : numeral 16 group = octet.toNat

/-- Decimal digits. -/
structure DecOctet (group : List Char) (octet : U8) : Prop where
  digits : IsNumeral 10 group
  value : numeral 10 group = octet.toNat

/-- Groups whose octets are those of the word. -/
def Spells {w : Nat} (split : List (List Char) → Prop) (octet : List Char → U8 → Prop)
    (v : BitVec w) : Prop :=
  ∃ groups, split groups ∧ List.Forall₂ octet groups (be v)

/-- Six groups of one or two hexadecimal digits. -/
def MacText (s : String) (mac : MacAddr) : Prop := Spells (MacGroups s) HexOctet mac

/-- Four decimal numbers of at most 255. -/
def Ipv4Text (s : String) (ip : Ipv4Addr) : Prop := Spells (Ipv4Groups s) DecOctet ip

/-- What the integer parser takes for an octet: digits of any number, perhaps behind a plus
    sign. -/
def LooseOctet (radix : Nat) (group : List Char) (octet : U8) : Prop :=
  ∃ digits, (group = digits ∨ group = '+' :: digits) ∧ IsNumeral radix digits ∧
    numeral radix digits = octet.toNat

/-- Groups that are read as octets, with one among them that is not of the plain form. -/
def Loosened (n radix : Nat) (split : List (List Char) → Prop) (plain : List Char → Prop) : Prop :=
  ∃ groups octets, split groups ∧ octets.length = n ∧
    List.Forall₂ (LooseOctet radix) groups octets ∧ ∃ group ∈ groups, ¬ plain group

/-- No sign and at most two digits. -/
def PlainHex (group : List Char) : Prop := group.head? ≠ some '+' ∧ group.length ≤ 2

/-- No sign. -/
def PlainDec (group : List Char) : Prop := group.head? ≠ some '+'

/-- A MAC address with a sign or with a third digit in one of its octets. -/
def LooseMac (s : String) : Prop := Loosened 6 16 (MacGroups s) PlainHex

/-- An IPv4 address with a sign in one of its octets. -/
def LooseIpv4 (s : String) : Prop := Loosened 4 10 (Ipv4Groups s) PlainDec

/-! ### What is accepted -/

theorem except_bind_eq_ok {α β E : Type} {x : Except E α} {f : α → Except E β} {b : β} :
    (x >>= f) = .ok b ↔ ∃ a, x = .ok a ∧ f a = .ok b := by
  cases x with
  | error e => simp [bind, Except.bind]
  | ok a => simp [bind, Except.bind]

theorem mapM_eq_ok {α β E : Type} {f : α → Except E β} {xs : List α} {ys : List β} :
    xs.mapM f = .ok ys ↔ List.Forall₂ (fun x y => f x = .ok y) xs ys := by
  induction xs generalizing ys with
  | nil =>
    rw [List.mapM_nil, List.forall₂_nil_left_iff]
    constructor
    case mp =>
      intro h
      cases h
      rfl
    case mpr =>
      rintro rfl
      rfl
  | cons x xs ih =>
    rw [List.mapM_cons, except_bind_eq_ok, List.forall₂_cons_left_iff]
    simp only [except_bind_eq_ok, ih]
    constructor
    case mp =>
      rintro ⟨y, hy, ys', hys, heq⟩
      cases heq
      exact ⟨y, ys', hy, hys, rfl⟩
    case mpr =>
      rintro ⟨y, ys', hy, hys, rfl⟩
      exact ⟨y, hy, ys', hys, rfl⟩

theorem mapError_eq_ok {α E E' : Type} {x : Except E α} {f : E → E'} {a : α} :
    x.mapError f = .ok a ↔ x = .ok a := by
  cases x with
  | error e => simp [Except.mapError]
  | ok a => simp [Except.mapError]

/-- A word and its octets. -/
theorem ofNat_fromBe_eq_iff {w : Nat} (hw : 8 * (w / 8) = w) {octets : Bytes}
    (hlen : octets.length = w / 8) (v : BitVec w) :
    BitVec.ofNat w (fromBe octets) = v ↔ octets = be v := by
  constructor
  case mp =>
    rintro rfl
    have hlt := fromBe_lt octets
    rw [hlen, show 256 = 2 ^ 8 from rfl, ← Nat.pow_mul, hw] at hlt
    rw [be, BitVec.toNat_ofNat, Nat.mod_eq_of_lt hlt, ← hlen, toBe_fromBe]
  case mpr =>
    rintro rfl
    exact ofNat_fromBe_be v hw

section Octets

variable {w radix : Nat}

/-- A word is read from the parts that spell its octets. -/
theorem readOctets_eq_ok (invalid : String → ConvertError) (label s : String)
    (parts : List (List Char)) (hw : 8 * (w / 8) = w) (hradix : 0 < radix) (v : BitVec w) :
    readOctets w radix invalid label s parts = .ok v ↔
      List.Forall₂ (LooseOctet radix) parts (be v) := by
  have hspelled : ∀ octets : Bytes, List.Forall₂ (LooseOctet radix) parts octets ↔
      (parts.mapM fun part => (fromStrRadix 8 radix part).mapError fun e =>
        invalid ("invalid " ++ label ++ " '" ++ String.ofList part ++ "': " ++ e.display)) =
        .ok octets := by
    intro octets
    simp only [mapM_eq_ok, mapError_eq_ok, fromStrRadix_eq_ok hradix]
    rfl
  unfold readOctets
  split
  case isTrue hlen =>
    simp only [reduceCtorEq, false_iff]
    intro h
    exact hlen (by rw [h.length_eq, be_length])
  case isFalse hlen =>
    rw [except_bind_eq_ok]
    simp only [← hspelled]
    constructor
    case mp =>
      rintro ⟨octets, hoctets, heq⟩
      have hoctetsLen : octets.length = w / 8 := by
        rw [← hoctets.length_eq]
        exact not_not.mp hlen
      cases heq
      rwa [← (ofNat_fromBe_eq_iff hw hoctetsLen _).mp rfl]
    case mpr =>
      intro h
      exact ⟨be v, h, congrArg Except.ok (ofNat_fromBe_be v hw)⟩

theorem LooseOctet.not_mem {group : List Char} {octet : U8} (h : LooseOctet radix group octet)
    {c : Char} (hdigit : toDigit radix c = none) (hplus : c ≠ '+') : c ∉ group := by
  intro hc
  obtain ⟨digits, rfl | rfl, hnumeral, -⟩ := h
  · have hsome := hnumeral.digit c hc
    rw [hdigit] at hsome
    cases hsome
  · rcases List.mem_cons.mp hc with rfl | hc
    · exact hplus rfl
    · have hsome := hnumeral.digit c hc
      rw [hdigit] at hsome
      cases hsome

theorem not_mem_of_loose {groups : List (List Char)} {octets : Bytes}
    (h : List.Forall₂ (LooseOctet radix) groups octets) {c : Char}
    (hdigit : toDigit radix c = none) (hplus : c ≠ '+') : ∀ group ∈ groups, c ∉ group := by
  induction h with
  | nil =>
    intro group hgroup
    cases hgroup
  | cons hgroup _ ih =>
    intro group hmem
    rcases List.mem_cons.mp hmem with rfl | hmem
    · exact hgroup.not_mem hdigit hplus
    · exact ih group hmem

end Octets

/-! ### Splitting at the separators -/

theorem ipv4Groups_iff {s : String} {groups : List (List Char)} (hlen : 2 ≤ groups.length)
    (hdot : ∀ group ∈ groups, '.' ∉ group) :
    Ipv4Groups s groups ↔ s.toList.splitOn '.' = groups := by
  constructor
  case mp =>
    intro h
    rw [h]
    exact List.splitOn_intercalate '.' hdot (List.ne_nil_of_length_pos (by omega))
  case mpr =>
    rintro rfl
    exact (List.intercalate_splitOn '.').symm

theorem macGroups_of_macParts {s : String} {groups : List (List Char)}
    (h : macParts s = .ok groups) : MacGroups s groups := by
  unfold macParts at h
  split at h
  case isTrue =>
    cases h
    exact ⟨':', .inl rfl, (List.intercalate_splitOn ':').symm⟩
  split at h
  case isTrue =>
    cases h
    exact ⟨'-', .inr rfl, (List.intercalate_splitOn '-').symm⟩
  case isFalse => cases h

theorem macGroups_iff {s : String} {groups : List (List Char)} (hlen : 2 ≤ groups.length)
    (hcolon : ∀ group ∈ groups, ':' ∉ group) (hdash : ∀ group ∈ groups, '-' ∉ group) :
    MacGroups s groups ↔ macParts s = .ok groups := by
  have hne : groups ≠ [] := List.ne_nil_of_length_pos (by omega)
  constructor
  case mp =>
    rintro ⟨sep, rfl | rfl, hs⟩
    · have hmem : ':' ∈ s.toList := hs ▸ mem_intercalate hlen
      rw [macParts, if_pos hmem, hs, List.splitOn_intercalate ':' hcolon hne]
    · have hmem : '-' ∈ s.toList := hs ▸ mem_intercalate hlen
      have hnot : ':' ∉ s.toList := by
        intro hmem
        rw [hs] at hmem
        rcases mem_of_mem_intercalate hmem with heq | ⟨group, hgroup, hc⟩
        · exact absurd (List.mem_singleton.mp heq) (by decide)
        · exact hcolon group hgroup hc
      rw [macParts, if_neg hnot, if_pos hmem, hs, List.splitOn_intercalate '-' hdash hne]
  case mpr => exact macGroups_of_macParts

/-! ### The parsers accept the loose texts -/

theorem macGroups_iff_of_loose {s : String} {groups : List (List Char)} {octets : Bytes}
    (h : List.Forall₂ (LooseOctet 16) groups octets) (hlen : octets.length = 6) :
    MacGroups s groups ↔ macParts s = .ok groups := by
  apply macGroups_iff
  case hlen =>
    rw [h.length_eq, hlen]
    decide
  case hcolon => exact not_mem_of_loose h rfl (by decide)
  case hdash => exact not_mem_of_loose h rfl (by decide)

theorem ipv4Groups_iff_of_loose {s : String} {groups : List (List Char)} {octets : Bytes}
    (h : List.Forall₂ (LooseOctet 10) groups octets) (hlen : octets.length = 4) :
    Ipv4Groups s groups ↔ s.toList.splitOn '.' = groups := by
  apply ipv4Groups_iff
  case hlen =>
    rw [h.length_eq, hlen]
    decide
  case hdot => exact not_mem_of_loose h rfl (by decide)

theorem parseMac_eq_ok (s : String) (mac : MacAddr) :
    parseMac s = .ok mac ↔ Spells (MacGroups s) (LooseOctet 16) mac := by
  have hread := fun parts => readOctets_eq_ok .invalidMac "hex octet" s parts rfl
    (show 0 < 16 by decide) mac
  rw [parseMac, except_bind_eq_ok]
  simp only [hread]
  constructor
  case mp =>
    rintro ⟨groups, hparts, hoctets⟩
    exact ⟨groups, macGroups_of_macParts hparts, hoctets⟩
  case mpr =>
    rintro ⟨groups, hgroups, hoctets⟩
    exact ⟨groups, (macGroups_iff_of_loose hoctets (be_length mac)).mp hgroups, hoctets⟩

theorem parseIpv4_eq_ok (s : String) (ip : Ipv4Addr) :
    parseIpv4 s = .ok ip ↔ Spells (Ipv4Groups s) (LooseOctet 10) ip := by
  rw [parseIpv4, readOctets_eq_ok .invalidIp "octet" s _ rfl (by decide)]
  constructor
  case mp =>
    intro hoctets
    exact ⟨_, (List.intercalate_splitOn '.').symm, hoctets⟩
  case mpr =>
    rintro ⟨groups, hgroups, hoctets⟩
    rw [(ipv4Groups_iff_of_loose hoctets (be_length ip)).mp hgroups]
    exact hoctets

/-! ### The loose texts and the grammar -/

section Grammar

variable {w radix : Nat} {split : List (List Char) → Prop} {plain : List Char → Prop}
  {octet : List Char → U8 → Prop}

/-- Where the octets of the grammar are the loose octets of plain form and a text has one split
    into loose octets, the grammar takes the same words as the loose octets exactly if no split
    of the text has an octet that is not plain. -/
theorem spells_iff_not_loosened (hw : 8 * (w / 8) = w)
    (hoctet : ∀ group o, octet group o ↔ plain group ∧ LooseOctet radix group o)
    (hunique : ∀ groups groups' octets octets', split groups → split groups' →
      List.Forall₂ (LooseOctet radix) groups octets → octets.length = w / 8 →
      List.Forall₂ (LooseOctet radix) groups' octets' → octets'.length = w / 8 →
      groups = groups') :
    (∀ v : BitVec w, Spells split (LooseOctet radix) v ↔ Spells split octet v) ↔
      ¬ Loosened (w / 8) radix split plain := by
  have hforall : ∀ groups octets, List.Forall₂ octet groups octets ↔
      (∀ group ∈ groups, plain group) ∧ List.Forall₂ (LooseOctet radix) groups octets := by
    intro groups octets
    simp only [← List.forall₂_and_left, ← hoctet]
  constructor
  case mp =>
    rintro h ⟨groups, octets, hsplit, hlen, hoctets, group, hgroup, hplain⟩
    have hbe := (ofNat_fromBe_eq_iff hw hlen _).mp rfl
    obtain ⟨groups', hsplit', hoctets'⟩ := (h _).mp ⟨groups, hsplit, hbe ▸ hoctets⟩
    obtain ⟨hplain', hloose'⟩ := (hforall _ _).mp hoctets'
    rw [hunique groups groups' octets _ hsplit hsplit' hoctets hlen hloose' (be_length _)] at hgroup
    exact hplain (hplain' group hgroup)
  case mpr =>
    intro h v
    constructor
    case mp =>
      rintro ⟨groups, hsplit, hoctets⟩
      refine ⟨groups, hsplit, (hforall _ _).mpr ⟨?_, hoctets⟩⟩
      intro group hgroup
      by_contra hplain
      exact h ⟨groups, be v, hsplit, be_length v, hoctets, group, hgroup, hplain⟩
    case mpr =>
      rintro ⟨groups, hsplit, hoctets⟩
      exact ⟨groups, hsplit, ((hforall _ _).mp hoctets).2⟩

end Grammar

theorem hexOctet_iff (group : List Char) (o : U8) :
    HexOctet group o ↔ PlainHex group ∧ LooseOctet 16 group o := by
  constructor
  case mp =>
    intro h
    exact ⟨⟨h.digits.head_ne_plus, h.length_le⟩, group, .inl rfl, h.digits, h.value⟩
  case mpr =>
    rintro ⟨⟨hplus, hlen⟩, digits, rfl | rfl, hdigits, hvalue⟩
    · exact ⟨hdigits, hlen, hvalue⟩
    · exact absurd rfl hplus

theorem decOctet_iff (group : List Char) (o : U8) :
    DecOctet group o ↔ PlainDec group ∧ LooseOctet 10 group o := by
  constructor
  case mp =>
    intro h
    exact ⟨h.digits.head_ne_plus, group, .inl rfl, h.digits, h.value⟩
  case mpr =>
    rintro ⟨hplus, digits, rfl | rfl, hdigits, hvalue⟩
    · exact ⟨hdigits, hvalue⟩
    · exact absurd rfl hplus

theorem parseMac_grammar_iff (s : String) :
    (∀ mac, parseMac s = .ok mac ↔ MacText s mac) ↔ ¬ LooseMac s := by
  simp only [parseMac_eq_ok]
  apply spells_iff_not_loosened (w := 48) rfl hexOctet_iff
  intro groups groups' octets octets' hsplit hsplit' hoctets hlen hoctets' hlen'
  have hparts := (macGroups_iff_of_loose hoctets hlen).mp hsplit
  have hparts' := (macGroups_iff_of_loose hoctets' hlen').mp hsplit'
  exact Except.ok.inj (hparts.symm.trans hparts')

theorem parseIpv4_grammar_iff (s : String) :
    (∀ ip, parseIpv4 s = .ok ip ↔ Ipv4Text s ip) ↔ ¬ LooseIpv4 s := by
  simp only [parseIpv4_eq_ok]
  apply spells_iff_not_loosened (w := 32) rfl decOctet_iff
  intro groups groups' octets octets' hsplit hsplit' hoctets hlen hoctets' hlen'
  have hparts := (ipv4Groups_iff_of_loose hoctets hlen).mp hsplit
  have hparts' := (ipv4Groups_iff_of_loose hoctets' hlen').mp hsplit'
  exact hparts.symm.trans hparts'

/-! ### Reading what was printed -/

/-- Two hexadecimal digits are the octet that they print. -/
theorem looseOctet_hexText (o : U8) : LooseOctet 16 (OpenFlow.hexText 2 o.toNat).toList o := by
  have hdigits := isNumeral_toDigits (b := 16) (by decide) (by decide) o.toNat
  refine ⟨_, .inl rfl, ?_, ?_⟩
  · rw [OpenFlow.hexText, String.toList_ofList]
    exact hdigits.zeros_append (by decide) _
  · rw [OpenFlow.hexText, String.toList_ofList, numeral_zeros_append,
      numeral_toDigits (by decide) (by decide)]

theorem looseOctet_toString (o : U8) : LooseOctet 10 (toString o.toNat).toList o := by
  refine ⟨_, .inl rfl, ?_, ?_⟩
  · rw [Nat.toString_eq_ofList_toDigits, String.toList_ofList]
    exact isNumeral_toDigits (by decide) (by decide) o.toNat
  · rw [Nat.toString_eq_ofList_toDigits, String.toList_ofList]
    exact numeral_toDigits (by decide) (by decide) o.toNat

theorem forall₂_map {α β : Type} {R : β → α → Prop} {f : α → β} (h : ∀ a, R (f a) a)
    (xs : List α) : List.Forall₂ R (xs.map f) xs := by
  rw [List.forall₂_map_left_iff, List.forall₂_same]
  exact fun a _ => h a

theorem parseMac_formatMac (mac : MacAddr) : parseMac (formatMac mac) = .ok mac := by
  rw [parseMac_eq_ok]
  refine ⟨_, ⟨':', .inl rfl, ?_⟩, forall₂_map looseOctet_hexText (be mac)⟩
  rw [formatMac, OpenFlow.formatMac, intercalate_map_toList]
  rfl

theorem parseIpv4_formatIpv4 (ip : Ipv4Addr) : parseIpv4 (formatIpv4 ip) = .ok ip := by
  rw [parseIpv4_eq_ok]
  refine ⟨_, ?_, forall₂_map looseOctet_toString (be ip)⟩
  rw [Ipv4Groups, formatIpv4, OpenFlow.formatIpv4, intercalate_map_toList]
  rfl

/-! ### The parsers and the grammar -/

/-- A loose octet consists of digits, perhaps with a plus sign. -/
theorem isSome_or_plus_of_loose {radix : Nat} {groups : List (List Char)} {octets : Bytes}
    (h : List.Forall₂ (LooseOctet radix) groups octets) {group : List Char} {c : Char}
    (hgroup : group ∈ groups) (hc : c ∈ group) : (toDigit radix c).isSome ∨ c = '+' := by
  by_cases hdigit : toDigit radix c = none
  case pos =>
    right
    by_contra hplus
    exact not_mem_of_loose h hdigit hplus group hgroup hc
  case neg =>
    left
    exact Option.isSome_iff_ne_none.mpr hdigit

theorem chars_of_parseMac {s : String} {mac : MacAddr} (h : parseMac s = .ok mac) :
    ∀ c ∈ s.toList, (toDigit 16 c).isSome ∨ c ∈ [':', '-', '+'] := by
  intro c hc
  obtain ⟨groups, ⟨sep, hsep, hs⟩, hoctets⟩ := (parseMac_eq_ok s mac).mp h
  rw [hs] at hc
  rcases mem_of_mem_intercalate hc with hc | ⟨group, hgroup, hc⟩
  · rw [List.mem_singleton.mp hc]
    rcases hsep with rfl | rfl <;> simp
  · rcases isSome_or_plus_of_loose hoctets hgroup hc with hdigit | rfl
    · exact .inl hdigit
    · simp

theorem chars_of_parseIpv4 {s : String} {ip : Ipv4Addr} (h : parseIpv4 s = .ok ip) :
    ∀ c ∈ s.toList, (toDigit 10 c).isSome ∨ c ∈ ['.', '+'] := by
  intro c hc
  obtain ⟨groups, hs, hoctets⟩ := (parseIpv4_eq_ok s ip).mp h
  rw [hs] at hc
  rcases mem_of_mem_intercalate hc with hc | ⟨group, hgroup, hc⟩
  · rw [List.mem_singleton.mp hc]
    simp
  · rcases isSome_or_plus_of_loose hoctets hgroup hc with hdigit | rfl
    · exact .inl hdigit
    · simp

/-- A text is accepted as the grammar says exactly if it is not a loose one.  What is printed is
    read back, and nothing but digits, separators and plus signs is ever accepted. -/
theorem addresses_grammar (s : String) (mac : MacAddr) (ip : Ipv4Addr) :
    ((∀ mac, parseMac s = .ok mac ↔ MacText s mac) ↔ ¬ LooseMac s) ∧
    ((∀ ip, parseIpv4 s = .ok ip ↔ Ipv4Text s ip) ↔ ¬ LooseIpv4 s) ∧
    parseMac (formatMac mac) = .ok mac ∧ parseIpv4 (formatIpv4 ip) = .ok ip ∧
    (parseMac s = .ok mac → ∀ c ∈ s.toList, (toDigit 16 c).isSome ∨ c ∈ [':', '-', '+']) ∧
    (parseIpv4 s = .ok ip → ∀ c ∈ s.toList, (toDigit 10 c).isSome ∨ c ∈ ['.', '+']) :=
  ⟨parseMac_grammar_iff s, parseIpv4_grammar_iff s, parseMac_formatMac mac,
    parseIpv4_formatIpv4 ip, chars_of_parseMac, chars_of_parseIpv4⟩

/-- The octet `+2` of a MAC address is accepted. -/
theorem not_grammar_signed : ¬ ∀ s mac, parseMac s = .ok mac ↔ MacText s mac := by
  intro h
  obtain ⟨groups, ⟨sep, hsep, hs⟩, hoctets⟩ :=
    (h "+2:00:00:00:00:01" 0x020000000001).mp rfl
  have hplus : '+' ∈ [sep].intercalate groups := by
    rw [← hs]
    decide
  rcases mem_of_mem_intercalate hplus with hc | ⟨group, hgroup, hc⟩
  · rw [← List.mem_singleton.mp hc] at hsep
    rcases hsep with hsep | hsep <;> cases hsep
  · have hnumerals : List.Forall₂ (fun group o => IsNumeral 16 group ∧ HexOctet group o) groups _ :=
      hoctets.imp fun group o ho => ⟨ho.digits, ho⟩
    have hdigit := (((List.forall₂_and_left groups _).mp hnumerals).1 group hgroup).digit '+' hc
    cases hdigit

end Rovs.Ext

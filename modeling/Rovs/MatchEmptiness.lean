import Rovs.MatchDisplay
import Rovs.MatchMeaning

/-!
# Empty matches

Three lists in the source name the fields of a match: the record, `is_empty` and the encoder.
`is_empty` leaves eight of the encoded fields out, so a match that sets only such fields is
called empty and is printed as `*`; `tcp_flags` is in neither.

`Match.emptinessAgrees_iff` says for which matches the lists agree.
-/

namespace Rovs.OpenFlow

/-! ### The fields of the record -/

/-- The fields of a match that are not masks. -/
inductive ValueField where
  | inPort | inPhyPort | metadata | ethSrc | ethDst | ethType | vlanVid | vlanPcp | ipv4Src
  | ipv4Dst | ipProto | ipDscp | ipEcn | ipv6Src | ipv6Dst | ipv6Flabel | tcpSrc | tcpDst
  | tcpFlags | udpSrc | udpDst | icmpType | icmpCode | icmpv6Type | icmpv6Code | arpOp
  | arpSpa | arpTpa | arpSha | arpTha | tunnelId | ctState | ctZone | ctMark
deriving DecidableEq, Repr

namespace ValueField

def isSet (m : Match) : ValueField → Bool
  | .inPort => m.inPort.isSome
  | .inPhyPort => m.inPhyPort.isSome
  | .metadata => m.metadata.isSome
  | .ethSrc => m.ethSrc.isSome
  | .ethDst => m.ethDst.isSome
  | .ethType => m.ethType.isSome
  | .vlanVid => m.vlanVid.isSome
  | .vlanPcp => m.vlanPcp.isSome
  | .ipv4Src => m.ipv4Src.isSome
  | .ipv4Dst => m.ipv4Dst.isSome
  | .ipProto => m.ipProto.isSome
  | .ipDscp => m.ipDscp.isSome
  | .ipEcn => m.ipEcn.isSome
  | .ipv6Src => m.ipv6Src.isSome
  | .ipv6Dst => m.ipv6Dst.isSome
  | .ipv6Flabel => m.ipv6Flabel.isSome
  | .tcpSrc => m.tcpSrc.isSome
  | .tcpDst => m.tcpDst.isSome
  | .tcpFlags => m.tcpFlags.isSome
  | .udpSrc => m.udpSrc.isSome
  | .udpDst => m.udpDst.isSome
  | .icmpType => m.icmpType.isSome
  | .icmpCode => m.icmpCode.isSome
  | .icmpv6Type => m.icmpv6Type.isSome
  | .icmpv6Code => m.icmpv6Code.isSome
  | .arpOp => m.arpOp.isSome
  | .arpSpa => m.arpSpa.isSome
  | .arpTpa => m.arpTpa.isSome
  | .arpSha => m.arpSha.isSome
  | .arpTha => m.arpTha.isSome
  | .tunnelId => m.tunnelId.isSome
  | .ctState => m.ctState.isSome
  | .ctZone => m.ctZone.isSome
  | .ctMark => m.ctMark.isSome

/-- The match without the field; a mask of the field stays. -/
def clear (m : Match) : ValueField → Match
  | .inPort => { m with inPort := none }
  | .inPhyPort => { m with inPhyPort := none }
  | .metadata => { m with metadata := none }
  | .ethSrc => { m with ethSrc := none }
  | .ethDst => { m with ethDst := none }
  | .ethType => { m with ethType := none }
  | .vlanVid => { m with vlanVid := none }
  | .vlanPcp => { m with vlanPcp := none }
  | .ipv4Src => { m with ipv4Src := none }
  | .ipv4Dst => { m with ipv4Dst := none }
  | .ipProto => { m with ipProto := none }
  | .ipDscp => { m with ipDscp := none }
  | .ipEcn => { m with ipEcn := none }
  | .ipv6Src => { m with ipv6Src := none }
  | .ipv6Dst => { m with ipv6Dst := none }
  | .ipv6Flabel => { m with ipv6Flabel := none }
  | .tcpSrc => { m with tcpSrc := none }
  | .tcpDst => { m with tcpDst := none }
  | .tcpFlags => { m with tcpFlags := none }
  | .udpSrc => { m with udpSrc := none }
  | .udpDst => { m with udpDst := none }
  | .icmpType => { m with icmpType := none }
  | .icmpCode => { m with icmpCode := none }
  | .icmpv6Type => { m with icmpv6Type := none }
  | .icmpv6Code => { m with icmpv6Code := none }
  | .arpOp => { m with arpOp := none }
  | .arpSpa => { m with arpSpa := none }
  | .arpTpa => { m with arpTpa := none }
  | .arpSha => { m with arpSha := none }
  | .arpTha => { m with arpTha := none }
  | .tunnelId => { m with tunnelId := none }
  | .ctState => { m with ctState := none }
  | .ctZone => { m with ctZone := none }
  | .ctMark => { m with ctMark := none }

/-- The fields that `is_empty` looks at. -/
def checked : List ValueField := [
    .inPort, .ethSrc, .ethDst, .ethType, .vlanVid, .ipv4Src, .ipv4Dst, .ipProto, .tcpSrc,
    .tcpDst, .udpSrc, .udpDst, .icmpType, .icmpCode, .icmpv6Type, .icmpv6Code, .tunnelId,
    .arpOp, .arpSpa, .arpTpa, .arpSha, .arpTha, .ctState, .ctZone, .ctMark]

/-- The fields of the encoding, in its order. -/
def encoded : List ValueField := [
    .inPort, .inPhyPort, .metadata, .ethDst, .ethSrc, .ethType, .vlanVid, .vlanPcp, .ipDscp,
    .ipEcn, .ipProto, .ipv4Src, .ipv4Dst, .tcpSrc, .tcpDst, .udpSrc, .udpDst, .icmpType,
    .icmpCode, .icmpv6Type, .icmpv6Code, .arpOp, .arpSpa, .arpTpa, .arpSha, .arpTha, .ipv6Src,
    .ipv6Dst, .ipv6Flabel, .tunnelId, .ctState, .ctZone, .ctMark]

theorem mem_encoded {f : ValueField} (h : f ≠ .tcpFlags) : f ∈ encoded := by
  cases f with
  | tcpFlags => exact absurd rfl h
  | _ => decide

end ValueField

open ValueField

theorem Match.isEmpty_eq (m : Match) :
    m.isEmpty = ValueField.checked.all fun f => !f.isSet m := by
  simp [Match.isEmpty, checked, isSet, Bool.and_assoc]

theorem condition_isSome {class_ : OxmClass} {number : U8} {f : Field}
    (known : Field.ofHeader class_ number = some f) (value mask : Option (BitVec f.width)) :
    (condition known value mask).isSome = value.isSome := by
  cases value <;> rfl

theorem Match.conditions_isSome (m : Match) :
    m.conditions.map Option.isSome = encoded.map fun f => f.isSet m := by
  simp only [Match.conditions, encoded, List.map_cons, List.map_nil, List.cons.injEq]
  iterate 6 refine ⟨condition_isSome _ _ _, ?_⟩
  refine ⟨(condition_isSome _ _ _).trans Option.isSome_map, ?_⟩
  iterate 26 refine ⟨condition_isSome _ _ _, ?_⟩
  trivial

/-- Clearing a field takes its condition out and leaves the others. -/
theorem ValueField.conditions_clear (m : Match) (f : ValueField) :
    (f.clear m).conditions = m.conditions.set (encoded.idxOf f) none := by
  cases f <;> rfl

theorem reduceOption_set_none {α : Type} {os : List (Option α)} {i : Nat} {a : α}
    (h : os[i]? = some (some a)) :
    (os.set i none).reduceOption.length + 1 = os.reduceOption.length := by
  induction os generalizing i with
  | nil => cases h
  | cons o os ih =>
    cases i with
    | zero =>
      cases h
      simp [List.reduceOption_cons_of_none, List.reduceOption_cons_of_some]
    | succ i =>
      cases o with
      | none => simpa [List.reduceOption_cons_of_none] using ih h
      | some b => simpa [List.reduceOption_cons_of_some] using ih h

theorem Match.tlvs_eq_nil_iff (m : Match) :
    m.tlvs = [] ↔ ∀ f ∈ encoded, f.isSet m = false := by
  have hnone : m.tlvs = [] ↔ ∀ b ∈ m.conditions.map Option.isSome, b = false := by
    rw [Match.tlvs]
    constructor
    · intro hnil b hb
      obtain ⟨o, ho, rfl⟩ := List.mem_map.mp hb
      cases o with
      | none => rfl
      | some t =>
        have hmem := List.reduceOption_mem_iff.mpr ho
        rw [hnil] at hmem
        cases hmem
    · intro hall
      apply List.eq_nil_iff_forall_not_mem.mpr
      intro t ht
      have hsome := hall true (List.mem_map.mpr ⟨some t, List.reduceOption_mem_iff.mp ht, rfl⟩)
      cases hsome
  rw [hnone, Match.conditions_isSome, List.forall_mem_map]

theorem Match.encodeOxmFields_inj {m m' : Match}
    (h : m.encodeOxmFields = m'.encodeOxmFields) : m.tlvs = m'.tlvs := by
  rw [Match.encodeOxmFields_eq, Match.encodeOxmFields_eq] at h
  have hfields : m.oxmFields = m'.oxmFields := Outcome.ok.inj h
  have hread := m.readTlvs_oxmFields
  rw [hfields, m'.readTlvs_oxmFields] at hread
  exact (Option.some.inj hread).symm

theorem Match.encodeOxmFields_eq_nil (m : Match) :
    m.encodeOxmFields = .ok [] ↔ ∀ f ∈ encoded, f.isSet m = false := by
  rw [← Match.tlvs_eq_nil_iff, Match.encodeOxmFields_eq, ← Match.tlvs_encode]
  constructor
  · intro h
    have hread := readTlvs_encode m.tlvs
    rw [Outcome.ok.inj h] at hread
    exact (Option.some.inj hread).symm
  · intro h
    rw [h]
    rfl

/-- The encoding depends on every field but `tcp_flags`. -/
theorem ValueField.encode_clear_ne {m : Match} {f : ValueField} (hset : f.isSet m = true)
    (hf : f ≠ .tcpFlags) : (f.clear m).encodeOxmFields ≠ m.encodeOxmFields := by
  intro heq
  have hlength := congrArg List.length (Match.encodeOxmFields_inj heq)
  have hi : encoded.idxOf f < encoded.length := List.idxOf_lt_length_iff.mpr (mem_encoded hf)
  have hsome : (m.conditions.map Option.isSome)[encoded.idxOf f]? = some true := by
    rw [m.conditions_isSome, List.getElem?_map, List.getElem?_eq_getElem hi,
      List.getElem_idxOf hi, Option.map_some, hset]
  rw [List.getElem?_map] at hsome
  obtain ⟨o, ho, hb⟩ := Option.map_eq_some_iff.mp hsome
  obtain ⟨t, rfl⟩ := Option.isSome_iff_exists.mp hb
  have hless := reduceOption_set_none ho
  rw [Match.tlvs, Match.tlvs, conditions_clear] at hlength
  omega

theorem ValueField.encode_clear_tcpFlags (m : Match) :
    (ValueField.tcpFlags.clear m).encodeOxmFields = m.encodeOxmFields := rfl

/-! ### Emptiness -/

/-- `is_empty`, an empty encoding and no field set come to the same; only a match that the
    encoding makes match all is printed as a star, and the encoding leaves no field out. -/
structure Match.EmptinessAgrees (m : Match) : Prop where
  encoded_iff : m.isEmpty = true ↔ m.encodeOxmFields = .ok []
  unset_iff : m.isEmpty = true ↔ ∀ f : ValueField, f.isSet m = false
  star : m.display = "*" → m.encodeOxmFields = .ok []
  kept : ∀ f : ValueField, f.isSet m = true →
    (f.clear m).encodeOxmFields ≠ m.encodeOxmFields

/-- **When `is_empty` tells the truth**: exactly if `tcp_flags` is not set, and no field is set
    without one that `is_empty` looks at.  It looks at some of the fields only, and never at
    `tcp_flags`. -/
theorem Match.emptinessAgrees_iff (m : Match) :
    m.EmptinessAgrees ↔ m.tcpFlags = none ∧
      ((∃ f, ValueField.isSet m f = true) → ∃ g ∈ ValueField.checked, g.isSet m = true) := by
  have hempty : m.isEmpty = true ↔ ∀ g ∈ ValueField.checked, g.isSet m = false := by
    rw [Match.isEmpty_eq]
    simp
  constructor
  case mp =>
    intro h
    constructor
    · by_contra hset
      exact h.kept .tcpFlags (Option.isSome_iff_ne_none.mpr hset) (encode_clear_tcpFlags m)
    · rintro ⟨f, hset⟩
      by_contra hnone
      have hunset : ∀ g ∈ ValueField.checked, g.isSet m = false := by
        intro g hg
        rw [Bool.eq_false_iff]
        exact fun hgset => hnone ⟨g, hg, hgset⟩
      have hfalse := h.unset_iff.mp (hempty.mpr hunset) f
      rw [hset] at hfalse
      cases hfalse
  case mpr =>
    rintro ⟨hflags, hchecked⟩
    have hunset : m.isEmpty = true ↔ ∀ f : ValueField, f.isSet m = false := by
      rw [hempty]
      constructor
      · intro hnone f
        rw [Bool.eq_false_iff]
        intro hset
        obtain ⟨g, hg, hgset⟩ := hchecked ⟨f, hset⟩
        rw [hnone g hg] at hgset
        cases hgset
      · exact fun hnone g _ => hnone g
    have hencoded : m.isEmpty = true ↔ m.encodeOxmFields = .ok [] := by
      rw [hunset, m.encodeOxmFields_eq_nil]
      constructor
      · exact fun hnone f _ => hnone f
      · intro hnone f
        by_cases hf : f = .tcpFlags
        · rw [hf, isSet, hflags]
          rfl
        · exact hnone f (mem_encoded hf)
    refine ⟨hencoded, hunset, fun hstar => hencoded.mp (m.display_eq_star.mp hstar), ?_⟩
    intro f hset
    apply encode_clear_ne hset
    intro hf
    rw [hf, isSet, hflags] at hset
    cases hset

/-- Match a flow label. -/
def flowLabelMatch : Match := { Match.new with ipv6Flabel := some 0x12345 }

/-- The match on a flow label is called empty and printed as a star, but not encoded so. -/
theorem flowLabelMatch_emptiness : ¬ flowLabelMatch.EmptinessAgrees := by
  intro h
  have hunset := h.unset_iff.mp rfl .ipv6Flabel
  cases hunset

end Rovs.OpenFlow

import Mathlib.Data.List.Forall2
import Mathlib.Data.List.Nodup
import Rovs.MatchEmptiness

/-!
# Prerequisites of match fields (`rovs-openflow/src/match_fields.rs`)

OpenFlow 1.3 accepts a condition on a field only behind the conditions that say which packets
have the field.  The encoder writes the conditions in an order that allows for this, and the
builder methods set the fields that a field depends on.  The methods for TCP and UDP ports stop
half way: they set `ip_proto`, which itself needs an `eth_type`.

`build_prerequisitesMet_iff` says for which chains of calls the conditions are complete.
-/

namespace Rovs.OpenFlow

/-! ### The builder methods -/

/-- A call of a builder method. -/
inductive BuilderCall where
  | inPort (port : U32)
  | ethSrc (addr : MacAddr)
  | ethDst (addr : MacAddr)
  | ethType (etype : U16)
  | vlanVid (vid : U16)
  | ipv4Src (addr : Ipv4Addr) (prefixLen : U8)
  | ipv4Dst (addr : Ipv4Addr) (prefixLen : U8)
  | ipv6Src (addr : Ipv6Addr) (prefixLen : U8)
  | ipv6Dst (addr : Ipv6Addr) (prefixLen : U8)
  | ipProto (proto : U8)
  | tcpSrc (port : U16)
  | tcpDst (port : U16)
  | udpSrc (port : U16)
  | udpDst (port : U16)
  | tunnelId (id : U64)
  | ctState (state : U32)
  | ctStateMasked (state mask : U32)
  | ctZone (zone : U16)
  | ctMark (mark : U32)
  | ctMarkMasked (mark mask : U32)
  | arpOp (opcode : U16)
  | arpSpa (addr : Ipv4Addr)
  | arpTpa (addr : Ipv4Addr)
  | arpSha (addr : MacAddr)
  | arpTha (addr : MacAddr)
  | icmpType (type : U8)
  | icmpCode (code : U8)
  | icmpv6Type (type : U8)
  | icmpv6Code (code : U8)
deriving DecidableEq, Repr

namespace BuilderCall

/-- The match that the method returns. -/
def apply (m : Match) : BuilderCall → Match
  | .inPort port => { m with inPort := some port }
  | .ethSrc addr => { m with ethSrc := some addr }
  | .ethDst addr => { m with ethDst := some addr }
  | .ethType etype => { m with ethType := some etype }
  | .vlanVid vid => { m with vlanVid := some vid }
  | .ipv4Src addr prefixLen =>
    { m with ethType := some 0x0800, ipv4Src := some addr, ipv4SrcMask := some prefixLen }
  | .ipv4Dst addr prefixLen =>
    { m with ethType := some 0x0800, ipv4Dst := some addr, ipv4DstMask := some prefixLen }
  | .ipv6Src addr prefixLen =>
    { m with ethType := some 0x86dd, ipv6Src := some addr, ipv6SrcMask := some prefixLen }
  | .ipv6Dst addr prefixLen =>
    { m with ethType := some 0x86dd, ipv6Dst := some addr, ipv6DstMask := some prefixLen }
  | .ipProto proto => { m with ipProto := some proto }
  | .tcpSrc port => { m with ipProto := some 6, tcpSrc := some port }
  | .tcpDst port => { m with ipProto := some 6, tcpDst := some port }
  | .udpSrc port => { m with ipProto := some 17, udpSrc := some port }
  | .udpDst port => { m with ipProto := some 17, udpDst := some port }
  | .tunnelId id => { m with tunnelId := some id }
  -- the default mask is the state itself
  | .ctState state => { m with ctState := some state, ctStateMask := some state }
  | .ctStateMasked state mask => { m with ctState := some state, ctStateMask := some mask }
  | .ctZone zone => { m with ctZone := some zone }
  | .ctMark mark => { m with ctMark := some mark }
  | .ctMarkMasked mark mask => { m with ctMark := some mark, ctMarkMask := some mask }
  | .arpOp opcode => { m with ethType := some 0x0806, arpOp := some opcode }
  | .arpSpa addr => { m with ethType := some 0x0806, arpSpa := some addr }
  | .arpTpa addr => { m with ethType := some 0x0806, arpTpa := some addr }
  | .arpSha addr => { m with ethType := some 0x0806, arpSha := some addr }
  | .arpTha addr => { m with ethType := some 0x0806, arpTha := some addr }
  | .icmpType type =>
    { m with ethType := some 0x0800, ipProto := some 1, icmpType := some type }
  | .icmpCode code =>
    { m with ethType := some 0x0800, ipProto := some 1, icmpCode := some code }
  | .icmpv6Type type =>
    { m with ethType := some 0x86dd, ipProto := some 58, icmpv6Type := some type }
  | .icmpv6Code code =>
    { m with ethType := some 0x86dd, ipProto := some 58, icmpv6Code := some code }

/-- What the method sets `eth_type` to, if it does. -/
def setsEthType : BuilderCall → Option U16
  | .ethType etype => some etype
  | .ipv4Src _ _ | .ipv4Dst _ _ | .icmpType _ | .icmpCode _ => some 0x0800
  | .ipv6Src _ _ | .ipv6Dst _ _ | .icmpv6Type _ | .icmpv6Code _ => some 0x86dd
  | .arpOp _ | .arpSpa _ | .arpTpa _ | .arpSha _ | .arpTha _ => some 0x0806
  | _ => none

/-- What the method sets `ip_proto` to, if it does. -/
def setsIpProto : BuilderCall → Option U8
  | .ipProto proto => some proto
  | .tcpSrc _ | .tcpDst _ => some 6
  | .udpSrc _ | .udpDst _ => some 17
  | .icmpType _ | .icmpCode _ => some 1
  | .icmpv6Type _ | .icmpv6Code _ => some 58
  | _ => none

/-- The field that the method is named after. -/
def names : BuilderCall → ValueField
  | .inPort _ => .inPort
  | .ethSrc _ => .ethSrc
  | .ethDst _ => .ethDst
  | .ethType _ => .ethType
  | .vlanVid _ => .vlanVid
  | .ipv4Src _ _ => .ipv4Src
  | .ipv4Dst _ _ => .ipv4Dst
  | .ipv6Src _ _ => .ipv6Src
  | .ipv6Dst _ _ => .ipv6Dst
  | .ipProto _ => .ipProto
  | .tcpSrc _ => .tcpSrc
  | .tcpDst _ => .tcpDst
  | .udpSrc _ => .udpSrc
  | .udpDst _ => .udpDst
  | .tunnelId _ => .tunnelId
  | .ctState _ | .ctStateMasked _ _ => .ctState
  | .ctZone _ => .ctZone
  | .ctMark _ | .ctMarkMasked _ _ => .ctMark
  | .arpOp _ => .arpOp
  | .arpSpa _ => .arpSpa
  | .arpTpa _ => .arpTpa
  | .arpSha _ => .arpSha
  | .arpTha _ => .arpTha
  | .icmpType _ => .icmpType
  | .icmpCode _ => .icmpCode
  | .icmpv6Type _ => .icmpv6Type
  | .icmpv6Code _ => .icmpv6Code

theorem apply_ethType (c : BuilderCall) (m : Match) :
    (c.apply m).ethType = c.setsEthType.or m.ethType := by
  cases c <;> rfl

theorem apply_ipProto (c : BuilderCall) (m : Match) :
    (c.apply m).ipProto = c.setsIpProto.or m.ipProto := by
  cases c <;> rfl

/-- A call sets the field that it is named after, and perhaps `eth_type` and `ip_proto`. -/
theorem isSet_apply (c : BuilderCall) (m : Match) (g : ValueField)
    (h : g.isSet (c.apply m) = true) :
    g.isSet m = true ∨ g = c.names ∨ g = .ethType ∨ g = .ipProto := by
  cases c <;> cases g <;>
    first
    | exact .inl h
    | exact .inr (.inl rfl)
    | exact .inr (.inr (.inl rfl))
    | exact .inr (.inr (.inr rfl))

end BuilderCall

/-- The match that a sequence of calls builds. -/
def Match.build (calls : List BuilderCall) : Match := calls.foldl BuilderCall.apply Match.new

/-! ### What a run of calls leaves -/

section LastSet

variable {σ γ α : Type} {apply : σ → γ → σ} {get : σ → Option α} {sets : γ → Option α}

/-- What calls overwrite has the last value that a call gives it. -/
theorem foldl_lastSet (h : ∀ s c, get (apply s c) = (sets c).or (get s)) (calls : List γ) (s : σ) :
    get (calls.foldl apply s) = (calls.reverse.findSome? sets).or (get s) := by
  induction calls generalizing s with
  | nil => rfl
  | cons c calls ih =>
    have hsingle : [c].findSome? sets = sets c := by
      rw [List.findSome?_cons]
      cases sets c <;> rfl
    rw [List.foldl_cons, ih, h, List.reverse_cons, List.findSome?_append, Option.or_assoc, hsingle]

/-- If the calls agree, then every call has its value in the end. -/
theorem foldl_lastSet_iff (h : ∀ s c, get (apply s c) = (sets c).or (get s)) {calls : List γ}
    {s : σ} (hs : get s = none)
    (hagree : ∀ c ∈ calls, ∀ c' ∈ calls, ∀ v ∈ sets c, ∀ v' ∈ sets c', v = v') (v : α) :
    get (calls.foldl apply s) = some v ↔ ∃ c ∈ calls, sets c = some v := by
  rw [foldl_lastSet h, hs, Option.or_none]
  constructor
  · intro hfind
    obtain ⟨c, hc, hv⟩ := List.exists_of_findSome?_eq_some hfind
    exact ⟨c, List.mem_reverse.mp hc, hv⟩
  · rintro ⟨c, hc, hv⟩
    cases hfind : calls.reverse.findSome? sets with
    | none =>
      have hnone := List.findSome?_eq_none_iff.mp hfind c (List.mem_reverse.mpr hc)
      rw [hv] at hnone
      cases hnone
    | some v' =>
      obtain ⟨c', hc', hv'⟩ := List.exists_of_findSome?_eq_some hfind
      rw [hagree c' (List.mem_reverse.mp hc') c hc v' hv' v hv]

end LastSet

/-- No two calls set `eth_type` or `ip_proto` to different values. -/
structure Consistent (calls : List BuilderCall) : Prop where
  ethType : ∀ c ∈ calls, ∀ c' ∈ calls, ∀ v ∈ c.setsEthType, ∀ v' ∈ c'.setsEthType, v = v'
  ipProto : ∀ c ∈ calls, ∀ c' ∈ calls, ∀ p ∈ c.setsIpProto, ∀ p' ∈ c'.setsIpProto, p = p'

namespace ValueField

/-- The `eth_type` of the packets that have the field, as its method sets it. -/
def etherType : ValueField → Option U16
  | .ipv4Src | .ipv4Dst | .icmpType | .icmpCode => some 0x0800
  | .ipv6Src | .ipv6Dst | .icmpv6Type | .icmpv6Code => some 0x86dd
  | .arpOp | .arpSpa | .arpTpa | .arpSha | .arpTha => some 0x0806
  | _ => none

/-- The `ip_proto` of the packets that have the field, as its method sets it. -/
def protocol : ValueField → Option U8
  | .tcpSrc | .tcpDst => some 6
  | .udpSrc | .udpDst => some 17
  | .icmpType | .icmpCode => some 1
  | .icmpv6Type | .icmpv6Code => some 58
  | _ => none

/-- The fields that no method is named after. -/
def unbuilt : List ValueField :=
  [.inPhyPort, .metadata, .vlanPcp, .ipDscp, .ipEcn, .ipv6Flabel, .tcpFlags]

theorem setsEthType_of_etherType {c : BuilderCall} {v : U16} (h : c.names.etherType = some v) :
    c.setsEthType = some v := by
  cases c <;> first | exact h | cases h

theorem setsIpProto_of_protocol {c : BuilderCall} {p : U8} (h : c.names.protocol = some p) :
    c.setsIpProto = some p := by
  cases c <;> first | exact h | cases h

theorem names_not_unbuilt (c : BuilderCall) : c.names ∉ unbuilt := by
  cases c <;> simp [BuilderCall.names, unbuilt]

end ValueField

/-- A field that is set stands with the `eth_type` and `ip_proto` of its packets. -/
structure Match.Typed (m : Match) : Prop where
  ethType : ∀ f : ValueField, f.isSet m = true → ∀ v, f.etherType = some v → m.ethType = some v
  ipProto : ∀ f : ValueField, f.isSet m = true → ∀ p, f.protocol = some p → m.ipProto = some p
  built : ∀ f : ValueField, f.isSet m = true → f ∉ ValueField.unbuilt

section Build

variable {calls : List BuilderCall}

theorem Consistent.ethType_build (h : Consistent calls) (v : U16) :
    (Match.build calls).ethType = some v ↔ ∃ c ∈ calls, c.setsEthType = some v :=
  foldl_lastSet_iff (fun m c => c.apply_ethType m) rfl h.ethType v

theorem Consistent.ipProto_build (h : Consistent calls) (p : U8) :
    (Match.build calls).ipProto = some p ↔ ∃ c ∈ calls, c.setsIpProto = some p :=
  foldl_lastSet_iff (fun m c => c.apply_ipProto m) rfl h.ipProto p

theorem foldl_isSet (calls : List BuilderCall) (m : Match) (f : ValueField)
    (h : f.isSet (calls.foldl BuilderCall.apply m) = true) :
    f.isSet m = true ∨ (∃ c ∈ calls, f = c.names) ∨ f = .ethType ∨ f = .ipProto := by
  induction calls generalizing m with
  | nil => exact .inl h
  | cons c calls ih =>
    rcases ih _ h with hset | ⟨c', hc', hf⟩ | hf
    · rcases c.isSet_apply m f hset with hold | hf | hf
      · exact .inl hold
      · exact .inr (.inl ⟨c, List.mem_cons_self, hf⟩)
      · exact .inr (.inr hf)
    · exact .inr (.inl ⟨c', List.mem_cons_of_mem _ hc', hf⟩)
    · exact .inr (.inr hf)

theorem not_isSet_new (f : ValueField) : ¬ f.isSet Match.new = true := by
  cases f <;> decide

/-- A field that is set is one that a call is named after, or `eth_type` or `ip_proto`. -/
theorem isSet_build {f : ValueField} (h : f.isSet (Match.build calls) = true) :
    (∃ c ∈ calls, f = c.names) ∨ f = .ethType ∨ f = .ipProto :=
  (foldl_isSet calls Match.new f h).resolve_left (not_isSet_new f)

theorem Consistent.typed (h : Consistent calls) : (Match.build calls).Typed := by
  refine ⟨?_, ?_, ?_⟩
  · intro f hset v hv
    rcases isSet_build hset with ⟨c, hc, rfl⟩ | rfl | rfl
    · exact (h.ethType_build v).mpr ⟨c, hc, ValueField.setsEthType_of_etherType hv⟩
    · cases hv
    · cases hv
  · intro f hset p hp
    rcases isSet_build hset with ⟨c, hc, rfl⟩ | rfl | rfl
    · exact (h.ipProto_build p).mpr ⟨c, hc, ValueField.setsIpProto_of_protocol hp⟩
    · cases hp
    · cases hp
  · intro f hset
    rcases isSet_build hset with ⟨c, hc, rfl⟩ | rfl | rfl
    · exact ValueField.names_not_unbuilt c
    · decide
    · decide

end Build

/-! ### What a condition needs in front of it -/

theorem ethType_known :
    Field.ofHeader .openflowBasic OxmField.ethType.toU8 = some (.part .ethType) := rfl

theorem ipProto_known :
    Field.ofHeader .openflowBasic OxmField.ipProto.toU8 = some (.part .ipProto) := rfl

def ethTypeTlv (v : U16) : Tlv :=
  ⟨.openflowBasic, OxmField.ethType.toU8, .part .ethType, ethType_known, v, none⟩

def ipProtoTlv (p : U8) : Tlv :=
  ⟨.openflowBasic, OxmField.ipProto.toU8, .part .ipProto, ipProto_known, p, none⟩

/-- A prerequisite. -/
inductive Need where
  | inPort
  | vlanTag
  | ethType (v : U16)
  /-- an `eth_type` of IPv4 or IPv6 -/
  | anyIp
  | ipProto (p : U8)
deriving DecidableEq, Repr

/-- The field that a prerequisite is about. -/
def Need.field : Need → Field
  | .inPort => .part .inPort
  | .vlanTag => .vlanVid
  | .ethType _ | .anyIp => .part .ethType
  | .ipProto _ => .part .ipProto

/-- The condition establishes the prerequisite. -/
def Need.Met : Need → Tlv → Prop
  | .inPort, t => t.field = .part .inPort
  | .vlanTag, t => t.field = .vlanVid
  | .ethType v, t => t = ethTypeTlv v
  | .anyIp, t => t = ethTypeTlv 0x0800 ∨ t = ethTypeTlv 0x86dd
  | .ipProto p, t => t = ipProtoTlv p

/-- The prerequisites of the fields in OpenFlow 1.3. -/
def Field.needs : Field → List Need
  | .part .inPhyPort => [.inPort]
  | .vlanPcp => [.vlanTag]
  | .part .ipDscp | .part .ipEcn | .part .ipProto => [.anyIp]
  | .part .ipv4Src | .part .ipv4Dst => [.ethType 0x0800]
  | .part .ipv6Src | .part .ipv6Dst | .part .ipv6Flabel => [.ethType 0x86dd]
  | .part .tcpSrc | .part .tcpDst => [.anyIp, .ipProto 6]
  | .part .udpSrc | .part .udpDst => [.anyIp, .ipProto 17]
  | .part .icmpType | .part .icmpCode => [.ethType 0x0800, .ipProto 1]
  | .part .icmpv6Type | .part .icmpv6Code => [.ethType 0x86dd, .ipProto 58]
  | .part .arpOp | .part .arpSpa | .part .arpTpa | .part .arpSha | .part .arpTha =>
      [.ethType 0x0806]
  | _ => []

/-- Every condition of a row stands behind conditions that establish its prerequisites. -/
def InOrderOfNeed (ts : List Tlv) : Prop :=
  ∀ pre t post, ts = pre ++ t :: post → ∀ n ∈ t.field.needs, ∃ u ∈ pre, n.Met u

/-- The prerequisites of every condition in the encoding are established in front of it. -/
def Match.PrerequisitesMet (m : Match) : Prop :=
  ∃ bytes ts, m.encodeOxmFields = .ok bytes ∧ readTlvs bytes = some ts ∧ InOrderOfNeed ts

theorem Match.prerequisitesMet_iff (m : Match) : m.PrerequisitesMet ↔ InOrderOfNeed m.tlvs := by
  constructor
  · rintro ⟨bytes, ts, hencode, hread, hts⟩
    rw [Match.encodeOxmFields_eq] at hencode
    rw [← Outcome.ok.inj hencode, Match.readTlvs_oxmFields] at hread
    rwa [Option.some.inj hread]
  · intro h
    exact ⟨_, _, m.encodeOxmFields_eq, m.readTlvs_oxmFields, h⟩

theorem Need.field_of_met {n : Need} {t : Tlv} (h : n.Met t) : t.field = n.field := by
  cases n with
  | inPort => exact h
  | vlanTag => exact h
  | ethType v => rw [show t = ethTypeTlv v from h]; rfl
  | anyIp =>
    rcases h with rfl | rfl
    · rfl
    · rfl
  | ipProto p => rw [show t = ipProtoTlv p from h]; rfl

/-! ### The order of the encoding -/

namespace ValueField

/-- The field of the condition that encodes a field of the record. -/
def field : ValueField → Option Field
  | .inPort => some (.part .inPort)
  | .inPhyPort => some (.part .inPhyPort)
  | .metadata => some (.part .metadata)
  | .ethSrc => some (.part .ethSrc)
  | .ethDst => some (.part .ethDst)
  | .ethType => some (.part .ethType)
  | .vlanVid => some .vlanVid
  | .vlanPcp => some .vlanPcp
  | .ipv4Src => some (.part .ipv4Src)
  | .ipv4Dst => some (.part .ipv4Dst)
  | .ipProto => some (.part .ipProto)
  | .ipDscp => some (.part .ipDscp)
  | .ipEcn => some (.part .ipEcn)
  | .ipv6Src => some (.part .ipv6Src)
  | .ipv6Dst => some (.part .ipv6Dst)
  | .ipv6Flabel => some (.part .ipv6Flabel)
  | .tcpSrc => some (.part .tcpSrc)
  | .tcpDst => some (.part .tcpDst)
  | .tcpFlags => none
  | .udpSrc => some (.part .udpSrc)
  | .udpDst => some (.part .udpDst)
  | .icmpType => some (.part .icmpType)
  | .icmpCode => some (.part .icmpCode)
  | .icmpv6Type => some (.part .icmpv6Type)
  | .icmpv6Code => some (.part .icmpv6Code)
  | .arpOp => some (.part .arpOp)
  | .arpSpa => some (.part .arpSpa)
  | .arpTpa => some (.part .arpTpa)
  | .arpSha => some (.part .arpSha)
  | .arpTha => some (.part .arpTha)
  | .tunnelId => some (.part .tunnelId)
  | .ctState => some (.part .ctState)
  | .ctZone => some (.part .ctZone)
  | .ctMark => some (.part .ctMark)

end ValueField

/-- The condition, if there is one, encodes the field. -/
def Encodes (m : Match) (o : Option Tlv) (f : ValueField) : Prop :=
  ∀ t ∈ o, f.field = some t.field ∧ f.isSet m = true

theorem encodes_condition {m : Match} {class_ : OxmClass} {number : U8} {f : Field}
    {known : Field.ofHeader class_ number = some f} {value mask : Option (BitVec f.width)}
    {g : ValueField} (hfield : g.field = some f) (hset : g.isSet m = value.isSome) :
    Encodes m (condition known value mask) g := by
  intro t ht
  cases value with
  | none => cases ht
  | some v =>
    cases ht
    exact ⟨hfield, hset⟩

theorem Match.conditions_encode (m : Match) :
    List.Forall₂ (Encodes m) m.conditions ValueField.encoded := by
  rw [Match.conditions, ValueField.encoded]
  iterate 6 refine .cons (encodes_condition rfl rfl) ?_
  refine .cons (encodes_condition rfl Option.isSome_map.symm) ?_
  iterate 26 refine .cons (encodes_condition rfl rfl) ?_
  exact .nil

theorem reduceOption_sublist {α β γ : Type} {φ : β → Option γ} {ψ : α → γ} {os : List (Option α)}
    {fs : List β} (h : List.Forall₂ (fun o f => ∀ t ∈ o, φ f = some (ψ t)) os fs) :
    (os.reduceOption.map fun t => some (ψ t)).Sublist (fs.map φ) := by
  induction h with
  | nil => exact .slnil
  | @cons o f os fs hof _ ih =>
    cases o with
    | none =>
      rw [List.reduceOption_cons_of_none, List.map_cons]
      exact ih.cons _
    | some t =>
      rw [List.reduceOption_cons_of_some, List.map_cons, List.map_cons, hof t rfl]
      exact ih.cons_cons _

/-- The conditions stand in the order of the fields. -/
theorem Match.tlvs_sublist (m : Match) :
    (m.tlvs.map fun t => some t.field).Sublist (ValueField.encoded.map ValueField.field) :=
  reduceOption_sublist (m.conditions_encode.imp fun _ _ hof t ht => (hof t ht).1)

/-- A condition encodes a field that is set. -/
theorem Match.isSet_of_mem_tlvs {m : Match} {t : Tlv} (h : t ∈ m.tlvs) :
    ∃ f : ValueField, f.field = some t.field ∧ f.isSet m = true := by
  obtain ⟨i, hi⟩ := List.getElem?_of_mem (List.reduceOption_mem_iff.mp h)
  obtain ⟨hlt, hget⟩ := List.getElem?_eq_some_iff.mp hi
  have hlt' : i < ValueField.encoded.length := by
    rw [← m.conditions_encode.length_eq]
    exact hlt
  have hencodes := m.conditions_encode.get hlt hlt'
  exact ⟨_, hencodes t (by simpa using hget)⟩

/-- No field of the encoding stands in front of one that it needs. -/
def NotNeeded (f g : Option Field) : Prop :=
  ∀ f' ∈ f, ∀ g' ∈ g, ∀ n ∈ f'.needs, n.field ≠ g'

instance (f g : Option Field) : Decidable (NotNeeded f g) :=
  inferInstanceAs (Decidable (∀ f' ∈ f, ∀ g' ∈ g, ∀ n ∈ f'.needs, n.field ≠ g'))

theorem encoded_pairwise : (ValueField.encoded.map ValueField.field).Pairwise NotNeeded := by
  decide +kernel

theorem Field.needs_other {f : Field} {n : Need} (h : n ∈ f.needs) : n.field ≠ f := by
  have hall : ∀ n ∈ f.needs, n.field ≠ f := by
    cases f with
    | part p => cases p <;> decide
    | _ => decide
  exact hall n h

/-- What is in a row that a field needs is in front of it. -/
theorem Match.inOrderOfNeed {m : Match}
    (h : ∀ t ∈ m.tlvs, ∀ n ∈ t.field.needs, ∃ u ∈ m.tlvs, n.Met u) :
    InOrderOfNeed m.tlvs := by
  have hpairwise := List.pairwise_map.mp (encoded_pairwise.sublist m.tlvs_sublist)
  intro pre t post hsplit n hn
  obtain ⟨u, hu, hmet⟩ := h t (by rw [hsplit]; simp) n hn
  refine ⟨u, ?_, hmet⟩
  have hfield := Need.field_of_met hmet
  rw [hsplit] at hu hpairwise
  rcases List.mem_append.mp hu with hpre | htail
  · exact hpre
  · exfalso
    rcases List.mem_cons.mp htail with rfl | hpost
    · exact Field.needs_other hn hfield.symm
    · have hrest := (List.pairwise_append.mp hpairwise).2.1
      exact (List.pairwise_cons.mp hrest).1 u hpost _ rfl _ rfl n hn hfield.symm

/-! ### The prerequisites of built matches -/

theorem Match.ethTypeTlv_mem {m : Match} {v : U16} (h : m.ethType = some v) :
    ethTypeTlv v ∈ m.tlvs := by
  rw [Match.tlvs, List.reduceOption_mem_iff, Match.conditions, h]
  iterate 5 apply List.mem_cons_of_mem
  exact List.mem_cons_self

theorem Match.ipProtoTlv_mem {m : Match} {p : U8} (h : m.ipProto = some p) :
    ipProtoTlv p ∈ m.tlvs := by
  rw [Match.tlvs, List.reduceOption_mem_iff, Match.conditions, h]
  iterate 10 apply List.mem_cons_of_mem
  exact List.mem_cons_self

/-- A field has one condition at most. -/
theorem Match.tlvs_inj {m : Match} {t u : Tlv} (ht : t ∈ m.tlvs) (hu : u ∈ m.tlvs)
    (h : t.field = u.field) : t = u := by
  have hnodup : (ValueField.encoded.map ValueField.field).Nodup := by decide
  exact List.inj_on_of_nodup_map (hnodup.sublist m.tlvs_sublist) ht hu (congrArg some h)

theorem Match.ethType_of_mem {m : Match} {v : U16} (h : ethTypeTlv v ∈ m.tlvs) :
    m.ethType = some v := by
  obtain ⟨f, hfield, hset⟩ := Match.isSet_of_mem_tlvs h
  have hf : f = .ethType := by
    cases f <;> first | rfl | cases hfield
  subst hf
  obtain ⟨v', hv'⟩ := Option.isSome_iff_exists.mp hset
  have heq : ethTypeTlv v' = ethTypeTlv v := Match.tlvs_inj (Match.ethTypeTlv_mem hv') h rfl
  cases heq
  exact hv'

/-- The prerequisite is what the method of the field sets, or an IP packet for a method that
    sets `ip_proto`. -/
def Need.SetBy (g : ValueField) : Need → Prop
  | .ethType v => g.etherType = some v
  | .ipProto p => g.protocol = some p
  | .anyIp => g = .ipProto ∨ g.protocol.isSome = true
  | _ => False

instance (g : ValueField) (n : Need) : Decidable (n.SetBy g) :=
  match n with
  | .ethType v => inferInstanceAs (Decidable (g.etherType = some v))
  | .ipProto p => inferInstanceAs (Decidable (g.protocol = some p))
  | .anyIp => inferInstanceAs (Decidable (g = .ipProto ∨ g.protocol.isSome = true))
  | .inPort => inferInstanceAs (Decidable False)
  | .vlanTag => inferInstanceAs (Decidable False)

theorem ValueField.needs_setBy {g : ValueField} {f : Field} (hg : g ∉ unbuilt)
    (hfield : g.field = some f) {n : Need} (hn : n ∈ f.needs) : n.SetBy g := by
  have hall : ∀ n ∈ f.needs, n.SetBy g := by
    cases g <;> cases hfield <;>
      first
      | decide
      | exact absurd (by decide) hg
  exact hall n hn

/-- If `ip_proto` is set, then `eth_type` is that of IPv4 or IPv6. -/
def Match.ProtoOnIp (m : Match) : Prop :=
  m.ipProto.isSome = true → m.ethType = some 0x0800 ∨ m.ethType = some 0x86dd

theorem Match.Typed.prerequisitesMet_iff {m : Match} (h : m.Typed) :
    m.PrerequisitesMet ↔ m.ProtoOnIp := by
  rw [Match.prerequisitesMet_iff]
  constructor
  case mp =>
    intro horder hproto
    obtain ⟨p, hp⟩ := Option.isSome_iff_exists.mp hproto
    obtain ⟨pre, post, hsplit⟩ := List.append_of_mem (Match.ipProtoTlv_mem hp)
    obtain ⟨u, hu, hmet⟩ := horder pre (ipProtoTlv p) post hsplit .anyIp List.mem_cons_self
    have hmem : u ∈ m.tlvs := by
      rw [hsplit]
      exact List.mem_append_left _ hu
    rcases hmet with rfl | rfl
    · exact .inl (Match.ethType_of_mem hmem)
    · exact .inr (Match.ethType_of_mem hmem)
  case mpr =>
    intro hip
    apply Match.inOrderOfNeed
    intro t ht n hn
    obtain ⟨g, hfield, hset⟩ := Match.isSet_of_mem_tlvs ht
    have hg := ValueField.needs_setBy (h.built g hset) hfield hn
    cases n with
    | inPort => exact hg.elim
    | vlanTag => exact hg.elim
    | ethType v => exact ⟨_, Match.ethTypeTlv_mem (h.ethType g hset v hg), rfl⟩
    | ipProto p => exact ⟨_, Match.ipProtoTlv_mem (h.ipProto g hset p hg), rfl⟩
    | anyIp =>
      have hproto : m.ipProto.isSome = true := by
        rcases hg with rfl | hg
        · exact hset
        · obtain ⟨p, hp⟩ := Option.isSome_iff_exists.mp hg
          rw [h.ipProto g hset p hp]
          rfl
      rcases hip hproto with hv4 | hv6
      · exact ⟨_, Match.ethTypeTlv_mem hv4, .inl rfl⟩
      · exact ⟨_, Match.ethTypeTlv_mem hv6, .inr rfl⟩

/-- Some call sets `eth_type` to IPv4 or IPv6, if one sets `ip_proto`. -/
def ProtoCallsOnIp (calls : List BuilderCall) : Prop :=
  (∃ c ∈ calls, c.setsIpProto.isSome = true) →
    ∃ c ∈ calls, c.setsEthType = some 0x0800 ∨ c.setsEthType = some 0x86dd

/-- **A chain of builder calls meets the prerequisites exactly when some call says that the packet
    is IP wherever one speaks of its protocol.**  No call for TCP, UDP or ICMP sets the Ethernet
    type by itself, so a chain has to name it. -/
theorem build_prerequisitesMet_iff {calls : List BuilderCall} (h : Consistent calls) :
    (Match.build calls).PrerequisitesMet ↔ ProtoCallsOnIp calls := by
  have hproto : (Match.build calls).ipProto.isSome = true ↔
      ∃ c ∈ calls, c.setsIpProto.isSome = true := by
    simp only [Option.isSome_iff_exists, h.ipProto_build]
    constructor
    · rintro ⟨p, c, hc, hp⟩
      exact ⟨c, hc, p, hp⟩
    · rintro ⟨c, hc, p, hp⟩
      exact ⟨p, c, hc, hp⟩
  rw [h.typed.prerequisitesMet_iff, Match.ProtoOnIp, ProtoCallsOnIp, hproto, h.ethType_build,
    h.ethType_build]
  apply imp_congr_right
  intro _
  constructor
  · rintro (⟨c, hc, hv⟩ | ⟨c, hc, hv⟩)
    · exact ⟨c, hc, .inl hv⟩
    · exact ⟨c, hc, .inr hv⟩
  · rintro ⟨c, hc, hv | hv⟩
    · exact .inl ⟨c, hc, hv⟩
    · exact .inr ⟨c, hc, hv⟩

theorem consistent_web : Consistent [.ethType 0x0800, .tcpDst 80] := by
  constructor
  · simp [BuilderCall.setsEthType]
  · simp [BuilderCall.setsIpProto]

theorem build_web_prerequisitesMet_iff :
    (Match.build [.ethType 0x0800, .tcpDst 80]).PrerequisitesMet ↔
      ProtoCallsOnIp [.ethType 0x0800, .tcpDst 80] :=
  build_prerequisitesMet_iff consistent_web

/-- The match on a port has `ip_proto` and no `eth_type`. -/
theorem tcpDst_prerequisites_missing :
    Consistent [.tcpDst 80] ∧ ¬ (Match.build [.tcpDst 80]).PrerequisitesMet := by
  have h : Consistent [.tcpDst 80] := by
    constructor
    · simp [BuilderCall.setsEthType]
    · simp [BuilderCall.setsIpProto]
  refine ⟨h, ?_⟩
  intro hmet
  rcases h.typed.prerequisitesMet_iff.mp hmet rfl with hv4 | hv6
  · cases hv4
  · cases hv6

end Rovs.OpenFlow

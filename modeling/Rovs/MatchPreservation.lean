import Mathlib.Data.List.Pairwise
import Rovs.MatchRetention

/-!
# What decoding preserves of a match

A row of conditions without duplicates is decoded to a match that says what is kept of them.  When
every value fits, there is a packet that satisfies all that is kept, and changing it in the pieces
of one condition shows whether that condition is retained.  A value that does not fit is kept as a
condition that no packet satisfies, which is right only for a row that no packet satisfies.

`decode_preserves_iff` joins the two cases.  `Tlv.Retained` is the condition on one TLV, stated by
its field and its mask.
-/

namespace Rovs.OpenFlow

/-! ### Rows of conditions -/

/-- The pieces of a packet that a field shows. -/
def Field.pieces : Field → List Piece
  | .part p => [.part p]
  | .vlanVid => [.vid]
  | .vlanPcp => [.pcp]
  | .vlanTci => [.vid, .pcp]
  | .ofp10InPort => [.part .inPort]
  | .ipTos => [.part .ipDscp]

/-- No piece of a packet is in two conditions. -/
def DuplicateFree (ts : List Tlv) : Prop := (ts.flatMap fun t => t.field.pieces).Nodup

instance (ts : List Tlv) : Decidable (DuplicateFree ts) :=
  inferInstanceAs (Decidable (List.Nodup _))

/-- A packet satisfies the row. -/
def Satisfies (pkt : Packet) (ts : List Tlv) : Prop := ∀ t ∈ ts, t.Holds pkt

/-- The decoder refuses the row, or the match that it returns says the same about every packet. -/
def Preserved (ts : List Tlv) : Prop :=
  (∃ e, Match.decodeOxm (ts.flatMap Tlv.encode) = .err e) ∨
    ∃ m, Match.decodeOxm (ts.flatMap Tlv.encode) = .ok m ∧
      ∀ pkt, Satisfies pkt ts ↔ m.Holds pkt

/-- No packet satisfies the row. -/
def Contradictory (ts : List Tlv) : Prop := ∀ pkt, ¬ Satisfies pkt ts

/-! ### What a condition depends on -/

/-- Two packets have the same in a piece. -/
def Piece.Same (pkt pkt' : Packet) : Piece → Prop
  | .part p => pkt.part p = pkt'.part p
  | .vid => pkt.vlan.map VlanTag.vid = pkt'.vlan.map VlanTag.vid
  | .pcp => pkt.vlan.map VlanTag.pcp = pkt'.vlan.map VlanTag.pcp

section Depends

variable {pkt pkt' : Packet}

theorem vlanWord_map (vlan : Option VlanTag) : vlanWord vlan =
    (vlan.map VlanTag.vid).elim 0 fun vid => present (vid.setWidth 16) := by
  cases vlan <;> rfl

theorem vlan_ext {vlan vlan' : Option VlanTag}
    (hvid : vlan.map VlanTag.vid = vlan'.map VlanTag.vid)
    (hpcp : vlan.map VlanTag.pcp = vlan'.map VlanTag.pcp) : vlan = vlan' := by
  rcases vlan with _ | ⟨pcp, vid⟩
  · rcases vlan' with _ | tag'
    · rfl
    · simp at hvid
  · rcases vlan' with _ | ⟨pcp', vid'⟩
    · simp at hvid
    · simp only [Option.map_some, Option.some.injEq] at hvid hpcp
      rw [hvid, hpcp]

theorem Field.read_congr {f : Field} (h : ∀ x ∈ f.pieces, x.Same pkt pkt') :
    f.read pkt = f.read pkt' := by
  cases f with
  | part p =>
    have hpart : pkt.part p = pkt'.part p := h (.part p) (by simp [Field.pieces])
    simp only [Field.read, hpart]
  | vlanVid =>
    have hvid : pkt.vlan.map VlanTag.vid = pkt'.vlan.map VlanTag.vid :=
      h .vid (by simp [Field.pieces])
    simp only [Field.read, vlanWord_map, hvid]
  | vlanPcp =>
    have hpcp : pkt.vlan.map VlanTag.pcp = pkt'.vlan.map VlanTag.pcp :=
      h .pcp (by simp [Field.pieces])
    have hmap := congrArg (Option.map fun pcp : BitVec 3 => pcp.setWidth 8) hpcp
    rwa [Option.map_map, Option.map_map] at hmap
  | ofp10InPort =>
    have hpart : pkt.part .inPort = pkt'.part .inPort := h (.part .inPort) (by simp [Field.pieces])
    exact congrArg ofp10Port hpart
  | vlanTci =>
    have hvlan : pkt.vlan = pkt'.vlan :=
      vlan_ext (h .vid (by simp [Field.pieces])) (h .pcp (by simp [Field.pieces]))
    simp only [Field.read, hvlan]
  | ipTos =>
    have hpart : pkt.part .ipDscp = pkt'.part .ipDscp := h (.part .ipDscp) (by simp [Field.pieces])
    simp only [Field.read, hpart]

theorem Tlv.holds_congr {t : Tlv} (h : ∀ x ∈ t.field.pieces, x.Same pkt pkt') :
    t.Holds pkt ↔ t.Holds pkt' := by
  rw [Tlv.Holds, Tlv.Holds, Field.read_congr h]

theorem Tlv.kept_pieces (t : Tlv) : t.kept.field.pieces = [t.field.piece] := by
  rcases t with ⟨class_, number, f, known, v, mask⟩
  cases f <;> rfl

theorem Field.piece_mem (f : Field) : f.piece ∈ f.pieces := by
  cases f <;> simp [Field.piece, Field.pieces]

/-- What is kept of a condition depends on nothing else. -/
theorem Tlv.kept_congr {t : Tlv} (h : ∀ x ∈ t.field.pieces, x.Same pkt pkt') :
    t.kept.Holds pkt ↔ t.kept.Holds pkt' := by
  apply Tlv.holds_congr
  intro x hx
  rw [Tlv.kept_pieces, List.mem_singleton] at hx
  exact hx ▸ h _ t.field.piece_mem

end Depends

/-! ### Packets that satisfy what is kept -/

section Fill

variable {pkt : Packet} {t : Tlv}

/-- A packet with what a condition keeps. -/
def Packet.fill (pkt : Packet) (t : Tlv) : Packet :=
  let tag := pkt.vlan.getD ⟨0, 0⟩
  match t with
  | ⟨_, _, .part p, _, v, _⟩ => pkt.put p (v.setWidth _)
  | ⟨_, _, .vlanVid, _, v, _⟩ => { pkt with vlan := some { tag with vid := v.setWidth 12 } }
  | ⟨_, _, .vlanTci, _, v, _⟩ => { pkt with vlan := some { tag with vid := v.setWidth 12 } }
  | ⟨_, _, .vlanPcp, _, v, _⟩ => { pkt with vlan := some { tag with pcp := v.setWidth 3 } }
  | ⟨_, _, .ofp10InPort, _, v, _⟩ => pkt.put .inPort (v.setWidth 32)
  | ⟨_, _, .ipTos, _, v, _⟩ => pkt.put .ipDscp ((v >>> 2).setWidth 6)

theorem Packet.fill_tagged (h : pkt.vlan.isSome = true) : (pkt.fill t).vlan.isSome = true := by
  rcases t with ⟨class_, number, f, known, v, mask⟩
  cases f with
  | part p => exact h
  | ofp10InPort => exact h
  | ipTos => exact h
  | vlanVid => rfl
  | vlanPcp => rfl
  | vlanTci => rfl

theorem Packet.put_same {p : Part} (v : BitVec p.width) {x : Piece} (hx : x ≠ .part p) :
    x.Same pkt (pkt.put p v) := by
  cases x with
  | part q =>
    have hq : q ≠ p := fun h => hx (congrArg Piece.part h)
    exact (pkt.put_part_of_ne v hq).symm
  | vid => rfl
  | pcp => rfl

/-- The other pieces of a packet with a tag are as they were. -/
theorem Packet.fill_same (h : pkt.vlan.isSome = true) {x : Piece} (hx : x ≠ t.field.piece) :
    x.Same pkt (pkt.fill t) := by
  rcases t with ⟨class_, number, f, known, v, mask⟩
  rcases pkt with ⟨part, _ | tag⟩
  · cases h
  · cases f with
    | part p => exact Packet.put_same _ hx
    | ofp10InPort => exact Packet.put_same _ hx
    | ipTos => exact Packet.put_same _ hx
    | vlanVid | vlanTci =>
      cases x with
      | part q => rfl
      | vid => exact absurd rfl hx
      | pcp => rfl
    | vlanPcp =>
      cases x with
      | part q => rfl
      | vid => rfl
      | pcp => exact absurd rfl hx

theorem part_holds_put {class_ : OxmClass} {number : U8} {p : Part}
    (known : Field.ofHeader class_ number = some (.part p)) {v : BitVec p.wireWidth}
    (mask : Option (BitVec p.wireWidth)) (hfits : v.toNat < 2 ^ p.width) :
    Tlv.Holds ⟨class_, number, .part p, known, v, mask⟩ (pkt.put p (v.setWidth p.width)) := by
  refine ⟨v, ?_, rfl⟩
  rw [Field.read, Packet.put_part_self, setWidth_back hfits]

theorem Tlv.kept_holds_fill (hfits : t.Fits) : t.kept.Holds (pkt.fill t) := by
  rcases t with ⟨class_, number, f, known, v, mask⟩
  cases f with
  | part p => exact part_holds_put p.known _ hfits
  | ofp10InPort =>
    have hput : (pkt.put .inPort (BitVec.setWidth 32 v)).part .inPort = BitVec.setWidth 32 v :=
      pkt.put_part_self _
    refine ⟨BitVec.setWidth 32 v, ?_, rfl⟩
    exact congrArg some ((congrArg (BitVec.setWidth 32) hput).trans (BitVec.setWidth_eq _))
  | ipTos => exact part_holds_put (p := .ipDscp) rfl none (shift_lt v)
  | vlanVid => exact ⟨_, congrArg some (present_vid v), rfl⟩
  | vlanTci => exact ⟨_, congrArg some ((present_vid v).trans (present_vidBits v hfits)), rfl⟩
  | vlanPcp => exact ⟨_, congrArg some (setWidth_back hfits), rfl⟩

theorem Part.keptMask_of_narrow {p : Part} (h : p.width < p.wireWidth)
    (mask : Option (BitVec p.wireWidth)) : p.keptMask mask = none := by
  cases p with
  | ipDscp | ipEcn | ipv6Flabel => rfl
  | _ => exact absurd h (by decide)

/-- A value that does not fit is kept as a condition that no packet satisfies. -/
theorem Tlv.not_kept_holds (hfits : ¬ t.Fits) : ¬ t.kept.Holds pkt := by
  rcases t with ⟨class_, number, f, known, v, mask⟩
  intro h
  apply hfits
  cases f with
  | part p =>
    rcases Nat.lt_or_ge p.width p.wireWidth with hlt | hge
    · have hv : (pkt.part p).setWidth p.wireWidth = v :=
        (Tlv.holds_plain rfl (Part.keptMask_of_narrow hlt mask)).mp h
      have hsmall : v.toNat < 2 ^ p.width := by
        rw [← hv]
        exact toNat_setWidth_lt _
      exact hsmall
    · exact Nat.lt_of_lt_of_le v.isLt (Nat.pow_le_pow_right (by decide) hge)
  | vlanPcp =>
    rcases hvlan : pkt.vlan with _ | tag
    · exact absurd h (Tlv.not_holds_of_read (read_pcp hvlan))
    · have hv : tag.pcp.setWidth 8 = v := (Tlv.holds_plain (read_pcp hvlan) rfl).mp h
      have hsmall : v.toNat < 8 := by
        rw [← hv]
        exact toNat_setWidth_lt tag.pcp
      exact hsmall
  | vlanTci =>
    have hv : vlanWord pkt.vlan = present v := (Tlv.holds_plain rfl rfl).mp h
    exact lt_of_present (hv ▸ vlanWord_lt pkt.vlan)
  | _ => trivial

/-- What is kept of a row is satisfied by a packet with a tag, if all values fit. -/
theorem exists_kept {ts : List Tlv} (hdistinct : (ts.map fun t => t.field.piece).Nodup)
    (hfits : ∀ t ∈ ts, t.Fits) :
    ∃ pkt : Packet, pkt.vlan.isSome = true ∧ ∀ t ∈ ts, t.kept.Holds pkt := by
  induction ts with
  | nil => exact ⟨⟨fun _ => 0, some ⟨0, 0⟩⟩, rfl, by simp⟩
  | cons t ts ih =>
    rw [List.map_cons, List.nodup_cons] at hdistinct
    rw [List.forall_mem_cons] at hfits
    rcases ih hdistinct.2 hfits.2 with ⟨pkt, htagged, hholds⟩
    refine ⟨pkt.fill t, Packet.fill_tagged htagged, ?_⟩
    rw [List.forall_mem_cons]
    refine ⟨Tlv.kept_holds_fill hfits.1, fun u hu => ?_⟩
    refine (Tlv.holds_congr fun x hx => ?_).mp (hholds u hu)
    rw [Tlv.kept_pieces, List.mem_singleton] at hx
    apply Packet.fill_same htagged
    intro heq
    rw [hx] at heq
    exact hdistinct.1 (heq ▸ List.mem_map_of_mem hu)

end Fill

/-! ### Changing one condition's pieces -/

section Overlay

variable {ts : List Tlv} {t u : Tlv} {pkt pkt' : Packet}

theorem DuplicateFree.disjoint (h : DuplicateFree ts) (ht : t ∈ ts) (hu : u ∈ ts) (hne : u ≠ t) :
    ∀ x ∈ u.field.pieces, x ∉ t.field.pieces := by
  have hsymm : Std.Symm (Function.onFun List.Disjoint fun t : Tlv => t.field.pieces) :=
    ⟨fun _ _ hd => hd.symm⟩
  intro x hx hx'
  exact (List.nodup_flatMap.mp h).2.forall hu ht hne hx hx'

theorem DuplicateFree.pieces (h : DuplicateFree ts) : (ts.map fun t => t.field.piece).Nodup := by
  rw [DuplicateFree, List.nodup_flatMap] at h
  rw [List.Nodup, List.pairwise_map]
  apply h.2.imp
  intro t u hdisjoint heq
  exact hdisjoint t.field.piece_mem (heq ▸ u.field.piece_mem)

theorem Field.pcp_mem {f : Field} (h : Piece.pcp ∈ f.pieces) :
    f = .vlanPcp ∨ Piece.vid ∈ f.pieces := by
  cases f with
  | vlanPcp => exact .inl rfl
  | vlanTci => exact .inr (by simp [Field.pieces])
  | _ => simp [Field.pieces] at h

/-- Some packet has the pieces of a condition from one packet and the others from another, as far
    as the other conditions of the row see them. -/
theorem exists_overlay (hfree : DuplicateFree ts) (ht : t ∈ ts) (htagged : pkt.vlan.isSome = true)
    (hseen : t.Tagged ts pkt') (hpcp : t.field = .vlanPcp → pkt'.vlan.isSome = true) :
    ∃ pkt'' : Packet, (∀ x ∈ t.field.pieces, x.Same pkt' pkt'') ∧
      ∀ u ∈ ts, u ≠ t → ∀ x ∈ u.field.pieces, x.Same pkt pkt'' := by
  have hothers : ∀ pkt'' : Packet, (∀ x, x ∉ t.field.pieces → x.Same pkt pkt'') →
      ∀ u ∈ ts, u ≠ t → ∀ x ∈ u.field.pieces, x.Same pkt pkt'' :=
    fun pkt'' hsame u hu hne x hx => hsame x (hfree.disjoint ht hu hne x hx)
  have hput : ∀ p, t.field.pieces = [.part p] → ∃ pkt'' : Packet,
      (∀ x ∈ t.field.pieces, x.Same pkt' pkt'') ∧
        ∀ u ∈ ts, u ≠ t → ∀ x ∈ u.field.pieces, x.Same pkt pkt'' := by
    intro p hpieces
    refine ⟨pkt.put p (pkt'.part p), ?_, hothers _ ?_⟩
    · simp [hpieces, Piece.Same]
    · intro x hx
      apply Packet.put_same
      rintro rfl
      simp [hpieces] at hx
  rcases pkt with ⟨part, _ | tag⟩
  · cases htagged
  cases hf : t.field with
  | part p => exact hf ▸ hput p (by rw [hf]; rfl)
  | ofp10InPort => exact hf ▸ hput .inPort (by rw [hf]; rfl)
  | ipTos => exact hf ▸ hput .ipDscp (by rw [hf]; rfl)
  | vlanTci =>
    refine ⟨⟨part, pkt'.vlan⟩, ?_, hothers _ ?_⟩
    · simp [Field.pieces, Piece.Same]
    · intro x hx
      cases x with
      | part q => rfl
      | vid => simp [hf, Field.pieces] at hx
      | pcp => simp [hf, Field.pieces] at hx
  | vlanPcp =>
    rcases hvlan' : pkt'.vlan with _ | tag'
    · have htagged' := hpcp hf
      rw [hvlan'] at htagged'
      cases htagged'
    · refine ⟨⟨part, some ⟨tag'.pcp, tag.vid⟩⟩, ?_, hothers _ ?_⟩
      · simp [Field.pieces, Piece.Same, hvlan']
      · intro x hx
        cases x with
        | part q => rfl
        | vid => rfl
        | pcp => simp [hf, Field.pieces] at hx
  | vlanVid =>
    rcases hvlan' : pkt'.vlan with _ | tag'
    · -- no other condition of the row sees the tag
      refine ⟨⟨part, none⟩, ?_, ?_⟩
      · simp [Field.pieces, Piece.Same, hvlan']
      · intro u hu hne x hx
        have hvid : Piece.vid ∉ u.field.pieces := by
          intro hvid
          exact hfree.disjoint ht hu hne .vid hvid (by simp [hf, Field.pieces])
        cases x with
        | part q => rfl
        | vid => exact absurd hx hvid
        | pcp =>
          rcases Field.pcp_mem hx with hu' | hvid'
          · have htagged' := hseen hf ⟨u, hu, hu'⟩
            rw [hvlan'] at htagged'
            cases htagged'
          · exact absurd hvid' hvid
    · refine ⟨⟨part, some ⟨tag.pcp, tag'.vid⟩⟩, ?_, hothers _ ?_⟩
      · simp [Field.pieces, Piece.Same, hvlan']
      · intro x hx
        cases x with
        | part q => rfl
        | vid => simp [hf, Field.pieces] at hx
        | pcp => rfl

end Overlay

/-! ### Rows -/

section Rows

variable {ts : List Tlv} {pkt : Packet}

theorem preserved_iff (h : DuplicateFree ts) :
    Preserved ts ↔ ∀ pkt, Satisfies pkt ts ↔ ∀ t ∈ ts, t.kept.Holds pkt := by
  rcases decodeOxm_row h.pieces with ⟨m, hdec, hholds⟩
  constructor
  case mp =>
    rintro (⟨e, herr⟩ | ⟨m', hdec', hsame⟩) pkt
    · rw [hdec] at herr
      cases herr
    · rw [hdec] at hdec'
      cases hdec'
      rw [hsame, hholds]
  case mpr =>
    intro hsame
    refine .inr ⟨m, hdec, fun pkt => ?_⟩
    rw [hsame, hholds]

theorem Tlv.tagged_of_holds {t : Tlv} (hf : t.field = .vlanPcp) (h : t.Holds pkt) :
    pkt.vlan.isSome = true := by
  rcases hvlan : pkt.vlan with _ | tag
  · rcases t with ⟨class_, number, f, known, v, mask⟩
    cases hf
    exact absurd h (Tlv.not_holds_of_read (read_pcp hvlan))
  · rfl

theorem Tlv.kept_field_pcp {t : Tlv} (hf : t.field = .vlanPcp) : t.kept.field = .vlanPcp := by
  rcases t with ⟨class_, number, f, known, v, mask⟩
  cases hf
  rfl

/-- Retained conditions say together what is kept of them. -/
theorem satisfies_kept (hfits : ∀ t ∈ ts, t.Fits) (hretained : ∀ t ∈ ts, t.Retained ts) :
    Satisfies pkt ts ↔ ∀ t ∈ ts, t.kept.Holds pkt := by
  have hiff : ∀ t ∈ ts, t.Tagged ts pkt → (t.Holds pkt ↔ t.kept.Holds pkt) := fun t ht =>
    (Tlv.retained_iff ts (hfits t ht)).mp (hretained t ht) pkt
  constructor
  case mp =>
    intro h t ht
    refine (hiff t ht ?_).mp (h t ht)
    rintro - ⟨u, hu, hpcp⟩
    exact Tlv.tagged_of_holds hpcp (h u hu)
  case mpr =>
    intro h t ht
    refine (hiff t ht ?_).mpr (h t ht)
    rintro - ⟨u, hu, hpcp⟩
    exact Tlv.tagged_of_holds (Tlv.kept_field_pcp hpcp) (h u hu)

/-- A row is satisfied when one condition is, if the others are. -/
theorem forall_mem_iff_of {P : Tlv → Prop} {t : Tlv} (ht : t ∈ ts)
    (h : ∀ u ∈ ts, u ≠ t → P u) : (∀ u ∈ ts, P u) ↔ P t := by
  constructor
  case mp => exact fun hall => hall t ht
  case mpr =>
    intro hP u hu
    by_cases hne : u = t
    · rwa [hne]
    · exact h u hu hne

/-- If a row says what is kept of it, each condition is retained. -/
theorem retained_of_kept (hfree : DuplicateFree ts) (hfits : ∀ t ∈ ts, t.Fits)
    (hsame : ∀ pkt, Satisfies pkt ts ↔ ∀ t ∈ ts, t.kept.Holds pkt) {t : Tlv} (ht : t ∈ ts) :
    t.Retained ts := by
  rw [Tlv.retained_iff ts (hfits t ht)]
  intro pkt' hseen
  rcases exists_kept hfree.pieces hfits with ⟨pkt, htagged, hkept⟩
  have hholds := (hsame pkt).mpr hkept
  by_cases hpcp : t.field = .vlanPcp → pkt'.vlan.isSome = true
  · rcases exists_overlay hfree ht htagged hseen hpcp with ⟨pkt'', hpieces, hothers⟩
    have hrow : Satisfies pkt'' ts ↔ t.Holds pkt'' :=
      forall_mem_iff_of ht fun u hu hne => (Tlv.holds_congr (hothers u hu hne)).mp (hholds u hu)
    have hrow' : (∀ u ∈ ts, u.kept.Holds pkt'') ↔ t.kept.Holds pkt'' :=
      forall_mem_iff_of ht fun u hu hne =>
        (Tlv.kept_congr (hothers u hu hne)).mp (hkept u hu)
    rw [Tlv.holds_congr hpieces, Tlv.kept_congr hpieces, ← hrow, ← hrow', hsame]
  · -- a condition on the priority is not satisfied without a tag
    rw [Classical.not_imp] at hpcp
    constructor
    · intro h
      exact absurd (Tlv.tagged_of_holds hpcp.1 h) hpcp.2
    · intro h
      exact absurd (Tlv.tagged_of_holds (Tlv.kept_field_pcp hpcp.1) h) hpcp.2

/-- **A row without duplicates keeps its meaning exactly when every value fits and every condition
    is retained, or when a value does not fit and no packet satisfies the row anyway.** -/
theorem decode_preserves_iff (h : DuplicateFree ts) : Preserved ts ↔
    (∀ t ∈ ts, t.Fits ∧ t.Retained ts) ∨ (Contradictory ts ∧ ∃ t ∈ ts, ¬ t.Fits) := by
  rw [preserved_iff h]
  by_cases hfits : ∀ t ∈ ts, t.Fits
  · constructor
    case mp =>
      intro hsame
      exact .inl fun t ht => ⟨hfits t ht, retained_of_kept h hfits hsame ht⟩
    case mpr =>
      rintro (hretained | ⟨-, t, ht, hunfit⟩)
      · exact fun pkt => satisfies_kept hfits fun t ht => (hretained t ht).2
      · exact absurd (hfits t ht) hunfit
  · have hunfit : ∃ t ∈ ts, ¬ t.Fits := by
      simpa only [not_forall, exists_prop] using hfits
    have hnone : ∀ pkt, ¬ ∀ t ∈ ts, t.kept.Holds pkt := by
      rcases hunfit with ⟨t, ht, hunfit⟩
      exact fun pkt hkept => Tlv.not_kept_holds hunfit (hkept t ht)
    constructor
    case mp =>
      intro hsame
      exact .inr ⟨fun pkt hpkt => hnone pkt ((hsame pkt).mp hpkt), hunfit⟩
    case mpr =>
      rintro (hretained | ⟨hcontra, -⟩) pkt
      · exact absurd (fun t ht => (hretained t ht).1) hfits
      · exact iff_of_false (hcontra pkt) (hnone pkt)

end Rows

/-- HTTP to 10.0.0.0/8. -/
def webRow : List Tlv := [
  ⟨.openflowBasic, OxmField.ethType.toU8, .part .ethType, Part.known .ethType, 0x0800, none⟩,
  ⟨.openflowBasic, OxmField.ipv4Dst.toU8, .part .ipv4Dst, Part.known .ipv4Dst, 0x0a000000,
    some 0xff000000⟩,
  ⟨.nxm0, 10, .part .tcpDst, rfl, 80, none⟩]

theorem decode_preserves_iff_web : Preserved webRow := by
  apply (decode_preserves_iff (by decide)).mpr
  apply Or.inl
  decide

/-- `VLAN_VID` with value and mask 0x1000: every packet with a tag. -/
def anyTag : Tlv :=
  ⟨.openflowBasic, OxmField.vlanVid.toU8, .vlanVid, vlanVid_known, 0x1000, some 0x1000⟩

/-- Decoded, it is a match on the VLAN id 0. -/
theorem anyTag_not_preserved : ¬ ∀ ts, DuplicateFree ts → Preserved ts := by
  intro h
  have hfree : DuplicateFree [anyTag] := by decide
  have hsame := (preserved_iff hfree).mp (h _ hfree) ⟨fun _ => 0, some ⟨0, 5⟩⟩
  have hholds : Satisfies ⟨fun _ => 0, some ⟨0, 5⟩⟩ [anyTag] := by
    rw [Satisfies, List.forall_mem_singleton]
    decide
  have hkept : ¬ anyTag.kept.Holds ⟨fun _ => 0, some ⟨0, 5⟩⟩ := by decide
  exact hkept (hsame.mp hholds _ (List.mem_singleton_self _))

end Rovs.OpenFlow

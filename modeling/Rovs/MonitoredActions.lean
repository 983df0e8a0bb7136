import Rovs.InstructionRoundTrip
import Rovs.MonitorRecords

/-!
# The actions of a monitored flow

Open vSwitch pads the match of a full update with zeros to a multiple of eight
bytes before the actions.  The parser takes everything behind the match for
actions, padding included.  The action bytes are those of the flow exactly if the
match needs no padding; otherwise the zeros in front of them read like the end of
an action list.

`monitoredActions_iff` is the main result, for an update at any place of a reply.
-/

namespace Rovs.OpenFlow

/-- A full update in the layout of Open vSwitch, with actions that a list of them decodes to. -/
structure PaddedRecord where
  event : FlowUpdateEvent
  reason : U16
  priority : U16
  idleTimeout : U16
  hardTimeout : U16
  tableId : U8
  pad : U8
  cookie : U64
  matchFields : Match
  actions : ActionList
  representable : matchFields.Representable
  exact_ : ∀ a ∈ actions.actions, a.Exact
  fits : flowUpdateFixedSize + pad8 matchFields.oxmFields.length + actions.encode.length ≤ 65535

namespace PaddedRecord

/-- The zeros between the match and the actions. -/
def padding (r : PaddedRecord) : Bytes :=
  zeros (pad8 r.matchFields.oxmFields.length - r.matchFields.oxmFields.length)

theorem record_fits (r : PaddedRecord) : flowUpdateFixedSize + r.matchFields.oxmFields.length +
    (r.padding ++ r.actions.encode).length ≤ 65535 := by
  have hfits := r.fits
  have hle := le_pad8 r.matchFields.oxmFields.length
  rw [padding, List.length_append, zeros_length]
  omega

/-- Its bytes: the padding stands in front of the actions, behind the match. -/
def record (r : PaddedRecord) : MonitorRecord where
  event := r.event
  reason := r.reason
  priority := r.priority
  idleTimeout := r.idleTimeout
  hardTimeout := r.hardTimeout
  tableId := r.tableId
  pad := r.pad
  cookie := r.cookie
  matchFields := r.matchFields
  actions := r.padding ++ r.actions.encode
  representable := r.representable
  fits := r.record_fits

/-- The update holds the encoded actions, and they decode to the list. -/
def ActionsRead (r : PaddedRecord) (got : FlowUpdate) : Prop :=
  ∃ update, got = .full update ∧ update.actions = r.actions.encode ∧
    ActionList.decode update.actions = .ok r.actions

theorem padding_eq_nil_iff (r : PaddedRecord) :
    r.padding = [] ↔ r.matchFields.oxmFields.length % 8 = 0 := by
  rw [← List.length_eq_zero_iff, padding, zeros_length]
  unfold pad8
  omega

theorem actionsRead_iff (r : PaddedRecord) :
    r.ActionsRead (.full r.record.update) ↔ r.matchFields.oxmFields.length % 8 = 0 := by
  rw [← r.padding_eq_nil_iff]
  constructor
  case mp =>
    rintro ⟨update, hupdate, hactions, -⟩
    cases hupdate
    exact List.append_left_eq_self.mp hactions
  case mpr =>
    intro hnone
    have hactions : r.record.update.actions = r.actions.encode := by
      change r.padding ++ r.actions.encode = _
      rw [hnone, List.nil_append]
    refine ⟨_, rfl, hactions, ?_⟩
    rw [hactions]
    exact ActionList.decode_encode_exact r.exact_

end PaddedRecord

/-- **In every reply, a full update in the layout of Open vSwitch is read with its actions
    exactly if the length of its match is a multiple of eight.** -/
theorem monitoredActions_iff (flags : U16) (reserved : U32) (before after : List MonitorEntry)
    (r : PaddedRecord) :
    (∃ updates more got,
      parseFlowMonitorReply (monitorReplyHeader flags reserved ++
          (before ++ .full r.record :: after).flatMap MonitorEntry.encode) = .ok (updates, more) ∧
        updates[before.length]? = some got ∧ r.ActionsRead got) ↔
      r.matchFields.oxmFields.length % 8 = 0 := by
  have hentry : ((before ++ .full r.record :: after).map MonitorEntry.update)[before.length]? =
      some (.full r.record.update) := by
    rw [List.map_append, List.map_cons, List.getElem?_append_right (by rw [List.length_map]),
      List.length_map, Nat.sub_self]
    rfl
  rw [← r.actionsRead_iff]
  constructor
  case mp =>
    rintro ⟨updates, more, got, hparse, hgot, hread⟩
    rw [parseFlowMonitorReply_entries] at hparse
    cases hparse
    rw [hentry] at hgot
    cases hgot
    exact hread
  case mpr =>
    intro hread
    exact ⟨_, _, _, parseFlowMonitorReply_entries flags reserved _, hentry, hread⟩

theorem ethType_representable : Match.Representable { Match.new with ethType := some 0x0800 } where
  tcpFlags := rfl
  vlanVid := nofun
  metadata := fun _ => rfl
  ethSrc := fun _ => rfl
  ethDst := fun _ => rfl
  ipv4Src := fun _ => rfl
  ipv4Dst := fun _ => rfl
  ipv6Src := fun _ => rfl
  ipv6Dst := fun _ => rfl
  ctState := fun _ => rfl
  ctMark := fun _ => rfl

theorem floodActions_exact : ∀ a ∈ [Action.output .flood], a.Exact := by
  intro a ha
  cases List.mem_singleton.mp ha
  exact ⟨by decide, fun p hp => by cases hp⟩

theorem floodRecord_fits :
    flowUpdateFixedSize + pad8 (Match.oxmFields { Match.new with ethType := some 0x0800 }).length +
      (ActionList.encode ⟨[.output .flood]⟩).length ≤ 65535 := by decide

/-- Flood what has the Ethernet type of IPv4: six bytes of match, two of padding. -/
def floodRecord : PaddedRecord where
  event := .added
  reason := 0
  priority := 10
  idleTimeout := 0
  hardTimeout := 0
  tableId := 0
  pad := 0
  cookie := 0
  matchFields := { Match.new with ethType := some 0x0800 }
  actions := ⟨[.output .flood]⟩
  representable := ethType_representable
  exact_ := floodActions_exact
  fits := floodRecord_fits

/-- The actions are read with the padding, and decode to no actions at all. -/
theorem floodRecord_misread :
    (parseFlowMonitorReply (monitorReplyHeader 0 0 ++
        [MonitorEntry.full floodRecord.record].flatMap MonitorEntry.encode)) =
      .ok ([.full floodRecord.record.update], false) ∧
    floodRecord.record.update.actions = [0, 0] ++ floodRecord.actions.encode ∧
    ActionList.decode floodRecord.record.update.actions = .ok ⟨[]⟩ ∧
    ¬ floodRecord.ActionsRead (.full floodRecord.record.update) := by
  refine ⟨parseFlowMonitorReply_entries 0 0 _, by decide, by decide, ?_⟩
  rw [floodRecord.actionsRead_iff]
  decide

end Rovs.OpenFlow

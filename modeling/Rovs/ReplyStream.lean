import Rovs.SwitchLink

/-!
# Series of multipart replies

A call that asks for more than fits in one message collects multipart replies until one comes
without the "more" flag.  Between the replies the switch sends messages that the call passes
over.  What a reply holds is a matter of its format; the loop only needs that its parser
reads the format.
-/

namespace Rovs.OpenFlow

open Outcome

/-- A message that a loop around multipart replies passes over. -/
structure Message.PassedOver (msg : Message) : Prop where
  framed : msg.Framed
  ne_error : msg.header.msgType ≠ .error
  ne_reply : msg.header.msgType ≠ .multipartReply

/-- What comes next from the switch: a multipart reply with any header, or another message. -/
inductive Arrival (ρ : Type) where
  | reply (version : Version) (xid : U32) (r : ρ)
  | other (msg : Message) (h : msg.PassedOver)

/-- The replies among the arrivals, in their order. -/
def replies {ρ : Type} : List (Arrival ρ) → List ρ
  | [] => []
  | .reply _ _ r :: arrivals => r :: replies arrivals
  | .other _ _ :: arrivals => replies arrivals

theorem mem_replies {ρ : Type} {version : Version} {xid : U32} {r : ρ}
    {arrivals : List (Arrival ρ)} (h : .reply version xid r ∈ arrivals) : r ∈ replies arrivals := by
  induction arrivals with
  | nil => cases h
  | cons arrival arrivals ih =>
    rcases List.mem_cons.mp h with rfl | hrest
    · exact List.mem_cons_self
    · cases arrival with
      | reply version' xid' r' => exact List.mem_cons_of_mem _ (ih hrest)
      | other msg h' => exact ih hrest

/-- How replies are written, and what they hold. -/
structure ReplyFormat (ρ α : Type) where
  body : ρ → Bytes
  items : ρ → List α
  hasMore : ρ → Bool
  fits : ∀ r, Header.size + (body r).length < 65536

/-- A loop body of `dump_flows_filtered` and of `monitor_flows`: the items so far and the
    messages that are written before the next one is read, or all items. -/
def awaitSeries {α : Type} (parse : Bytes → Result (List α × Bool)) (conn : VConn)
    (all : List α) (reply : Message) : Result (Pass (List α × List Message) (List α)) := do
  checkError reply
  if reply.header.msgType = .echoRequest then pure (.again (all, [conn.echoReply reply]))
  else if reply.header.msgType ≠ .multipartReply then pure (.again (all, []))
  else do
    let (items, hasMore) ← parse reply.body
    if hasMore then pure (.again (all ++ items, []))
    else pure (.leave (all ++ items))

namespace ReplyFormat

variable {ρ α : Type} (format : ReplyFormat ρ α)

/-- The parser reads every reply of the format. -/
def ReadBy (parse : Bytes → Result (List α × Bool)) : Prop :=
  ∀ r, parse (format.body r) = .ok (format.items r, format.hasMore r)

def message : Arrival ρ → Message
  | .reply version xid r => Message.new version .multipartReply xid (format.body r)
  | .other msg _ => msg

def messages (arrivals : List (Arrival ρ)) : List Message := arrivals.map format.message

/-- Everything that the replies among the arrivals hold. -/
def contents (arrivals : List (Arrival ρ)) : List α := (replies arrivals).flatMap format.items

/-- The answers to the keep-alives among the arrivals. -/
def answers (conn : VConn) (arrivals : List (Arrival ρ)) : List Message :=
  (format.messages arrivals).flatMap (SwitchLink.keepAlive conn)

/-- Every arrival is a whole message, so a call that reads it takes exactly its bytes. -/
theorem message_framed (arrival : Arrival ρ) : (format.message arrival).Framed := by
  cases arrival with
  | reply version xid r => exact Message.new_framed version .multipartReply xid (format.fits r)
  | other msg h => exact h.framed

theorem answers_reply (conn : VConn) (version : Version) (xid : U32) (r : ρ)
    (arrivals : List (Arrival ρ)) :
    format.answers conn (.reply version xid r :: arrivals) = format.answers conn arrivals := rfl

theorem answers_other (conn : VConn) (msg : Message) (h : msg.PassedOver)
    (arrivals : List (Arrival ρ)) :
    format.answers conn (.other msg h :: arrivals) =
      SwitchLink.keepAlive conn msg ++ format.answers conn arrivals := rfl

@[simp] theorem answers_nil (conn : VConn) : format.answers conn [] = [] := rfl

theorem answers_append (conn : VConn) (arrivals more : List (Arrival ρ)) :
    format.answers conn (arrivals ++ more) =
      format.answers conn arrivals ++ format.answers conn more := by
  rw [answers, messages, List.map_append, List.flatMap_append]
  rfl

theorem contents_reply (version : Version) (xid : U32) (r : ρ) (arrivals : List (Arrival ρ)) :
    format.contents (.reply version xid r :: arrivals) =
      format.items r ++ format.contents arrivals := rfl

theorem contents_append (arrivals more : List (Arrival ρ)) :
    format.contents (arrivals ++ more) = format.contents arrivals ++ format.contents more := by
  induction arrivals with
  | nil => rfl
  | cons arrival arrivals ih =>
    cases arrival with
    | reply version xid r =>
      rw [List.cons_append, contents_reply, contents_reply, ih, List.append_assoc]
    | other msg h => exact ih

end ReplyFormat

/-! ### One message -/

section Pass

variable {α : Type} {parse : Bytes → Result (List α × Bool)} (conn : VConn) (all : List α)

theorem Message.PassedOver.awaitSeries {msg : Message} (h : msg.PassedOver) :
    awaitSeries parse conn all msg = .ok (.again (all, SwitchLink.keepAlive conn msg)) := by
  rw [OpenFlow.awaitSeries, checkError_of_ne h.ne_error, ok_bind, SwitchLink.keepAlive]
  split
  · rfl
  · rw [if_pos h.ne_reply]
    rfl

/-- A reply adds its items, and ends the series or not. -/
theorem awaitSeries_reply (version : Version) (xid : U32) {body : Bytes} {items : List α}
    {hasMore : Bool} (h : parse body = .ok (items, hasMore)) :
    awaitSeries parse conn all (Message.new version .multipartReply xid body) =
      .ok (if hasMore then .again (all ++ items, []) else .leave (all ++ items)) := by
  rw [awaitSeries, checkError_of_ne (by nofun), ok_bind, if_neg (by nofun),
    if_neg (not_not_intro (Message.new_msgType version .multipartReply xid body)),
    Message.new_body, h, ok_bind]
  cases hasMore <;> rfl

end Pass

/-! ### A series -/

section Series

open SwitchLink

variable {ρ α : Type} {format : ReplyFormat ρ α} {parse : Bytes → Result (List α × Bool)}
  (hread : format.ReadBy parse) (conn : VConn) (rest : Bytes)
include hread

/-- Replies with the "more" flag are collected, and the call goes on. -/
theorem awaitSeries_more {arrivals : List (Arrival ρ)}
    (hmore : ∀ r ∈ replies arrivals, format.hasMore r = true) (all : List α)
    (sent : List Message) :
    awaitReply (awaitSeries parse) all ⟨conn, wire (format.messages arrivals) ++ rest, sent⟩ =
      awaitReply (awaitSeries parse) (all ++ format.contents arrivals)
        ⟨conn, rest, sent ++ format.answers conn arrivals⟩ := by
  induction arrivals generalizing all sent with
  | nil => simp [ReplyFormat.messages, ReplyFormat.contents, ReplyFormat.answers, replies]
  | cons arrival arrivals ih =>
    rw [ReplyFormat.messages, List.map_cons, wire_cons, List.append_assoc]
    have hframed := format.message_framed arrival
    cases arrival with
    | reply version xid r =>
      have hpass := awaitSeries_reply conn all version xid (hread r)
      rw [hmore r List.mem_cons_self] at hpass
      rw [awaitReply_again hframed hpass, format.contents_reply, format.answers_reply,
        ← List.append_assoc]
      rw [List.append_nil]
      exact ih (fun r' hr' => hmore r' (List.mem_cons_of_mem _ hr')) _ _
    | other msg h =>
      rw [awaitReply_again hframed (h.awaitSeries conn all), format.answers_other,
        ← List.append_assoc]
      exact ih hmore _ _

/-- The reply without the flag ends the call, and what comes behind it stays unread. -/
theorem awaitSeries_done {arrivals : List (Arrival ρ)}
    (hmore : ∀ r ∈ replies arrivals, format.hasMore r = true) (version : Version) (xid : U32)
    {last : ρ} (hlast : format.hasMore last = false) (all : List α) (sent : List Message) :
    awaitReply (awaitSeries parse) all
        ⟨conn, wire (format.messages (arrivals ++ [.reply version xid last])) ++ rest, sent⟩ =
      (.ok (all ++ format.contents (arrivals ++ [.reply version xid last])),
        ⟨conn, rest, sent ++ format.answers conn (arrivals ++ [.reply version xid last])⟩) := by
  have hframed := format.message_framed (.reply version xid last)
  have hpass := awaitSeries_reply conn (all ++ format.contents arrivals) version xid (hread last)
  rw [hlast] at hpass
  have hmessages : wire (format.messages (arrivals ++ [.reply version xid last])) ++ rest =
      wire (format.messages arrivals) ++
        ((format.message (.reply version xid last)).encode ++ rest) := by
    rw [ReplyFormat.messages, List.map_append, wire_append, List.append_assoc]
    simp [ReplyFormat.messages]
  have hcontents : format.contents [.reply version xid last] = format.items last :=
    List.append_nil _
  rw [hmessages, awaitSeries_more hread conn _ hmore, awaitReply_leave hframed hpass,
    format.contents_append, hcontents, List.append_assoc, format.answers_append,
    format.answers_reply, ReplyFormat.answers_nil, List.append_nil]

end Series

end Rovs.OpenFlow

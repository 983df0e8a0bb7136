import Rovs.HeaderFraming

/-!
# Any bytes as messages

A switch may send anything.  A call of `recv_message` that returns has taken the bytes of
exactly one message from the front of the stream.  Where the stream does not begin with a
message the call fails, or is left waiting, and bytes are lost to it; the calls behind it read
on from where it stopped.

The lemmas here follow one call, whatever the bytes are; `ConnectionRuns` and `Controller` put
calls one after the other.
-/

namespace Rovs.OpenFlow

open Outcome

/-! ### One message -/

/-- A header that is read is written with the bytes it was read from. -/
theorem Header.encode_of_decode {bytes : Bytes} {header : Header}
    (hlength : bytes.length = Header.size) (h : Header.decode bytes = .ok header) :
    header.encode = bytes := by
  rw [Header.size] at hlength
  have hlong : ¬ bytes.length < Header.size := by
    rw [Header.size]
    omega
  rw [Header.decode, if_neg hlong, beAt_eq_ok (by omega), ok_bind] at h
  rcases bind_eq_ok.mp h with ⟨version, hversion, h₁⟩
  rw [beAt_eq_ok (by omega), ok_bind] at h₁
  rcases bind_eq_ok.mp h₁ with ⟨msgType, hmsgType, h₂⟩
  rw [beAt_eq_ok (by omega), ok_bind, beAt_eq_ok (by omega), ok_bind] at h₂
  cases h₂
  have hword : ∀ w off : Nat, 8 * (w / 8) = w → off + w / 8 ≤ bytes.length →
      be (wordAt w bytes off) = (bytes.drop off).take (w / 8) := fun _ _ => be_wordAt
  rw [Header.encode, SwitchLink.ofU8_version_eq_ok hversion,
    SwitchLink.ofU8_msgType_eq_ok hmsgType, hword 8 0 rfl (by omega), hword 8 1 rfl (by omega),
    hword 16 2 rfl (by omega), hword 32 4 rfl (by omega)]
  have hjoin : ∀ m n, (bytes.drop m).take n ++ bytes.drop (m + n) = bytes.drop m := by
    intro m n
    rw [← List.drop_drop, List.take_append_drop]
  have hend : (bytes.drop 4).take (32 / 8) = bytes.drop 4 :=
    List.take_of_length_le (by rw [List.length_drop]; omega)
  rw [hend, List.append_assoc, List.append_assoc]
  exact ((congrArg _ ((congrArg _ (hjoin 2 2)).trans (hjoin 1 1))).trans (hjoin 0 1))

namespace SwitchLink

theorem readExact_eq_ok {n : Nat} {link link' : SwitchLink} {bytes : Bytes}
    (h : readExact n link = (.ok bytes, link')) :
    bytes.length = n ∧ link = ⟨link'.conn, bytes ++ link'.inbound, link'.sent⟩ := by
  rw [readExact] at h
  split at h
  · next hle =>
    cases h
    refine ⟨List.length_take_of_le hle, ?_⟩
    rw [List.take_append_drop]
  · cases h

theorem readBody_eq_ok {n : Nat} {link link' : SwitchLink} {bytes : Bytes}
    (h : readBody n link = (.ok bytes, link')) :
    bytes.length = n ∧ link = ⟨link'.conn, bytes ++ link'.inbound, link'.sent⟩ := by
  rw [readBody] at h
  split at h
  · exact readExact_eq_ok h
  · next hempty =>
    cases h
    exact ⟨(Nat.eq_zero_of_not_pos hempty).symm, rfl⟩

/-- A call returns a message exactly if the stream begins with it. -/
theorem recvMessage_eq_ok {link link' : SwitchLink} {msg : Message} :
    recvMessage link = (.ok msg, link') ↔
      msg.Framed ∧ link = ⟨link'.conn, msg.encode ++ link'.inbound, link'.sent⟩ := by
  constructor
  case mp =>
    intro h
    rcases Program.bind_eq_ok h with ⟨headerBuf, link₁, hheader, h₁⟩
    rcases Program.bind_eq_ok h₁ with ⟨header, link₂, hdecode, h₂⟩
    rcases Program.bind_eq_ok h₂ with ⟨bodyLen, link₃, hlen, h₃⟩
    rcases Program.bind_eq_ok h₃ with ⟨body, link₄, hbody, h₄⟩
    obtain rfl : link₁ = link₂ := congrArg Prod.snd hdecode
    obtain rfl : link₁ = link₃ := congrArg Prod.snd hlen
    cases h₄
    rcases readExact_eq_ok hheader with ⟨hsize, rfl⟩
    rcases readBody_eq_ok hbody with ⟨rfl, rfl⟩
    have hencode := Header.encode_of_decode hsize (congrArg Prod.fst hdecode)
    have hbodyLen : header.bodyLen = .ok body.length := congrArg Prod.fst hlen
    rw [Header.bodyLen] at hbodyLen
    split at hbodyLen
    · next hle =>
      have hbodyLen : header.length.toNat - Header.size = body.length :=
        Outcome.ok.inj hbodyLen
      refine ⟨?_, ?_⟩
      · change header.length.toNat = Header.size + body.length
        omega
      · rw [Message.encode, hencode, List.append_assoc]
    · cases hbodyLen
  case mpr =>
    rintro ⟨hframed, rfl⟩
    exact recvMessage_framed hframed _ _ _

/-- Nothing but the stream changes when a message is read. -/
theorem recvMessage_keeps (conn : VConn) (sent : List Message) :
    Program.Keeps (fun link => link.conn = conn ∧ link.sent = sent) recvMessage := by
  have hread : ∀ n, Program.Keeps (fun link => link.conn = conn ∧ link.sent = sent)
      (readExact n) := by
    intro n link hlink
    rw [readExact]
    split <;> exact hlink
  refine (hread _).bind fun headerBuf => ?_
  refine (Program.Keeps.read fun _ => Header.decode headerBuf).bind fun header => ?_
  refine (Program.Keeps.read fun _ => header.bodyLen).bind fun bodyLen => ?_
  refine Program.Keeps.bind ?_ fun body => .pure _
  rw [readBody]
  exact .ite (hread bodyLen) (.pure [])

/-- The same stream on another connection, with other messages sent. -/
def renew (conn : VConn) (sent : List Message) (link : SwitchLink) : SwitchLink :=
  ⟨conn, link.inbound, sent⟩

/-- Only the stream matters to the reading of a message. -/
theorem recvMessage_renew (conn : VConn) (sent : List Message) :
    recvMessage.Commutes (renew conn sent) := by
  have hread : ∀ n, (readExact n).Commutes (renew conn sent) := by
    intro n link
    rw [readExact, readExact]
    change (if n ≤ link.inbound.length then _ else _) = _
    split <;> rfl
  refine (hread _).bind fun headerBuf => ?_
  refine (Program.Commutes.lift _).bind fun header => ?_
  refine (Program.Commutes.lift _).bind fun bodyLen => ?_
  refine Program.Commutes.bind ?_ fun body => .pure _
  rw [readBody]
  split
  · exact hread bodyLen
  · exact .pure []

/-! ### Loops that fail -/

section Await

variable {ι β : Type} {await : VConn → ι → Message → Result (Pass (ι × List Message) β)} {i : ι}

theorem replyPass_length {pass : Pass ι β} {link link' : SwitchLink}
    (h : replyPass await i link = (.ok pass, link')) :
    link'.inbound.length < link.inbound.length := by
  rcases Program.bind_eq_ok h with ⟨reply, link₁, hreply, h⟩
  rcases Program.bind_eq_ok h with ⟨step, link₂, hstep, h⟩
  have hlt := recvMessage_length hreply
  obtain rfl : link₁ = link₂ := congrArg Prod.snd hstep
  cases step with
  | again p =>
    obtain rfl : _ = link' := congrArg Prod.snd h
    exact hlt
  | leave b =>
    obtain rfl : _ = link' := congrArg Prod.snd h
    exact hlt

/-- A loop that ends with a value has taken bytes from the stream. -/
theorem awaitReply_length {b : β} {link link' : SwitchLink}
    (h : awaitReply await i link = (.ok b, link')) :
    link'.inbound.length < link.inbound.length := by
  induction hn : link.inbound.length using Nat.strongRecOn generalizing i link with
  | ind n ih =>
    subst hn
    rcases Program.loop_eq_ok replyPass_decreases h with ⟨pass, link₁, hpass, hnext⟩
    have hlt := replyPass_length hpass
    cases pass with
    | again i' => exact Nat.lt_trans (ih _ hlt hnext rfl) hlt
    | leave b' =>
      obtain rfl : link₁ = link' := congrArg Prod.snd hnext
      exact hlt

/-- A loop ends with the failure of the message that it reads. -/
theorem awaitReply_failed {conn : VConn} {msg : Message} (hframed : msg.Framed) {rest : Bytes}
    {sent : List Message} (h : ∀ pass, await conn i msg ≠ .ok pass) :
    awaitReply await i ⟨conn, msg.encode ++ rest, sent⟩ =
      ((await conn i msg).failed, ⟨conn, rest, sent⟩) := by
  have hpass : replyPass await i ⟨conn, msg.encode ++ rest, sent⟩ =
      ((await conn i msg).failed, ⟨conn, rest, sent⟩) := by
    rw [replyPass_framed hframed]
    exact Program.bind_failed rfl h
  rw [awaitReply, Program.loop_failed hpass (failed_ne_ok _), failed_failed]

/-- A loop ends where no message can be read. -/
theorem awaitReply_refused {link : SwitchLink} (h : ∀ msg, (recvMessage link).1 ≠ .ok msg) :
    awaitReply await i link = ((recvMessage link).1.failed, (recvMessage link).2) := by
  have hpass : replyPass await i link = ((recvMessage link).1.failed, (recvMessage link).2) :=
    Program.bind_failed rfl h
  rw [awaitReply, Program.loop_failed hpass (failed_ne_ok _), failed_failed]

end Await

/-! ### The messages of a stream -/

/-- The messages that so many calls of `recv_message` return. -/
def received : Nat → SwitchLink → List Message
  | 0, _ => []
  | k + 1, link =>
    match (recvMessage link).1 with
    | .ok msg => msg :: received k (recvMessage link).2
    | _ => received k (recvMessage link).2

section Received

variable {link : SwitchLink}

theorem after_succ (k : Nat) (link : SwitchLink) :
    after (k + 1) link = (recvMessage (after k link)).2 :=
  Function.iterate_succ_apply' _ k link

theorem received_succ_ok {k : Nat} {msg : Message}
    (h : (recvMessage (after k link)).1 = .ok msg) :
    received (k + 1) link = received k link ++ [msg] := by
  induction k generalizing link with
  | zero => simp only [received, show (recvMessage link).1 = .ok msg from h, List.nil_append]
  | succ k ih =>
    have hnext : received (k + 1) (recvMessage link).2 =
        received k (recvMessage link).2 ++ [msg] := ih h
    rw [received, hnext, received]
    cases (recvMessage link).1 <;> rfl

theorem received_succ_failed {k : Nat}
    (h : ∀ msg, (recvMessage (after k link)).1 ≠ .ok msg) :
    received (k + 1) link = received k link := by
  induction k generalizing link with
  | zero =>
    rcases hrecv : (recvMessage link).1 with msg | e | _ | _
    case ok => exact absurd hrecv (h msg)
    all_goals simp only [received, hrecv]
  | succ k ih =>
    have hnext : received (k + 1) (recvMessage link).2 = received k (recvMessage link).2 := ih h
    rw [received, hnext, received]

theorem after_renew (k : Nat) (conn : VConn) (sent : List Message) (link : SwitchLink) :
    after k (link.renew conn sent) = (after k link).renew conn sent := by
  induction k with
  | zero => rfl
  | succ k ih => rw [after_succ, after_succ, ih, recvMessage_renew]

theorem received_renew (k : Nat) (conn : VConn) (sent : List Message) (link : SwitchLink) :
    received k (link.renew conn sent) = received k link := by
  induction k generalizing link with
  | zero => rfl
  | succ k ih => rw [received, received, recvMessage_renew, ih]

end Received

end SwitchLink

end Rovs.OpenFlow

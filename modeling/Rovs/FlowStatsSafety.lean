import Rovs.MatchSafety
import Rovs.Multipart

/-!
# Flow statistics on arbitrary bytes

A reply comes from the network with three nested lengths: that of the entry, of
the match in it, and of each field in the match.  The field lengths are checked.
The other two are checked against the bytes received but not against each other,
so an entry whose padded match runs past its own end, or whose match is shorter
than the match header, makes the parser slice out of bounds.

A walk over a reply by its declared lengths says where the parser comes to.  It
panics exactly when the walk comes to an entry whose headers pass the checks and
whose lengths are not nested; and what it returns, it read entry by entry from
the bytes of each.

The main result is `parsesSafely_iff`.
-/

namespace Rovs.OpenFlow

open Outcome

/-! ### The lengths an entry declares -/

/-- The length field of an entry. -/
def entryLength (data : Bytes) : Nat := (wordAt 16 data 0).toNat

/-- The checks that the parser makes of the headers of an entry. -/
structure EntryHeadersAccepted (data : Bytes) : Prop where
  fixed : FlowStatsEntry.fixedSize ≤ data.length
  fits : entryLength data ≤ data.length
  match_ : MatchHeaderAccepted (data.drop FlowStatsEntry.fixedSize)

/-- The match has room for its header, and the padded match ends inside the entry. -/
structure LengthsNested (data : Bytes) : Prop where
  matchHeader : 4 ≤ frameLength (data.drop FlowStatsEntry.fixedSize)
  paddedMatch : FlowStatsEntry.fixedSize +
    pad8 (frameLength (data.drop FlowStatsEntry.fixedSize)) ≤ entryLength data

/-- An entry that is read. -/
def EntryRead (data : Bytes) : Prop := EntryHeadersAccepted data ∧ LengthsNested data

/-- The header of a flow stats reply. -/
def IsFlowStatsReply (body : Bytes) : Prop :=
  MultipartHeader.size ≤ body.length ∧ wordAt 16 body 0 = MultipartType.flow.toU16

/-- In every entry the parser comes to and does not refuse, the lengths are nested. -/
def EntriesNested (body : Bytes) : Prop :=
  IsFlowStatsReply body →
    ∀ data, Walk entryLength EntryRead (body.drop MultipartHeader.size) data →
      EntryHeadersAccepted data → LengthsNested data

/-! ### One entry -/

/-- The entry whose fixed fields are read from `data`. -/
def FlowStatsEntry.ofFixed (data : Bytes) (matchFields : Match) (instructions : Bytes) :
    FlowStatsEntry where
  tableId := wordAt 8 data 2
  durationSec := wordAt 32 data 4
  durationNsec := wordAt 32 data 8
  priority := wordAt 16 data 12
  idleTimeout := wordAt 16 data 14
  hardTimeout := wordAt 16 data 16
  flags := wordAt 16 data 18
  cookie := wordAt 64 data 24
  packetCount := wordAt 64 data 32
  byteCount := wordAt 64 data 40
  matchFields := matchFields
  instructions := instructions

section Entry

variable {data : Bytes}

theorem FlowStatsEntry.decode_eq (hfixed : FlowStatsEntry.fixedSize ≤ data.length)
    (hfits : entryLength data ≤ data.length) :
    FlowStatsEntry.decode data = (do
      let (matchFields, matchLen) ← Match.decode (data.drop FlowStatsEntry.fixedSize)
      let instructions ← slice data (FlowStatsEntry.fixedSize + matchLen) (entryLength data)
      pure (FlowStatsEntry.ofFixed data matchFields instructions, entryLength data)) := by
  have h48 : 48 ≤ data.length := hfixed
  have hfits' : ¬ data.length < (wordAt 16 data 0).toNat := Nat.not_lt.mpr hfits
  rw [FlowStatsEntry.decode, if_neg (Nat.not_lt.mpr hfixed), beAt_eq_ok (by omega), ok_bind,
    if_neg hfits', sliceFrom_eq hfixed]
  simp (disch := omega) only [beAt_eq_ok, ok_bind]
  rfl

theorem FlowStatsEntry.decode_rejected (h : ¬ EntryHeadersAccepted data) :
    ∃ e, FlowStatsEntry.decode data = .err e := by
  by_cases hfixed : FlowStatsEntry.fixedSize ≤ data.length
  · by_cases hfits : entryLength data ≤ data.length
    · obtain ⟨e, he⟩ := Match.decode_rejected fun hm => h ⟨hfixed, hfits, hm⟩
      rw [FlowStatsEntry.decode_eq hfixed hfits, he]
      exact ⟨e, rfl⟩
    · have h48 : 48 ≤ data.length := hfixed
      rw [FlowStatsEntry.decode, if_neg (Nat.not_lt.mpr hfixed), beAt_eq_ok (by omega), ok_bind,
        if_pos (show data.length < (wordAt 16 data 0).toNat from Nat.not_le.mp hfits)]
      exact ⟨_, rfl⟩
  · rw [FlowStatsEntry.decode, if_pos (Nat.not_le.mp hfixed)]
    exact ⟨_, rfl⟩

theorem FlowStatsEntry.decode_ok (h : EntryHeadersAccepted data) (hnested : LengthsNested data) :
    ∃ e, FlowStatsEntry.decode data = .ok (e, entryLength data) := by
  obtain ⟨m, hm⟩ := Match.decode_ok h.match_ hnested.matchHeader
  rw [FlowStatsEntry.decode_eq h.fixed h.fits, hm, ok_bind]
  dsimp only
  rw [slice_eq ⟨hnested.paddedMatch, h.fits⟩, ok_bind]
  exact ⟨_, rfl⟩

/-- Lengths that are not nested make one of the two slices run backwards. -/
theorem FlowStatsEntry.decode_panics (h : EntryHeadersAccepted data)
    (hnested : ¬ LengthsNested data) : FlowStatsEntry.decode data = .panic := by
  rw [FlowStatsEntry.decode_eq h.fixed h.fits]
  by_cases h4 : 4 ≤ frameLength (data.drop FlowStatsEntry.fixedSize)
  · obtain ⟨m, hm⟩ := Match.decode_ok h.match_ h4
    rw [hm, ok_bind]
    dsimp only
    rw [slice, if_neg (fun hb => hnested ⟨h4, hb.1⟩), panic_bind]
  · rw [Match.decode_panics h.match_ (Nat.not_le.mp h4), panic_bind]

theorem FlowStatsEntry.decode_eq_ok {e : FlowStatsEntry} {n : Nat}
    (h : FlowStatsEntry.decode data = .ok (e, n)) :
    EntryHeadersAccepted data ∧ LengthsNested data ∧ n = entryLength data := by
  by_cases haccepted : EntryHeadersAccepted data
  · by_cases hnested : LengthsNested data
    · obtain ⟨e', he'⟩ := FlowStatsEntry.decode_ok haccepted hnested
      rw [he'] at h
      cases h
      exact ⟨haccepted, hnested, rfl⟩
    · rw [FlowStatsEntry.decode_panics haccepted hnested] at h
      cases h
  · obtain ⟨e', he'⟩ := FlowStatsEntry.decode_rejected haccepted
    rw [he'] at h
    cases h

theorem fixedSize_lt_entryLength (hnested : LengthsNested data) :
    FlowStatsEntry.fixedSize < entryLength data := by
  have h1 := hnested.matchHeader
  have h2 := hnested.paddedMatch
  have h3 := le_pad8 (frameLength (data.drop FlowStatsEntry.fixedSize))
  omega

end Entry

/-! ### The entry loop -/

theorem flowStatsPass_eq {data : Bytes} (h4 : 4 ≤ data.length) (es : List FlowStatsEntry) :
    flowStatsPass (es, data) = (do
      let (entry, consumed) ← FlowStatsEntry.decode data
      pure (.again (es ++ [entry], data.drop consumed))) := by
  have hpos : 0 < data.length := by omega
  simp only [flowStatsPass, if_pos hpos, if_neg (Nat.not_lt.mpr h4)]

theorem flowStatsPass_done {data : Bytes} (h4 : data.length < 4) (es : List FlowStatsEntry) :
    flowStatsPass (es, data) = .ok (.leave es) := by
  simp only [flowStatsPass, if_pos h4]
  split <;> rfl

theorem flowStats_walkedBy : WalkedBy flowStatsPass entryLength EntryRead
    (fun data => data.length < 4)
    (fun data => EntryHeadersAccepted data ∧ ¬ LengthsNested data) where
  again := by
    rintro data ⟨haccepted, hnested⟩ es
    have h48 : 48 ≤ data.length := haccepted.fixed
    obtain ⟨e, he⟩ := FlowStatsEntry.decode_ok haccepted hnested
    rw [flowStatsPass_eq (by omega), he]
    exact ⟨_, rfl⟩
  progress := by
    rintro data ⟨haccepted, hnested⟩
    have h48 : 48 ≤ data.length := haccepted.fixed
    have hlt := fixedSize_lt_entryLength hnested
    exact ⟨by omega, by omega⟩
  leaves := fun h4 es => ⟨es, flowStatsPass_done h4 es⟩
  fails := by
    rintro data ⟨haccepted, hnested⟩ es
    have h48 : 48 ≤ data.length := haccepted.fixed
    rw [flowStatsPass_eq (by omega), FlowStatsEntry.decode_panics haccepted hnested, panic_bind]
  refuses := by
    intro data hgood h4 hbad es
    have hrejected : ¬ EntryHeadersAccepted data := by
      intro haccepted
      by_cases hnested : LengthsNested data
      · exact hgood ⟨haccepted, hnested⟩
      · exact hbad ⟨haccepted, hnested⟩
    obtain ⟨e, he⟩ := FlowStatsEntry.decode_rejected hrejected
    rw [flowStatsPass_eq (Nat.not_lt.mp h4), he]
    exact ⟨e, rfl⟩

section Reply

variable {body : Bytes}

/-- The header of a flow stats reply is accepted, or the reply is refused. -/
theorem parseFlowStatsReply_cases (body : Bytes) :
    (IsFlowStatsReply body ∧ parseFlowStatsReply body = (do
      let entries ← loop flowStatsPass (body.length + 1) ([], body.drop MultipartHeader.size)
      pure (entries, (MultipartHeader.mk .flow (wordAt 16 body 2)).hasMore))) ∨
    (¬ IsFlowStatsReply body ∧ ∃ e, parseFlowStatsReply body = .err e) := by
  by_cases hlen : MultipartHeader.size ≤ body.length
  · have h8 : 8 ≤ body.length := hlen
    have hlen' : ¬ body.length < MultipartHeader.size := Nat.not_lt.mpr hlen
    rw [parseFlowStatsReply, if_neg hlen', MultipartHeader.decode, if_neg hlen',
      beAt_eq_ok (by omega), ok_bind, beAt_eq_ok (by omega), ok_bind]
    rcases MultipartType.typeWords.known_or_err (wordAt 16 body 0) with ⟨t, hread, ht⟩ | ⟨e, he⟩
    · rw [hread]
      by_cases hflow : t = .flow
      · subst hflow
        exact .inl ⟨⟨hlen, ht⟩, rfl⟩
      · have hne : ¬ IsFlowStatsReply body := fun h =>
          hflow (MultipartType.typeWords.injective (ht.symm.trans h.2))
        exact .inr ⟨hne, _, if_pos hflow⟩
    · rw [he]
      refine .inr ⟨fun h => ?_, e, rfl⟩
      rw [h.2] at he
      cases he
  · exact .inr ⟨fun h => hlen h.1, _, if_pos (Nat.not_le.mp hlen)⟩

theorem parseFlowStatsReply_headed (h : IsFlowStatsReply body) : parseFlowStatsReply body = (do
    let entries ← loop flowStatsPass (body.length + 1) ([], body.drop MultipartHeader.size)
    pure (entries, (MultipartHeader.mk .flow (wordAt 16 body 2)).hasMore)) := by
  rcases parseFlowStatsReply_cases body with ⟨-, heq⟩ | ⟨hnot, -⟩
  · exact heq
  · exact absurd h hnot

/-- **The parser returns exactly on replies whose entries have nested lengths.** -/
theorem parseFlowStatsReply_returns_iff :
    (parseFlowStatsReply body).Returns ↔ EntriesNested body := by
  rcases parseFlowStatsReply_cases body with ⟨hreply, heq⟩ | ⟨hreply, e, he⟩
  · have hfuel : (body.drop MultipartHeader.size).length < body.length + 1 := by
      rw [List.length_drop]; omega
    rw [heq, returns_bind, flowStats_walkedBy.loop_returns_iff hfuel]
    constructor
    · rintro ⟨hwalk, -⟩ - data hdata haccepted
      by_contra hnested
      exact hwalk data hdata ⟨haccepted, hnested⟩
    · refine fun hnested => ⟨fun data hdata hbad => ?_, fun _ _ => trivial⟩
      exact hbad.2 (hnested hreply data hdata hbad.1)
  · rw [he]
    exact ⟨fun _ h => absurd h hreply, fun _ => trivial⟩

end Reply

/-! ### What was read from where -/

/-- The entries of a reply, each read from a stretch of bytes of its declared
    length: whatever follows the stretch, the entry is the same. -/
inductive EntriesInside : Bytes → List FlowStatsEntry → Prop where
  | done {data : Bytes} (h : data.length < 4) : EntriesInside data []
  | entry {segment rest : Bytes} {e : FlowStatsEntry} {es : List FlowStatsEntry}
      (hlen : entryLength segment = segment.length)
      (hread : ∀ follow, FlowStatsEntry.decode (segment ++ follow) = .ok (e, segment.length))
      (hrest : EntriesInside rest es) : EntriesInside (segment ++ rest) (e :: es)

theorem entryLength_append {segment : Bytes} (h : 2 ≤ segment.length) (follow : Bytes) :
    entryLength (segment ++ follow) = entryLength segment := by
  rw [entryLength, wordAt_append_left (by omega), entryLength]

theorem FlowStatsEntry.decode_append {segment : Bytes}
    (h48 : FlowStatsEntry.fixedSize ≤ segment.length)
    (hlen : entryLength segment = segment.length)
    (hmatch : MatchHeaderAccepted (segment.drop FlowStatsEntry.fixedSize)) (follow : Bytes) :
    FlowStatsEntry.decode (segment ++ follow) = FlowStatsEntry.decode segment := by
  have h48' : 48 ≤ segment.length := h48
  have hlen' := entryLength_append (show 2 ≤ segment.length by omega) follow
  have hdrop : (segment ++ follow).drop FlowStatsEntry.fixedSize =
      segment.drop FlowStatsEntry.fixedSize ++ follow := List.drop_append_of_le_length h48
  have hfixed : ∀ m ins, FlowStatsEntry.ofFixed (segment ++ follow) m ins =
      FlowStatsEntry.ofFixed segment m ins := by
    intro m ins
    simp (disch := omega) only [FlowStatsEntry.ofFixed, wordAt_append_left]
  rw [FlowStatsEntry.decode_eq (by rw [List.length_append]; omega)
      (by rw [List.length_append, hlen']; omega),
    FlowStatsEntry.decode_eq h48 (Nat.le_of_eq hlen), hdrop, Match.decode_append hmatch, hlen',
    hlen]
  simp only [slice_append_left (Nat.le_refl _), hfixed]

theorem FlowStatsEntry.decode_segment {segment rest : Bytes} {e : FlowStatsEntry}
    (h : FlowStatsEntry.decode (segment ++ rest) = .ok (e, segment.length)) (follow : Bytes) :
    FlowStatsEntry.decode (segment ++ follow) = .ok (e, segment.length) := by
  obtain ⟨haccepted, hnested, hlen⟩ := FlowStatsEntry.decode_eq_ok h
  have hsize : FlowStatsEntry.fixedSize = 48 := rfl
  have hlt := fixedSize_lt_entryLength hnested
  have hdrop : (segment ++ rest).drop FlowStatsEntry.fixedSize =
      segment.drop FlowStatsEntry.fixedSize ++ rest := List.drop_append_of_le_length (by omega)
  have hin : (segment.drop FlowStatsEntry.fixedSize).length = segment.length - 48 :=
    List.length_drop
  -- the match header and the padded match lie inside the segment
  have h4 := hnested.matchHeader
  have hpad := hnested.paddedMatch
  have hle := le_pad8 (frameLength ((segment ++ rest).drop FlowStatsEntry.fixedSize))
  have hmatch : MatchHeaderAccepted (segment.drop FlowStatsEntry.fixedSize) := by
    have hroom : 4 ≤ (segment.drop FlowStatsEntry.fixedSize).length := by omega
    have hsame := frameLength_append hroom rest
    rw [← hdrop] at hsame
    have hoxm := haccepted.match_.oxm
    rw [hdrop, wordAt_append_left (by omega)] at hoxm
    exact ⟨hroom, hoxm, by omega⟩
  have hsegment : entryLength segment = segment.length := by
    rw [← entryLength_append (by omega) rest, ← hlen]
  have h48 : FlowStatsEntry.fixedSize ≤ segment.length := by omega
  rw [FlowStatsEntry.decode_append h48 hsegment hmatch] at h ⊢
  exact h

/-- What the entry loop adds was read inside the entries. -/
theorem flowStats_loop_inside {fuel : Nat} {start : Bytes} {entries : List FlowStatsEntry}
    (h : loop flowStatsPass fuel ([], start) = .ok entries) : EntriesInside start entries := by
  refine loop_invariant
    (fun s => ∀ es, EntriesInside s.2 es → EntriesInside start (s.1 ++ es))
    (EntriesInside start) ?_ ?_ (fun es hes => hes) h
  · rintro ⟨done, data⟩ s' hinv hpass es hes
    obtain ⟨⟨haccepted, hnested⟩, -⟩ := flowStats_walkedBy.again_inv hpass
    obtain ⟨e, hdecode⟩ := FlowStatsEntry.decode_ok haccepted hnested
    have h4 : 48 ≤ data.length := haccepted.fixed
    rw [flowStatsPass_eq (by omega), hdecode] at hpass
    cases hpass
    have hsize := fixedSize_lt_entryLength hnested
    obtain ⟨segment, rest, rfl, hlen⟩ :
        ∃ segment rest, data = segment ++ rest ∧ segment.length = entryLength data :=
      ⟨_, _, (List.take_append_drop _ data).symm, List.length_take_of_le haccepted.fits⟩
    dsimp only at hes
    rw [← hlen, List.drop_left] at hes
    rw [← hlen] at hdecode hsize
    have h48 : 48 < segment.length := hsize
    rw [entryLength_append (by omega)] at hlen
    have hsplit := EntriesInside.entry hlen.symm (FlowStatsEntry.decode_segment hdecode) hes
    simpa using hinv _ hsplit
  · rintro ⟨done, data⟩ entries hinv hpass
    by_cases h4 : data.length < 4
    · rw [flowStatsPass_done h4] at hpass
      cases hpass
      simpa using hinv [] (.done h4)
    · rw [flowStatsPass_eq (Nat.not_lt.mp h4)] at hpass
      obtain ⟨p, -, hs⟩ := bind_eq_ok.mp hpass
      cases hs

/-- Safe parsing of a reply: it returns, and entries only come from inside their
    declared lengths. -/
def ParsesSafely (body : Bytes) : Prop :=
  (parseFlowStatsReply body).Returns ∧
    ∀ entries more, parseFlowStatsReply body = .ok (entries, more) →
      EntriesInside (body.drop MultipartHeader.size) entries

/-- **Flow statistics are parsed safely exactly when lengths are nested.**  The walk goes by the
    declared lengths of the entries, so nothing else about the bytes matters: the instructions of an
    entry stand between its match and its end. -/
theorem parsesSafely_iff (body : Bytes) : ParsesSafely body ↔ EntriesNested body := by
  rw [ParsesSafely, parseFlowStatsReply_returns_iff]
  refine and_iff_left fun entries more h => ?_
  rcases parseFlowStatsReply_cases body with ⟨-, heq⟩ | ⟨-, e, he⟩
  · rw [heq] at h
    obtain ⟨es, hloop, hes⟩ := bind_eq_ok.mp h
    cases hes
    exact flowStats_loop_inside hloop
  · rw [he] at h
    cases h

/-- A reply with one entry of 56 bytes, all zero but for its length and the type
    of its match, whose match length is zero. -/
def shortMatchReply : Bytes :=
  be MultipartType.flow.toU16 ++ zeros 6
    ++ be (56 : U16) ++ zeros 46
    ++ be MatchType.oxm.toU16 ++ zeros 6

theorem shortMatchReply_panics :
    parseFlowStatsReply shortMatchReply = .panic ∧ ¬ ParsesSafely shortMatchReply := by
  have hpanic : parseFlowStatsReply shortMatchReply = .panic := by decide
  refine ⟨hpanic, fun h => ?_⟩
  have hreturns := h.1
  rw [hpanic] at hreturns
  exact hreturns

end Rovs.OpenFlow

import Rovs.RecvMessage

/-!
# The framing of messages

The scanner of `recv_message` passes over a JSON object up to its last brace and over
anything without an opening brace, so the objects of a stream are found one after the
other wherever the reads cut it.  A message that does not deserialize is found but not
taken out of the buffer: from then on every call finds it again.

`recvMessages_framed` and `recvMessages_unwedged_iff` say this of every list of objects
and every way to cut the stream.  Deserializing is a parameter.
-/

namespace Rovs.JsonRpc

open Json JsonText

/-! ### The scanner inside an object -/

/-- The scanner with `depth` open braces, in or outside a string. -/
def ScanState.within (first depth : Nat) (inString : Bool) : ScanState where
  depth := BitVec.ofNat 32 depth
  inString := inString
  escapeNext := false
  jsonStart := some first

section Within

variable {first depth : Nat}

theorem passes_plain {text : Bytes}
    (h : ∀ byte ∈ text, byte ≠ quote ∧ byte ≠ openBrace ∧ byte ≠ closeBrace) :
    Passes (.within first depth false) text (.within first depth false) := by
  induction text with
  | nil => exact .nil
  | cons byte text ih =>
    rcases h byte List.mem_cons_self with ⟨hquote, hopen, hclose⟩
    refine .cons rfl ?_ (ih fun b hb => h b (List.mem_cons_of_mem _ hb))
    simp [ScanState.inObject, ScanState.within, hquote, hopen, hclose]

theorem passes_chars {text : Bytes} (h : Chars text) :
    Passes (.within first depth true) text (.within first depth true) := by
  induction h with
  | nil => exact .nil
  | plain hquote hbackslash _ ih =>
    refine .cons rfl ?_ ih
    simp [ScanState.inObject, ScanState.within, hquote, hbackslash]
  | escape byte _ ih =>
    have hescape : (ScanState.within first depth true).inObject backslash =
        ({ ScanState.within first depth true with escapeNext := true }, false) := by
      simp [ScanState.inObject, ScanState.within]
    exact .cons rfl hescape (.cons rfl rfl ih)

theorem passes_quote (inString : Bool) :
    Passes (.within first depth inString) [quote] (.within first depth !inString) := by
  refine .cons rfl ?_ .nil
  simp [ScanState.inObject, ScanState.within, quote, backslash]

theorem passes_quoted {text : Bytes} (h : Quoted text) :
    Passes (.within first depth false) text (.within first depth false) := by
  rcases h with ⟨chars, hchars, rfl⟩
  exact (passes_quote false).append ((passes_chars hchars).append (passes_quote true))

theorem passes_openBrace :
    Passes (.within first depth false) [openBrace] (.within first (depth + 1) false) := by
  refine .cons rfl ?_ .nil
  simp [ScanState.inObject, ScanState.within, quote, openBrace, BitVec.ofNat_add]

/-- A closing brace that leaves another one open does not end the object. -/
theorem passes_closeBrace (hpos : 0 < depth) (hdepth : depth < 2 ^ 32) :
    Passes (.within first (depth + 1) false) [closeBrace] (.within first depth false) := by
  have hsub : BitVec.ofNat 32 (depth + 1) - 1#32 = BitVec.ofNat 32 depth := by
    rw [BitVec.ofNat_add]
    exact BitVec.add_sub_cancel _ _
  have hne : BitVec.ofNat 32 depth ≠ 0#32 := by
    intro h
    have htoNat := congrArg BitVec.toNat h
    rw [BitVec.toNat_ofNat, Nat.mod_eq_of_lt hdepth] at htoNat
    exact Nat.ne_of_gt hpos htoNat
  refine .cons rfl ?_ .nil
  simp [ScanState.inObject, ScanState.within, quote, openBrace, closeBrace, hsub, hne]

theorem plain_of_blank {ws : Bytes} (h : Blank ws) :
    ∀ byte ∈ ws, byte ≠ quote ∧ byte ≠ openBrace ∧ byte ≠ closeBrace := by
  intro byte hbyte
  have hmem := h byte hbyte
  simp only [List.mem_cons, List.not_mem_nil, or_false] at hmem
  rcases hmem with rfl | rfl | rfl | rfl <;> decide

theorem plain_of_scalar {text : Bytes} (h : Scalar text) :
    ∀ byte ∈ text, byte ≠ quote ∧ byte ≠ openBrace ∧ byte ≠ closeBrace := by
  intro byte hbyte
  have hscalar := h.2 byte hbyte
  refine ⟨?_, ?_, ?_⟩
  · rintro rfl
    exact absurd hscalar (by decide)
  · rintro rfl
    exact absurd hscalar (by decide)
  · rintro rfl
    exact absurd hscalar (by decide)

theorem passes_mark {byte : U8}
    (h : byte ≠ quote ∧ byte ≠ openBrace ∧ byte ≠ closeBrace) :
    Passes (.within first depth false) [byte] (.within first depth false) := by
  apply passes_plain
  intro b hb
  rw [List.mem_singleton.mp hb]
  exact h

/-- **Inside an object the scanner passes over a whole JSON text and comes out as it went
    in, unless the braces are more than its counter can hold.** -/
theorem passes_derives {symbol : Symbol} {n : Nat} {text : Bytes} (h : Derives symbol n text)
    {first depth : Nat} (hpos : 0 < depth) (hdepth : depth + n < 2 ^ 32) :
    Passes (.within first depth false) text (.within first depth false) := by
  induction h generalizing depth with
  | scalar h => exact passes_plain (plain_of_scalar h)
  | string h => exact passes_quoted h
  | emptyArray hws =>
    exact (passes_mark (by decide)).append
      ((passes_plain (plain_of_blank hws)).append (passes_mark (by decide)))
  | array _ ih =>
    have hinner := ih hpos (by omega)
    exact (passes_mark (by decide)).append (hinner.append (passes_mark (by decide)))
  | emptyObject hws =>
    exact passes_openBrace.append
      ((passes_plain (plain_of_blank hws)).append (passes_closeBrace hpos (by omega)))
  | object _ ih =>
    have hinner := ih (Nat.succ_pos depth) (by omega)
    exact passes_openBrace.append (hinner.append (passes_closeBrace hpos (by omega)))
  | element hws _ hws' ih =>
    exact (passes_plain (plain_of_blank hws)).append
      ((ih hpos hdepth).append (passes_plain (plain_of_blank hws')))
  | oneElement _ ih => exact ih hpos hdepth
  | elements _ _ ihfirst ihrest =>
    have hcomma : Passes (.within first depth false) [comma] (.within first depth false) :=
      passes_mark (by decide)
    exact (ihfirst hpos hdepth).append (hcomma.append (ihrest hpos hdepth))
  | member hws hkey hws' _ ih =>
    have hcolon : Passes (.within first depth false) [colon] (.within first depth false) :=
      passes_mark (by decide)
    exact (passes_plain (plain_of_blank hws)).append ((passes_quoted hkey).append
      ((passes_plain (plain_of_blank hws')).append (hcolon.append (ih hpos hdepth))))
  | oneMember _ ih => exact ih hpos hdepth
  | members _ _ ihfirst ihrest =>
    have hcomma : Passes (.within first depth false) [comma] (.within first depth false) :=
      passes_mark (by decide)
    exact (ihfirst hpos hdepth).append (hcomma.append (ihrest hpos hdepth))

end Within

/-! ### Finding the objects of a stream -/

/-- The scanner finds an object that begins with the first byte of the text and ends with
    the last. -/
def Balanced (text : Bytes) : Prop :=
  findObject .start 0 text = some (0, text.length - 1)

instance : DecidablePred Balanced :=
  fun text => inferInstanceAs (Decidable (findObject .start 0 text = some (0, text.length - 1)))

theorem findObject_stable (s : ScanState) (i : Nat) : Reader.Stable (findObject s i) := by
  intro buf more found h
  fun_induction findObject s i buf with
  | case1 => cases h
  | case2 s i byte buf next hstart ih =>
    simp only [List.cons_append, findObject, show (s.seek i byte).jsonStart = none from hstart]
    exact ih h
  | case3 s i byte buf next begin hstart next' hbyte =>
    simp only [List.cons_append, findObject,
      show (s.seek i byte).jsonStart = some begin from hstart,
      show (s.seek i byte).inObject byte = (next', true) from hbyte]
    exact h
  | case4 s i byte buf next begin hstart next' hbyte ih =>
    simp only [List.cons_append, findObject,
      show (s.seek i byte).jsonStart = some begin from hstart,
      show (s.seek i byte).inObject byte = (next', false) from hbyte]
    exact ih h

/-- What stands before the first opening brace is skipped. -/
theorem passes_separator {text : Bytes} (h : openBrace ∉ text) :
    Passes .start text .start := by
  intro i rest
  induction text generalizing i with
  | nil => rfl
  | cons byte text ih =>
    have hbyte : byte ≠ openBrace := fun heq => h (heq ▸ List.mem_cons_self)
    have htext : openBrace ∉ text := fun hmem => h (List.mem_cons_of_mem _ hmem)
    have hseek : ScanState.start.seek i byte = .start := by
      simp [ScanState.seek, ScanState.start, hbyte]
    have hstep : findObject .start i (byte :: (text ++ rest)) =
        findObject .start (i + 1) (text ++ rest) := by
      rw [findObject, hseek]
      rfl
    rw [List.cons_append, hstep, ih htext, List.length_cons, Nat.add_assoc, Nat.add_comm 1]

/-- The scanner with its place moved by `k`. -/
def ScanState.shift (s : ScanState) (k : Nat) : ScanState :=
  { s with jsonStart := s.jsonStart.map (k + ·) }

theorem ScanState.jsonStart_shift (s : ScanState) (k : Nat) :
    (s.shift k).jsonStart = s.jsonStart.map (k + ·) := rfl

theorem ScanState.seek_shift (s : ScanState) (k i : Nat) (byte : U8) :
    (s.shift k).seek (k + i) byte = (s.seek i byte).shift k := by
  cases hstart : s.jsonStart with
  | none =>
    by_cases hbyte : byte = openBrace
    · simp [seek, shift, hstart, hbyte]
    · simp [seek, shift, hstart, hbyte]
  | some first => simp [seek, shift, hstart]

theorem ScanState.inObject_shift (s : ScanState) (k : Nat) (byte : U8) :
    (s.shift k).inObject byte = ((s.inObject byte).1.shift k, (s.inObject byte).2) := by
  have hstring : (s.shift k).inString = s.inString := rfl
  rw [inObject, inObject, hstring]
  by_cases hescape : s.escapeNext = true
  · rw [if_pos hescape, if_pos (show (s.shift k).escapeNext = true from hescape)]
    rfl
  rw [if_neg hescape, if_neg (show ¬ (s.shift k).escapeNext = true from hescape)]
  by_cases hbackslash : byte = backslash ∧ s.inString = true
  · rw [if_pos hbackslash, if_pos hbackslash]
    rfl
  rw [if_neg hbackslash, if_neg hbackslash]
  by_cases hquote : byte = quote
  · rw [if_pos hquote, if_pos hquote]
    rfl
  rw [if_neg hquote, if_neg hquote]
  by_cases hopen : byte = openBrace ∧ (!s.inString) = true
  · rw [if_pos hopen, if_pos hopen]
    rfl
  rw [if_neg hopen, if_neg hopen]
  by_cases hclose : byte = closeBrace ∧ (!s.inString) = true
  · rw [if_pos hclose, if_pos hclose]
    rfl
  · rw [if_neg hclose, if_neg hclose]

theorem findObject_shift (s : ScanState) (k i : Nat) (bytes : Bytes) :
    findObject (s.shift k) (k + i) bytes =
      (findObject s i bytes).map fun found => (k + found.1, k + found.2) := by
  induction bytes generalizing s i with
  | nil => rfl
  | cons byte bytes ih =>
    simp only [findObject, ScanState.seek_shift, ScanState.inObject_shift]
    cases hstart : (s.seek i byte).jsonStart with
    | none =>
      simp only [ScanState.jsonStart_shift, hstart, Option.map_none]
      exact ih (s.seek i byte) (i + 1)
    | some first =>
      simp only [ScanState.jsonStart_shift, hstart, Option.map_some]
      rcases hbyte : (s.seek i byte).inObject byte with ⟨s', ended⟩
      cases ended with
      | true => rfl
      | false => exact ih s' (i + 1)

/-- A balanced text is found wherever it stands. -/
theorem Balanced.findObject {text : Bytes} (h : Balanced text) (i : Nat) (rest : Bytes) :
    findObject .start i (text ++ rest) = some (i, i + (text.length - 1)) := by
  have hhere := findObject_stable .start 0 text rest _ h
  have hshift := findObject_shift .start i 0 (text ++ rest)
  rw [hhere] at hshift
  exact hshift

theorem Balanced.pos {text : Bytes} (h : Balanced text) : 0 < text.length := by
  cases text with
  | nil => cases h
  | cons => exact Nat.succ_pos _

theorem balanced_braces {body : Bytes}
    (h : Passes (.within 0 1 false) body (.within 0 1 false)) :
    Balanced (openBrace :: (body ++ [closeBrace])) := by
  have hopen : findObject .start 0 (openBrace :: (body ++ [closeBrace])) =
      findObject (.within 0 1 false) 1 (body ++ [closeBrace]) := rfl
  have hclose : findObject (.within 0 1 false) (1 + body.length) [closeBrace] =
      some (0, 1 + body.length) := by
    simp [findObject, ScanState.seek, ScanState.inObject, ScanState.within, closeBrace,
      openBrace, quote]
  rw [Balanced, hopen, h, hclose]
  simp [Nat.add_comm]

/-- **The text of a JSON object is balanced.** -/
theorem balanced_of_isObject {n : Nat} {text : Bytes} (h : IsObject n text) (hn : n < 2 ^ 32) :
    Balanced text := by
  rcases h with ⟨hvalue, hhead⟩
  cases hvalue with
  | scalar h =>
    have hscalar := h.2 openBrace (List.mem_of_mem_head? hhead)
    exact absurd hscalar (by decide)
  | string h =>
    rcases h with ⟨chars, -, rfl⟩
    exact absurd (Option.some.inj hhead) (by decide)
  | emptyArray => exact absurd (Option.some.inj hhead) (by decide)
  | array => exact absurd (Option.some.inj hhead) (by decide)
  | emptyObject hws => exact balanced_braces (passes_plain (plain_of_blank hws))
  | object h => exact balanced_braces (passes_derives h Nat.one_pos (by omega))

/-! ### Receiving from everything unread -/

theorem findObject_lt {s : ScanState} {i first last : Nat} {bytes : Bytes}
    (h : findObject s i bytes = some (first, last)) : last < i + bytes.length := by
  fun_induction findObject s i bytes with
  | case1 => cases h
  | case2 s i byte bytes next hstart ih =>
    rw [List.length_cons]
    have hlt := ih h
    omega
  | case3 s i byte bytes next begin hstart next' hbyte =>
    rw [List.length_cons]
    cases h
    omega
  | case4 s i byte bytes next begin hstart next' hbyte ih =>
    rw [List.length_cons]
    have hlt := ih h
    omega

/-- What a call does to the bytes that are unread, wherever they are. -/
def receive (serde : SerdeJson) (unread : Bytes) : Result Message × Bytes :=
  match findObject .start 0 unread with
  | some (first, last) =>
    match serde.fromSlice ((unread.take (last + 1)).drop first) with
    | some msg => (.ok msg, unread.drop (last + 1))
    | none => (.err .json, unread)
  | none => (.err .connectionClosed, unread)

/-- **A call depends only on the unread bytes, not on how they come in chunks.** -/
theorem recvMessage_spec (serde : SerdeJson) {reader : Reader U8} (hflow : reader.Flowing) :
    (recvMessage serde reader).1 = (receive serde reader.unread).1 ∧
      (recvMessage serde reader).2.unread = (receive serde reader.unread).2 ∧
      (recvMessage serde reader).2.Flowing := by
  rcases Reader.fill_spec (findObject_stable .start 0) hflow with ⟨hfound, hunread, hflow', hbuf⟩
  rcases hfill : Reader.fill (findObject .start 0) reader.buf reader.chunks with ⟨found, filled⟩
  rw [hfill] at hfound hunread hflow' hbuf
  change found = findObject .start 0 reader.unread at hfound
  change filled.unread = reader.unread at hunread
  cases found with
  | none =>
    have hnone : findObject .start 0 reader.unread = none := hfound.symm
    simp only [recvMessage, hfill, receive, hnone]
    exact ⟨trivial, hunread, hflow'⟩
  | some place =>
    rcases place with ⟨first, last⟩
    change findObject .start 0 filled.buf = some (first, last) at hbuf
    have hsome : findObject .start 0 reader.unread = some (first, last) := hfound.symm
    have hlt : last + 1 ≤ filled.buf.length := by
      have hlast := findObject_lt hbuf
      omega
    have htake : reader.unread.take (last + 1) = filled.buf.take (last + 1) := by
      rw [← hunread, Reader.unread, List.take_append_of_le_length hlt]
    have hdrop : reader.unread.drop (last + 1) =
        filled.buf.drop (last + 1) ++ filled.chunks.flatten := by
      rw [← hunread, Reader.unread, List.drop_append_of_le_length hlt]
    simp only [recvMessage, hfill, receive, hsome, htake]
    cases serde.fromSlice ((filled.buf.take (last + 1)).drop first) with
    | none => exact ⟨rfl, hunread, hflow'⟩
    | some msg => exact ⟨rfl, hdrop.symm, hflow'⟩

/-! ### Streams of objects -/

/-- An object of a stream with what stands before it. -/
structure Item where
  separator : Bytes
  text : Bytes

def stream (items : List Item) (trailer : Bytes) : Bytes :=
  items.flatMap (fun item => item.separator ++ item.text) ++ trailer

/-- Nothing outside the objects could begin another one. -/
def Separated (items : List Item) (trailer : Bytes) : Prop :=
  (∀ item ∈ items, openBrace ∉ item.separator) ∧ openBrace ∉ trailer

theorem Separated.tail {item : Item} {items : List Item} {trailer : Bytes}
    (h : Separated (item :: items) trailer) : Separated items trailer :=
  ⟨fun item hitem => h.1 item (List.mem_cons_of_mem _ hitem), h.2⟩

theorem stream_cons (item : Item) (items : List Item) (trailer : Bytes) :
    stream (item :: items) trailer =
      item.separator ++ (item.text ++ stream items trailer) := by
  simp [stream]

section Stream

variable {serde : SerdeJson} {item : Item} {items : List Item} {trailer : Bytes}

theorem findObject_stream (hsep : Separated (item :: items) trailer)
    (hitem : Balanced item.text) :
    findObject .start 0 (stream (item :: items) trailer) =
      some (item.separator.length, item.separator.length + (item.text.length - 1)) := by
  rw [stream_cons, passes_separator (hsep.1 item List.mem_cons_self), hitem.findObject,
    Nat.zero_add]

theorem receive_item (hsep : Separated (item :: items) trailer) (hitem : Balanced item.text) :
    receive serde (stream (item :: items) trailer) =
      (serde.fromSlice item.text).elim (.err .json, stream (item :: items) trailer)
        fun msg => (.ok msg, stream items trailer) := by
  have hfind := findObject_stream hsep hitem
  have hpos := hitem.pos
  have hlen : item.separator.length + (item.text.length - 1) + 1 =
      (item.separator ++ item.text).length := by
    rw [List.length_append]
    omega
  have htake : (stream (item :: items) trailer).take (item.separator ++ item.text).length =
      item.separator ++ item.text := by
    rw [stream_cons, ← List.append_assoc, List.take_left]
  have hdrop : (stream (item :: items) trailer).drop (item.separator ++ item.text).length =
      stream items trailer := by
    rw [stream_cons, ← List.append_assoc, List.drop_left]
  simp only [receive, hfind, hlen, htake, hdrop, List.drop_left]
  cases serde.fromSlice item.text <;> rfl

theorem receive_end (h : openBrace ∉ trailer) :
    receive serde (stream [] trailer) = (.err .connectionClosed, stream [] trailer) := by
  have hfind : findObject .start 0 (stream [] trailer) = none := by
    have hpass := passes_separator h 0 []
    rw [List.append_nil] at hpass
    exact hpass
  simp only [receive, hfind]

end Stream

/-! ### Successive calls -/

section Calls

variable {serde : SerdeJson} {reader : Reader U8}

theorem recvMessages_succ_fst (serde : SerdeJson) (n : Nat) (reader : Reader U8) :
    (recvMessages serde (n + 1) reader).1 =
      (recvMessage serde reader).1 :: (recvMessages serde n (recvMessage serde reader).2).1 := rfl

theorem recvMessages_succ_snd (serde : SerdeJson) (n : Nat) (reader : Reader U8) :
    (recvMessages serde (n + 1) reader).2 =
      (recvMessages serde n (recvMessage serde reader).2).2 := rfl

/-- A call that leaves everything unread is followed by calls with the same result. -/
theorem recvMessages_stuck (hflow : reader.Flowing) {result : Result Message}
    (h : receive serde reader.unread = (result, reader.unread)) (n : Nat) :
    (recvMessages serde n reader).1 = List.replicate n result ∧
      (recvMessages serde n reader).2.unread = reader.unread := by
  induction n generalizing reader with
  | zero => exact ⟨rfl, rfl⟩
  | succ n ih =>
    rcases recvMessage_spec serde hflow with ⟨hresult, hunread, hflow'⟩
    rw [h] at hresult hunread
    have hrest := ih hflow' (by rw [hunread, h])
    rw [recvMessages_succ_fst, recvMessages_succ_snd, hresult, hrest.1, hrest.2, hunread]
    exact ⟨rfl, rfl⟩

/-- The text of the item is an object that deserializes as the message. -/
def SerdeJson.Reads (serde : SerdeJson) (item : Item) (msg : Message) : Prop :=
  (∃ n, IsObject n item.text) ∧ serde.fromSlice item.text = some msg

theorem SerdeJson.Reads.balanced {item : Item} {msg : Message} (h : serde.Reads item msg) :
    Balanced item.text := by
  rcases h with ⟨⟨n, hobject⟩, hread⟩
  rcases Option.bind_eq_some_iff.mp hread with ⟨v, hv, -⟩
  exact balanced_of_isObject (serde.recursionLimit hobject hv) (by decide)

/-- An object that deserializes is delivered and taken out of the stream. -/
theorem recvMessage_item {item : Item} {items : List Item} {trailer : Bytes} {msg : Message}
    (hsep : Separated (item :: items) trailer) (hitem : Balanced item.text)
    (hread : serde.fromSlice item.text = some msg) (hflow : reader.Flowing)
    (hunread : reader.unread = stream (item :: items) trailer) :
    (recvMessage serde reader).1 = .ok msg ∧
      (recvMessage serde reader).2.unread = stream items trailer ∧
      (recvMessage serde reader).2.Flowing := by
  have hspec := recvMessage_spec serde hflow
  rw [hunread, receive_item hsep hitem, hread] at hspec
  exact hspec

/-- **Calls return the messages of a stream in order, each once, and then report its end,
    however the stream is cut into chunks; what was read early is kept.** -/
theorem recvMessages_framed (serde : SerdeJson) {items : List Item} {msgs : List Message}
    {trailer : Bytes} {reader : Reader U8} (hread : List.Forall₂ serde.Reads items msgs)
    (hsep : Separated items trailer) (hflow : reader.Flowing)
    (hunread : reader.unread = stream items trailer) :
    (∀ k ≤ items.length,
      (recvMessages serde k reader).1 = (msgs.take k).map .ok ∧
        (recvMessages serde k reader).2.unread = stream (items.drop k) trailer) ∧
      ∀ m, (recvMessages serde (items.length + m) reader).1 =
        msgs.map .ok ++ List.replicate m (.err .connectionClosed) := by
  induction hread generalizing reader with
  | nil =>
    have hend : receive serde (stream [] trailer) = (.err .connectionClosed, stream [] trailer) :=
      receive_end hsep.2
    rw [← hunread] at hend
    constructor
    · intro k hk
      obtain rfl : k = 0 := Nat.le_zero.mp hk
      exact ⟨rfl, hunread⟩
    · intro m
      have hstuck := (recvMessages_stuck hflow hend (0 + m)).1
      rw [Nat.zero_add] at hstuck
      simpa using hstuck
  | @cons item msg items msgs hitem _ ih =>
    rcases recvMessage_item hsep hitem.balanced hitem.2 hflow hunread with
      ⟨hresult, hunread', hflow'⟩
    rcases ih hsep.tail hflow' hunread' with ⟨htake, hclosed⟩
    constructor
    · intro k hk
      cases k with
      | zero => exact ⟨rfl, hunread⟩
      | succ k =>
        rcases htake k (Nat.le_of_succ_le_succ hk) with ⟨hresults, hrest⟩
        rw [recvMessages_succ_fst, recvMessages_succ_snd, hresult, hresults]
        exact ⟨rfl, hrest⟩
    · intro m
      rw [List.length_cons, Nat.add_right_comm, recvMessages_succ_fst, hresult, hclosed m]
      rfl

/-! ### Objects that do not deserialize -/

/-- The result of a call for an object: its message, or an error if it has none. -/
def Delivers (serde : SerdeJson) (item : Item) (result : Result Message) : Prop :=
  (∀ msg, serde.fromSlice item.text = some msg → result = .ok msg) ∧
    (serde.fromSlice item.text = none → ∃ e, result = .err e)

theorem delivers_ok {item : Item} {msg : Message} (h : serde.fromSlice item.text = some msg) :
    Delivers serde item (.ok msg) := by
  constructor
  · intro msg' h'
    rw [Option.some.inj (h.symm.trans h')]
  · intro hnone
    rw [h] at hnone
    cases hnone

theorem delivers_err {item : Item} {e : Error} :
    Delivers serde item (.err e) ↔ serde.fromSlice item.text = none := by
  constructor
  · intro h
    cases hread : serde.fromSlice item.text with
    | none => rfl
    | some msg => cases h.1 msg hread
  · intro h
    constructor
    · intro msg hmsg
      rw [h] at hmsg
      cases hmsg
    · intro _
      exact ⟨e, rfl⟩

/-- One call for each object. -/
def DeliversAll (serde : SerdeJson) (items : List Item) (reader : Reader U8) : Prop :=
  List.Forall₂ (Delivers serde) items (recvMessages serde items.length reader).1

/-- Behind every call the stream stands behind the object of the call. -/
def ConsumesAll (serde : SerdeJson) (items : List Item) (trailer : Bytes)
    (reader : Reader U8) : Prop :=
  ∀ k ≤ items.length, (recvMessages serde k reader).2.unread = stream (items.drop k) trailer

theorem forall₂_replicate {α β : Type} {R : α → β → Prop} {b : β} (as : List α) :
    List.Forall₂ R as (List.replicate as.length b) ↔ ∀ a ∈ as, R a b := by
  induction as with
  | nil => simp
  | cons a as ih => simp [List.replicate_succ, ih]

section Failing

variable {item : Item} {items : List Item} {trailer : Bytes}

theorem deliversAll_cons {msg : Message} (hsep : Separated (item :: items) trailer)
    (hitem : Balanced item.text) (hread : serde.fromSlice item.text = some msg)
    (hflow : reader.Flowing) (hunread : reader.unread = stream (item :: items) trailer) :
    DeliversAll serde (item :: items) reader ↔
      DeliversAll serde items (recvMessage serde reader).2 := by
  rcases recvMessage_item hsep hitem hread hflow hunread with ⟨hresult, -, -⟩
  rw [DeliversAll, List.length_cons, recvMessages_succ_fst, hresult, List.forall₂_cons]
  exact and_iff_right (delivers_ok hread)

theorem consumesAll_cons (hunread : reader.unread = stream (item :: items) trailer) :
    ConsumesAll serde (item :: items) trailer reader ↔
      ConsumesAll serde items trailer (recvMessage serde reader).2 := by
  constructor
  · intro h k hk
    exact h (k + 1) (Nat.succ_le_succ hk)
  · intro h k hk
    cases k with
    | zero => exact hunread
    | succ k => exact h k (Nat.le_of_succ_le_succ hk)

/-- At an object that does not deserialize every call fails and nothing is taken out. -/
theorem recvMessages_failing (hsep : Separated (item :: items) trailer)
    (hitem : Balanced item.text) (hfail : serde.fromSlice item.text = none)
    (hflow : reader.Flowing) (hunread : reader.unread = stream (item :: items) trailer) (n : Nat) :
    (recvMessages serde n reader).1 = List.replicate n (.err .json) ∧
      (recvMessages serde n reader).2.unread = stream (item :: items) trailer := by
  have hreceive : receive serde (stream (item :: items) trailer) = _ := receive_item hsep hitem
  rw [hfail, ← hunread] at hreceive
  rw [← hunread]
  exact recvMessages_stuck hflow hreceive n

/-- **Every call returns what its object deserializes to exactly when no object that
    deserializes stands behind one that does not; and every object is also consumed exactly
    when all of them deserialize.** -/
theorem recvMessages_unwedged_iff (serde : SerdeJson) {items : List Item} {trailer : Bytes}
    {reader : Reader U8} (hitems : ∀ item ∈ items, Balanced item.text)
    (hsep : Separated items trailer) (hflow : reader.Flowing)
    (hunread : reader.unread = stream items trailer) :
    (DeliversAll serde items reader ↔ items.Pairwise fun a b =>
      serde.fromSlice a.text = none → serde.fromSlice b.text = none) ∧
      (DeliversAll serde items reader ∧ ConsumesAll serde items trailer reader ↔
        ∀ item ∈ items, serde.fromSlice item.text ≠ none) := by
  induction items generalizing reader with
  | nil =>
    have hdelivers : DeliversAll serde [] reader := .nil
    have hconsumes : ConsumesAll serde [] trailer reader := by
      intro k hk
      obtain rfl : k = 0 := Nat.le_zero.mp hk
      exact hunread
    exact ⟨iff_of_true hdelivers .nil, iff_of_true ⟨hdelivers, hconsumes⟩ (by simp)⟩
  | cons item items ih =>
    have hitem := hitems item List.mem_cons_self
    cases hread : serde.fromSlice item.text with
    | some msg =>
      rcases recvMessage_item hsep hitem hread hflow hunread with ⟨-, hunread', hflow'⟩
      have hrest := ih (fun item hmem => hitems item (List.mem_cons_of_mem _ hmem)) hsep.tail
        hflow' hunread'
      rw [deliversAll_cons hsep hitem hread hflow hunread,
        consumesAll_cons hunread]
      simpa [hread] using hrest
    | none =>
      rcases recvMessages_failing hsep hitem hread hflow hunread (items.length + 1) with
        ⟨hresults, -⟩
      have hdelivers : DeliversAll serde (item :: items) reader ↔
          ∀ other ∈ item :: items, serde.fromSlice other.text = none := by
        rw [DeliversAll, List.length_cons, hresults, ← List.length_cons (a := item),
          forall₂_replicate]
        simp only [delivers_err]
      constructor
      · rw [hdelivers]
        constructor
        · intro hall
          refine List.pairwise_iff_forall_sublist.mpr ?_
          intro a b hsub _
          exact hall b (hsub.subset (by simp))
        · intro hpairwise other hmem
          rcases List.mem_cons.mp hmem with rfl | hmem
          · exact hread
          · exact (List.pairwise_cons.mp hpairwise).1 other hmem hread
      · constructor
        · rintro ⟨-, hconsumes⟩
          -- the first call leaves the object in the stream
          have hone := hconsumes 1 (Nat.succ_le_succ (Nat.zero_le _))
          rw [(recvMessages_failing hsep hitem hread hflow hunread 1).2, List.drop_one,
            List.tail_cons, stream_cons] at hone
          have hlen := congrArg List.length hone
          simp only [List.length_append] at hlen
          have hpos := hitem.pos
          omega
        · intro hall
          exact absurd hread (hall item List.mem_cons_self)

end Failing

end Calls

/-! ### Responses with an id of each kind -/

/-- The object `{"id":value}`. -/
def idObject (value : Bytes) : Bytes :=
  openBrace :: quote :: 0x69 :: 0x64 :: quote :: colon :: (value ++ [closeBrace])

theorem idObject_isObject {value : Bytes} (h : Derives .value 127 value) :
    IsObject 128 (idObject value) := by
  have hblank : Blank [] := fun _ hmem => by cases hmem
  have hkey : Quoted [quote, 0x69, 0x64, quote] :=
    ⟨[0x69, 0x64], .plain (by decide) (by decide) (.plain (by decide) (by decide) .nil), rfl⟩
  have hvalue := Derives.element hblank h hblank
  have hobject := Derives.object (.oneMember (.member hblank hkey hblank hvalue))
  rw [List.append_nil] at hobject
  exact ⟨hobject, rfl⟩

/-- The text `1`. -/
def oneText : Bytes := [0x31]

/-- The text `"\"}"`, a string with an escaped quote and a brace. -/
def quotedText : Bytes := [quote, backslash, quote, closeBrace, quote]

/-- The text `null`. -/
def nullText : Bytes := [0x6e, 0x75, 0x6c, 0x6c]

/-- The JSON library on the three objects with these ids. -/
def idSerde : SerdeJson where
  parse text :=
    if text = idObject oneText then some (.object [("id", .number (.int 1))])
    else if text = idObject quotedText then some (.object [("id", .string "\"\x7d")])
    else if text = idObject nullText then some (.object [("id", .null)])
    else none
  recursionLimit := by
    intro n text v _ hparse
    by_cases hone : text = idObject oneText
    · rw [hone]
      exact idObject_isObject (.scalar ⟨by decide, by decide⟩)
    by_cases hquoted : text = idObject quotedText
    · rw [hquoted]
      refine idObject_isObject (.string ⟨[backslash, quote, closeBrace], ?_, rfl⟩)
      exact .escape quote (.plain (by decide) (by decide) .nil)
    by_cases hnull : text = idObject nullText
    · rw [hnull]
      exact idObject_isObject (.scalar ⟨by decide, by decide⟩)
    · rw [if_neg hone, if_neg hquoted, if_neg hnull] at hparse
      cases hparse

/-- Two objects and a line feed, read in three chunks; the second one ends inside an escape. -/
def idReader : Reader U8 :=
  ⟨[], [[openBrace, quote, 0x69], [0x64, quote, colon, 0x31, closeBrace, 0x0a, openBrace, quote,
    0x69, 0x64, quote, colon, quote, backslash], [quote, closeBrace, quote, closeBrace, 0x0a]]⟩

theorem recvMessages_framed_ids : (recvMessages idSerde 3 idReader).1 =
    [.ok (.response ⟨none, none, .number 1⟩), .ok (.response ⟨none, none, .string "\"\x7d"⟩),
      .err .connectionClosed] := by
  have hone : idSerde.Reads ⟨[], idObject oneText⟩ (.response ⟨none, none, .number 1⟩) :=
    ⟨⟨128, idObject_isObject (.scalar ⟨by decide, by decide⟩)⟩, rfl⟩
  have hquoted : idSerde.Reads ⟨[0x0a], idObject quotedText⟩
      (.response ⟨none, none, .string "\"\x7d"⟩) := by
    refine ⟨⟨128, idObject_isObject (.string ⟨[backslash, quote, closeBrace], ?_, rfl⟩)⟩, rfl⟩
    exact .escape quote (.plain (by decide) (by decide) .nil)
  have hflow : idReader.Flowing := by decide
  have hunread : idReader.unread =
      stream [⟨[], idObject oneText⟩, ⟨[0x0a], idObject quotedText⟩] [0x0a] := rfl
  have hread := List.Forall₂.cons hone (.cons hquoted .nil)
  exact (recvMessages_framed idSerde hread ⟨by decide, by decide⟩ hflow hunread).2 1

/-- A response without an id and one with an id. -/
def nullIdItems : List Item := [⟨[], idObject nullText⟩, ⟨[], idObject oneText⟩]

def nullIdReader : Reader U8 := ⟨[], [stream nullIdItems []]⟩

theorem recvMessages_unwedged_iff_ids :
    DeliversAll idSerde nullIdItems.reverse ⟨[], [stream nullIdItems.reverse []]⟩ := by
  have hflow : Reader.Flowing ⟨[], [stream nullIdItems.reverse []]⟩ := by decide
  have hunread : Reader.unread ⟨[], [stream nullIdItems.reverse []]⟩ =
      stream nullIdItems.reverse [] := rfl
  have hlast : nullIdItems.reverse.Pairwise fun a b =>
      idSerde.fromSlice a.text = none → idSerde.fromSlice b.text = none :=
    List.pairwise_pair.mpr fun _ => rfl
  exact (recvMessages_unwedged_iff idSerde (by decide) ⟨by decide, by decide⟩ hflow
    hunread).1.mpr hlast

/-- The second call finds the object without an id again, and the response behind it is
    not delivered. -/
theorem nullId_wedges :
    (∀ item ∈ nullIdItems, Balanced item.text) ∧ nullIdReader.unread = stream nullIdItems [] ∧
      (recvMessages idSerde 2 nullIdReader).1 = [.err .json, .err .json] ∧
      ¬ (DeliversAll idSerde nullIdItems nullIdReader ∧
        ConsumesAll idSerde nullIdItems [] nullIdReader) := by
  have hresults : (recvMessages idSerde 2 nullIdReader).1 = [.err .json, .err .json] := rfl
  refine ⟨by decide, rfl, hresults, ?_⟩
  rintro ⟨hdelivers, -⟩
  rw [DeliversAll, show nullIdItems.length = 2 from rfl, hresults] at hdelivers
  have hone := (List.forall₂_cons.mp (List.forall₂_cons.mp hdelivers).2).1
  cases hone.1 (.response ⟨none, none, .number 1⟩) rfl

end Rovs.JsonRpc

import Rovs.MatchDisplay
import Rovs.Numerals
import Rovs.Texts

/-!
# Connection tracking entries (`rovs-ext/src/appctl/conntrack.rs`)

The parser of `dpctl/dump-conntrack` looks for its keys anywhere in a line and takes what
follows the first hit.  A line is a row of labelled values, so the first hit of a key is the
first label that the key is a suffix of, and in the documented grammar that is the label meant.

`Line` is that grammar, and `parseConntrackEntries_outputText` says that the parser reads its
lines.
-/

namespace Rovs.Ext.Conntrack

open Texts

structure ConntrackEntry where
  protocol : String
  state : Option String
  src : String
  dst : String
  sport : Option U16
  dport : Option U16
  zone : Option U16
  mark : Option U32
  raw : String
deriving DecidableEq, Repr

/-! ### The parser -/

/-- The loop of `extract_paren_content`: where the depth comes back to zero. -/
def closing (depth : Int) : List Char → Option Nat
  | [] => none
  | ch :: rest =>
    if ch = '(' then (closing (depth + 1) rest).map (· + 1)
    else if ch = ')' then
      if depth - 1 = 0 then some 0 else (closing (depth - 1) rest).map (· + 1)
    else (closing depth rest).map (· + 1)

def extractParenContent (line key : List Char) : Option (List Char) := do
  let rest ← after key line
  if rest.head? ≠ some '(' then none
  else do
    let i ← closing 0 rest
    pure ((rest.drop 1).take (i - 1))

/-- `extract_field`; an empty value is none. -/
def extractField (s key : List Char) : Option (List Char) := do
  let rest ← after key s
  let value := rest.takeWhile fun c => c ≠ ',' && c ≠ ')'
  if value = [] then none else pure value

/-- `parse().ok()` of an unsigned integer. -/
def parseNumber (w : Nat) (v : List Char) : Option (BitVec w) := (fromStrRadix w 10 v).toOption

def parseMark (v : List Char) : Option U32 :=
  if "0x".toList <+: v then (fromStrRadix 32 16 (v.drop 2)).toOption else parseNumber 32 v

def parseOrigTuple (line : List Char) :
    Option String × Option String × Option U16 × Option U16 :=
  match extractParenContent line "orig=".toList with
  | none => (none, none, none, none)
  | some content =>
    ((extractField content "src=".toList).map String.ofList,
      (extractField content "dst=".toList).map String.ofList,
      (extractField content "sport=".toList).bind (parseNumber 16),
      (extractField content "dport=".toList).bind (parseNumber 16))

def extractProtoinfoState (line : List Char) : Option String := do
  let content ← extractParenContent line "protoinfo=".toList
  (extractField content "state=".toList).map String.ofList

def parseOneEntry (line : List Char) : ConntrackEntry :=
  let (src, dst, sport, dport) := parseOrigTuple line
  { protocol := ((line.splitOn ',').head?.map String.ofList).getD "unknown"
    state := extractProtoinfoState line
    src := src.getD ""
    dst := dst.getD ""
    sport := sport
    dport := dport
    zone := (extractField line "zone=".toList).bind (parseNumber 16)
    mark := (extractField line "mark=".toList).bind parseMark
    raw := String.ofList line }

def parseConntrackEntries (output : String) : List ConntrackEntry :=
  (((lines output.toList).map trim).filter (· ≠ [])).map parseOneEntry

/-! ### The documented lines -/

/-- The characters of names, addresses and numbers: no blanks and no punctuation of the line. -/
def IsPlain (c : Char) : Prop := isWhitespace c = false ∧ c ∉ [',', '=', '(', ')']

instance : DecidablePred IsPlain := fun _ => inferInstanceAs (Decidable (_ ∧ _))

/-- A name, an address or a number. -/
structure Word where
  text : String
  ne_nil : text.toList ≠ []
  plain : ∀ c ∈ text.toList, IsPlain c

/-- What a tuple has behind the addresses. -/
inductive Layer4 where
  | ports (sport dport : U16)
  | icmp (id : U16) (kind : Option (U8 × U8))
deriving DecidableEq, Repr

structure Tuple where
  src : Word
  dst : Word
  layer4 : Layer4

/-- Hexadecimal digits of a number, in either case and with any zeros in front. -/
structure HexDigits where
  value : U32
  digits : List Char
  isNumeral : IsNumeral 16 digits
  numeral_eq : numeral 16 digits = value.toNat

/-- A mark, and how it is written. -/
inductive Mark where
  | decimal (value : U32)
  | hexadecimal (hex : HexDigits)

structure Tracked where
  protocol : Word
  orig : Tuple
  reply : Tuple
  zone : Option U16
  mark : Option Mark
  state : Option Word

def Layer4.text : Layer4 → String
  | .ports sport dport => ",sport=" ++ OpenFlow.decText sport ++ ",dport=" ++ OpenFlow.decText dport
  | .icmp id none => ",id=" ++ OpenFlow.decText id
  | .icmp id (some (type, code)) =>
    ",id=" ++ OpenFlow.decText id ++ ",type=" ++ OpenFlow.decText type ++ ",code="
      ++ OpenFlow.decText code

def Tuple.text (t : Tuple) : String :=
  "src=" ++ t.src.text ++ ",dst=" ++ t.dst.text ++ t.layer4.text

def Mark.text : Mark → String
  | .decimal value => OpenFlow.decText value
  | .hexadecimal hex => "0x" ++ String.ofList hex.digits

def Mark.value : Mark → U32
  | .decimal value => value
  | .hexadecimal hex => hex.value

/-- A part of the line that may be missing. -/
def optional {α : Type} (text : α → String) : Option α → String
  | some a => text a
  | none => ""

def Tracked.text (e : Tracked) : String :=
  e.protocol.text ++ ",orig=(" ++ e.orig.text ++ "),reply=(" ++ e.reply.text ++ ")"
    ++ optional (fun zone => ",zone=" ++ OpenFlow.decText zone) e.zone
    ++ optional (fun mark => ",mark=" ++ mark.text) e.mark
    ++ optional (fun state => ",protoinfo=(state=" ++ state.text ++ ")") e.state

def Layer4.sport : Layer4 → Option U16
  | .ports sport _ => some sport
  | .icmp _ _ => none

def Layer4.dport : Layer4 → Option U16
  | .ports _ dport => some dport
  | .icmp _ _ => none

/-- The entry that a line stands for. -/
def Tracked.entry (e : Tracked) : ConntrackEntry where
  protocol := e.protocol.text
  state := e.state.map Word.text
  src := e.orig.src.text
  dst := e.orig.dst.text
  sport := e.orig.layer4.sport
  dport := e.orig.layer4.dport
  zone := e.zone
  mark := e.mark.map Mark.value
  raw := e.text

/-- Blanks within a line. -/
structure Blanks where
  chars : List Char
  blank : ∀ c ∈ chars, isWhitespace c ∧ c ≠ '\n'

/-- A line of the output: blanks, or an entry between blanks. -/
inductive Line where
  | blank (blanks : Blanks)
  | entry (before : Blanks) (e : Tracked) (behind : Blanks)

def Line.text : Line → List Char
  | .blank blanks => blanks.chars
  | .entry before e behind => before.chars ++ e.text.toList ++ behind.chars

def Line.entry? : Line → Option ConntrackEntry
  | .blank _ => none
  | .entry _ e _ => some e.entry

/-- The lines of an output, with a newline between them. -/
def outputText (output : List Line) : String :=
  String.ofList (['\n'].intercalate (output.map Line.text))

/-! ### Reading a value behind its key -/

section Values

variable {value stop line key : List Char}

/-- A text that ends a value that stands in front of it. -/
def Stops (stop : List Char) : Prop := ∀ c, stop.head? = some c → c = ',' ∨ c = ')'

theorem stops_nil : Stops [] := by
  intro c hc
  cases hc

theorem stops_cons {c : Char} (hc : c = ',' ∨ c = ')') : Stops (c :: stop) := by
  intro d hd
  cases hd
  exact hc

theorem extractField_of_after (hne : value ≠ []) (hvalue : ∀ c ∈ value, IsPlain c)
    (hstop : Stops stop) (h : after key line = some (value ++ stop)) :
    extractField line key = some value := by
  have hall : ∀ c ∈ value, (c ≠ ',' && c ≠ ')') = true := by
    intro c hc
    have hplain := (hvalue c hc).2
    simp only [List.mem_cons, not_or] at hplain
    simp [hplain]
  have htake : (value ++ stop).takeWhile (fun c => c ≠ ',' && c ≠ ')') = value := by
    rw [List.takeWhile_append_of_pos hall]
    cases stop with
    | nil => rw [List.takeWhile_nil, List.append_nil]
    | cons c stop =>
      have hc := hstop c rfl
      rw [List.takeWhile_cons_of_neg (by simp only [ne_eq, decide_not, Bool.and_eq_true,
        Bool.not_eq_true', decide_eq_false_iff_not, not_and, not_not]; tauto), List.append_nil]
  rw [extractField, h]
  simp only [Option.bind_eq_bind, Option.bind_some, htake, if_neg hne, Option.pure_def]

theorem extractField_of_none (h : after key line = none) : extractField line key = none := by
  rw [extractField, h]
  rfl

/-- Within parentheses the depth stays positive up to the closing one. -/
theorem closing_one (hopen : '(' ∉ value) (hclose : ')' ∉ value) :
    closing 1 (value ++ ')' :: stop) = some value.length := by
  induction value with
  | nil => rfl
  | cons c value ih =>
    rw [List.mem_cons, not_or] at hopen hclose
    rw [List.cons_append, closing, if_neg (Ne.symm hopen.1), if_neg (Ne.symm hclose.1),
      ih hopen.2 hclose.2]
    rfl

theorem extractParenContent_of_after (hopen : '(' ∉ value) (hclose : ')' ∉ value)
    (h : after key line = some ('(' :: (value ++ ')' :: stop))) :
    extractParenContent line key = some value := by
  have hclosing : closing 0 ('(' :: (value ++ ')' :: stop)) = some (value.length + 1) := by
    rw [closing, if_pos rfl, Int.zero_add, closing_one hopen hclose]
    rfl
  rw [extractParenContent, h]
  simp only [Option.bind_eq_bind, Option.bind_some, List.head?_cons, ne_eq, not_true_eq_false,
    if_false, hclosing, List.drop_one, List.tail_cons, Nat.add_sub_cancel, Option.pure_def,
    List.take_left]

theorem extractParenContent_of_none (h : after key line = none) :
    extractParenContent line key = none := by
  rw [extractParenContent, h]
  rfl

end Values

/-! ### Numbers as words -/

theorem plain_of_digit (radix : Nat) {c : Char} (h : (toDigit radix c).isSome) : IsPlain c := by
  have hrange := toDigit_range h
  constructor
  · simp only [isWhitespace, Bool.or_eq_false_iff, Bool.and_eq_false_iff, decide_eq_false_iff_not,
      beq_eq_false_iff_ne]
    omega
  · intro hmem
    simp only [List.mem_cons, List.not_mem_nil, or_false] at hmem
    rcases hmem with rfl | rfl | rfl | rfl
    all_goals revert hrange; decide

theorem plain_of_isNumeral {radix : Nat} {digits : List Char} (h : IsNumeral radix digits) :
    ∀ c ∈ digits, IsPlain c :=
  fun c hc => plain_of_digit radix (h.digit c hc)

section Numbers

variable {w : Nat}

theorem decText_toList (v : BitVec w) : (OpenFlow.decText v).toList = Nat.toDigits 10 v.toNat := by
  rw [OpenFlow.decText, Nat.toString_eq_ofList_toDigits, String.toList_ofList]

theorem hexadecimal_toList (hex : HexDigits) :
    (Mark.hexadecimal hex).text.toList = '0' :: 'x' :: hex.digits := by
  have hdigits : (String.ofList hex.digits).toList = hex.digits := String.toList_ofList
  rw [Mark.text, String.toList_append, hdigits]
  rfl

theorem isNumeral_hexText (value : U32) : IsNumeral 16 (Nat.toDigits 16 value.toNat) :=
  isNumeral_toDigits (by decide) (by decide) value.toNat

theorem numeral_hexText (value : U32) :
    numeral 16 (Nat.toDigits 16 value.toNat) = value.toNat :=
  numeral_toDigits (by decide) (by decide) value.toNat

/-- The digits that a number is printed with. -/
def HexDigits.printed (value : U32) : HexDigits :=
  ⟨value, Nat.toDigits 16 value.toNat, isNumeral_hexText value, numeral_hexText value⟩

theorem isNumeral_decText (v : BitVec w) : IsNumeral 10 (OpenFlow.decText v).toList := by
  rw [decText_toList]
  exact isNumeral_toDigits (by decide) (by decide) v.toNat

/-- A number in decimal. -/
def Word.dec (v : BitVec w) : Word where
  text := OpenFlow.decText v
  ne_nil := (isNumeral_decText v).ne_nil
  plain := plain_of_isNumeral (isNumeral_decText v)

theorem parseNumber_decText (v : BitVec w) :
    parseNumber w (OpenFlow.decText v).toList = some v := by
  have hvalue := numeral_toDigits (b := 10) (by decide) (by decide) v.toNat
  rw [← decText_toList] at hvalue
  rw [parseNumber, fromStrRadix_numeral (by decide) (isNumeral_decText v) hvalue]
  rfl

end Numbers

/-! ### Addresses as words -/

section Addresses

theorem plain_intercalate {α : Type} {sep : String} {text : α → String} {xs : List α}
    (hsep : ∀ c ∈ sep.toList, IsPlain c) (htext : ∀ x ∈ xs, ∀ c ∈ (text x).toList, IsPlain c) :
    ∀ c ∈ (sep.intercalate (xs.map text)).toList, IsPlain c := by
  intro c hc
  rw [intercalate_map_toList] at hc
  rcases mem_of_mem_intercalate hc with hc | ⟨group, hgroup, hc⟩
  · exact hsep c hc
  · obtain ⟨x, hx, rfl⟩ := List.mem_map.mp hgroup
    exact htext x hx c hc

theorem plain_dot : ∀ c ∈ ".".toList, IsPlain c :=
  forall_mem_of_all (by decide)

theorem plain_colon : ∀ c ∈ ":".toList, IsPlain c :=
  forall_mem_of_all (by decide)

theorem plain_hexText (n : Nat) : ∀ c ∈ (OpenFlow.hexText 0 n).toList, IsPlain c := by
  simp only [OpenFlow.hexText, Nat.zero_sub, List.replicate_zero, List.nil_append,
    String.toList_ofList]
  exact plain_of_isNumeral (isNumeral_toDigits (by decide) (by decide) n)

theorem plain_formatIpv4 (addr : OpenFlow.Ipv4Addr) :
    ∀ c ∈ (OpenFlow.formatIpv4 addr).toList, IsPlain c :=
  plain_intercalate plain_dot fun octet _ => plain_of_isNumeral (isNumeral_decText octet)

theorem plain_segmentsText (segments : List U16) :
    ∀ c ∈ (OpenFlow.segmentsText segments).toList, IsPlain c :=
  plain_intercalate plain_colon fun segment _ => plain_hexText segment.toNat

theorem plain_formatIpv6 (addr : OpenFlow.Ipv6Addr) :
    ∀ c ∈ (OpenFlow.formatIpv6 addr).toList, IsPlain c := by
  unfold OpenFlow.formatIpv6
  split
  case isTrue =>
    rw [String.toList_append, List.forall_mem_append]
    exact ⟨forall_mem_of_all (by decide), plain_formatIpv4 _⟩
  case isFalse =>
    simp only
    split
    case isTrue =>
      rw [String.toList_append, String.toList_append, List.forall_mem_append,
        List.forall_mem_append]
      exact ⟨⟨plain_segmentsText _, forall_mem_of_all (by decide)⟩, plain_segmentsText _⟩
    case isFalse => exact plain_segmentsText _

theorem intercalate_ne_nil {α : Type} (sep : Char) (text : α → String) {xs : List α}
    (hlen : 2 ≤ xs.length) : ((String.singleton sep).intercalate (xs.map text)).toList ≠ [] := by
  rw [intercalate_map_toList, String.toList_singleton]
  exact List.ne_nil_of_mem (mem_intercalate (by rw [List.length_map]; exact hlen))

theorem formatIpv4_ne_nil (addr : OpenFlow.Ipv4Addr) :
    (OpenFlow.formatIpv4 addr).toList ≠ [] :=
  intercalate_ne_nil '.' _ (show 2 ≤ (be addr).length by rw [be_length]; decide)

theorem formatIpv6_ne_nil (addr : OpenFlow.Ipv6Addr) :
    (OpenFlow.formatIpv6 addr).toList ≠ [] := by
  unfold OpenFlow.formatIpv6
  split
  case isTrue =>
    rw [String.toList_append]
    exact List.append_ne_nil_of_left_ne_nil (by decide) _
  case isFalse =>
    simp only
    split
    case isTrue => simp [String.toList_append]
    case isFalse =>
      have hlen : 2 ≤ (OpenFlow.ipv6Segments addr).length := by simp [OpenFlow.ipv6Segments]
      exact intercalate_ne_nil ':' _ hlen

/-- The addresses of the tuples: IPv4 and IPv6 addresses as the standard library prints them. -/
def Word.ipv4 (addr : OpenFlow.Ipv4Addr) : Word :=
  ⟨OpenFlow.formatIpv4 addr, formatIpv4_ne_nil addr, plain_formatIpv4 addr⟩

def Word.ipv6 (addr : OpenFlow.Ipv6Addr) : Word :=
  ⟨OpenFlow.formatIpv6 addr, formatIpv6_ne_nil addr, plain_formatIpv6 addr⟩

end Addresses

theorem Mark.plain (mark : Mark) : ∀ c ∈ mark.text.toList, IsPlain c := by
  cases mark with
  | decimal value => exact plain_of_isNumeral (isNumeral_decText value)
  | hexadecimal hex =>
    rw [hexadecimal_toList]
    intro c hc
    rcases List.mem_cons.mp hc with rfl | hc
    · exact plain_of_digit 16 rfl
    rcases List.mem_cons.mp hc with rfl | hc
    · exact plain_of_digit 36 rfl
    · exact plain_of_isNumeral hex.isNumeral c hc

theorem Mark.text_ne_nil (mark : Mark) : mark.text.toList ≠ [] := by
  cases mark with
  | decimal value => exact (isNumeral_decText value).ne_nil
  | hexadecimal hex =>
    rw [hexadecimal_toList]
    exact List.cons_ne_nil _ _

def Mark.word (mark : Mark) : Word := ⟨mark.text, mark.text_ne_nil, mark.plain⟩

theorem parseMark_text (mark : Mark) : parseMark mark.text.toList = some mark.value := by
  cases mark with
  | decimal value =>
    have hstart : ¬ "0x".toList <+: (OpenFlow.decText value).toList := by
      intro hstart
      have hdigit := (isNumeral_decText value).digit 'x' (hstart.subset (by decide))
      revert hdigit
      decide
    rw [Mark.text, parseMark, if_neg hstart, parseNumber_decText]
    rfl
  | hexadecimal hex =>
    have hstart : "0x".toList <+: '0' :: 'x' :: hex.digits := ⟨_, rfl⟩
    rw [hexadecimal_toList, parseMark, if_pos hstart, List.drop_succ_cons, List.drop_succ_cons,
      List.drop_zero, fromStrRadix_numeral (by decide) hex.isNumeral hex.numeral_eq]
    rfl

/-! ### A line as a row -/

/-- The items of a tuple; `close` ends the last value. -/
def Layer4.items (close : List Char) : Layer4 → List Item
  | .ports sport dport => [
      ⟨',', "sport".toList, (Word.dec sport).text.toList⟩,
      ⟨',', "dport".toList, (Word.dec dport).text.toList ++ close⟩]
  | .icmp id none => [⟨',', "id".toList, (Word.dec id).text.toList ++ close⟩]
  | .icmp id (some (type, code)) => [
      ⟨',', "id".toList, (Word.dec id).text.toList⟩,
      ⟨',', "type".toList, (Word.dec type).text.toList⟩,
      ⟨',', "code".toList, (Word.dec code).text.toList ++ close⟩]

def Tuple.items (close : List Char) (t : Tuple) : List Item :=
  ⟨'(', "src".toList, t.src.text.toList⟩ :: ⟨',', "dst".toList, t.dst.text.toList⟩ ::
    t.layer4.items close

def zoneItems : Option U16 → List Item
  | some zone => [⟨',', "zone".toList, (Word.dec zone).text.toList⟩]
  | none => []

def markItems : Option Mark → List Item
  | some mark => [⟨',', "mark".toList, mark.word.text.toList⟩]
  | none => []

def stateItems : Option Word → List Item
  | some state => [
      ⟨',', "protoinfo".toList, []⟩, ⟨'(', "state".toList, state.text.toList ++ [')']⟩]
  | none => []

def Tracked.items (e : Tracked) : List Item :=
  ⟨',', "orig".toList, []⟩ :: (e.orig.items [')'] ++ ⟨',', "reply".toList, []⟩ ::
    (e.reply.items [')'] ++ (zoneItems e.zone ++ (markItems e.mark ++ stateItems e.state))))

theorem Layer4.rowText_items (l : Layer4) (close : List Char) :
    rowText '=' (l.items close) = l.text.toList ++ close := by
  cases l with
  | ports sport dport =>
    simp [Layer4.items, Layer4.text, Word.dec, String.toList_append]
  | icmp id kind =>
    cases kind with
    | none => simp [Layer4.items, Layer4.text, Word.dec, String.toList_append]
    | some kind => simp [Layer4.items, Layer4.text, Word.dec, String.toList_append]

theorem Tuple.rowText_items (t : Tuple) (close : List Char) :
    rowText '=' (t.items close) = '(' :: (t.text.toList ++ close) := by
  simp [Tuple.items, Tuple.text, Layer4.rowText_items, String.toList_append]

/-- A line is its protocol and then the row of its items. -/
theorem Tracked.toList_text (e : Tracked) :
    e.text.toList = e.protocol.text.toList ++ rowText '=' e.items := by
  have hzone : rowText '=' (zoneItems e.zone) =
      (optional (fun zone => ",zone=" ++ OpenFlow.decText zone) e.zone).toList := by
    cases e.zone with
    | none => rfl
    | some zone => simp [zoneItems, optional, Word.dec]
  have hmark : rowText '=' (markItems e.mark) =
      (optional (fun mark => ",mark=" ++ mark.text) e.mark).toList := by
    cases e.mark with
    | none => rfl
    | some mark => simp [markItems, optional, Mark.word]
  have hstate : rowText '=' (stateItems e.state) =
      (optional (fun state => ",protoinfo=(state=" ++ state.text ++ ")") e.state).toList := by
    cases e.state with
    | none => rfl
    | some state => simp [stateItems, optional]
  simp only [Tracked.items, rowText_cons, rowText_append, hzone, hmark, hstate,
    Tuple.rowText_items]
  simp [Tracked.text, String.toList_append]

/-- The names of the labels. -/
def tupleNames : List (List Char) :=
  ["src", "dst", "sport", "dport", "id", "type", "code"].map String.toList

def names : List (List Char) :=
  tupleNames ++ ["orig", "reply", "zone", "mark", "protoinfo", "state"].map String.toList

/-- An item of a line: one of the names, and a value of plain characters that may close a
    tuple. -/
structure Sound (item : Item) : Prop where
  delim : item.delim = ',' ∨ item.delim = '('
  name : item.name ∈ names
  value : ∀ c ∈ item.value, IsPlain c ∨ c = ')'

section Sound

variable {d : Char} {name : List Char}

theorem sound_empty (hd : d = ',' ∨ d = '(') (hname : name ∈ names) : Sound ⟨d, name, []⟩ := by
  refine ⟨hd, hname, ?_⟩
  intro c hc
  cases hc

theorem sound_word (hd : d = ',' ∨ d = '(') (hname : name ∈ names) (word : Word) :
    Sound ⟨d, name, word.text.toList⟩ :=
  ⟨hd, hname, fun c hc => .inl (word.plain c hc)⟩

theorem sound_closed (hd : d = ',' ∨ d = '(') (hname : name ∈ names) (word : Word)
    {close : List Char} (hclose : ∀ c ∈ close, c = ')') :
    Sound ⟨d, name, word.text.toList ++ close⟩ := by
  refine ⟨hd, hname, ?_⟩
  intro c hc
  rcases List.mem_append.mp hc with hc | hc
  · exact .inl (word.plain c hc)
  · exact .inr (hclose c hc)

theorem closes_nil : ∀ c ∈ ([] : List Char), c = ')' := by
  intro c hc
  cases hc

theorem closes_paren : ∀ c ∈ [')'], c = ')' := by
  intro c hc
  exact List.mem_singleton.mp hc

end Sound

theorem Tuple.name_mem (t : Tuple) (close : List Char) :
    ∀ item ∈ t.items close, item.name ∈ tupleNames := by
  obtain ⟨src, dst, l⟩ := t
  cases l with
  | ports sport dport =>
    simp only [Tuple.items, Layer4.items, List.forall_mem_cons]
    decide
  | icmp id kind =>
    cases kind with
    | none =>
      simp only [Tuple.items, Layer4.items, List.forall_mem_cons]
      decide
    | some kind =>
      simp only [Tuple.items, Layer4.items, List.forall_mem_cons]
      decide

theorem Tuple.sound (t : Tuple) {close : List Char} (hclose : ∀ c ∈ close, c = ')') :
    ∀ item ∈ t.items close, Sound item := by
  obtain ⟨src, dst, l⟩ := t
  have hsrc := sound_word (.inr rfl) (show "src".toList ∈ names by decide) src
  have hdst := sound_word (.inl rfl) (show "dst".toList ∈ names by decide) dst
  cases l with
  | ports sport dport =>
    have hsport := sound_word (.inl rfl) (show "sport".toList ∈ names by decide) (.dec sport)
    have hdport := sound_closed (.inl rfl) (show "dport".toList ∈ names by decide) (.dec dport)
      hclose
    simp only [Tuple.items, Layer4.items, List.forall_mem_cons]
    exact ⟨hsrc, hdst, hsport, hdport, by simp⟩
  | icmp id kind =>
    cases kind with
    | none =>
      have hid := sound_closed (.inl rfl) (show "id".toList ∈ names by decide) (.dec id) hclose
      simp only [Tuple.items, Layer4.items, List.forall_mem_cons]
      exact ⟨hsrc, hdst, hid, by simp⟩
    | some kind =>
      have hid := sound_word (.inl rfl) (show "id".toList ∈ names by decide) (.dec id)
      have htype := sound_word (.inl rfl) (show "type".toList ∈ names by decide) (.dec kind.1)
      have hcode := sound_closed (.inl rfl) (show "code".toList ∈ names by decide) (.dec kind.2)
        hclose
      simp only [Tuple.items, Layer4.items, List.forall_mem_cons]
      exact ⟨hsrc, hdst, hid, htype, hcode, by simp⟩

theorem Tracked.sound (e : Tracked) : ∀ item ∈ e.items, Sound item := by
  have horig := sound_empty (.inl rfl) (show "orig".toList ∈ names by decide)
  have hreply := sound_empty (.inl rfl) (show "reply".toList ∈ names by decide)
  have hzone : ∀ item ∈ zoneItems e.zone, Sound item := by
    cases e.zone with
    | none => simp [zoneItems]
    | some zone =>
      simp only [zoneItems, List.mem_singleton, forall_eq]
      exact sound_word (.inl rfl) (by decide) (.dec zone)
  have hmark : ∀ item ∈ markItems e.mark, Sound item := by
    cases e.mark with
    | none => simp [markItems]
    | some mark =>
      simp only [markItems, List.mem_singleton, forall_eq]
      exact sound_word (.inl rfl) (by decide) mark.word
  have hstate : ∀ item ∈ stateItems e.state, Sound item := by
    cases e.state with
    | none => simp [stateItems]
    | some state =>
      simp only [stateItems, List.forall_mem_cons]
      exact ⟨sound_empty (.inl rfl) (by decide), sound_closed (.inr rfl) (by decide) state
        closes_paren, by simp⟩
  simp only [Tracked.items, List.forall_mem_cons, List.forall_mem_append]
  exact ⟨horig, e.orig.sound closes_paren, hreply, e.reply.sound closes_paren, hzone, hmark,
    hstate⟩

theorem names_free : ∀ name ∈ names, '=' ∉ name ∧ ',' ∉ name ∧ '(' ∉ name ∧
    ∀ c ∈ name, isWhitespace c = false := by
  have hfree : ∀ name ∈ names, ('=' ∉ name ∧ ',' ∉ name ∧ '(' ∉ name) ∧
      name.all (fun c => decide (isWhitespace c = false)) = true := by
    decide
  intro name hname
  obtain ⟨⟨hequals, hcomma, hparen⟩, hblank⟩ := hfree name hname
  exact ⟨hequals, hcomma, hparen, forall_mem_of_all hblank⟩

theorem IsPlain.ne_equals {c : Char} (h : IsPlain c) : c ≠ '=' := by
  rintro rfl
  exact h.2 (by decide)

theorem Sound.separated {item : Item} (h : Sound item) {key : List Char} (hkey : key ∈ names) :
    item.Separated '=' key := by
  obtain ⟨-, hcomma, hparen, -⟩ := names_free key hkey
  constructor
  case delim_ne => rcases h.delim with hd | hd <;> rw [hd] <;> decide
  case name_free => exact (names_free _ h.name).1
  case value_free =>
    intro hmem
    rcases h.value _ hmem with hplain | heq
    · exact hplain.ne_equals rfl
    · cases heq
  case delim_free =>
    rcases h.delim with hd | hd
    · rw [hd]
      exact hcomma
    · rw [hd]
      exact hparen

/-- The search for a key in a row of sound items. -/
theorem after_key {key front : List Char} {items : List Item} (hkey : key ∈ names)
    (hfront : '=' ∉ front) (hitems : ∀ item ∈ items, Sound item) :
    after (key ++ ['=']) (front ++ rowText '=' items) =
      (lookup key items).map fun found => found.1.value ++ rowText '=' found.2 :=
  after_row (names_free key hkey).1 hfront fun item hitem => (hitems item hitem).separated hkey

theorem Word.no_equals (word : Word) : '=' ∉ word.text.toList :=
  fun hmem => (word.plain _ hmem).ne_equals rfl

section Lookup

variable {line key label : List Char} {items : List Item}

/-- The value of a field is the word of the item that is looked up. -/
theorem extractField_of_lookup {d : Char} {name close : List Char} {word : Word}
    {rest : List Item} (hlabel : label = key ++ ['='])
    (hafter : after (key ++ ['=']) line =
      (lookup key items).map fun found => found.1.value ++ rowText '=' found.2)
    (hfound : lookup key items = some (⟨d, name, word.text.toList ++ close⟩, rest))
    (hstop : Stops (close ++ rowText '=' rest)) :
    extractField line label = some word.text.toList := by
  rw [hfound, Option.map_some, List.append_assoc, ← hlabel] at hafter
  exact extractField_of_after word.ne_nil word.plain hstop hafter

theorem extractField_of_lookup_none (hlabel : label = key ++ ['='])
    (hafter : after (key ++ ['=']) line =
      (lookup key items).map fun found => found.1.value ++ rowText '=' found.2)
    (hfound : lookup key items = none) : extractField line label = none := by
  rw [hfound, Option.map_none, ← hlabel] at hafter
  exact extractField_of_none hafter

end Lookup

/-- The search for a key in a line. -/
theorem Tracked.after_key (e : Tracked) (key : List Char) (hkey : key ∈ names) :
    after (key ++ ['=']) e.text.toList =
      (lookup key e.items).map fun found => found.1.value ++ rowText '=' found.2 := by
  rw [e.toList_text]
  exact Conntrack.after_key hkey e.protocol.no_equals e.sound

/-! ### The original tuple -/

theorem names_head : ∀ name ∈ names, name.head? ≠ none ∧ name.head? ≠ some '(' := by
  decide

/-- The search for a key in a tuple. -/
theorem Tuple.after_key (t : Tuple) (key : List Char) (hkey : key ∈ names) :
    after (key ++ ['=']) t.text.toList =
      (lookup key (t.items [])).map fun found => found.1.value ++ rowText '=' found.2 := by
  have hrow : after (key ++ ['=']) ([] ++ rowText '=' (t.items [])) = _ :=
    Conntrack.after_key hkey List.not_mem_nil (t.sound closes_nil)
  rw [List.nil_append, t.rowText_items, List.append_nil, after_cons, if_neg] at hrow
  case hnc =>
    intro hstart
    obtain ⟨hnil, hparen⟩ := names_head key hkey
    cases key with
    | nil => exact hnil rfl
    | cons c key =>
      rw [List.cons_append, List.cons_prefix_cons] at hstart
      exact hparen (by rw [hstart.1]; rfl)
  exact hrow

theorem Word.no_paren (word : Word) : ∀ c ∈ word.text.toList, c ≠ '(' ∧ c ≠ ')' := by
  intro c hc
  have hplain := (word.plain c hc).2
  simp only [List.mem_cons, not_or] at hplain
  exact ⟨hplain.2.2.1, hplain.2.2.2.1⟩

/-- The labels of the values hold no parentheses. -/
theorem label_no_paren : ∀ label ∈ ["src=", ",dst=", ",sport=", ",dport=", ",id=", ",type=",
    ",code=", "state="], ∀ c ∈ label.toList, c ≠ '(' ∧ c ≠ ')' := by
  have hall : ∀ label ∈ ["src=", ",dst=", ",sport=", ",dport=", ",id=", ",type=", ",code=",
      "state="], label.toList.all (fun c => decide (c ≠ '(' ∧ c ≠ ')')) = true := by
    decide
  exact fun label hlabel => forall_mem_of_all (hall label hlabel)

theorem Layer4.no_paren (l : Layer4) : ∀ c ∈ l.text.toList, c ≠ '(' ∧ c ≠ ')' := by
  cases l with
  | ports sport dport =>
    have hsport := (Word.dec sport).no_paren
    have hdport := (Word.dec dport).no_paren
    simp only [Layer4.text, String.toList_append, List.forall_mem_append]
    exact ⟨⟨⟨label_no_paren _ (by decide), hsport⟩, label_no_paren _ (by decide)⟩, hdport⟩
  | icmp id kind =>
    have hid := (Word.dec id).no_paren
    cases kind with
    | none =>
      simp only [Layer4.text, String.toList_append, List.forall_mem_append]
      exact ⟨label_no_paren _ (by decide), hid⟩
    | some kind =>
      have htype := (Word.dec kind.1).no_paren
      have hcode := (Word.dec kind.2).no_paren
      simp only [Layer4.text, String.toList_append, List.forall_mem_append]
      exact ⟨⟨⟨⟨⟨label_no_paren _ (by decide), hid⟩, label_no_paren _ (by decide)⟩, htype⟩,
        label_no_paren _ (by decide)⟩, hcode⟩

theorem Tuple.no_paren (t : Tuple) : ∀ c ∈ t.text.toList, c ≠ '(' ∧ c ≠ ')' := by
  rw [Tuple.text, String.toList_append, List.forall_mem_append]
  constructor
  · simp only [String.toList_append, List.forall_mem_append]
    exact ⟨⟨⟨label_no_paren _ (by decide), t.src.no_paren⟩, label_no_paren _ (by decide)⟩,
      t.dst.no_paren⟩
  · exact t.layer4.no_paren

/-- The content of the original tuple, not of the reply. -/
theorem Tracked.extractParenContent_orig (e : Tracked) :
    extractParenContent e.text.toList "orig=".toList = some e.orig.text.toList := by
  have hafter := e.after_key "orig".toList (by decide)
  rw [Tracked.items, lookup_self, Option.map_some, List.nil_append, rowText_append,
    Tuple.rowText_items, List.cons_append, List.append_assoc] at hafter
  exact extractParenContent_of_after (fun hmem => (e.orig.no_paren _ hmem).1 rfl)
    (fun hmem => (e.orig.no_paren _ hmem).2 rfl) hafter

/-- What stands behind the addresses begins with a comma. -/
theorem Layer4.stops_items (l : Layer4) (close : List Char) :
    Stops (rowText '=' (l.items close)) := by
  cases l with
  | ports sport dport => exact stops_cons (.inl rfl)
  | icmp id kind =>
    cases kind with
    | none => exact stops_cons (.inl rfl)
    | some kind => exact stops_cons (.inl rfl)

theorem Tuple.extractField_src (t : Tuple) :
    extractField t.text.toList "src=".toList = some t.src.text.toList := by
  have hfound : lookup "src".toList (t.items []) =
      some (⟨'(', "src".toList, t.src.text.toList ++ []⟩,
        ⟨',', "dst".toList, t.dst.text.toList⟩ :: t.layer4.items []) := by
    rw [List.append_nil]
    exact lookup_self '(' t.src.text.toList
  exact extractField_of_lookup rfl (t.after_key "src".toList (by decide)) hfound
    (stops_cons (.inl rfl))

theorem Tuple.extractField_dst (t : Tuple) :
    extractField t.text.toList "dst=".toList = some t.dst.text.toList := by
  have hfound : lookup "dst".toList (t.items []) =
      some (⟨',', "dst".toList, t.dst.text.toList ++ []⟩, t.layer4.items []) := by
    rw [Tuple.items, lookup_other (by decide), List.append_nil]
    exact lookup_self ',' t.dst.text.toList
  exact extractField_of_lookup rfl (t.after_key "dst".toList (by decide)) hfound
    (t.layer4.stops_items [])

/-- The keys of the ports are found in what stands behind the addresses. -/
theorem Tuple.after_port (t : Tuple) (key : List Char)
    (hkey : key ∈ ["sport".toList, "dport".toList]) :
    after (key ++ ['=']) t.text.toList =
      (lookup key (t.layer4.items [])).map fun found => found.1.value ++ rowText '=' found.2 := by
  have hports : ∀ key ∈ ["sport".toList, "dport".toList],
      key ∈ names ∧ ¬ key <:+ "src".toList ∧ ¬ key <:+ "dst".toList := by
    decide
  obtain ⟨hmem, hsrc, hdst⟩ := hports key hkey
  rw [t.after_key key hmem, Tuple.items, lookup_other hsrc, lookup_other hdst]

theorem Tuple.extractField_sport (t : Tuple) :
    (extractField t.text.toList "sport=".toList).bind (parseNumber 16) = t.layer4.sport := by
  have hafter := t.after_port "sport".toList (by decide)
  cases hl : t.layer4 with
  | ports sport dport =>
    have hfound : lookup "sport".toList (t.layer4.items []) =
        some (⟨',', "sport".toList, (Word.dec sport).text.toList ++ []⟩,
          [⟨',', "dport".toList, (Word.dec dport).text.toList ++ []⟩]) := by
      rw [hl, List.append_nil]
      exact lookup_self ',' (Word.dec sport).text.toList
    have hfield : extractField t.text.toList "sport=".toList = some _ :=
      extractField_of_lookup rfl hafter hfound (stops_cons (.inl rfl))
    rw [hfield]
    exact parseNumber_decText sport
  | icmp id kind =>
    have hfound : lookup "sport".toList (t.layer4.items []) = none := by
      rw [hl]
      cases kind with
      | none => rfl
      | some kind => rfl
    have hfield : extractField t.text.toList "sport=".toList = none :=
      extractField_of_lookup_none rfl hafter hfound
    rw [hfield]
    rfl

theorem Tuple.extractField_dport (t : Tuple) :
    (extractField t.text.toList "dport=".toList).bind (parseNumber 16) = t.layer4.dport := by
  have hafter := t.after_port "dport".toList (by decide)
  cases hl : t.layer4 with
  | ports sport dport =>
    have hfound : lookup "dport".toList (t.layer4.items []) =
        some (⟨',', "dport".toList, (Word.dec dport).text.toList ++ []⟩, []) := by
      rw [hl, Layer4.items, lookup_other (by decide)]
      exact lookup_self ',' ((Word.dec dport).text.toList ++ [])
    have hfield : extractField t.text.toList "dport=".toList = some _ :=
      extractField_of_lookup rfl hafter hfound stops_nil
    rw [hfield]
    exact parseNumber_decText dport
  | icmp id kind =>
    have hfound : lookup "dport".toList (t.layer4.items []) = none := by
      rw [hl]
      cases kind with
      | none => rfl
      | some kind => rfl
    have hfield : extractField t.text.toList "dport=".toList = none :=
      extractField_of_lookup_none rfl hafter hfound
    rw [hfield]
    rfl

theorem Tracked.parseOrigTuple (e : Tracked) :
    parseOrigTuple e.text.toList =
      (some e.orig.src.text, some e.orig.dst.text, e.orig.layer4.sport, e.orig.layer4.dport) := by
  simp only [Conntrack.parseOrigTuple, e.extractParenContent_orig, Tuple.extractField_src,
    Tuple.extractField_dst, Tuple.extractField_sport, Tuple.extractField_dport, Option.map_some,
    String.ofList_toList]

/-! ### The fields behind the tuples -/

/-- The names that stand in the tuples and in front of them. -/
def inTuples : List (List Char) := "orig".toList :: "reply".toList :: tupleNames

/-- A key that is not a name of the tuples, nor a suffix of one, is looked up behind them. -/
theorem Tracked.lookup_behind (e : Tracked) {key : List Char}
    (hkey : ∀ name ∈ inTuples, ¬ key <:+ name) :
    lookup key e.items =
      lookup key (zoneItems e.zone ++ (markItems e.mark ++ stateItems e.state)) := by
  have htuple : ∀ t : Tuple, ∀ item ∈ t.items [')'], ¬ key <:+ item.name := by
    intro t item hitem
    exact hkey _ (List.mem_cons_of_mem _ (List.mem_cons_of_mem _ (t.name_mem _ item hitem)))
  rw [Tracked.items, lookup_other (hkey _ List.mem_cons_self), lookup_append (htuple e.orig),
    lookup_other (hkey _ (List.mem_cons_of_mem _ List.mem_cons_self)),
    lookup_append (htuple e.reply)]

theorem stops_stateItems (state : Option Word) : Stops (rowText '=' (stateItems state)) := by
  cases state with
  | none => exact stops_nil
  | some state => exact stops_cons (.inl rfl)

theorem stops_markItems (mark : Option Mark) (state : Option Word) :
    Stops (rowText '=' (markItems mark ++ stateItems state)) := by
  cases mark with
  | none => exact stops_stateItems state
  | some mark => exact stops_cons (.inl rfl)

/-- An optional part is not in the way of a key that its name does not end with. -/
theorem lookup_zoneItems (zone : Option U16) {key : List Char} (hkey : ¬ key <:+ "zone".toList)
    (items : List Item) : lookup key (zoneItems zone ++ items) = lookup key items := by
  cases zone with
  | none => rfl
  | some zone => exact lookup_other hkey

theorem lookup_markItems (mark : Option Mark) {key : List Char} (hkey : ¬ key <:+ "mark".toList)
    (items : List Item) : lookup key (markItems mark ++ items) = lookup key items := by
  cases mark with
  | none => rfl
  | some mark => exact lookup_other hkey

theorem lookup_stateItems (state : Option Word) {key : List Char}
    (hprotoinfo : ¬ key <:+ "protoinfo".toList) (hstate : ¬ key <:+ "state".toList) :
    lookup key (stateItems state) = none := by
  cases state with
  | none => rfl
  | some state =>
    rw [stateItems, lookup_other hprotoinfo, lookup_other hstate]
    rfl

theorem Tracked.extractField_zone (e : Tracked) :
    (extractField e.text.toList "zone=".toList).bind (parseNumber 16) = e.zone := by
  have hafter := e.after_key "zone".toList (by decide)
  rw [e.lookup_behind (by decide)] at hafter
  cases hzone : e.zone with
  | some zone =>
    have hfound : lookup "zone".toList
        (zoneItems e.zone ++ (markItems e.mark ++ stateItems e.state)) =
        some (⟨',', "zone".toList, (Word.dec zone).text.toList ++ []⟩,
          markItems e.mark ++ stateItems e.state) := by
      rw [hzone, List.append_nil]
      exact lookup_self ',' (Word.dec zone).text.toList
    have hfield : extractField e.text.toList "zone=".toList = some _ :=
      extractField_of_lookup rfl hafter hfound (stops_markItems e.mark e.state)
    rw [hfield]
    exact parseNumber_decText zone
  | none =>
    have hfound : lookup "zone".toList
        (zoneItems e.zone ++ (markItems e.mark ++ stateItems e.state)) = none := by
      rw [hzone, zoneItems, List.nil_append, lookup_markItems _ (by decide)]
      exact lookup_stateItems _ (by decide) (by decide)
    have hfield : extractField e.text.toList "zone=".toList = none :=
      extractField_of_lookup_none rfl hafter hfound
    rw [hfield]
    rfl

theorem Tracked.extractField_mark (e : Tracked) :
    (extractField e.text.toList "mark=".toList).bind parseMark = e.mark.map Mark.value := by
  have hafter := e.after_key "mark".toList (by decide)
  rw [e.lookup_behind (by decide), lookup_zoneItems _ (by decide)] at hafter
  cases hmark : e.mark with
  | some mark =>
    have hfound : lookup "mark".toList (markItems e.mark ++ stateItems e.state) =
        some (⟨',', "mark".toList, mark.word.text.toList ++ []⟩, stateItems e.state) := by
      rw [hmark, List.append_nil]
      exact lookup_self ',' mark.word.text.toList
    have hfield : extractField e.text.toList "mark=".toList = some _ :=
      extractField_of_lookup rfl hafter hfound (stops_stateItems e.state)
    rw [hfield]
    exact parseMark_text mark
  | none =>
    have hfound : lookup "mark".toList (markItems e.mark ++ stateItems e.state) = none := by
      rw [hmark, markItems, List.nil_append]
      exact lookup_stateItems _ (by decide) (by decide)
    have hfield : extractField e.text.toList "mark=".toList = none :=
      extractField_of_lookup_none rfl hafter hfound
    rw [hfield]
    rfl

theorem extractField_state (state : Word) :
    extractField ("state=".toList ++ state.text.toList) "state=".toList =
      some state.text.toList := by
  have hafter : after ("state".toList ++ ['=']) ("state".toList ++ '=' :: state.text.toList) =
      some (state.text.toList ++ []) := by
    rw [after_append_cons (by decide) (by decide), if_pos (List.suffix_refl _), List.append_nil]
  exact extractField_of_after state.ne_nil state.plain stops_nil hafter

theorem Tracked.extractProtoinfoState (e : Tracked) :
    extractProtoinfoState e.text.toList = e.state.map Word.text := by
  have hafter := e.after_key "protoinfo".toList (by decide)
  rw [e.lookup_behind (by decide), lookup_zoneItems _ (by decide),
    lookup_markItems _ (by decide)] at hafter
  cases hstate : e.state with
  | some state =>
    have hfound : lookup "protoinfo".toList (stateItems e.state) =
        some (⟨',', "protoinfo".toList, []⟩,
          [⟨'(', "state".toList, state.text.toList ++ [')']⟩]) := by
      rw [hstate]
      exact lookup_self ',' []
    have hparen : ∀ c ∈ "state=".toList ++ state.text.toList, c ≠ '(' ∧ c ≠ ')' := by
      rw [List.forall_mem_append]
      exact ⟨label_no_paren _ (by decide), state.no_paren⟩
    have hcontent : after "protoinfo=".toList e.text.toList =
        some ('(' :: ("state=".toList ++ state.text.toList ++ ')' :: [])) := by
      rw [hfound, Option.map_some, List.nil_append, rowText_cons, rowText_nil,
        List.append_nil] at hafter
      rw [List.append_assoc]
      exact hafter
    rw [Conntrack.extractProtoinfoState, extractParenContent_of_after
      (fun hmem => (hparen _ hmem).1 rfl) (fun hmem => (hparen _ hmem).2 rfl) hcontent]
    simp only [Option.bind_eq_bind, Option.bind_some, extractField_state, Option.map_some,
      String.ofList_toList]
  | none =>
    have hcontent : after "protoinfo=".toList e.text.toList = none := by
      rw [hstate] at hafter
      exact hafter
    rw [Conntrack.extractProtoinfoState, extractParenContent_of_none hcontent]
    rfl

/-! ### Lines and outputs -/

/-- The protocol is what stands in front of the first comma. -/
theorem Tracked.protocol_eq (e : Tracked) :
    (e.text.toList.splitOn ',').head? = some e.protocol.text.toList := by
  have hcomma : ',' ∉ e.protocol.text.toList :=
    fun hmem => (e.protocol.plain _ hmem).2 (by decide)
  rw [e.toList_text, Tracked.items, rowText_cons,
    List.splitOn_append_cons_self_of_not_mem hcomma]
  rfl

/-- The entry of a line is the one that it stands for. -/
theorem parseOneEntry_text (e : Tracked) : parseOneEntry e.text.toList = e.entry := by
  rw [parseOneEntry, e.parseOrigTuple]
  simp only [e.protocol_eq, e.extractProtoinfoState, e.extractField_zone, e.extractField_mark,
    Option.map_some, Option.getD_some, String.ofList_toList]
  rfl

theorem Sound.no_blank {item : Item} (h : Sound item) :
    ∀ c ∈ item.text '=', isWhitespace c = false := by
  have hdelim : isWhitespace item.delim = false := by
    rcases h.delim with hd | hd <;> rw [hd] <;> rfl
  have hname := (names_free _ h.name).2.2.2
  have hvalue : ∀ c ∈ item.value, isWhitespace c = false := by
    intro c hc
    rcases h.value c hc with hplain | rfl
    · exact hplain.1
    · rfl
  simp only [Item.text, List.cons_append, List.forall_mem_cons, List.forall_mem_append]
  exact ⟨hdelim, hname, rfl, hvalue⟩

theorem Tracked.no_blank (e : Tracked) : ∀ c ∈ e.text.toList, isWhitespace c = false := by
  rw [e.toList_text, List.forall_mem_append]
  refine ⟨fun c hc => (e.protocol.plain c hc).1, ?_⟩
  intro c hc
  obtain ⟨item, hitem, hc⟩ := List.mem_flatMap.mp hc
  exact (e.sound item hitem).no_blank c hc

theorem Tracked.text_ne_nil (e : Tracked) : e.text.toList ≠ [] := by
  rw [e.toList_text]
  exact List.append_ne_nil_of_left_ne_nil e.protocol.ne_nil _

/-- A line has no newline. -/
theorem Line.no_newline (line : Line) : '\n' ∉ line.text := by
  cases line with
  | blank blanks => exact fun hmem => (blanks.blank _ hmem).2 rfl
  | entry before e behind =>
    have hentry : '\n' ∉ e.text.toList := by
      intro hmem
      have hblank := e.no_blank _ hmem
      revert hblank
      decide
    simp only [Line.text, List.mem_append, not_or]
    exact ⟨⟨fun hmem => (before.blank _ hmem).2 rfl, hentry⟩,
      fun hmem => (behind.blank _ hmem).2 rfl⟩

theorem trim_blank (blanks : Blanks) : trim (Line.blank blanks).text = [] :=
  trim_blanks fun c hc => (blanks.blank c hc).1

theorem trim_entry (before : Blanks) (e : Tracked) (behind : Blanks) :
    trim (Line.entry before e behind).text = e.text.toList := by
  rw [Line.text, trim_append_blanks fun c hc => (behind.blank c hc).1,
    trim_blanks_append fun c hc => (before.blank c hc).1, trim_of_no_blank e.no_blank]

/-- The lines of an output are parsed one by one. -/
theorem map_parseOneEntry (output : List Line) :
    (((output.map Line.text).map trim).filter (· ≠ [])).map parseOneEntry =
      output.filterMap Line.entry? := by
  induction output with
  | nil => rfl
  | cons line output ih =>
    cases line with
    | blank blanks =>
      rw [List.map_cons, List.map_cons, trim_blank, List.filterMap_cons_none rfl]
      exact ih
    | entry before e behind =>
      have hfilter : ∀ rest : List (List Char),
          (e.text.toList :: rest).filter (· ≠ []) = e.text.toList :: rest.filter (· ≠ []) :=
        fun rest => List.filter_cons_of_pos (by simpa using e.text_ne_nil)
      rw [List.map_cons, List.map_cons, trim_entry, hfilter, List.map_cons, parseOneEntry_text, ih]
      rfl

/-- **Every line with an entry gives that entry, in order, and blank lines give none.**  The lines
    are those of `dpctl/dump-conntrack`, with any of their optional parts, and of the two directions
    of a connection the first is taken. -/
theorem parseConntrackEntries_outputText (output : List Line) :
    parseConntrackEntries (outputText output) = output.filterMap Line.entry? := by
  rw [parseConntrackEntries, outputText, String.toList_ofList, trimmed_lines]
  by_cases hnil : output = []
  case pos =>
    subst hnil
    rfl
  case neg =>
    have hnewline : ∀ text ∈ output.map Line.text, '\n' ∉ text := by
      intro text htext
      obtain ⟨line, -, rfl⟩ := List.mem_map.mp htext
      exact line.no_newline
    have hsplit := List.splitOn_intercalate '\n' hnewline (by simpa using hnil)
    rw [hsplit]
    exact map_parseOneEntry output

/-- A tuple with IPv6 addresses, one with IPv4 addresses and an id, and a mark. -/
example :
    let tcp := Tuple.mk (.ipv6 0x20010db8000000000000000000000001)
      (.ipv6 0x20010db8000000000000000000000002) (.ports 54321 80)
    let icmp := Tuple.mk (.ipv4 0x0a000001) (.ipv4 0x0a000002) (.icmp 1234 (some (8, 0)))
    tcp.text = "src=2001:db8::1,dst=2001:db8::2,sport=54321,dport=80" ∧
      icmp.text = "src=10.0.0.1,dst=10.0.0.2,id=1234,type=8,code=0" ∧
      (Mark.hexadecimal (.printed 255)).text = "0xff" := by
  decide +kernel

end Rovs.Ext.Conntrack

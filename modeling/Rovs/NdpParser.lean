import Rovs.Ndp

/-!
# The parser of Neighbor Solicitations

The parser looks at the length of a frame, at four words of it, and at the options
behind the target, up to the end of the frame.  An option is read when it is whole
and its length is not zero; the loop is left at the first that is not, with the
address that it has found.
-/

namespace Rovs.OpenFlow.Ndp

open Outcome

/-! ### The words of a packet -/

def packetDstMac (packet : Bytes) : MacAddr := wordAt 48 packet 0
def packetEthertype (packet : Bytes) : U16 := wordAt 16 packet 12
def packetVersion (packet : Bytes) : U8 := (wordAt 8 packet 14 >>> 4) &&& 0x0f
def packetPayloadLen (packet : Bytes) : U16 := wordAt 16 packet 18
def packetNextHeader (packet : Bytes) : U8 := wordAt 8 packet 20
def packetHopLimit (packet : Bytes) : U8 := wordAt 8 packet 21
def packetSrcAddr (packet : Bytes) : Ipv6Addr := wordAt 128 packet 22
def packetDstAddr (packet : Bytes) : Ipv6Addr := wordAt 128 packet 38
def packetType (packet : Bytes) : U8 := wordAt 8 packet 54
def packetCode (packet : Bytes) : U8 := wordAt 8 packet 55
def packetTarget (packet : Bytes) : Ipv6Addr := wordAt 128 packet 62

/-- The bytes behind the Ethernet and the IPv6 header. -/
def packetMessage (packet : Bytes) : Bytes := packet.drop 54

/-! ### What the parser accepts -/

/-- The frame starts with an Ethernet and an IPv6 header in front of an ICMPv6 message. -/
structure Icmpv6Headers (frame : Bytes) : Prop where
  length : 54 ≤ frame.length
  ethertype : packetEthertype frame = ethertypeIpv6
  version : packetVersion frame = 6
  nextHeader : packetNextHeader frame = ipprotoIcmpv6

/-- Behind the headers there is room for a solicitation, and its type. -/
structure Accepted (frame : Bytes) : Prop where
  headers : Icmpv6Headers frame
  room : 78 ≤ frame.length
  type : packetType frame = icmpv6NeighborSolicitation

/-! ### The option loop -/

/-- The length of the option at the head of the data. -/
def optionLength (data : Bytes) : Nat := (wordAt 8 data 1).toNat * 8

/-- The option that gives the address of the sender. -/
def sourceLlOption (mac : MacAddr) : Bytes :=
  be ndpOptSourceLlAddr ++ (be (1 : U8) ++ be mac)

/-- The data starts with a whole option, with a length that is not zero. -/
def StartsOption (data : Bytes) : Prop :=
  2 ≤ data.length ∧ 0 < optionLength data ∧ optionLength data ≤ data.length

instance (data : Bytes) : Decidable (StartsOption data) := inferInstanceAs (Decidable (_ ∧ _ ∧ _))

/-- A row of whole options. -/
inductive WholeOptions : Bytes → Prop
  | nil : WholeOptions []
  | cons {data : Bytes} (hstart : StartsOption data)
      (htail : WholeOptions (data.drop (optionLength data))) : WholeOptions data

/-- The address found after an option. -/
def addressAfter (sourceLlAddr : Option MacAddr) (data : Bytes) : Option MacAddr :=
  if wordAt 8 data 0 = ndpOptSourceLlAddr then some (wordAt 48 data 2) else sourceLlAddr

section Pass

variable (sourceLlAddr : Option MacAddr) {data : Bytes}

/-- A pass where there is room for the head of an option. -/
theorem optionsPass_head (hhead : 2 ≤ data.length) : optionsPass (sourceLlAddr, data) =
    if optionLength data = 0 then .ok (.leave sourceLlAddr)
    else if optionLength data > data.length then .ok (.leave sourceLlAddr)
    else if wordAt 8 data 0 = ndpOptSourceLlAddr ∧ 8 ≤ optionLength data then do
      let mac ← beAt 48 data 2
      pure (.again (some mac, data.drop (optionLength data)))
    else .ok (.again (sourceLlAddr, data.drop (optionLength data))) := by
  have htype : 0 + 8 / 8 ≤ data.length := by omega
  have hunits : 1 + 8 / 8 ≤ data.length := by omega
  show (if 2 ≤ data.length then _ else _) = _
  rw [if_pos hhead, beAt_eq_ok htype, ok_bind, beAt_eq_ok hunits, ok_bind]
  rfl

/-- A whole option is read. -/
theorem optionsPass_again (hstart : StartsOption data) : optionsPass (sourceLlAddr, data) =
    .ok (.again (addressAfter sourceLlAddr data, data.drop (optionLength data))) := by
  obtain ⟨hhead, hpos, hlen⟩ := hstart
  have hmultiple : 8 ≤ optionLength data := by
    unfold optionLength at hpos ⊢
    omega
  have hmac : 2 + 48 / 8 ≤ data.length := by omega
  rw [optionsPass_head sourceLlAddr hhead, if_neg (Nat.pos_iff_ne_zero.mp hpos),
    if_neg (Nat.not_lt.mpr hlen)]
  by_cases hsource : wordAt 8 data 0 = ndpOptSourceLlAddr
  case pos =>
    rw [if_pos ⟨hsource, hmultiple⟩, beAt_eq_ok hmac, addressAfter, if_pos hsource]
    rfl
  case neg => rw [if_neg fun h => hsource h.1, addressAfter, if_neg hsource]

/-- Without one the loop is left. -/
theorem optionsPass_leave (hstart : ¬ StartsOption data) :
    optionsPass (sourceLlAddr, data) = .ok (.leave sourceLlAddr) := by
  by_cases hhead : 2 ≤ data.length
  case pos =>
    rw [optionsPass_head sourceLlAddr hhead]
    by_cases hzero : optionLength data = 0
    case pos => rw [if_pos hzero]
    case neg =>
      have hlong : optionLength data > data.length := by
        by_contra hfits
        exact hstart ⟨hhead, Nat.pos_of_ne_zero hzero, Nat.not_lt.mp hfits⟩
      rw [if_neg hzero, if_pos hlong]
  case neg => exact if_neg hhead

theorem optionsPass_ok (s : Option MacAddr × Bytes) : ∃ pass, optionsPass s = .ok pass := by
  by_cases hstart : StartsOption s.2
  case pos => exact ⟨_, optionsPass_again s.1 hstart⟩
  case neg => exact ⟨_, optionsPass_leave s.1 hstart⟩

end Pass

theorem optionsPass_decreases : Decreases optionsPass fun s => s.2.length := by
  rintro ⟨sourceLlAddr, data⟩ s' hpass
  by_cases hstart : StartsOption data
  case pos =>
    rw [optionsPass_again sourceLlAddr hstart] at hpass
    cases hpass
    obtain ⟨hhead, hpos, -⟩ := hstart
    show (data.drop (optionLength data)).length < data.length
    rw [List.length_drop]
    omega
  case neg =>
    rw [optionsPass_leave sourceLlAddr hstart] at hpass
    cases hpass

/-- The option loop always ends, with the address it has found. -/
theorem parseOptions_ok (sourceLlAddr : Option MacAddr) (data : Bytes) :
    ∃ found, parseOptions sourceLlAddr data = .ok found :=
  loop_total optionsPass_decreases optionsPass_ok (Nat.lt_succ_self data.length)

/-- Whole options are read before what stands behind them. -/
theorem parseOptions_append {data : Bytes} (h : WholeOptions data) (more : Bytes)
    (sourceLlAddr : Option MacAddr) :
    ∃ found, parseOptions sourceLlAddr (data ++ more) = parseOptions found more := by
  induction h generalizing sourceLlAddr with
  | nil => exact ⟨sourceLlAddr, rfl⟩
  | @cons data hstart _ ih =>
    obtain ⟨hhead, hpos, hlen⟩ := hstart
    have hlength : optionLength (data ++ more) = optionLength data := by
      rw [optionLength, wordAt_append_left (by omega), optionLength]
    have hstart : StartsOption (data ++ more) := by
      unfold StartsOption
      rw [hlength, List.length_append]
      omega
    have hpass := optionsPass_again sourceLlAddr hstart
    rw [hlength, List.drop_append_of_le_length hlen] at hpass
    obtain ⟨found, hfound⟩ := ih (addressAfter sourceLlAddr (data ++ more))
    refine ⟨found, ?_⟩
    rw [← hfound]
    exact loop_step optionsPass_decreases hpass

/-- A last option with the address of the sender decides what is found. -/
theorem parseOptions_source (sourceLlAddr : Option MacAddr) (mac : MacAddr) :
    parseOptions sourceLlAddr (sourceLlOption mac) = .ok (some mac) := by
  have hlen : (sourceLlOption mac).length = 8 := by simp [sourceLlOption]
  have hunits : optionLength (sourceLlOption mac) = 8 := by
    simp [optionLength, sourceLlOption, wordAt_append_right]
  have hstart : StartsOption (sourceLlOption mac) := by
    unfold StartsOption
    omega
  have hfound : addressAfter sourceLlAddr (sourceLlOption mac) = some mac := by
    have hmac : wordAt 48 (be mac) 0 = mac := by
      simpa using wordAt_be_append mac [] rfl
    simp [addressAfter, sourceLlOption, wordAt_append_right, ndpOptSourceLlAddr, hmac]
  have hpass := optionsPass_again sourceLlAddr hstart
  rw [hfound, hunits, List.drop_eq_nil_of_le (by omega)] at hpass
  rw [parseOptions, hlen, loop_again hpass, loop_leave (optionsPass_leave (some mac) (by decide))]

/-! ### The parser -/

theorem EthernetFrame.parse_long {data : Bytes} (h : ethHeaderLen ≤ data.length) :
    ∃ eth, EthernetFrame.parse data = .ok eth ∧ eth.payloadOffset = 14 ∧
      eth.ethertype = packetEthertype data := by
  have hlength : 14 ≤ data.length := h
  rw [EthernetFrame.parse, if_neg (Nat.not_lt.mpr h), beAt_eq_ok (by omega), ok_bind,
    beAt_eq_ok (by omega), ok_bind, beAt_eq_ok (by omega), ok_bind]
  exact ⟨_, rfl, rfl, rfl⟩

theorem Ipv6Header.parse_version {data : Bytes} (h : ipv6HeaderLen ≤ data.length)
    (hversion : (wordAt 8 data 0 >>> 4) &&& 0x0f ≠ 6) : Ipv6Header.parse data = .err () := by
  have hlength : 40 ≤ data.length := h
  rw [Ipv6Header.parse, if_neg (Nat.not_lt.mpr h), beAt_eq_ok (by omega), ok_bind]
  exact if_pos hversion

theorem Ipv6Header.parse_long {data : Bytes} (h : ipv6HeaderLen ≤ data.length)
    (hversion : (wordAt 8 data 0 >>> 4) &&& 0x0f = 6) :
    ∃ header, Ipv6Header.parse data = .ok header ∧ header.nextHeader = wordAt 8 data 6 := by
  have hlength : 40 ≤ data.length := h
  have hread : ∀ {w off : Nat}, off + w / 8 ≤ 40 →
      beAt (E := Unit) w data off = .ok (wordAt w data off) := fun hoff =>
    beAt_eq_ok (Nat.le_trans hoff hlength)
  rw [Ipv6Header.parse, if_neg (Nat.not_lt.mpr h), hread (by decide), ok_bind]
  show ∃ header, (if _ ≠ _ then _ else _) = _ ∧ _
  rw [if_neg (not_not.mpr hversion), hread (by decide), ok_bind, hread (by decide), ok_bind,
    hread (by decide), ok_bind]
  simp only [hread (show 4 + 16 / 8 ≤ 40 by decide), hread (show 6 + 8 / 8 ≤ 40 by decide),
    hread (show 7 + 8 / 8 ≤ 40 by decide), hread (show 8 + 128 / 8 ≤ 40 by decide),
    hread (show 24 + 128 / 8 ≤ 40 by decide), ok_bind, pure_eq]
  exact ⟨_, rfl, rfl⟩

theorem NeighborSolicitation.parse_typed {data : Bytes} (h : 24 ≤ data.length)
    (htype : wordAt 8 data 0 = icmpv6NeighborSolicitation) :
    ∃ found, parseOptions none (data.drop 24) = .ok found ∧
      NeighborSolicitation.parse data = .ok ⟨wordAt 128 data 8, found⟩ := by
  obtain ⟨found, hfound⟩ := parseOptions_ok none (data.drop 24)
  have hshort : ¬ data.length < icmpv6HeaderLen + ndBodyLen := Nat.not_lt.mpr h
  refine ⟨found, hfound, ?_⟩
  rw [NeighborSolicitation.parse, if_neg hshort, beAt_eq_ok (by omega), ok_bind,
    if_neg (not_not.mpr htype), beAt_eq_ok (by omega), ok_bind, hfound, ok_bind]
  rfl

theorem NeighborSolicitation.parse_untyped {data : Bytes}
    (h : ¬ (24 ≤ data.length ∧ wordAt 8 data 0 = icmpv6NeighborSolicitation)) :
    NeighborSolicitation.parse data = .err () := by
  by_cases hlength : 24 ≤ data.length
  case pos =>
    have hlong : ¬ data.length < icmpv6HeaderLen + ndBodyLen := Nat.not_lt.mpr hlength
    rw [NeighborSolicitation.parse, if_neg hlong, beAt_eq_ok (by omega), ok_bind,
      if_pos fun htype => h ⟨hlength, htype⟩]
  case neg => exact if_pos (Nat.not_le.mp hlength)

/-- Behind an Ethernet header of the right type the IPv6 header is parsed. -/
theorem parseNeighborSolicitation_ethertype {frame : Bytes} (h : ethHeaderLen ≤ frame.length)
    (hethertype : packetEthertype frame = ethertypeIpv6) :
    ∃ eth, parseNeighborSolicitation frame =
      (Ipv6Header.parse (frame.drop 14) >>= fun ipv6 =>
        if ipv6.nextHeader ≠ ipprotoIcmpv6 then .err ()
        else sliceFrom frame 54 >>= fun message =>
          NeighborSolicitation.parse message >>= fun ns => pure (eth, ipv6, ns)) := by
  obtain ⟨eth, heth, hoffset, htype⟩ := EthernetFrame.parse_long h
  have hpacket : sliceFrom (E := Unit) frame 14 = .ok (frame.drop 14) := sliceFrom_eq h
  refine ⟨eth, ?_⟩
  rw [parseNeighborSolicitation, heth, ok_bind, htype, if_neg (not_not.mpr hethertype), hoffset,
    hpacket, ok_bind]
  rfl

theorem length_drop_headers {frame : Bytes} :
    ipv6HeaderLen ≤ (frame.drop 14).length ↔ 54 ≤ frame.length := by
  rw [List.length_drop, ipv6HeaderLen]
  omega

/-- Behind both headers the message decides. -/
theorem parseNeighborSolicitation_headers {frame : Bytes} (h : Icmpv6Headers frame) :
    ∃ eth ipv6, parseNeighborSolicitation frame =
      (NeighborSolicitation.parse (frame.drop 54) >>= fun ns => pure (eth, ipv6, ns)) := by
  obtain ⟨hlength, hethertype, hversion, hnext⟩ := h
  obtain ⟨eth, hparse⟩ :=
    parseNeighborSolicitation_ethertype (Nat.le_trans (by decide) hlength) hethertype
  obtain ⟨ipv6, hipv6, hipv6Next⟩ := Ipv6Header.parse_long (length_drop_headers.mpr hlength)
    (by rw [wordAt_drop]; exact hversion)
  rw [wordAt_drop] at hipv6Next
  refine ⟨eth, ipv6, ?_⟩
  rw [hparse, hipv6, ok_bind, if_neg (not_not.mpr (hipv6Next.trans hnext)), sliceFrom_eq hlength,
    ok_bind]

theorem parseNeighborSolicitation_noHeaders {frame : Bytes} (h : ¬ Icmpv6Headers frame) :
    parseNeighborSolicitation frame = .err () := by
  by_cases heth : ethHeaderLen ≤ frame.length
  case neg =>
    have hshort : EthernetFrame.parse frame = .err () := if_pos (Nat.not_le.mp heth)
    rw [parseNeighborSolicitation, hshort, err_bind]
  by_cases hethertype : packetEthertype frame = ethertypeIpv6
  case neg =>
    obtain ⟨eth, hparse, -, htype⟩ := EthernetFrame.parse_long heth
    rw [parseNeighborSolicitation, hparse, ok_bind, htype, if_pos hethertype]
  obtain ⟨eth, hparse⟩ := parseNeighborSolicitation_ethertype heth hethertype
  by_cases hlength : ipv6HeaderLen ≤ (frame.drop 14).length
  case neg =>
    have hshort : Ipv6Header.parse (frame.drop 14) = .err () := if_pos (Nat.not_le.mp hlength)
    rw [hparse, hshort, err_bind]
  by_cases hversion : packetVersion frame = 6
  case neg =>
    rw [hparse, Ipv6Header.parse_version hlength (by rw [wordAt_drop]; exact hversion), err_bind]
  obtain ⟨ipv6, hipv6, hipv6Next⟩ := Ipv6Header.parse_long hlength
    (by rw [wordAt_drop]; exact hversion)
  rw [wordAt_drop] at hipv6Next
  rw [hparse, hipv6, ok_bind, if_pos]
  exact fun hnext =>
    h ⟨length_drop_headers.mp hlength, hethertype, hversion, hipv6Next.symm.trans hnext⟩

/-- An accepted frame is parsed, with the address that the bytes behind its target give. -/
theorem parseNeighborSolicitation_accepted {frame : Bytes} (h : Accepted frame) :
    ∃ eth ipv6 found, parseOptions none (frame.drop 78) = .ok found ∧
      parseNeighborSolicitation frame = .ok (eth, ipv6, ⟨packetTarget frame, found⟩) := by
  have hmessage : 24 ≤ (frame.drop 54).length := by
    rw [List.length_drop]
    exact Nat.le_sub_of_add_le h.room
  have htype : wordAt 8 (frame.drop 54) 0 = icmpv6NeighborSolicitation := by
    rw [wordAt_drop]
    exact h.type
  obtain ⟨eth, ipv6, hheaders⟩ := parseNeighborSolicitation_headers h.headers
  obtain ⟨found, hfound, hns⟩ := NeighborSolicitation.parse_typed hmessage htype
  rw [List.drop_drop] at hfound
  rw [wordAt_drop] at hns
  refine ⟨eth, ipv6, found, hfound, ?_⟩
  rw [hheaders, hns]
  rfl

/-- Every other frame is refused. -/
theorem parseNeighborSolicitation_refused {frame : Bytes} (h : ¬ Accepted frame) :
    parseNeighborSolicitation frame = .err () := by
  by_cases hheaders : Icmpv6Headers frame
  case pos =>
    obtain ⟨eth, ipv6, hparse⟩ := parseNeighborSolicitation_headers hheaders
    rw [hparse, NeighborSolicitation.parse_untyped, err_bind]
    rintro ⟨hmessage, htype⟩
    rw [List.length_drop] at hmessage
    rw [wordAt_drop] at htype
    exact h ⟨hheaders, by omega, htype⟩
  case neg => exact parseNeighborSolicitation_noHeaders hheaders

end Rovs.OpenFlow.Ndp

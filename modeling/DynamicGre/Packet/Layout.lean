import DynamicGre.Packet.Build
import DynamicGre.Packet.Safety

/-!
Where the headers lie that the Project parser has read when it returns 0. They
follow each other without a gap; they end inside the captured bytes as soon as
the IP header does. The parser compares nothing with the lengths that the IP
header itself carries.
-/

namespace DynamicGre

open Bytes Packet

/-! ### Ranges of bytes -/

structure Span where
  off : Nat
  len : Nat
deriving DecidableEq

def Span.stop (span : Span) : Nat := span.off + span.len

/-- The spans follow each other without a gap, from `start` to `stop`. -/
def Consecutive (start : Nat) : List Span → Nat → Prop
  | [], stop => stop = start
  | span :: spans, stop => span.off = start ∧ Consecutive span.stop spans stop

section Spans

variable {start stop : Nat} {spans : List Span}

theorem Consecutive.start_le (h : Consecutive start spans stop) : start ≤ stop := by
  induction spans generalizing start with
  | nil => exact Nat.le_of_eq h.symm
  | cons first rest ih =>
      obtain ⟨hoff, hrest⟩ := h
      have hlater := ih hrest
      unfold Span.stop at hlater
      omega

theorem Consecutive.mem_bounds (h : Consecutive start spans stop) {span : Span}
    (hmem : span ∈ spans) : start ≤ span.off ∧ span.stop ≤ stop := by
  induction spans generalizing start with
  | nil => cases hmem
  | cons first rest ih =>
      obtain ⟨hoff, hrest⟩ := h
      rcases List.mem_cons.mp hmem with rfl | hmem
      · exact ⟨Nat.le_of_eq hoff.symm, hrest.start_le⟩
      · have hlater := ih hrest hmem
        have hlen : first.off ≤ first.stop := Nat.le_add_right _ _
        exact ⟨by omega, hlater.2⟩

theorem Consecutive.stop_unique {stop' : Nat} (h : Consecutive start spans stop)
    (h' : Consecutive start spans stop') : stop = stop' := by
  induction spans generalizing start with
  | nil => exact h.trans h'.symm
  | cons first rest ih => exact ih h.2 h'.2

/-- Consecutive spans do not overlap. -/
theorem Consecutive.pairwise (h : Consecutive start spans stop) :
    spans.Pairwise (fun a b => a.stop ≤ b.off) := by
  induction spans generalizing start with
  | nil => exact List.Pairwise.nil
  | cons first rest ih =>
      refine List.pairwise_cons.mpr ⟨?_, ih h.2⟩
      intro later hlater
      exact (h.2.mem_bounds hlater).1

end Spans

/-! ### The headers a run has read -/

/-- Where a header ends that a reader has returned. -/
def Event.headerEnd : Event → Option Nat
  | load _ => none
  | header after => some after.off

def headerEnds {α : Type} (run : Logged Event α) : List Nat := run.select Event.headerEnd

section Readers

variable {c : Cursor} (pkt : Packet)

@[simp] theorem headerEnds_touch (off len : Nat) :
    (Packet.touch off len).select Event.headerEnd = [] := by
  apply Logged.select_eq_nil
  rw [Packet.always_touch]
  intro i _ _
  rfl

@[simp] theorem headerEnds_load8 (i : Nat) : (pkt.load8 i).select Event.headerEnd = [] := by
  simp [Packet.load8]

@[simp] theorem headerEnds_load16 (i : Nat) : (pkt.load16 i).select Event.headerEnd = [] := by
  simp [Packet.load16]

@[simp] theorem headerEnds_load32 (i : Nat) : (pkt.load32 i).select Event.headerEnd = [] := by
  simp [Packet.load32]

@[simp] theorem headerEnds_showEthhdr (h : Nat) :
    (showEthhdr h).select Event.headerEnd = [] := by
  simp [showEthhdr]

@[simp] theorem headerEnds_showIphdr (h : Nat) :
    (showIphdr h).select Event.headerEnd = [] := by
  simp [showIphdr]

theorem headerEnds_takeHeader (len : Nat) :
    (takeHeader c len).select Event.headerEnd = [c.off + len] := rfl

theorem headerEnds_readEthhdr (h : ¬c.buflen < sizeofEtherHeader) :
    (readEthhdr c).select Event.headerEnd = [c.off + sizeofEtherHeader] := by
  rw [readEthhdr, if_neg h, headerEnds_takeHeader]

theorem headerEnds_readUdphdr (h : ¬c.buflen < sizeofUdphdr) :
    (readUdphdr c).select Event.headerEnd = [c.off + sizeofUdphdr] := by
  rw [readUdphdr, if_neg h, headerEnds_takeHeader]

theorem headerEnds_readIphdr (h : ¬c.buflen < sizeofIphdr) :
    (readIphdr pkt c).select Event.headerEnd = [c.off + pkt.ihl c.off * 4] := by
  rw [readIphdr, if_neg h, Logged.select_bind, headerEnds_load8, headerEnds_takeHeader,
    Packet.val_load8]
  rfl

theorem headerEnds_readGrehdr (h : ¬c.buflen < grehdrLen (pkt.byte c.off)) :
    (readGrehdr pkt c).select Event.headerEnd = [c.off + grehdrLen (pkt.byte c.off)] := by
  have hpos := grehdrLen_pos (pkt.byte c.off)
  have hfixed : ¬c.buflen < sizeofGrehdr := by omega
  rw [readGrehdr, if_neg hfixed, Logged.select_bind, headerEnds_load8, Packet.val_load8,
    if_neg h, headerEnds_takeHeader]
  rfl

end Readers

namespace Packet

variable {pkt : Packet}

theorem headerEnds_parseOuter (h : pkt.HasIp) :
    (parseOuter pkt).select Event.headerEnd = [outerIp, pkt.ipEnd] := by
  have hlen := h.1
  have htype : ntohs (pkt.u16 12) = ETHERTYPE_IP := h.2
  have hether := readEthhdr_start (le_trans (Nat.le_add_right _ _) hlen)
  have hstart : ¬pkt.start.buflen < sizeofEtherHeader := by
    change ¬pkt.pktlen < sizeofEtherHeader
    omega
  have hcursor : ¬pkt.etherCursor.buflen < sizeofIphdr := by
    change ¬pkt.pktlen - sizeofEtherHeader < sizeofIphdr
    omega
  simp [parseOuter, hexdumpLoads, hether, htype, h.readIphdr,
    headerEnds_readEthhdr hstart, headerEnds_readIphdr pkt hcursor]
  exact ⟨Nat.zero_add _, rfl⟩

/-- The outer IP header, the UDP header where there is one, the GRE header with
its options and the inner Ethernet header. -/
def headers (pkt : Packet) : List Span :=
  ⟨outerIp, pkt.ihl outerIp * 4⟩ ::
    ((if pkt.protocol outerIp = IPPROTO_UDP then [⟨pkt.ipEnd, sizeofUdphdr⟩] else []) ++
      [⟨pkt.greOff, pkt.greLen⟩, ⟨pkt.innerEth, sizeofEtherHeader⟩])

theorem consecutive_headers : Consecutive outerIp pkt.headers pkt.innerIp := by
  have hoff : pkt.greOff = pkt.ipEnd + pkt.udpLen := rfl
  unfold headers
  unfold udpLen at hoff
  by_cases hudp : pkt.protocol outerIp = IPPROTO_UDP
  · rw [if_pos hudp] at hoff ⊢
    exact ⟨rfl, rfl, hoff, rfl, rfl⟩
  · rw [if_neg hudp] at hoff ⊢
    exact ⟨rfl, hoff, rfl, rfl⟩

/-- `frag_off` without its flags. -/
def fragOffset (pkt : Packet) (iphdr : Nat) : Nat := (ntohs (pkt.u16 (iphdr + 6))).toNat % 8192

def totLen (pkt : Packet) (iphdr : Nat) : Nat := (ntohs (pkt.u16 (iphdr + 2))).toNat

/-- The outer IP header describes an unfragmented datagram that holds all the
headers. -/
def WellFormed (pkt : Packet) : Prop :=
  5 ≤ pkt.ihl outerIp ∧ pkt.fragOffset outerIp = 0 ∧
    ∃ stop, Consecutive outerIp pkt.headers stop ∧ stop ≤ pkt.pktlen ∧
      stop ≤ outerIp + pkt.totLen outerIp

theorem wellFormed_iff : pkt.WellFormed ↔
    5 ≤ pkt.ihl outerIp ∧ pkt.fragOffset outerIp = 0 ∧
      pkt.innerIp ≤ pkt.pktlen ∧ pkt.innerIp ≤ outerIp + pkt.totLen outerIp := by
  constructor
  · rintro ⟨hihl, hfrag, stop, hlayout, hlen⟩
    rw [consecutive_headers.stop_unique hlayout]
    exact ⟨hihl, hfrag, hlen⟩
  · rintro ⟨hihl, hfrag, hlen⟩
    exact ⟨hihl, hfrag, _, consecutive_headers, hlen⟩

instance (pkt : Packet) : Decidable pkt.WellFormed := decidable_of_iff _ wellFormed_iff.symm

end Packet

namespace Dygrefou

variable {pkt : Packet} {protocol : UInt8} {c : Cursor} {opt : GretapOpt}

theorem headerEnds_parseKey (grehdr : Nat) :
    (parseKey pkt grehdr opt).select Event.headerEnd = [] := by
  cases hkey : grehdrK (pkt.byte grehdr) <;> simp [parseKey, hkey]

theorem headerEnds_parseGre (opt : GretapOpt) (h : GreFits pkt protocol c) :
    [c.off + grehdrLen (pkt.byte c.off),
      c.off + grehdrLen (pkt.byte c.off) + sizeofEtherHeader] <+:
        (parseGre pkt protocol c opt).select Event.headerEnd := by
  obtain ⟨hproto, hlen, hgre⟩ := h
  have hgrehdr : ¬c.buflen < grehdrLen (pkt.byte c.off) := by omega
  have hleft := Cursor.advance_buflen (not_lt.mp hgrehdr)
  have hether : ¬(c.advance (grehdrLen (pkt.byte c.off))).buflen < sizeofEtherHeader := by omega
  simp [parseGre, hproto, val_readGrehdr, val_readEthhdr, hgrehdr, hgre, hether,
    headerEnds_parseKey, headerEnds_readGrehdr pkt hgrehdr, headerEnds_readEthhdr hether]

theorem headerEnds_parseUdp (hproto : pkt.protocol outerIp = IPPROTO_UDP) (hgre : pkt.HasGre) :
    [pkt.ipEnd + sizeofUdphdr, pkt.innerEth, pkt.innerIp] <+:
      (parseUdp pkt (pkt.protocol outerIp) pkt.ipCursor opt).select Event.headerEnd := by
  have hoff : pkt.greOff = pkt.ipEnd + sizeofUdphdr := by rw [greOff, udpLen, if_pos hproto]
  have hroom : ¬pkt.ipCursor.buflen < sizeofUdphdr := by
    have hlen := hgre.1
    rw [udpLen, if_pos hproto] at hlen
    change ¬pkt.room < sizeofUdphdr
    omega
  have hfits := (greFits_of_udp hproto hroom).mpr hgre
  have htail (opt : GretapOpt) := headerEnds_parseGre opt hfits
  rw [Cursor.advance_off] at htail
  change ∀ opt, [pkt.ipEnd + sizeofUdphdr + grehdrLen (pkt.byte (pkt.ipEnd + sizeofUdphdr)), _]
    <+: _ at htail
  rw [innerIp, innerEth, greLen, greFlags, hoff, hproto, parseUdp, if_pos rfl]
  simp only [Logged.select_bind, headerEnds_readUdphdr hroom, val_readUdphdr, if_neg hroom,
    headerEnds_load16, List.nil_append]
  exact List.cons_prefix_cons.mpr ⟨rfl, htail _⟩

theorem headerEnds_parseUdp_of_not_udp (hproto : pkt.protocol outerIp = IPPROTO_GRE)
    (hgre : pkt.HasGre) :
    [pkt.innerEth, pkt.innerIp] <+:
      (parseUdp pkt (pkt.protocol outerIp) pkt.ipCursor opt).select Event.headerEnd := by
  have hudp : pkt.protocol outerIp ≠ IPPROTO_UDP := by
    rw [hproto]
    decide
  have hoff : pkt.greOff = pkt.ipEnd := by rw [greOff, udpLen, if_neg hudp, Nat.add_zero]
  have hfits := (greFits_of_not_udp hudp).mpr ⟨Or.inl hproto, hgre⟩
  rw [innerIp, innerEth, greLen, greFlags, hoff, parseUdp, if_neg hudp]
  exact headerEnds_parseGre opt hfits

/-- An accepting run has read the headers of `Packet.headers`, in that order. -/
theorem headerEnds_parsePacket (h : Accepts pkt) :
    outerIp :: pkt.headers.map Span.stop <+: headerEnds (parsePacket pkt opt) := by
  obtain ⟨hip, hproto, hgre⟩ := h
  rw [headerEnds, parsePacket, Logged.select_bind, headerEnds_parseOuter hip, hip.parseOuter]
  simp only [Logged.select_bind, headerEnds_load32, headerEnds_load8, val_load8, List.nil_append]
  refine List.cons_prefix_cons.mpr ⟨rfl, List.cons_prefix_cons.mpr ⟨rfl, ?_⟩⟩
  rcases hproto with hproto | hproto
  · have hudp : pkt.protocol outerIp ≠ IPPROTO_UDP := by
      rw [hproto]
      decide
    rw [if_neg hudp]
    exact headerEnds_parseUdp_of_not_udp hproto hgre
  · rw [if_pos hproto]
    exact headerEnds_parseUdp hproto hgre

/-- What holds of every frame that is accepted: its headers were read one
behind the other, and when the IP header ends inside the captured bytes so does
the last of them. -/
theorem parsePacket_headers (pkt : Packet) (opt : GretapOpt)
    (hret : (parsePacket pkt opt).val.1 = 0) (hfits : pkt.ipEnd ≤ pkt.pktlen) :
    outerIp :: pkt.headers.map Span.stop <+: headerEnds (parsePacket pkt opt) ∧
      pkt.headers.Pairwise (fun a b => a.stop ≤ b.off) ∧
      ∃ stop, Consecutive outerIp pkt.headers stop ∧ stop ≤ pkt.pktlen := by
  have haccepts := (parsePacket_eq_zero_iff opt).mp hret
  have hlayout := pkt.consecutive_headers
  refine ⟨headerEnds_parsePacket haccepts, hlayout.pairwise, pkt.innerIp, hlayout, ?_⟩
  obtain ⟨hip, -, hlen, -⟩ := haccepts
  have hcursor : pkt.ipEnd + pkt.room = pkt.pktlen := exact_ipCursor hip hfits
  have hend : pkt.innerIp = pkt.ipEnd + pkt.udpLen + pkt.greLen + sizeofEtherHeader := rfl
  omega

theorem parsePacket_headers_keyed :
    outerIp :: GreFrame.keyedPacket.headers.map Span.stop <+:
        headerEnds (parsePacket GreFrame.keyedPacket GretapOpt.zeroed) ∧
      GreFrame.keyedPacket.headers.Pairwise (fun a b => a.stop ≤ b.off) ∧
      ∃ stop, Consecutive outerIp GreFrame.keyedPacket.headers stop ∧
        stop ≤ GreFrame.keyedPacket.pktlen :=
  parsePacket_headers GreFrame.keyedPacket GretapOpt.zeroed
    ((parsePacket_eq_zero_iff _).mpr (by decide)) (by decide)

/-- With `ihl` 0 the GRE header is read from the bytes of the IP header. -/
def overlappingGre : Packet where
  bytes := [0, 0, 0, 0, 0, 0, 0, 0, 0, 0, 0, 0, 0x08, 0x00,
    0x40, 0x00, 0x65, 0x58, 0, 0, 0, 0, 64, IPPROTO_GRE, 0, 0, 192, 168, 2, 1, 192, 168, 2, 2]
  stale := fun _ => 0
  inbound := true
  fits := by decide

/-- A later fragment of a datagram whose own length covers its IP header
only. -/
def laterFragment : Packet where
  bytes := { GreFrame.keyedFrame with
    ip := { GreFrame.keyedFrame.ip with totLen := 0x1800, fragOff := 0x0100 } }.bytes
  stale := fun _ => 0
  inbound := true
  fits := by decide

theorem malformed_accepted :
    ((parsePacket overlappingGre GretapOpt.zeroed).val.1 = 0 ∧ overlappingGre.ihl outerIp = 0 ∧
      ¬overlappingGre.WellFormed) ∧
    ((parsePacket laterFragment GretapOpt.zeroed).val.1 = 0 ∧
      laterFragment.fragOffset outerIp = 1 ∧
      outerIp + laterFragment.totLen outerIp < laterFragment.innerIp ∧
      ¬laterFragment.WellFormed) := by
  have hihl : overlappingGre.ihl outerIp = 0 := by decide
  have hfrag : laterFragment.fragOffset outerIp = 1 := by decide
  refine ⟨⟨(parsePacket_eq_zero_iff _).mpr (by decide), hihl, ?_⟩,
    (parsePacket_eq_zero_iff _).mpr (by decide), hfrag, by decide, ?_⟩
  · rintro ⟨hlong, -⟩
    omega
  · rintro ⟨-, hwhole, -⟩
    omega

end Dygrefou

end DynamicGre

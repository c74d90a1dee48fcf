import DynamicGre.Packet.Captured
import DynamicGre.Packet.Extension

/-!
How far into a frame the parsers look. Two frames whose headers were captured
alike are taken for the same request, whatever follows the headers and whatever
memory lies behind the frames. For a frame that was cut in the middle of its outer
IP header that memory matters.
-/

namespace DynamicGre

open Bytes

namespace Packet

/-- As many of the first `n` bytes were captured in both frames, and they are the
same. -/
structure SameHead (n : Nat) (p q : Packet) : Prop where
  captured : min n p.pktlen = min n q.pktlen
  byte : ∀ i < min n p.pktlen, p.byte i = q.byte i

/-- The frame captured with a snapshot length of `n`. -/
def cut (n : Nat) (pkt : Packet) : Packet where
  bytes := pkt.bytes.take n
  stale := pkt.stale
  inbound := pkt.inbound
  fits := lt_of_le_of_lt (List.length_take_le' _ _) pkt.fits

variable {n : Nat} {p q pkt : Packet}

theorem sameHead_of_bytes (h : p.bytes = q.bytes) : SameHead n p q where
  captured := by rw [pktlen, h, pktlen]
  byte := by
    intro i hi
    have hp : i < p.pktlen := lt_of_lt_of_le hi (Nat.min_le_right _ _)
    have hq : i < q.pktlen := by rwa [pktlen, h] at hp
    apply Option.some.inj
    rw [← getElem?_bytes hp, ← getElem?_bytes hq, h]

theorem pktlen_cut : (pkt.cut n).pktlen = min n pkt.pktlen := List.length_take

theorem cut_of_le (h : pkt.pktlen ≤ n) : pkt.cut n = pkt := by
  have hbytes : pkt.bytes.take n = pkt.bytes := List.take_of_length_le h
  simp [cut, hbytes]

theorem sameHead_cut : SameHead n (pkt.cut n) pkt where
  captured := by simp [pktlen_cut]
  byte := by
    intro i hi
    rw [pktlen_cut] at hi
    have hcut : i < (pkt.cut n).pktlen := by
      rw [pktlen_cut]
      omega
    have htake : (pkt.cut n).bytes[i]? = pkt.bytes[i]? :=
      List.getElem?_take_of_lt (by omega)
    apply Option.some.inj
    rw [← getElem?_bytes hcut, htake, getElem?_bytes (by omega)]

theorem SameHead.mono {m : Nat} (h : SameHead n p q) (hm : m ≤ n) : SameHead m p q where
  captured := by
    have hcaptured := h.captured
    omega
  byte := fun i hi => h.byte i (by omega)

section Loads

variable (h : SameHead n p q)

include h

theorem SameHead.u16 {i : Nat} (hi : i + 2 ≤ min n p.pktlen) : p.u16 i = q.u16 i := by
  simp [Packet.u16, h.byte i (by omega), h.byte (i + 1) (by omega)]

theorem SameHead.u32 {i : Nat} (hi : i + 4 ≤ min n p.pktlen) : p.u32 i = q.u32 i := by
  simp [Packet.u32, h.byte i (by omega), h.byte (i + 1) (by omega),
    h.byte (i + 2) (by omega), h.byte (i + 3) (by omega)]

theorem SameHead.le_pktlen {m : Nat} (hm : m ≤ n) : m ≤ p.pktlen ↔ m ≤ q.pktlen := by
  have hcaptured := h.captured
  omega

theorem SameHead.hasIp (hn : sizeofEtherHeader + sizeofIphdr ≤ n) : p.HasIp ↔ q.HasIp := by
  unfold HasIp
  rw [← h.le_pktlen hn]
  apply and_congr_right
  intro hlen
  unfold sizeofEtherHeader sizeofIphdr at hn hlen
  have htype : p.u16 (0 + 12) = q.u16 (0 + 12) := h.u16 (by omega)
  rw [etherType, etherType, htype]

end Loads

/-- The outer headers lie alike and name the same hosts. -/
structure SameLayout (p q : Packet) : Prop where
  ipEnd : p.ipEnd = q.ipEnd
  protocol : p.protocol outerIp = q.protocol outerIp
  saddr : p.saddr outerIp = q.saddr outerIp
  daddr : p.daddr outerIp = q.daddr outerIp

theorem SameHead.layout (h : SameHead n p q) (hn : sizeofEtherHeader + sizeofIphdr ≤ n)
    (hip : p.HasIp) : SameLayout p q := by
  have hlen := hip.1
  unfold sizeofEtherHeader sizeofIphdr at hn hlen
  have hihl : p.ihl outerIp = q.ihl outerIp :=
    congrArg ihlBits (h.byte outerIp (by unfold outerIp sizeofEtherHeader; omega))
  exact {
    ipEnd := by rw [ipEnd, ipEnd, hihl]
    protocol := h.byte _ (by unfold outerIp sizeofEtherHeader; omega)
    saddr := h.u32 (by unfold outerIp sizeofEtherHeader; omega)
    daddr := h.u32 (by unfold outerIp sizeofEtherHeader; omega) }

theorem SameLayout.greOff (h : SameLayout p q) : p.greOff = q.greOff := by
  rw [Packet.greOff, Packet.greOff, h.ipEnd, udpLen, udpLen, h.protocol]

/-! ### The longest headers -/

theorem ipEnd_le : pkt.ipEnd ≤ 74 := by
  have hihl : pkt.ihl outerIp < 16 := ihlBits_lt _
  have hend : pkt.ipEnd = 14 + pkt.ihl outerIp * 4 := rfl
  omega

theorem udpLen_le : pkt.udpLen ≤ 8 := by
  unfold udpLen sizeofUdphdr
  split <;> omega

theorem optLen_le (present : Bool) : optLen present ≤ 4 := by
  cases present <;> decide

theorem greLen_le : pkt.greLen ≤ 16 := by
  have hc := optLen_le (grehdrC pkt.greFlags)
  have hk := optLen_le (grehdrK pkt.greFlags)
  have hs := optLen_le (grehdrS pkt.greFlags)
  unfold greLen grehdrLen sizeofGrehdr
  omega

/-- Nothing that `HasGre` looks at lies behind the first `n` bytes. -/
theorem SameHead.hasGre (h : SameHead n p q) (hlayout : SameLayout p q)
    (hfits : p.ipEnd ≤ p.pktlen) (hn : p.greOff + 30 ≤ n) : p.HasGre ↔ q.HasGre := by
  have hoff : p.greOff = p.ipEnd + p.udpLen := rfl
  have hoff' : q.greOff = q.ipEnd + q.udpLen := rfl
  have hsame := hlayout.greOff
  have hend := hlayout.ipEnd
  have hfits' : q.ipEnd ≤ q.pktlen := by
    rw [← hend]
    exact (h.le_pktlen (by omega)).mp hfits
  have hcaptured := h.captured
  unfold HasGre
  rw [room_of_le hfits, room_of_le hfits']
  cases Nat.lt_or_ge p.pktlen (p.greOff + sizeofGrehdr) with
  | inl hshort =>
      have hp : sizeofGrehdr ≤ p.greLen := grehdrLen_pos _
      have hq : sizeofGrehdr ≤ q.greLen := grehdrLen_pos _
      unfold sizeofGrehdr at hshort hp hq
      constructor <;> rintro ⟨hlen, -⟩ <;> omega
  | inr hlong =>
      unfold sizeofGrehdr at hlong
      have hgreLen : p.greLen = q.greLen := by
        rw [greLen, greLen, greFlags, greFlags, ← hsame, h.byte _ (by omega)]
      have hgreProtocol : p.greProtocol = q.greProtocol := by
        rw [greProtocol, greProtocol, ← hsame, h.u16 (by omega)]
      have hmax : p.greLen ≤ 16 := greLen_le
      rw [hgreProtocol]
      apply and_congr_left
      intro _
      unfold sizeofEtherHeader
      omega

end Packet

open Packet

variable {n : Nat} {p q pkt : Packet}

/-! ### The Project parser -/

namespace Dygrefou

/-- Ethernet, IP, UDP, GRE and inner Ethernet header at their longest. -/
def reach : Nat := 112

theorem greOff_le : pkt.greOff + 30 ≤ reach := by
  have hend : pkt.ipEnd ≤ 74 := ipEnd_le
  have hudp : pkt.udpLen ≤ 8 := udpLen_le
  unfold greOff reach
  omega

theorem accepts_congr (h : SameHead reach p q) (hfits : p.HasIp → p.ipEnd ≤ p.pktlen) :
    Accepts p ↔ Accepts q := by
  unfold Accepts
  rw [← h.hasIp (by decide)]
  apply and_congr_right
  intro hip
  have hlayout : SameLayout p q := h.layout (by decide) hip
  rw [hlayout.protocol, h.hasGre hlayout (hfits hip) greOff_le]

theorem reported_congr (h : SameHead reach p q) (hfits : p.ipEnd ≤ p.pktlen)
    (haccepts : Accepts p) (opt : GretapOpt) : reported p opt = reported q opt := by
  obtain ⟨hip, -, hlen, -⟩ := haccepts
  have hlayout : SameLayout p q := h.layout (by decide) hip
  have hroom : p.room = p.pktlen - p.ipEnd := room_of_le hfits
  have hoff : p.greOff = p.ipEnd + p.udpLen := rfl
  have hmin : sizeofGrehdr ≤ p.greLen := grehdrLen_pos _
  have hmax : p.greLen ≤ 16 := greLen_le
  have hend : p.greOff + 30 ≤ reach := greOff_le
  unfold sizeofEtherHeader at hlen
  unfold sizeofGrehdr at hmin
  have hflags : p.greFlags = q.greFlags := by
    rw [greFlags, greFlags, ← hlayout.greOff, h.byte _ (by omega)]
  have hkey (hk : grehdrK p.greFlags = true) : p.greKey = q.greKey := by
    have hopts : p.greLen = 4 + optLen (grehdrC p.greFlags) + 4 +
        optLen (grehdrS p.greFlags) := by
      rw [greLen, grehdrLen, hk]
      rfl
    rw [greKey, greKey, ← hlayout.greOff, ← hflags, h.u32 (by unfold sizeofGrehdr; omega)]
  have hports (hudp : p.protocol outerIp = IPPROTO_UDP) :
      p.u16 p.ipEnd = q.u16 q.ipEnd ∧ p.u16 (p.ipEnd + 2) = q.u16 (q.ipEnd + 2) := by
    have hudpLen : p.udpLen = 8 := if_pos hudp
    rw [← hlayout.ipEnd]
    exact ⟨h.u16 (by omega), h.u16 (by omega)⟩
  unfold reported
  rw [← hlayout.saddr, ← hlayout.daddr, ← hlayout.protocol, ← hflags]
  by_cases hudp : p.protocol outerIp = IPPROTO_UDP <;>
    cases hk : grehdrK p.greFlags <;> simp [hudp, hk, hkey, hports]

end Dygrefou

/-! ### The Lab4 parser -/

namespace Dygre

/-- The same without a UDP header. -/
def reach : Nat := 104

theorem accepts_congr (h : SameHead reach p q) (hfits : p.HasIp → p.ipEnd ≤ p.pktlen) :
    Accepts p ↔ Accepts q := by
  unfold Accepts
  rw [← h.hasIp (by decide)]
  apply and_congr_right
  intro hip
  have hlayout : SameLayout p q := h.layout (by decide) hip
  rw [← hlayout.protocol]
  apply and_congr_right
  intro hgre
  have hudp : p.udpLen = 0 := if_neg (by rw [hgre]; decide)
  have hend : p.ipEnd ≤ 74 := ipEnd_le
  apply h.hasGre hlayout (hfits hip)
  unfold greOff reach
  omega

end Dygre

end DynamicGre

import DynamicGre.Packet.Accepted
import DynamicGre.PcapFilter

/-!
The capture filter and the parser look at the same bytes. A frame that the
filter took for a datagram to some port is read by the parser as one, and both
find the same ports and the same source address in it.
-/

namespace DynamicGre

open Bytes Pcap

namespace Packet

/-- The frame as the filter saw it. -/
def frame (pkt : Packet) : Frame := ⟨pkt.bytes, pkt.inbound⟩

variable {pkt : Packet}

theorem getElem?_bytes {i : Nat} (h : i < pkt.pktlen) : pkt.bytes[i]? = some (pkt.byte i) := by
  have hget := List.getElem?_eq_getElem (l := pkt.bytes) h
  rw [byte, List.getD_eq_getElem?_getD, hget]
  rfl

theorem lt_of_getElem?_bytes {i : Nat} {b : UInt8} (h : pkt.bytes[i]? = some b) :
    i < pkt.pktlen :=
  (List.getElem?_eq_some_iff.mp h).1

/-- A 16-bit field that was captured is what the parser converts to host
order. -/
theorem half_frame {i : Nat} (h : i + 2 ≤ pkt.pktlen) :
    pkt.frame.half i = some (ntohs (pkt.u16 i)) := by
  have h0 : pkt.frame.bytes[i]? = some (pkt.byte i) := getElem?_bytes (by omega)
  have h1 : pkt.frame.bytes[i + 1]? = some (pkt.byte (i + 1)) := getElem?_bytes (by omega)
  have hswap : ntohs (pkt.u16 i) = le16 (pkt.byte (i + 1)) (pkt.byte i) := swap16_le16 _ _
  rw [Frame.half, h0, h1, hswap]
  rfl

theorem lt_of_half_frame {i : Nat} {x : UInt16} (h : pkt.frame.half i = some x) :
    i + 2 ≤ pkt.pktlen := by
  unfold Frame.half at h
  obtain ⟨high, -, h⟩ := Option.bind_eq_some_iff.mp h
  obtain ⟨low, hlow, -⟩ := Option.bind_eq_some_iff.mp h
  exact lt_of_getElem?_bytes hlow

theorem word_frame {i : Nat} (h : i + 4 ≤ pkt.pktlen) : pkt.frame.word i = some (pkt.u32 i) := by
  have h0 : pkt.frame.bytes[i]? = some (pkt.byte i) := getElem?_bytes (by omega)
  have h1 : pkt.frame.bytes[i + 1]? = some (pkt.byte (i + 1)) := getElem?_bytes (by omega)
  have h2 : pkt.frame.bytes[i + 2]? = some (pkt.byte (i + 2)) := getElem?_bytes (by omega)
  have h3 : pkt.frame.bytes[i + 3]? = some (pkt.byte (i + 3)) := getElem?_bytes (by omega)
  rw [Frame.word, h0, h1, h2, h3]
  rfl

theorem HasIp.half_frame (h : pkt.HasIp) : pkt.frame.half 12 = some ETHERTYPE_IP := by
  obtain ⟨hlen, htype⟩ := h
  unfold sizeofEtherHeader sizeofIphdr at hlen
  rw [Packet.half_frame (by omega)]
  exact congrArg some htype

theorem HasIp.protocol_frame (h : pkt.HasIp) :
    pkt.frame.bytes[23]? = some (pkt.protocol outerIp) := by
  have hlen := h.1
  unfold sizeofEtherHeader sizeofIphdr at hlen
  exact getElem?_bytes (by omega)

theorem ipEnd_of_ip4End {udp : Nat} (h : pkt.frame.ip4End = some udp) : pkt.ipEnd = udp := by
  obtain ⟨b, hb, rfl⟩ := Option.map_eq_some_iff.mp h
  have hbyte := getElem?_bytes (lt_of_getElem?_bytes hb)
  have hsame : pkt.byte 14 = b := Option.some.inj (hbyte.symm.trans hb)
  rw [ipEnd, ihl, outerIp, sizeofEtherHeader, hsame, ihlBits, Nat.mul_comm]

/-- Both take the same frames for UDP. -/
theorem protocol_of_isUdp4 (h : pkt.frame.IsUdp4) : pkt.protocol outerIp = IPPROTO_UDP := by
  have hbyte := getElem?_bytes (lt_of_getElem?_bytes h.2.1)
  exact Option.some.inj (hbyte.symm.trans h.2.1)

/-- A frame with a destination port for the filter carries UDP over the IPv4
header that the parser reads, and its ports were captured. -/
theorem HasIp.udp_of_udpDest (h : pkt.HasIp) {port : UInt16}
    (hdest : pkt.frame.udpDest = some port) :
    pkt.frame.IsUdp4 ∧ pkt.ipEnd + 4 ≤ pkt.pktlen ∧
      ntohs (pkt.u16 (pkt.ipEnd + 2)) = port := by
  obtain ⟨hudp, udp, hend, -, hport⟩ := Frame.isUdp4_of_udpDest h.half_frame hdest
  rw [← ipEnd_of_ip4End hend] at hport
  have hlen := lt_of_half_frame hport
  rw [Packet.half_frame hlen] at hport
  exact ⟨hudp, hlen, Option.some.inj hport⟩

theorem HasIp.source_frame (h : pkt.HasIp) : pkt.frame.source = some (pkt.saddr outerIp) := by
  have hlen := h.1
  unfold sizeofEtherHeader sizeofIphdr at hlen
  have htype : pkt.frame.half 12 = some 0x0800 := h.half_frame
  rw [Frame.source, if_pos htype, word_frame (by omega)]
  rfl

/-- The endpoint the filter compares is the one the parser reports. -/
theorem HasIp.from_of_udpDest (h : pkt.HasIp) {port : UInt16}
    (hdest : pkt.frame.udpDest = some port) :
    pkt.frame.From (pkt.saddr outerIp) (ntohs (pkt.u16 pkt.ipEnd)) := by
  obtain ⟨-, udp, hend, hsource, -⟩ := Frame.isUdp4_of_udpDest h.half_frame hdest
  obtain ⟨-, hlen, -⟩ := h.udp_of_udpDest hdest
  refine ⟨h.source_frame, ?_⟩
  rw [hsource, ← ipEnd_of_ip4End hend, Packet.half_frame (by omega)]

end Packet

end DynamicGre

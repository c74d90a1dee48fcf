import DynamicGre.Packet.ParsePacket

/-!
Which frames the two parsers accept and what they report about them. The
layout of the outer headers is stated once, as functions of the captured
bytes, and both parsers are shown to compute it.
-/

namespace DynamicGre

open Bytes

/-! ### Where the headers lie -/

namespace Packet

/-- The outer IP header follows the Ethernet header. -/
def outerIp : Nat := sizeofEtherHeader

def etherType (pkt : Packet) (ethhdr : Nat) : UInt16 := ntohs (pkt.u16 (ethhdr + 12))

def ihl (pkt : Packet) (iphdr : Nat) : Nat := ihlBits (pkt.byte iphdr)

def protocol (pkt : Packet) (iphdr : Nat) : UInt8 := pkt.byte (iphdr + 9)

def saddr (pkt : Packet) (iphdr : Nat) : UInt32 := pkt.u32 (iphdr + 12)

def daddr (pkt : Packet) (iphdr : Nat) : UInt32 := pkt.u32 (iphdr + 16)

def ipEnd (pkt : Packet) : Nat := outerIp + pkt.ihl outerIp * 4

/-- `buflen` after the outer IP header was read. -/
def room (pkt : Packet) : Nat :=
  sizeSub (pkt.pktlen - sizeofEtherHeader) (pkt.ihl outerIp * 4)

def udpLen (pkt : Packet) : Nat :=
  if pkt.protocol outerIp = IPPROTO_UDP then sizeofUdphdr else 0

def greOff (pkt : Packet) : Nat := pkt.ipEnd + pkt.udpLen

def greFlags (pkt : Packet) : UInt8 := pkt.byte pkt.greOff

def greLen (pkt : Packet) : Nat := grehdrLen pkt.greFlags

def greProtocol (pkt : Packet) : UInt16 := ntohs (pkt.u16 (pkt.greOff + 2))

/-- The four bytes of the key option, as loaded. -/
def greKey (pkt : Packet) : UInt32 :=
  pkt.u32 (pkt.greOff + sizeofGrehdr + optLen (grehdrC pkt.greFlags))

def innerEth (pkt : Packet) : Nat := pkt.greOff + pkt.greLen

def innerIp (pkt : Packet) : Nat := pkt.innerEth + sizeofEtherHeader

/-- An IPv4 header is there as far as `read_iphdr` checks. -/
def HasIp (pkt : Packet) : Prop :=
  sizeofEtherHeader + sizeofIphdr ≤ pkt.pktlen ∧ pkt.etherType 0 = ETHERTYPE_IP

/-- Every later length check of the parsers passes. -/
def HasGre (pkt : Packet) : Prop :=
  pkt.udpLen + pkt.greLen + sizeofEtherHeader ≤ pkt.room ∧
    pkt.greProtocol = ETHERTYPE_ETHERNET

instance (pkt : Packet) : Decidable pkt.HasIp := inferInstanceAs (Decidable (_ ∧ _))

instance (pkt : Packet) : Decidable pkt.HasGre := inferInstanceAs (Decidable (_ ∧ _))

end Packet

/-- The frames for which Lab4's `parse_packet` returns 0. -/
def Dygre.Accepts (pkt : Packet) : Prop :=
  pkt.HasIp ∧ pkt.protocol Packet.outerIp = IPPROTO_GRE ∧ pkt.HasGre

/-- The frames for which the Project's `parse_packet` returns 0. -/
def Dygrefou.Accepts (pkt : Packet) : Prop :=
  pkt.HasIp ∧ (pkt.protocol Packet.outerIp = IPPROTO_GRE ∨
    pkt.protocol Packet.outerIp = IPPROTO_UDP) ∧ pkt.HasGre

instance (pkt : Packet) : Decidable (Dygre.Accepts pkt) :=
  inferInstanceAs (Decidable (_ ∧ _))

instance (pkt : Packet) : Decidable (Dygrefou.Accepts pkt) :=
  inferInstanceAs (Decidable (_ ∧ _))

/-- What the Project's `parse_packet` has stored in `*opt` when it returns 0. -/
def Dygrefou.reported (pkt : Packet) (opt : GretapOpt) : GretapOpt :=
  let udp := pkt.protocol Packet.outerIp = IPPROTO_UDP
  { opt with
    remote := pkt.saddr Packet.outerIp
    localAddr := pkt.daddr Packet.outerIp
    key := if grehdrK pkt.greFlags then ntohl pkt.greKey else opt.key
    encapType := if udp then TUNNEL_ENCAP_FOU else opt.encapType
    encapDport := if udp then ntohs (pkt.u16 pkt.ipEnd) else opt.encapDport
    encapSport := if udp then ntohs (pkt.u16 (pkt.ipEnd + 2)) else opt.encapSport }

/-! ### The cursors at the outer headers -/

namespace Packet

/-- `buf` and `buflen` once the outer Ethernet header was read. -/
def etherCursor (pkt : Packet) : Cursor := ⟨outerIp, pkt.pktlen - sizeofEtherHeader⟩

/-- `buf` and `buflen` once the outer IP header was read. -/
def ipCursor (pkt : Packet) : Cursor := ⟨pkt.ipEnd, pkt.room⟩

variable {pkt : Packet}

theorem readEthhdr_start (h : sizeofEtherHeader ≤ pkt.pktlen) :
    (readEthhdr pkt.start).val = some (0, pkt.etherCursor) := by
  have hlen : ¬pkt.start.buflen < sizeofEtherHeader := not_lt.mpr h
  have hbuflen : (pkt.start.advance sizeofEtherHeader).buflen = pkt.pktlen - sizeofEtherHeader :=
    Cursor.advance_buflen h
  have hoff : pkt.start.off + sizeofEtherHeader = outerIp := Nat.zero_add _
  rw [val_readEthhdr, if_neg hlen, etherCursor, ← hbuflen, ← hoff]
  rfl

theorem HasIp.readIphdr (h : pkt.HasIp) :
    (readIphdr pkt pkt.etherCursor).val = some (outerIp, pkt.ipCursor) := by
  have hlen : ¬pkt.etherCursor.buflen < sizeofIphdr := by
    have hip := h.1
    change ¬pkt.pktlen - sizeofEtherHeader < sizeofIphdr
    omega
  rw [val_readIphdr, if_neg hlen]
  rfl

theorem HasIp.parseOuter (h : pkt.HasIp) :
    (parseOuter pkt).val = some (outerIp, pkt.ipCursor) := by
  have hether := readEthhdr_start (le_trans (Nat.le_add_right _ _) h.1)
  have htype : ntohs (pkt.u16 12) = ETHERTYPE_IP := h.2
  simp [DynamicGre.parseOuter, hether, htype, h.readIphdr]

theorem parseOuter_of_not_hasIp (h : ¬pkt.HasIp) : (parseOuter pkt).val = none := by
  by_cases hether : pkt.pktlen < sizeofEtherHeader
  · have hshort : pkt.start.buflen < sizeofEtherHeader := hether
    simp [parseOuter, val_readEthhdr, hshort]
  have hread := readEthhdr_start (not_lt.mp hether)
  by_cases htype : ntohs (pkt.u16 12) = ETHERTYPE_IP
  · have hshort : pkt.etherCursor.buflen < sizeofIphdr := by
      change pkt.pktlen - sizeofEtherHeader < sizeofIphdr
      by_contra hlong
      exact h ⟨by omega, htype⟩
    simp [parseOuter, hread, htype, val_readIphdr, hshort]
  · simp [parseOuter, hread, htype]

end Packet

/-! ### The Project parser -/

namespace Dygrefou

/-- The options `parseKey` returns. -/
def keyed (pkt : Packet) (grehdr : Nat) (opt : GretapOpt) : GretapOpt :=
  let flags := pkt.byte grehdr
  if grehdrK flags then
    { opt with key := ntohl (pkt.u32 (grehdr + sizeofGrehdr + optLen (grehdrC flags))) }
  else opt

@[simp] theorem val_parseKey (pkt : Packet) (grehdr : Nat) (opt : GretapOpt) :
    (parseKey pkt grehdr opt).val = keyed pkt grehdr opt := by
  cases hc : grehdrC (pkt.byte grehdr) <;> cases hk : grehdrK (pkt.byte grehdr) <;>
    simp [parseKey, keyed, optLen, hc, hk]

/-- The tail of the parser accepts when the GRE header, its options and the
inner Ethernet header fit into what is left. -/
def GreFits (pkt : Packet) (protocol : UInt8) (c : Cursor) : Prop :=
  (protocol = IPPROTO_GRE ∨ protocol = IPPROTO_UDP) ∧
    grehdrLen (pkt.byte c.off) + sizeofEtherHeader ≤ c.buflen ∧
    ntohs (pkt.u16 (c.off + 2)) = ETHERTYPE_ETHERNET

theorem parseGre_of_fits {pkt : Packet} {protocol : UInt8} {c : Cursor}
    (opt : GretapOpt) (h : GreFits pkt protocol c) :
    (parseGre pkt protocol c opt).val = (0, keyed pkt c.off opt) := by
  obtain ⟨hproto, hlen, hgre⟩ := h
  have hgrehdr : ¬c.buflen < grehdrLen (pkt.byte c.off) := by omega
  have hleft := Cursor.advance_buflen (not_lt.mp hgrehdr)
  have hether : ¬(c.advance (grehdrLen (pkt.byte c.off))).buflen < sizeofEtherHeader := by omega
  simp [parseGre, val_readGrehdr, val_readEthhdr, hproto, hgrehdr, hgre, hether]

theorem parseGre_of_not_fits {pkt : Packet} {protocol : UInt8} {c : Cursor}
    (opt : GretapOpt) (h : ¬GreFits pkt protocol c) :
    (parseGre pkt protocol c opt).val.1 = -1 := by
  by_cases hproto : protocol = IPPROTO_GRE ∨ protocol = IPPROTO_UDP
  · by_cases hgrehdr : c.buflen < grehdrLen (pkt.byte c.off)
    · simp [parseGre, val_readGrehdr, hproto, hgrehdr]
    by_cases hgre : ntohs (pkt.u16 (c.off + 2)) = ETHERTYPE_ETHERNET
    · have hleft := Cursor.advance_buflen (not_lt.mp hgrehdr)
      have hether : (c.advance (grehdrLen (pkt.byte c.off))).buflen < sizeofEtherHeader := by
        by_contra hlong
        exact h ⟨hproto, by omega, hgre⟩
      simp [parseGre, val_readGrehdr, val_readEthhdr, hproto, hgrehdr, hgre, hether]
    · simp [parseGre, val_readGrehdr, hproto, hgrehdr, hgre]
  · simp [parseGre, hproto]

/-- From the GRE header on, at most the key is stored. -/
theorem parseGre_key (pkt : Packet) (protocol : UInt8) (c : Cursor) (opt : GretapOpt) :
    ∃ key, (parseGre pkt protocol c opt).val.2 = { opt with key := key } := by
  have hkeyed : ∃ key, keyed pkt c.off opt = { opt with key := key } := by
    unfold keyed
    dsimp only
    split
    · exact ⟨_, rfl⟩
    · exact ⟨opt.key, rfl⟩
  by_cases hproto : protocol = IPPROTO_GRE ∨ protocol = IPPROTO_UDP
  · by_cases hgrehdr : c.buflen < grehdrLen (pkt.byte c.off)
    · refine ⟨opt.key, ?_⟩
      simp [parseGre, val_readGrehdr, hproto, hgrehdr]
    · by_cases hgre : ntohs (pkt.u16 (c.off + 2)) = ETHERTYPE_ETHERNET
      · by_cases hether : (c.advance (grehdrLen (pkt.byte c.off))).buflen < sizeofEtherHeader <;>
          simpa [parseGre, val_readGrehdr, val_readEthhdr, hproto, hgrehdr, hgre, hether]
            using hkeyed
      · simpa [parseGre, val_readGrehdr, hproto, hgrehdr, hgre] using hkeyed
  · refine ⟨opt.key, ?_⟩
    simp [parseGre, hproto]

variable (opt : GretapOpt) {pkt : Packet}

theorem parsePacket_of_not_ip (h : ¬pkt.HasIp) : (parsePacket pkt opt).val = (-1, opt) := by
  simp [parsePacket, Packet.parseOuter_of_not_hasIp h]

/-- The addresses are stored as soon as there is an IP header. -/
def addressed (pkt : Packet) (opt : GretapOpt) : GretapOpt :=
  { opt with remote := pkt.saddr Packet.outerIp, localAddr := pkt.daddr Packet.outerIp }

/-- The encapsulation is stored as soon as there is a UDP header. -/
def encapsulated (pkt : Packet) (opt : GretapOpt) : GretapOpt :=
  { addressed pkt opt with
    encapType := TUNNEL_ENCAP_FOU
    encapDport := ntohs (pkt.u16 pkt.ipEnd)
    encapSport := ntohs (pkt.u16 (pkt.ipEnd + 2)) }

theorem parsePacket_of_not_udp (hip : pkt.HasIp)
    (hproto : pkt.protocol Packet.outerIp ≠ IPPROTO_UDP) :
    (parsePacket pkt opt).val =
      (parseGre pkt (pkt.protocol Packet.outerIp) pkt.ipCursor (addressed pkt opt)).val := by
  have hproto' : ¬pkt.byte (Packet.outerIp + 9) = IPPROTO_UDP := hproto
  simp [parsePacket, parseUdp, hip.parseOuter, hproto', addressed, Packet.protocol,
    Packet.saddr, Packet.daddr]

theorem parsePacket_of_udp (hip : pkt.HasIp)
    (hproto : pkt.protocol Packet.outerIp = IPPROTO_UDP) :
    (parsePacket pkt opt).val =
      if pkt.room < sizeofUdphdr then (-1, addressed pkt opt)
      else (parseGre pkt IPPROTO_UDP (pkt.ipCursor.advance sizeofUdphdr)
        (encapsulated pkt opt)).val := by
  have hproto' : pkt.byte (Packet.outerIp + 9) = IPPROTO_UDP := hproto
  by_cases hroom : pkt.room < sizeofUdphdr
  · have hread : pkt.ipCursor.buflen < sizeofUdphdr := hroom
    simp [parsePacket, parseUdp, hip.parseOuter, hproto', val_readUdphdr, hread, hroom,
      addressed, Packet.saddr, Packet.daddr]
  · have hread : ¬pkt.ipCursor.buflen < sizeofUdphdr := hroom
    simp [parsePacket, parseUdp, hip.parseOuter, hproto', val_readUdphdr, hroom,
      encapsulated, addressed, Packet.saddr, Packet.daddr, Packet.ipCursor]

theorem greFits_of_not_udp (hproto : pkt.protocol Packet.outerIp ≠ IPPROTO_UDP) :
    GreFits pkt (pkt.protocol Packet.outerIp) pkt.ipCursor ↔
      (pkt.protocol Packet.outerIp = IPPROTO_GRE ∨ pkt.protocol Packet.outerIp = IPPROTO_UDP) ∧
        pkt.HasGre := by
  have hudp : pkt.udpLen = 0 := if_neg hproto
  simp only [GreFits, Packet.HasGre, Packet.greLen, Packet.greFlags, Packet.greProtocol,
    Packet.greOff, Packet.ipCursor, hudp, Nat.add_zero, Nat.zero_add]

theorem greFits_of_udp (hproto : pkt.protocol Packet.outerIp = IPPROTO_UDP)
    (hroom : ¬pkt.room < sizeofUdphdr) :
    GreFits pkt IPPROTO_UDP (pkt.ipCursor.advance sizeofUdphdr) ↔ pkt.HasGre := by
  have hudp : pkt.udpLen = sizeofUdphdr := if_pos hproto
  have hleft : (pkt.ipCursor.advance sizeofUdphdr).buflen = pkt.room - sizeofUdphdr :=
    Cursor.advance_buflen (not_lt.mp hroom)
  have hoff : (pkt.ipCursor.advance sizeofUdphdr).off = pkt.greOff := by
    rw [Packet.greOff, hudp]
    rfl
  simp only [GreFits, Packet.HasGre, Packet.greLen, Packet.greFlags, Packet.greProtocol,
    hoff, hleft, hudp, or_true, true_and]
  constructor <;> rintro ⟨hlen, hether⟩ <;> exact ⟨by omega, hether⟩

theorem keyed_reported :
    keyed pkt pkt.greOff
      (if pkt.protocol Packet.outerIp = IPPROTO_UDP then encapsulated pkt opt
        else addressed pkt opt) = reported pkt opt := by
  by_cases hudp : pkt.protocol Packet.outerIp = IPPROTO_UDP <;>
    cases hkey : grehdrK (pkt.byte pkt.greOff) <;>
    simp [keyed, reported, encapsulated, addressed, Packet.greKey, Packet.greFlags, hudp, hkey]

theorem parsePacket_of_accepts (h : Accepts pkt) :
    (parsePacket pkt opt).val = (0, reported pkt opt) := by
  obtain ⟨hip, hproto, hgre⟩ := h
  rw [← keyed_reported]
  by_cases hudp : pkt.protocol Packet.outerIp = IPPROTO_UDP
  · have hroom : ¬pkt.room < sizeofUdphdr := by
      have hlen := hgre.1
      rw [Packet.udpLen, if_pos hudp] at hlen
      omega
    have hfits := (greFits_of_udp hudp hroom).mpr hgre
    have hoff : (pkt.ipCursor.advance sizeofUdphdr).off = pkt.greOff := by
      rw [Packet.greOff, Packet.udpLen, if_pos hudp]
      rfl
    rw [parsePacket_of_udp opt hip hudp, if_neg hroom, parseGre_of_fits _ hfits, hoff,
      if_pos hudp]
  · have hfits := (greFits_of_not_udp hudp).mpr ⟨hproto, hgre⟩
    have hoff : pkt.ipCursor.off = pkt.greOff := by
      rw [Packet.greOff, Packet.udpLen, if_neg hudp]
      rfl
    rw [parsePacket_of_not_udp opt hip hudp, parseGre_of_fits _ hfits, hoff, if_neg hudp]

theorem parsePacket_of_not_accepts (h : ¬Accepts pkt) :
    (parsePacket pkt opt).val.1 = -1 := by
  by_cases hip : pkt.HasIp
  · by_cases hudp : pkt.protocol Packet.outerIp = IPPROTO_UDP
    · rw [parsePacket_of_udp opt hip hudp]
      split
      · rfl
      · rename_i hroom
        apply parseGre_of_not_fits
        intro hfits
        exact h ⟨hip, Or.inr hudp, (greFits_of_udp hudp hroom).mp hfits⟩
    · rw [parsePacket_of_not_udp opt hip hudp]
      apply parseGre_of_not_fits
      intro hfits
      exact h ⟨hip, (greFits_of_not_udp hudp).mp hfits⟩
  · rw [parsePacket_of_not_ip opt hip]

theorem parsePacket_eq_zero_iff : (parsePacket pkt opt).val.1 = 0 ↔ Accepts pkt := by
  constructor
  · intro hret
    by_contra h
    rw [parsePacket_of_not_accepts opt h] at hret
    exact absurd hret (by decide)
  · intro h
    rw [parsePacket_of_accepts opt h]

theorem parsePacket_neg_iff : (parsePacket pkt opt).val.1 < 0 ↔ ¬Accepts pkt := by
  by_cases h : Accepts pkt
  · simp [parsePacket_of_accepts opt h, h]
  · simp [parsePacket_of_not_accepts opt h, h]

end Dygrefou

/-! ### The Lab4 parser -/

namespace Dygre

variable (out : Addresses) {pkt : Packet}

theorem ipCursor_off (h : pkt.protocol Packet.outerIp = IPPROTO_GRE) :
    pkt.ipCursor.off = pkt.greOff := by
  rw [Packet.greOff, Packet.udpLen, if_neg (by rw [h]; decide)]
  rfl

theorem parsePacket_of_accepts (h : Accepts pkt) :
    (parsePacket pkt out).val = (0, ⟨pkt.saddr Packet.outerIp, pkt.daddr Packet.outerIp⟩) := by
  obtain ⟨hip, hproto, hlen, hgre⟩ := h
  have hproto' : pkt.byte (Packet.outerIp + 9) = IPPROTO_GRE := hproto
  have hoff := ipCursor_off hproto
  have hroom : ¬pkt.ipCursor.buflen < pkt.greLen := by
    change ¬pkt.room < pkt.greLen
    omega
  have hleft : (pkt.ipCursor.advance pkt.greLen).buflen = pkt.room - pkt.greLen :=
    Cursor.advance_buflen (not_lt.mp hroom)
  have hether : ¬(pkt.ipCursor.advance pkt.greLen).buflen < sizeofEtherHeader := by omega
  have hread : (readGrehdr pkt pkt.ipCursor).val =
      some (pkt.greOff, pkt.ipCursor.advance pkt.greLen) := by
    rw [val_readGrehdr, hoff]
    exact if_neg hroom
  have hgre' : ntohs (pkt.u16 (pkt.greOff + 2)) = ETHERTYPE_ETHERNET := hgre
  simp [parsePacket, parseGre, hip.parseOuter, hproto', hread, hgre',
    val_readEthhdr, hether, Packet.saddr, Packet.daddr]

/-- A rejected frame leaves both addresses as they were. -/
theorem parsePacket_of_not_accepts (h : ¬Accepts pkt) :
    (parsePacket pkt out).val = (-1, out) := by
  by_cases hip : pkt.HasIp
  · by_cases hproto : pkt.byte (Packet.outerIp + 9) = IPPROTO_GRE
    · have hoff := ipCursor_off hproto
      by_cases hroom : pkt.room < pkt.greLen
      · have hread : (readGrehdr pkt pkt.ipCursor).val = none := by
          rw [val_readGrehdr, hoff]
          exact if_pos hroom
        simp [parsePacket, parseGre, hip.parseOuter, hproto, hread]
      have hread : (readGrehdr pkt pkt.ipCursor).val =
          some (pkt.greOff, pkt.ipCursor.advance pkt.greLen) := by
        rw [val_readGrehdr, hoff]
        exact if_neg hroom
      by_cases hgre : ntohs (pkt.u16 (pkt.greOff + 2)) = ETHERTYPE_ETHERNET
      · have hleft : (pkt.ipCursor.advance pkt.greLen).buflen = pkt.room - pkt.greLen :=
          Cursor.advance_buflen (not_lt.mp hroom)
        have hether : (pkt.ipCursor.advance pkt.greLen).buflen < sizeofEtherHeader := by
          have hudp : pkt.udpLen = 0 := by
            rw [Packet.udpLen, if_neg (by rw [Packet.protocol, hproto]; decide)]
          by_contra hlong
          exact h ⟨hip, hproto, by omega, hgre⟩
        simp [parsePacket, parseGre, hip.parseOuter, hproto, hread, hgre,
          val_readEthhdr, hether]
      · simp [parsePacket, parseGre, hip.parseOuter, hproto, hread, hgre]
    · simp [parsePacket, parseGre, hip.parseOuter, hproto]
  · simp [parsePacket, Packet.parseOuter_of_not_hasIp hip]

end Dygre

end DynamicGre

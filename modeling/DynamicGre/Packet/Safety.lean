import DynamicGre.Packet.Accepted

/-!
Which bytes the parsers dereference. Every reader but `read_iphdr` compares
the whole length of its header with `buflen`, so it keeps the cursor exact.
`read_iphdr` moves by an unchecked `ihl * 4`; where that exceeds what is left,
`buflen` wraps and every later comparison passes.
-/

namespace DynamicGre

open Bytes Packet

/-- Every byte the run dereferences lies in the buffer. -/
def MemorySafe {α : Type} (pkt : Packet) (run : Logged Event α) : Prop :=
  Logged.Always (Event.InBounds pkt.pktlen) run

/-- After every reader that returned a header, the offset and `buflen` still
add up to `pktlen`. -/
def CursorExact {α : Type} (pkt : Packet) (run : Logged Event α) : Prop :=
  Logged.Always (Event.Exact pkt.pktlen) run

def Cursor.Exact (n : Nat) (c : Cursor) : Prop := c.off + c.buflen = n

/-- The IP header that `read_iphdr` finds behind the inner Ethernet header ends
inside the buffer. -/
def Packet.InnerIpFits (pkt : Packet) (iethhdr : Nat) : Prop :=
  let iiphdr := iethhdr + sizeofEtherHeader
  pkt.etherType iethhdr = ETHERTYPE_IP → iiphdr + sizeofIphdr ≤ pkt.pktlen →
    iiphdr + pkt.ihl iiphdr * 4 ≤ pkt.pktlen

/-! ### The readers -/

section Readers

variable {n : Nat} {c : Cursor} (pkt : Packet)

theorem Cursor.Exact.advance (hc : c.Exact n) {len : Nat} (h : len ≤ c.buflen) :
    (c.advance len).Exact n := by
  have hleft := Cursor.advance_buflen h
  unfold Cursor.Exact at hc ⊢
  rw [Cursor.advance_off, hleft]
  omega

/-- What was compared with an exact `buflen` lies in the buffer. -/
theorem Cursor.Exact.fits (hc : c.Exact n) {len : Nat} (h : ¬c.buflen < len) :
    c.off + len ≤ n := by
  unfold Cursor.Exact at hc
  omega

theorem always_takeHeader (p : Event → Prop) (len : Nat) :
    Logged.Always p (takeHeader c len) ↔ p (.header (c.advance len)) := by
  simp [takeHeader, Logged.always_emits]

theorem inBounds_takeHeader (len : Nat) :
    Logged.Always (Event.InBounds n) (takeHeader c len) :=
  (always_takeHeader _ len).mpr trivial

theorem inBounds_readEthhdr : Logged.Always (Event.InBounds n) (readEthhdr c) := by
  unfold readEthhdr
  split
  · exact Logged.always_pure _
  · exact inBounds_takeHeader _

theorem inBounds_readUdphdr : Logged.Always (Event.InBounds n) (readUdphdr c) := by
  unfold readUdphdr
  split
  · exact Logged.always_pure _
  · exact inBounds_takeHeader _

theorem inBounds_readIphdr (hc : c.Exact n) :
    Logged.Always (Event.InBounds n) (readIphdr pkt c) := by
  unfold Cursor.Exact at hc
  unfold readIphdr sizeofIphdr
  split
  · exact Logged.always_pure _
  · rw [Logged.always_bind, always_load8, inBounds_touch (Nat.succ_pos _)]
    exact ⟨by omega, inBounds_takeHeader _⟩

theorem inBounds_readGrehdr (hc : c.Exact n) :
    Logged.Always (Event.InBounds n) (readGrehdr pkt c) := by
  unfold Cursor.Exact at hc
  unfold readGrehdr sizeofGrehdr
  split
  · exact Logged.always_pure _
  · rw [Logged.always_bind, always_load8, inBounds_touch (Nat.succ_pos _)]
    refine ⟨by omega, ?_⟩
    split
    · exact Logged.always_pure _
    · exact inBounds_takeHeader _

theorem exact_readEthhdr (hc : c.Exact n) :
    Logged.Always (Event.Exact n) (readEthhdr c) := by
  unfold readEthhdr
  split
  · exact Logged.always_pure _
  · rename_i hlen
    exact (always_takeHeader _ _).mpr (hc.advance (not_lt.mp hlen))

theorem exact_readUdphdr (hc : c.Exact n) :
    Logged.Always (Event.Exact n) (readUdphdr c) := by
  unfold readUdphdr
  split
  · exact Logged.always_pure _
  · rename_i hlen
    exact (always_takeHeader _ _).mpr (hc.advance (not_lt.mp hlen))

theorem exact_readGrehdr (hc : c.Exact n) :
    Logged.Always (Event.Exact n) (readGrehdr pkt c) := by
  unfold readGrehdr
  split
  · exact Logged.always_pure _
  · rw [Logged.always_bind, always_load8]
    refine ⟨exact_touch n _ _, ?_⟩
    split
    · exact Logged.always_pure _
    · rename_i hlen
      exact (always_takeHeader _ _).mpr (hc.advance (not_lt.mp hlen))

/-- The one reader whose own check does not cover the move. -/
theorem exact_readIphdr_iff (hc : c.Exact n) :
    Logged.Always (Event.Exact n) (readIphdr pkt c) ↔
      (sizeofIphdr ≤ c.buflen → c.off + pkt.ihl c.off * 4 ≤ n) := by
  unfold readIphdr
  split
  · rename_i hshort
    simp only [Logged.always_pure, true_iff]
    omega
  · rename_i hlen
    rw [Logged.always_bind, always_load8, always_takeHeader]
    simp only [exact_touch, true_and, val_load8]
    unfold Cursor.Exact at hc
    change c.off + pkt.ihl c.off * 4 + sizeSub c.buflen (pkt.ihl c.off * 4) = n ↔ _
    by_cases hfits : pkt.ihl c.off * 4 ≤ c.buflen
    · rw [sizeSub_of_le hfits]
      omega
    · rw [sizeSub_of_lt (not_le.mp hfits)]
      omega

end Readers

/-! ### The inner frame -/

section Inner

variable {n : Nat} {c : Cursor} (pkt : Packet) {h : Nat}

theorem inBounds_showEthhdr (hlen : h + sizeofEtherHeader ≤ n) :
    Logged.Always (Event.InBounds n) (showEthhdr h) := by
  unfold sizeofEtherHeader at hlen
  unfold showEthhdr
  simp only [Logged.always_bind]
  rw [inBounds_touch (Nat.succ_pos _), inBounds_touch (Nat.succ_pos _),
    inBounds_touch (Nat.succ_pos _)]
  omega

theorem inBounds_showIphdr (hlen : h + sizeofIphdr ≤ n) :
    Logged.Always (Event.InBounds n) (showIphdr h) := by
  unfold sizeofIphdr at hlen
  unfold showIphdr
  simp only [Logged.always_bind]
  rw [inBounds_touch (Nat.succ_pos _), inBounds_touch (Nat.succ_pos _),
    inBounds_touch (Nat.succ_pos _)]
  omega

theorem exact_showEthhdr : Logged.Always (Event.Exact n) (showEthhdr h) := by
  simp [showEthhdr]

theorem exact_showIphdr : Logged.Always (Event.Exact n) (showIphdr h) := by
  simp [showIphdr]

/-- The inner IP header is loaded only as far as it was compared. -/
theorem inBounds_showInnerIp (hc : c.Exact n) (hlen : h + sizeofEtherHeader ≤ n) :
    Logged.Always (Event.InBounds n) (showInnerIp pkt h c) := by
  unfold sizeofEtherHeader at hlen
  unfold showInnerIp
  rw [Logged.always_bind, always_load16, inBounds_touch (Nat.succ_pos _)]
  refine ⟨by omega, ?_⟩
  split
  · exact Logged.always_pure _
  rw [Logged.always_bind, val_readIphdr]
  refine ⟨inBounds_readIphdr pkt hc, ?_⟩
  by_cases hread : c.buflen < sizeofIphdr
  · simp only [if_pos hread, Logged.always_pure]
  · simp only [if_neg hread, Logged.always_bind, inBounds_showIphdr (hc.fits hread),
      Logged.always_pure, and_self]

theorem exact_showInnerIp_iff (hc : c.Exact pkt.pktlen) (hoff : c.off = h + sizeofEtherHeader) :
    Logged.Always (Event.Exact pkt.pktlen) (showInnerIp pkt h c) ↔ pkt.InnerIpFits h := by
  have htype : pkt.etherType h = ntohs (pkt.u16 (h + 12)) := rfl
  have hsum : c.off + c.buflen = pkt.pktlen := hc
  unfold showInnerIp InnerIpFits
  rw [Logged.always_bind, always_load16, val_load16, htype, ← hoff]
  simp only [exact_touch, true_and]
  by_cases hip : ntohs (pkt.u16 (h + 12)) = ETHERTYPE_IP
  · simp only [hip, ne_eq, not_true_eq_false, if_false, forall_const]
    rw [Logged.always_bind, exact_readIphdr_iff pkt hc, val_readIphdr]
    have hlen : sizeofIphdr ≤ c.buflen ↔ c.off + sizeofIphdr ≤ pkt.pktlen := by omega
    rw [hlen]
    split <;> simp [exact_showIphdr]
  · simp [hip]

end Inner

/-! ### The outer headers -/

section Outer

variable {pkt : Packet}

/-- The outer IP header, as long as its `ihl` says, ends inside the buffer. -/
def Packet.IpFits (pkt : Packet) : Prop := pkt.HasIp → pkt.ipEnd ≤ pkt.pktlen

theorem exact_etherCursor (h : sizeofEtherHeader ≤ pkt.pktlen) :
    pkt.etherCursor.Exact pkt.pktlen := by
  change sizeofEtherHeader + (pkt.pktlen - sizeofEtherHeader) = pkt.pktlen
  omega

theorem exact_ipCursor (hip : pkt.HasIp) (hfits : pkt.ipEnd ≤ pkt.pktlen) :
    pkt.ipCursor.Exact pkt.pktlen := by
  have hlen := hip.1
  have hend : pkt.ipEnd = sizeofEtherHeader + pkt.ihl outerIp * 4 := rfl
  have hroom : pkt.room = pkt.pktlen - sizeofEtherHeader - pkt.ihl outerIp * 4 :=
    sizeSub_of_le (by omega)
  change sizeofEtherHeader + pkt.ihl outerIp * 4 + pkt.room = pkt.pktlen
  omega

/-- Where the outer IP header does not fit, `buflen` has wrapped around. -/
theorem room_of_not_fits (hip : pkt.HasIp) (hfits : pkt.pktlen < pkt.ipEnd) :
    2 ^ 63 ≤ pkt.room := by
  have hlen := hip.1
  have hihl := ihlBits_lt (pkt.byte outerIp)
  have hend : pkt.ipEnd = sizeofEtherHeader + ihlBits (pkt.byte outerIp) * 4 := rfl
  unfold room ihl
  rw [sizeSub_of_lt (by omega)]
  omega

theorem memorySafe_parseOuter : MemorySafe pkt (parseOuter pkt) := by
  have hdump : Logged.Always (Event.InBounds pkt.pktlen) (hexdumpLoads pkt) := by
    rw [hexdumpLoads, always_touch]
    intro i _ hi
    rwa [Nat.zero_add] at hi
  unfold MemorySafe parseOuter
  rw [Logged.always_bind, Logged.always_bind]
  refine ⟨hdump, inBounds_readEthhdr, ?_⟩
  by_cases hether : pkt.pktlen < sizeofEtherHeader
  · have hshort : pkt.start.buflen < sizeofEtherHeader := hether
    simp only [val_readEthhdr, if_pos hshort, Logged.always_pure]
  have hread := readEthhdr_start (not_lt.mp hether)
  have hlen := not_lt.mp hether
  have hexact := exact_etherCursor hlen
  simp only [hread, Logged.always_bind, always_load16, inBounds_showEthhdr
    (Nat.le_trans (Nat.le_of_eq (Nat.zero_add _)) hlen), true_and]
  unfold sizeofEtherHeader at hlen
  rw [inBounds_touch (Nat.succ_pos _)]
  refine ⟨by omega, ?_⟩
  split
  · exact Logged.always_pure _
  rw [Logged.always_bind]
  refine ⟨inBounds_readIphdr pkt hexact, ?_⟩
  rw [val_readIphdr]
  by_cases hip : pkt.etherCursor.buflen < sizeofIphdr
  · simp only [if_pos hip, Logged.always_pure]
  · simp only [if_neg hip, Logged.always_bind, inBounds_showIphdr (hexact.fits hip),
      Logged.always_pure, and_self]

theorem exact_parseOuter_iff : CursorExact pkt (parseOuter pkt) ↔ pkt.IpFits := by
  have hstart : pkt.start.Exact pkt.pktlen := Nat.zero_add _
  unfold CursorExact parseOuter IpFits HasIp hexdumpLoads
  simp only [Logged.always_bind, exact_touch, true_and, exact_readEthhdr hstart]
  by_cases hether : pkt.pktlen < sizeofEtherHeader
  · have hshort : pkt.start.buflen < sizeofEtherHeader := hether
    simp only [val_readEthhdr, if_pos hshort, Logged.always_pure, true_iff]
    rintro ⟨hlen, -⟩
    omega
  have hread := readEthhdr_start (not_lt.mp hether)
  have hexact := exact_etherCursor (not_lt.mp hether)
  have hbuflen : pkt.etherCursor.buflen = pkt.pktlen - sizeofEtherHeader := rfl
  have htype : pkt.etherType 0 = ntohs (pkt.u16 12) := rfl
  simp only [hread, Logged.always_bind, exact_showEthhdr, always_load16, exact_touch, true_and,
    val_load16, Nat.zero_add, htype]
  by_cases hip : ntohs (pkt.u16 12) = ETHERTYPE_IP
  · simp only [hip, ne_eq, not_true_eq_false, if_false, and_true]
    rw [Logged.always_bind, exact_readIphdr_iff pkt hexact, val_readIphdr, hbuflen]
    have hlen : sizeofIphdr ≤ pkt.pktlen - sizeofEtherHeader ↔
        sizeofEtherHeader + sizeofIphdr ≤ pkt.pktlen := by omega
    rw [hlen]
    split <;> simp [exact_showIphdr, ipEnd, etherCursor]
  · simp [hip]

end Outer

/-! ### The Project parser -/

namespace Dygrefou

variable {pkt : Packet} {protocol : UInt8} {c : Cursor} (opt : GretapOpt)

/-- The key option lies inside the header that `read_grehdr` measured. -/
theorem inBounds_parseKey {n grehdr : Nat}
    (h : grehdr + grehdrLen (pkt.byte grehdr) ≤ n) :
    Logged.Always (Event.InBounds n) (parseKey pkt grehdr opt) := by
  unfold grehdrLen sizeofGrehdr at h
  cases hchecksum : grehdrC (pkt.byte grehdr) <;> cases hkey : grehdrK (pkt.byte grehdr) <;>
    simp only [hchecksum, hkey, optLen, if_true, Bool.false_eq_true, if_false] at h <;>
    simp [parseKey, hchecksum, hkey, inBounds_touch, sizeofGrehdr] <;> omega

theorem exact_parseKey {n grehdr : Nat} :
    Logged.Always (Event.Exact n) (parseKey pkt grehdr opt) := by
  cases hchecksum : grehdrC (pkt.byte grehdr) <;> cases hkey : grehdrK (pkt.byte grehdr) <;>
    simp [parseKey, hchecksum, hkey]

/-- No run past the outer IP header leaves the buffer when the cursor there is
exact. -/
theorem inBounds_parseGre (hc : c.Exact pkt.pktlen) :
    Logged.Always (Event.InBounds pkt.pktlen) (parseGre pkt protocol c opt) := by
  have hsum : c.off + c.buflen = pkt.pktlen := hc
  unfold parseGre
  split
  · exact Logged.always_pure _
  rw [Logged.always_bind, val_readGrehdr]
  refine ⟨inBounds_readGrehdr pkt hc, ?_⟩
  by_cases hgre : c.buflen < grehdrLen (pkt.byte c.off)
  · simp only [if_pos hgre, Logged.always_pure]
  simp only [if_neg hgre]
  have hlen := grehdrLen_pos (pkt.byte c.off)
  unfold sizeofGrehdr at hlen
  have hmoved := Cursor.Exact.advance hc (not_lt.mp hgre)
  rw [Logged.always_bind, always_load16, inBounds_touch (Nat.succ_pos _), Logged.always_bind]
  refine ⟨by omega, inBounds_parseKey opt (by omega), ?_⟩
  split
  · exact Logged.always_pure _
  rw [Logged.always_bind, val_readEthhdr]
  refine ⟨inBounds_readEthhdr, ?_⟩
  by_cases hether : (c.advance (grehdrLen (pkt.byte c.off))).buflen < sizeofEtherHeader
  · simp only [if_pos hether, Logged.always_pure]
  simp only [if_neg hether]
  have hinner := hmoved.fits hether
  simp only [Logged.always_bind, inBounds_showEthhdr hinner, Logged.always_pure, and_true,
    true_and]
  exact inBounds_showInnerIp pkt (hmoved.advance (not_lt.mp hether)) hinner

/-- Past an exact cursor only the inner `read_iphdr` can wrap `buflen`. -/
theorem exact_parseGre_iff (hc : c.Exact pkt.pktlen) :
    Logged.Always (Event.Exact pkt.pktlen) (parseGre pkt protocol c opt) ↔
      (GreFits pkt protocol c → pkt.InnerIpFits (c.off + grehdrLen (pkt.byte c.off))) := by
  have hsum : c.off + c.buflen = pkt.pktlen := hc
  unfold parseGre
  by_cases hproto : protocol = IPPROTO_GRE ∨ protocol = IPPROTO_UDP
  · rw [if_neg (not_not.mpr hproto), Logged.always_bind, val_readGrehdr]
    by_cases hgre : c.buflen < grehdrLen (pkt.byte c.off)
    · simp only [if_pos hgre, Logged.always_pure, exact_readGrehdr pkt hc, and_self, true_iff]
      rintro ⟨-, hlen, -⟩
      omega
    simp only [if_neg hgre, Logged.always_bind, exact_readGrehdr pkt hc, always_load16,
      exact_touch, exact_parseKey, true_and, val_load16]
    have hmoved := Cursor.Exact.advance hc (not_lt.mp hgre)
    have hleft := Cursor.advance_buflen (not_lt.mp hgre)
    by_cases hether : ntohs (pkt.u16 (c.off + 2)) = ETHERTYPE_ETHERNET
    · simp only [hether, ne_eq, not_true_eq_false, if_false]
      rw [Logged.always_bind, val_readEthhdr]
      by_cases hinner : (c.advance (grehdrLen (pkt.byte c.off))).buflen < sizeofEtherHeader
      · simp only [if_pos hinner, Logged.always_pure, exact_readEthhdr hmoved, and_self, true_iff]
        rintro ⟨-, hlen, -⟩
        omega
      · have hiip := hmoved.advance (not_lt.mp hinner)
        have hfits : GreFits pkt protocol c := ⟨hproto, by omega, hether⟩
        simp only [if_neg hinner, Logged.always_bind, exact_readEthhdr hmoved, exact_showEthhdr,
          Logged.always_pure, and_true, true_and, hfits, forall_const]
        exact exact_showInnerIp_iff pkt hiip rfl
    · simp only [hether, ne_eq, not_false_eq_true, if_true, Logged.always_pure, true_iff]
      rintro ⟨-, -, hether'⟩
      exact absurd hether' hether
  · rw [if_pos hproto]
    simp only [Logged.always_pure, true_iff]
    rintro ⟨hproto', -⟩
    exact absurd hproto' hproto

theorem inBounds_parseUdp (hc : c.Exact pkt.pktlen) :
    Logged.Always (Event.InBounds pkt.pktlen) (parseUdp pkt protocol c opt) := by
  have hsum : c.off + c.buflen = pkt.pktlen := hc
  unfold parseUdp
  split
  · rw [Logged.always_bind, val_readUdphdr]
    refine ⟨inBounds_readUdphdr, ?_⟩
    by_cases hudp : c.buflen < sizeofUdphdr
    · simp only [if_pos hudp, Logged.always_pure]
    · have hparse (opt : GretapOpt) : Logged.Always (Event.InBounds pkt.pktlen)
          (parseGre pkt protocol (c.advance sizeofUdphdr) opt) :=
        inBounds_parseGre opt (hc.advance (not_lt.mp hudp))
      simp only [if_neg hudp, Logged.always_bind, always_load16, hparse, and_true]
      unfold sizeofUdphdr at hudp
      rw [inBounds_touch (Nat.succ_pos _), inBounds_touch (Nat.succ_pos _)]
      omega
  · exact inBounds_parseGre opt hc

/-- A run with a wrapped `buflen` dereferences the first byte behind the IP
header if its protocol lets the parser go on. -/
theorem not_inBounds_parseUdp {n : Nat} (hoff : n ≤ c.off) (hlen : 2 ^ 63 ≤ c.buflen)
    (hproto : protocol = IPPROTO_GRE ∨ protocol = IPPROTO_UDP) :
    ¬Logged.Always (Event.InBounds n) (parseUdp pkt protocol c opt) := by
  unfold parseUdp
  split
  · have hudp : ¬c.buflen < sizeofUdphdr := by
      unfold sizeofUdphdr
      omega
    rw [Logged.always_bind, val_readUdphdr, if_neg hudp]
    simp only [Logged.always_bind, always_load16]
    rw [inBounds_touch (Nat.succ_pos _)]
    omega
  · have hgre : ¬c.buflen < sizeofGrehdr := by
      unfold sizeofGrehdr
      omega
    unfold parseGre readGrehdr
    rw [if_neg (not_not.mpr hproto), if_neg hgre, Logged.always_bind, Logged.always_bind,
      always_load8, inBounds_touch (Nat.succ_pos _)]
    omega

/-- Past the printed IP header the run is that of `parseUdp`: the loads in
between stay inside the header that `read_iphdr` compared. -/
theorem inBounds_parsePacket_of_ip (hip : pkt.HasIp) :
    Logged.Always (Event.InBounds pkt.pktlen) (parsePacket pkt opt) ↔
      Logged.Always (Event.InBounds pkt.pktlen)
        (parseUdp pkt (pkt.protocol outerIp) pkt.ipCursor (addressed pkt opt)) := by
  have houter : Logged.Always (Event.InBounds pkt.pktlen) (parseOuter pkt) :=
    memorySafe_parseOuter
  have hlen : outerIp + 20 ≤ pkt.pktlen := hip.1
  have hfields : outerIp + 12 + 4 ≤ pkt.pktlen ∧ outerIp + 16 + 4 ≤ pkt.pktlen ∧
      outerIp + 9 + 1 ≤ pkt.pktlen := by omega
  unfold parsePacket
  simp only [Logged.always_bind, houter, true_and, hip.parseOuter, always_load32, always_load8,
    inBounds_touch (Nat.succ_pos _), hfields]
  rfl

theorem memorySafe_parsePacket_iff (pkt : Packet) :
    MemorySafe pkt (parsePacket pkt opt) ↔
      (pkt.HasIp → pkt.protocol outerIp = IPPROTO_GRE ∨ pkt.protocol outerIp = IPPROTO_UDP →
        pkt.ipEnd ≤ pkt.pktlen) := by
  by_cases hip : pkt.HasIp
  · unfold MemorySafe
    rw [inBounds_parsePacket_of_ip opt hip]
    constructor
    · intro hsafe _ hproto
      by_contra hfits
      have hwrap := room_of_not_fits hip (not_le.mp hfits)
      exact not_inBounds_parseUdp _ (Nat.le_of_lt (not_le.mp hfits)) hwrap hproto hsafe
    · intro hfits
      by_cases hproto : pkt.protocol outerIp = IPPROTO_GRE ∨ pkt.protocol outerIp = IPPROTO_UDP
      · exact inBounds_parseUdp _ (exact_ipCursor hip (hfits hip hproto))
      · obtain ⟨hgre, hudp⟩ := not_or.mp hproto
        simp [parseUdp, parseGre, hgre, hudp]
  · have houter : Logged.Always (Event.InBounds pkt.pktlen) (parseOuter pkt) :=
      memorySafe_parseOuter
    simp [MemorySafe, parsePacket, houter, parseOuter_of_not_hasIp hip, hip]

/-- On an exact cursor behind the IP header, `parseUdp` stays exact up to the
inner IP header. -/
theorem exact_parseUdp_iff (hip : pkt.HasIp) (hfits : pkt.ipEnd ≤ pkt.pktlen) :
    Logged.Always (Event.Exact pkt.pktlen)
        (parseUdp pkt (pkt.protocol outerIp) pkt.ipCursor opt) ↔
      (Accepts pkt → pkt.InnerIpFits pkt.innerEth) := by
  have hc := exact_ipCursor hip hfits
  unfold parseUdp
  by_cases hudp : pkt.protocol outerIp = IPPROTO_UDP
  · rw [if_pos hudp, Logged.always_bind, val_readUdphdr]
    by_cases hroom : pkt.room < sizeofUdphdr
    · have hread : pkt.ipCursor.buflen < sizeofUdphdr := hroom
      have hlen : pkt.udpLen = sizeofUdphdr := if_pos hudp
      simp only [if_pos hread, Logged.always_pure, exact_readUdphdr hc, and_self, true_iff]
      rintro ⟨-, -, hgre⟩
      have hgreLen := hgre.1
      omega
    · have hread : ¬pkt.ipCursor.buflen < sizeofUdphdr := hroom
      have hfits := greFits_of_udp hudp hroom
      have hoff : (pkt.ipCursor.advance sizeofUdphdr).off = pkt.greOff := by
        rw [greOff, udpLen, if_pos hudp]
        rfl
      simp only [if_neg hread, Logged.always_bind, exact_readUdphdr hc, always_load16,
        exact_touch, true_and]
      rw [exact_parseGre_iff _ (hc.advance (not_lt.mp hread)), hudp, hfits, hoff]
      simp only [Accepts, hip, hudp, or_true, true_and]
      rfl
  · have hoff : pkt.ipCursor.off = pkt.greOff := by
      rw [greOff, udpLen, if_neg hudp]
      rfl
    rw [if_neg hudp, exact_parseGre_iff _ hc, greFits_of_not_udp hudp, hoff]
    simp only [Accepts, hip, true_and]
    rfl

theorem exact_parsePacket_iff :
    CursorExact pkt (parsePacket pkt opt) ↔
      pkt.IpFits ∧ (Accepts pkt → pkt.InnerIpFits pkt.innerEth) := by
  unfold CursorExact parsePacket
  rw [Logged.always_bind]
  have houter : Logged.Always (Event.Exact pkt.pktlen) (parseOuter pkt) ↔ pkt.IpFits :=
    exact_parseOuter_iff
  rw [houter]
  apply and_congr_right
  intro hfits
  by_cases hip : pkt.HasIp
  · simp only [hip.parseOuter, Logged.always_bind, always_load32, always_load8, exact_touch,
      true_and]
    exact exact_parseUdp_iff _ hip (hfits hip)
  · have haccepts : ¬Accepts pkt := fun h => hip h.1
    simp [parseOuter_of_not_hasIp hip, haccepts]

end Dygrefou

/-! ### The Lab4 parser -/

namespace Dygre

variable {pkt : Packet} {iphdr : Nat} {c : Cursor} (out : Addresses)

theorem inBounds_parseGre (hip : iphdr + sizeofIphdr ≤ pkt.pktlen) (hc : c.Exact pkt.pktlen) :
    Logged.Always (Event.InBounds pkt.pktlen) (parseGre pkt iphdr c out) := by
  have hsum : c.off + c.buflen = pkt.pktlen := hc
  unfold sizeofIphdr at hip
  unfold parseGre
  rw [Logged.always_bind, always_load8, inBounds_touch (Nat.succ_pos _)]
  refine ⟨by omega, ?_⟩
  split
  · exact Logged.always_pure _
  rw [Logged.always_bind, val_readGrehdr]
  refine ⟨inBounds_readGrehdr pkt hc, ?_⟩
  by_cases hgre : c.buflen < grehdrLen (pkt.byte c.off)
  · simp only [if_pos hgre, Logged.always_pure]
  simp only [if_neg hgre]
  have hlen := grehdrLen_pos (pkt.byte c.off)
  unfold sizeofGrehdr at hlen
  have hmoved := Cursor.Exact.advance hc (not_lt.mp hgre)
  rw [Logged.always_bind, always_load16, inBounds_touch (Nat.succ_pos _)]
  refine ⟨by omega, ?_⟩
  split
  · exact Logged.always_pure _
  rw [Logged.always_bind, val_readEthhdr]
  refine ⟨inBounds_readEthhdr, ?_⟩
  by_cases hether : (c.advance (grehdrLen (pkt.byte c.off))).buflen < sizeofEtherHeader
  · simp only [if_pos hether, Logged.always_pure]
  simp only [if_neg hether]
  have hinner := hmoved.fits hether
  have hshow := inBounds_showInnerIp pkt (hmoved.advance (not_lt.mp hether)) hinner
  simp only [Logged.always_bind, inBounds_showEthhdr hinner, always_load32, hshow,
    Logged.always_pure, and_true, true_and]
  rw [inBounds_touch (Nat.succ_pos _), inBounds_touch (Nat.succ_pos _)]
  omega

theorem memorySafe_parsePacket_iff (pkt : Packet) :
    MemorySafe pkt (parsePacket pkt out) ↔
      (pkt.HasIp → pkt.protocol outerIp = IPPROTO_GRE → pkt.ipEnd ≤ pkt.pktlen) := by
  have houter : Logged.Always (Event.InBounds pkt.pktlen) (parseOuter pkt) :=
    memorySafe_parseOuter
  unfold MemorySafe parsePacket
  simp only [Logged.always_bind, houter, true_and]
  by_cases hip : pkt.HasIp
  · simp only [hip.parseOuter, hip, forall_const]
    constructor
    · intro hsafe hproto
      by_contra hfits
      have hwrap := room_of_not_fits hip (not_le.mp hfits)
      have hgre : ¬pkt.ipCursor.buflen < sizeofGrehdr := by
        change ¬pkt.room < sizeofGrehdr
        unfold sizeofGrehdr
        omega
      have hproto' : pkt.byte (outerIp + 9) = IPPROTO_GRE := hproto
      simp only [parseGre, readGrehdr, hproto', hgre, Logged.always_bind, always_load8, val_load8,
        ne_eq, not_true_eq_false, if_false] at hsafe
      obtain ⟨-, ⟨hload, -⟩, -⟩ := hsafe
      rw [inBounds_touch (Nat.succ_pos _)] at hload
      change pkt.ipEnd + 1 ≤ pkt.pktlen at hload
      omega
    · intro hfits
      by_cases hproto : pkt.protocol outerIp = IPPROTO_GRE
      · exact inBounds_parseGre out hip.1 (exact_ipCursor hip (hfits hproto))
      · have hproto' : ¬pkt.byte (outerIp + 9) = IPPROTO_GRE := hproto
        have hlen : outerIp + 20 ≤ pkt.pktlen := hip.1
        simp only [parseGre, hproto', Logged.always_bind, always_load8, val_load8, ne_eq,
          not_false_eq_true, if_true, Logged.always_pure, and_true]
        rw [inBounds_touch (Nat.succ_pos _)]
        omega
  · simp [parseOuter_of_not_hasIp hip, hip]

theorem exact_parseGre_iff (hip : pkt.HasIp) (hc : pkt.ipCursor.Exact pkt.pktlen) :
    Logged.Always (Event.Exact pkt.pktlen) (parseGre pkt outerIp pkt.ipCursor out) ↔
      (Accepts pkt → pkt.InnerIpFits pkt.innerEth) := by
  unfold parseGre
  simp only [Logged.always_bind, always_load8, val_load8, exact_touch, true_and]
  by_cases hproto : pkt.byte (outerIp + 9) = IPPROTO_GRE
  · have hoff := ipCursor_off hproto
    have hbuflen : pkt.ipCursor.buflen = pkt.room := rfl
    have hudp : pkt.udpLen = 0 := by
      have hne : pkt.protocol outerIp ≠ IPPROTO_UDP := by
        rw [protocol, hproto]
        decide
      exact if_neg hne
    simp only [hproto, ne_eq, not_true_eq_false, if_false, Logged.always_bind,
      exact_readGrehdr pkt hc, true_and, val_readGrehdr, hoff]
    by_cases hroom : pkt.ipCursor.buflen < pkt.greLen
    · have hshort : pkt.ipCursor.buflen < grehdrLen (pkt.byte pkt.greOff) := hroom
      simp only [if_pos hshort, Logged.always_pure, true_iff]
      rintro ⟨-, -, hlen, -⟩
      omega
    have hlong : ¬pkt.ipCursor.buflen < grehdrLen (pkt.byte pkt.greOff) := hroom
    have hmoved := Cursor.Exact.advance hc (not_lt.mp hlong)
    simp only [if_neg hlong, Logged.always_bind, always_load16, exact_touch, val_load16, true_and]
    by_cases hgre : ntohs (pkt.u16 (pkt.greOff + 2)) = ETHERTYPE_ETHERNET
    · simp only [hgre, not_true_eq_false, if_false, Logged.always_bind,
        exact_readEthhdr hmoved, val_readEthhdr, true_and]
      have hleft : (pkt.ipCursor.advance pkt.greLen).buflen = pkt.room - pkt.greLen :=
        Cursor.advance_buflen (not_lt.mp hroom)
      by_cases hether : (pkt.ipCursor.advance pkt.greLen).buflen < sizeofEtherHeader
      · have hether' : (pkt.ipCursor.advance (grehdrLen (pkt.byte pkt.greOff))).buflen <
            sizeofEtherHeader := hether
        simp only [if_pos hether', Logged.always_pure, true_iff]
        rintro ⟨-, -, hlen, -⟩
        omega
      · have hether' : ¬(pkt.ipCursor.advance (grehdrLen (pkt.byte pkt.greOff))).buflen <
            sizeofEtherHeader := hether
        have haccepts : Accepts pkt := ⟨hip, hproto, by omega, hgre⟩
        have hiip := hmoved.advance (not_lt.mp hether')
        simp only [if_neg hether', Logged.always_bind, exact_showEthhdr, always_load32,
          exact_touch, Logged.always_pure, and_true, true_and, haccepts, forall_const]
        rw [exact_showInnerIp_iff pkt hiip rfl, Cursor.advance_off, hoff]
        rfl
    · have haccepts : ¬Accepts pkt := fun h => hgre h.2.2.2
      simp [hgre, haccepts]
  · have haccepts : ¬Accepts pkt := fun h => hproto h.2.1
    simp [hproto, haccepts]

theorem exact_parsePacket_iff :
    CursorExact pkt (parsePacket pkt out) ↔
      pkt.IpFits ∧ (Accepts pkt → pkt.InnerIpFits pkt.innerEth) := by
  have houter : Logged.Always (Event.Exact pkt.pktlen) (parseOuter pkt) ↔ pkt.IpFits :=
    exact_parseOuter_iff
  unfold CursorExact parsePacket
  rw [Logged.always_bind, houter]
  apply and_congr_right
  intro hfits
  by_cases hip : pkt.HasIp
  · simp only [hip.parseOuter]
    exact exact_parseGre_iff out hip (exact_ipCursor hip (hfits hip))
  · have haccepts : ¬Accepts pkt := fun h => hip h.1
    simp [parseOuter_of_not_hasIp hip, haccepts]

end Dygre

/-! ### Both parsers -/

/-- Every byte either parser dereferences is captured and its cursor stays exact
if and only if no IP header it reads is longer than what was captured. The
loads alone stay inside under the first half of that condition, and only for
the protocols that make the parser go on. -/
theorem parsePacket_bounds (pkt : Packet) (opt : GretapOpt) (out : Addresses) :
    (MemorySafe pkt (Dygrefou.parsePacket pkt opt) ∧
        CursorExact pkt (Dygrefou.parsePacket pkt opt) ↔
      pkt.IpFits ∧ (Dygrefou.Accepts pkt → pkt.InnerIpFits pkt.innerEth)) ∧
    (MemorySafe pkt (Dygre.parsePacket pkt out) ∧
        CursorExact pkt (Dygre.parsePacket pkt out) ↔
      pkt.IpFits ∧ (Dygre.Accepts pkt → pkt.InnerIpFits pkt.innerEth)) ∧
    (MemorySafe pkt (Dygrefou.parsePacket pkt opt) ↔
      (pkt.HasIp →
        pkt.protocol outerIp = IPPROTO_GRE ∨ pkt.protocol outerIp = IPPROTO_UDP →
        pkt.ipEnd ≤ pkt.pktlen)) ∧
    (MemorySafe pkt (Dygre.parsePacket pkt out) ↔
      (pkt.HasIp → pkt.protocol outerIp = IPPROTO_GRE → pkt.ipEnd ≤ pkt.pktlen)) := by
  have hsafe := Dygrefou.memorySafe_parsePacket_iff opt pkt
  have hsafe' := Dygre.memorySafe_parsePacket_iff out pkt
  refine ⟨?_, ?_, hsafe, hsafe'⟩
  · rw [Dygrefou.exact_parsePacket_iff, hsafe]
    constructor
    · intro h
      exact h.2
    · intro h
      exact ⟨fun hip _ => h.1 hip, h⟩
  · rw [Dygre.exact_parsePacket_iff, hsafe']
    constructor
    · intro h
      exact h.2
    · intro h
      exact ⟨fun hip _ => h.1 hip, h⟩

/-- A frame cut behind the fixed part of an IP header with `ihl` 15. -/
def truncatedIp (protocol : UInt8) : Packet where
  bytes := [0, 0, 0, 0, 0, 0, 0, 0, 0, 0, 0, 0, 0x08, 0x00,
    0x4f, 0, 0, 0, 0, 0, 0, 0, 0, protocol, 0, 0, 0, 0, 0, 0, 0, 0, 0, 0]
  stale := fun _ => 0
  inbound := true
  fits := by simp

theorem truncatedIp_escapes :
    ¬MemorySafe (truncatedIp IPPROTO_UDP)
        (Dygrefou.parsePacket (truncatedIp IPPROTO_UDP) GretapOpt.zeroed) ∧
    ¬CursorExact (truncatedIp IPPROTO_UDP)
        (Dygrefou.parsePacket (truncatedIp IPPROTO_UDP) GretapOpt.zeroed) ∧
    ¬MemorySafe (truncatedIp IPPROTO_GRE)
        (Dygre.parsePacket (truncatedIp IPPROTO_GRE) ⟨0, 0⟩) ∧
    ¬CursorExact (truncatedIp IPPROTO_GRE)
        (Dygre.parsePacket (truncatedIp IPPROTO_GRE) ⟨0, 0⟩) := by
  have hip (protocol : UInt8) : (truncatedIp protocol).HasIp := by
    have htype : ntohs (le16 0x08 0x00) = ETHERTYPE_IP := by decide
    exact ⟨Nat.le_refl 34, htype⟩
  have hlong (protocol : UInt8) :
      ¬(truncatedIp protocol).ipEnd ≤ (truncatedIp protocol).pktlen := by
    have hend : ¬14 + ihlBits 0x4f * 4 ≤ 34 := by decide
    exact hend
  refine ⟨?_, ?_, ?_, ?_⟩
  · rw [Dygrefou.memorySafe_parsePacket_iff]
    intro h
    exact hlong _ (h (hip _) (Or.inr rfl))
  · rw [Dygrefou.exact_parsePacket_iff]
    intro h
    exact hlong _ (h.1 (hip _))
  · rw [Dygre.memorySafe_parsePacket_iff]
    intro h
    exact hlong _ (h (hip _) rfl)
  · rw [Dygre.exact_parsePacket_iff]
    intro h
    exact hlong _ (h.1 (hip _))

end DynamicGre

import DynamicGre.Packet.Build

/-!
The Project's parser beside Lab4's. Without UDP they accept the same frames;
with UDP the Project's reads what Lab4's would read in the frame without the
UDP header.
-/

namespace DynamicGre

namespace Packet

/-- The frame without the UDP header after its IP header, as GRE over IPv4. -/
def unwrapped (pkt : Packet) : Packet where
  bytes := (pkt.bytes.take pkt.ipEnd).set (outerIp + 9) IPPROTO_GRE ++
    pkt.bytes.drop (pkt.ipEnd + sizeofUdphdr)
  stale := pkt.stale
  inbound := pkt.inbound
  fits := by
    have hfits := pkt.fits
    rw [List.length_append, List.length_set, List.length_take, List.length_drop]
    omega

variable {pkt : Packet}

theorem pktlen_unwrapped (h : pkt.ipEnd + sizeofUdphdr ≤ pkt.pktlen) :
    pkt.unwrapped.pktlen + sizeofUdphdr = pkt.pktlen := by
  unfold pktlen at h ⊢
  rw [unwrapped, List.length_append, List.length_set, List.length_take, List.length_drop]
  omega

/-- Up to the end of the IP header only the protocol differs. -/
theorem byte_unwrapped (h : pkt.ipEnd ≤ pkt.pktlen) {i : Nat} (hi : i < pkt.ipEnd) :
    pkt.unwrapped.byte i = if i = outerIp + 9 then IPPROTO_GRE else pkt.byte i := by
  unfold pktlen at h
  have hlength : (pkt.bytes.take pkt.ipEnd).length = pkt.ipEnd := List.length_take_of_le h
  rw [byte, unwrapped, List.getD_eq_getElem?_getD,
    List.getElem?_append_left (by rwa [List.length_set, hlength]), List.getElem?_set]
  split
  · rename_i heq
    rw [hlength, if_pos (by omega), if_pos heq.symm]
    rfl
  · rename_i hne
    rw [if_neg (Ne.symm hne), List.getElem?_take_of_lt hi, byte, List.getD_eq_getElem?_getD]

/-- The bytes after the UDP header moved up to the IP header. -/
theorem byte_unwrapped_add {i : Nat} (h : pkt.ipEnd + sizeofUdphdr + i < pkt.pktlen) :
    pkt.unwrapped.byte (pkt.ipEnd + i) = pkt.byte (pkt.ipEnd + sizeofUdphdr + i) := by
  unfold pktlen at h
  have hlength : ((pkt.bytes.take pkt.ipEnd).set (outerIp + 9) IPPROTO_GRE).length =
      pkt.ipEnd := by
    rw [List.length_set, List.length_take_of_le (by omega)]
  rw [byte, byte, unwrapped, List.getD_eq_getElem?_getD,
    List.getElem?_append_right (by rw [hlength]; exact Nat.le_add_right _ _), hlength,
    List.getElem?_drop, Nat.add_sub_cancel_left, List.getElem?_eq_getElem h,
    List.getD_eq_getElem?_getD, List.getElem?_eq_getElem h]
  rfl

theorem room_of_le (h : pkt.ipEnd ≤ pkt.pktlen) : pkt.room = pkt.pktlen - pkt.ipEnd := by
  have hend : pkt.ipEnd = sizeofEtherHeader + pkt.ihl outerIp * 4 := rfl
  rw [room, sizeSub_of_le (by omega), Nat.sub_sub, hend]

section Unwrapped

variable (hihl : 5 ≤ pkt.ihl outerIp) (hlen : pkt.ipEnd + sizeofUdphdr ≤ pkt.pktlen)

include hihl

theorem long_ipEnd : 34 ≤ pkt.ipEnd := by
  have hend : pkt.ipEnd = 14 + pkt.ihl outerIp * 4 := rfl
  omega

include hlen

theorem ihl_unwrapped : pkt.unwrapped.ihl outerIp = pkt.ihl outerIp := by
  have hlong := long_ipEnd hihl
  rw [ihl, byte_unwrapped (by omega) (by unfold outerIp sizeofEtherHeader; omega)]
  rfl

theorem ipEnd_unwrapped : pkt.unwrapped.ipEnd = pkt.ipEnd := by
  rw [ipEnd, ipEnd, ihl_unwrapped hihl hlen]

theorem protocol_unwrapped : pkt.unwrapped.protocol outerIp = IPPROTO_GRE := by
  have hlong := long_ipEnd hihl
  rw [protocol, byte_unwrapped (by omega) (by unfold outerIp sizeofEtherHeader; omega)]
  rfl

theorem u32_unwrapped {i : Nat} (hlow : 24 ≤ i) (hhigh : i + 4 ≤ 34) :
    pkt.unwrapped.u32 i = pkt.u32 i := by
  have hlong := long_ipEnd hihl
  have hsame (j : Nat) (hj : j < 4) : pkt.unwrapped.byte (i + j) = pkt.byte (i + j) := by
    rw [byte_unwrapped (by omega) (by omega),
      if_neg (by unfold outerIp sizeofEtherHeader; omega)]
  have h0 := hsame 0 (by decide)
  rw [Nat.add_zero] at h0
  rw [u32, u32, h0, hsame 1 (by decide), hsame 2 (by decide), hsame 3 (by decide)]

theorem etherType_unwrapped : pkt.unwrapped.etherType 0 = pkt.etherType 0 := by
  have hlong := long_ipEnd hihl
  have hsame (i : Nat) (hi : i < 14) : pkt.unwrapped.byte i = pkt.byte i := by
    rw [byte_unwrapped (by omega) (by omega),
      if_neg (by unfold outerIp sizeofEtherHeader; omega)]
  rw [etherType, etherType, u16, u16, hsame _ (by decide), hsame _ (by decide)]

theorem hasIp_unwrapped : pkt.unwrapped.HasIp ↔ pkt.HasIp := by
  have hlong := long_ipEnd hihl
  have hpktlen := pktlen_unwrapped hlen
  unfold sizeofUdphdr at hlen hpktlen
  have hfull : sizeofEtherHeader + sizeofIphdr ≤ pkt.pktlen := by
    unfold sizeofEtherHeader sizeofIphdr
    omega
  have hrest : sizeofEtherHeader + sizeofIphdr ≤ pkt.unwrapped.pktlen := by
    unfold sizeofEtherHeader sizeofIphdr
    omega
  unfold HasIp
  rw [etherType_unwrapped hihl hlen]
  exact ⟨fun h => ⟨hfull, h.2⟩, fun h => ⟨hrest, h.2⟩⟩

theorem hasGre_unwrapped (hudp : pkt.protocol outerIp = IPPROTO_UDP) :
    pkt.unwrapped.HasGre ↔ pkt.HasGre := by
  have hroom : pkt.room = pkt.pktlen - pkt.ipEnd := room_of_le (by omega)
  have hend := ipEnd_unwrapped hihl hlen
  have hpktlen := pktlen_unwrapped hlen
  have hroom' : pkt.unwrapped.room = pkt.unwrapped.pktlen - pkt.ipEnd := by
    rw [room_of_le (by omega), hend]
  have hudpLen : pkt.udpLen = sizeofUdphdr := if_pos hudp
  have hudpLen' : pkt.unwrapped.udpLen = 0 := by
    rw [udpLen, protocol_unwrapped hihl hlen]
    rfl
  have hoff : pkt.greOff = pkt.ipEnd + sizeofUdphdr := by rw [greOff, hudpLen]
  have hoff' : pkt.unwrapped.greOff = pkt.ipEnd := by rw [greOff, hudpLen', hend, Nat.add_zero]
  unfold HasGre
  rw [hudpLen, hudpLen', hroom, hroom']
  cases Nat.lt_or_ge pkt.pktlen (pkt.ipEnd + sizeofUdphdr + sizeofGrehdr) with
  | inl hshort =>
      -- the GRE flags are not captured, but even four bytes are too many
      have hmin (p : Packet) : sizeofGrehdr ≤ p.greLen := by
        unfold greLen grehdrLen
        omega
      have h1 := hmin pkt
      have h2 := hmin pkt.unwrapped
      constructor <;> rintro ⟨hfit, -⟩ <;> omega
  | inr hlong =>
      unfold sizeofGrehdr at hlong
      have hsame (i : Nat) (hi : i < 4) : pkt.unwrapped.byte (pkt.ipEnd + i) =
          pkt.byte (pkt.ipEnd + sizeofUdphdr + i) := byte_unwrapped_add (by omega)
      have h0 := hsame 0 (by decide)
      have h2 := hsame 2 (by decide)
      have h3 := hsame 3 (by decide)
      have hgreLen : pkt.unwrapped.greLen = pkt.greLen := by
        rw [greLen, greLen, greFlags, greFlags, hoff, hoff']
        exact congrArg grehdrLen h0
      have hgreProtocol : pkt.unwrapped.greProtocol = pkt.greProtocol := by
        rw [greProtocol, greProtocol, hoff, hoff', u16, u16]
        exact congrArg₂ (fun a b => Bytes.ntohs (Bytes.le16 a b)) h2 h3
      rw [hgreLen, hgreProtocol]
      constructor <;> rintro ⟨hfit, hether⟩ <;> exact ⟨by omega, hether⟩

/-- Lab4's parser accepts the frame without the UDP header exactly when the
Project's accepts the frame. -/
theorem accepts_unwrapped (hudp : pkt.protocol outerIp = IPPROTO_UDP) :
    Dygre.Accepts pkt.unwrapped ↔ Dygrefou.Accepts pkt := by
  have hgre := protocol_unwrapped hihl hlen
  unfold Dygre.Accepts Dygrefou.Accepts
  rw [hasIp_unwrapped hihl hlen, hasGre_unwrapped hihl hlen hudp]
  constructor
  · rintro ⟨hip, -, hhas⟩
    exact ⟨hip, Or.inr hudp, hhas⟩
  · rintro ⟨hip, -, hhas⟩
    exact ⟨hip, hgre, hhas⟩

end Unwrapped

/-- Without UDP both parsers accept the same frames. -/
theorem accepts_iff_of_not_udp (hproto : pkt.protocol outerIp ≠ IPPROTO_UDP) :
    Dygrefou.Accepts pkt ↔ Dygre.Accepts pkt := by
  unfold Dygre.Accepts Dygrefou.Accepts
  constructor
  · rintro ⟨hip, hgre | hudp, hhas⟩
    · exact ⟨hip, hgre, hhas⟩
    · exact absurd hudp hproto
  · rintro ⟨hip, hgre, hhas⟩
    exact ⟨hip, Or.inl hgre, hhas⟩

/-- A cut UDP header is rejected by the Project's parser, and UDP by Lab4's. -/
theorem not_accepts_of_cut_udp (hfits : pkt.ipEnd ≤ pkt.pktlen)
    (hudp : pkt.protocol outerIp = IPPROTO_UDP) (hcut : pkt.pktlen < pkt.ipEnd + sizeofUdphdr) :
    ¬Dygrefou.Accepts pkt ∧ ¬Dygre.Accepts pkt := by
  constructor
  · rintro ⟨-, -, hlen, -⟩
    rw [room_of_le hfits, udpLen, if_pos hudp] at hlen
    omega
  · rintro ⟨-, hgre, -⟩
    rw [hudp] at hgre
    cases hgre

end Packet

/-- The parsers give the same code, and on success the same addresses. -/
def SameVerdict (project : Int × GretapOpt) (lab : Int × Addresses) : Prop :=
  project.1 = lab.1 ∧
    (project.1 = 0 → project.2.remote = lab.2.saddr ∧ project.2.localAddr = lab.2.daddr)

section Verdicts

variable {pkt other : Packet} {opt : GretapOpt} {out : Addresses}

theorem sameVerdict_of_iff (haccepts : Dygrefou.Accepts pkt ↔ Dygre.Accepts other)
    (hsaddr : Dygrefou.Accepts pkt → other.saddr Packet.outerIp = pkt.saddr Packet.outerIp)
    (hdaddr : Dygrefou.Accepts pkt → other.daddr Packet.outerIp = pkt.daddr Packet.outerIp) :
    SameVerdict (Dygrefou.parsePacket pkt opt).val (Dygre.parsePacket other out).val := by
  by_cases h : Dygrefou.Accepts pkt
  · rw [Dygrefou.parsePacket_of_accepts opt h, Dygre.parsePacket_of_accepts out (haccepts.mp h),
      hsaddr h, hdaddr h]
    exact ⟨rfl, fun _ => ⟨rfl, rfl⟩⟩
  · have hcode := Dygrefou.parsePacket_of_not_accepts opt h
    rw [Dygre.parsePacket_of_not_accepts out (mt haccepts.mpr h)]
    refine ⟨hcode, fun hzero => ?_⟩
    rw [hcode] at hzero
    cases hzero

/-- The addresses of a frame with an IP header are stored, accepted or not. -/
theorem Dygrefou.parsePacket_addresses (hip : pkt.HasIp) :
    (parsePacket pkt opt).val.2.remote = pkt.saddr Packet.outerIp ∧
      (parsePacket pkt opt).val.2.localAddr = pkt.daddr Packet.outerIp := by
  have hgre (protocol : UInt8) (c : Cursor) {start : GretapOpt}
      (hstart : start.remote = pkt.saddr Packet.outerIp ∧
        start.localAddr = pkt.daddr Packet.outerIp) :
      (parseGre pkt protocol c start).val.2.remote = pkt.saddr Packet.outerIp ∧
        (parseGre pkt protocol c start).val.2.localAddr = pkt.daddr Packet.outerIp := by
    obtain ⟨key, hkey⟩ := parseGre_key pkt protocol c start
    rw [hkey]
    exact hstart
  by_cases hudp : pkt.protocol Packet.outerIp = IPPROTO_UDP
  · rw [parsePacket_of_udp opt hip hudp]
    split
    · exact ⟨rfl, rfl⟩
    · exact hgre _ _ ⟨rfl, rfl⟩
  · rw [parsePacket_of_not_udp opt hip hudp]
    exact hgre _ _ ⟨rfl, rfl⟩

end Verdicts

/-- The Project's parser extends Lab4's, as long as the IP header was captured
whole. -/
theorem parsePacket_extends (pkt : Packet) (out : Addresses) (hfits : pkt.ipEnd ≤ pkt.pktlen) :
    (pkt.protocol Packet.outerIp ≠ IPPROTO_UDP →
      SameVerdict (Dygrefou.parsePacket pkt GretapOpt.zeroed).val
        (Dygre.parsePacket pkt out).val ∧
      ((Dygrefou.parsePacket pkt GretapOpt.zeroed).val.1 = 0 →
        let opt := (Dygrefou.parsePacket pkt GretapOpt.zeroed).val.2
        opt.encapType = TUNNEL_ENCAP_NONE ∧ opt.encapSport = 0 ∧ opt.encapDport = 0)) ∧
    (pkt.protocol Packet.outerIp = IPPROTO_UDP → 5 ≤ pkt.ihl Packet.outerIp →
      pkt.ipEnd + sizeofUdphdr ≤ pkt.pktlen →
      SameVerdict (Dygrefou.parsePacket pkt GretapOpt.zeroed).val
        (Dygre.parsePacket pkt.unwrapped out).val ∧
      ((Dygrefou.parsePacket pkt GretapOpt.zeroed).val.1 ≠ 0 →
        (Dygre.parsePacket pkt.unwrapped out).val.2 = out ∧
        (pkt.etherType 0 = ETHERTYPE_IP →
          (Dygrefou.parsePacket pkt GretapOpt.zeroed).val.2.remote =
            pkt.saddr Packet.outerIp ∧
          (Dygrefou.parsePacket pkt GretapOpt.zeroed).val.2.localAddr =
            pkt.daddr Packet.outerIp))) ∧
    (pkt.etherType 0 = ETHERTYPE_IP → pkt.protocol Packet.outerIp = IPPROTO_UDP →
      pkt.pktlen < pkt.ipEnd + sizeofUdphdr →
      (Dygrefou.parsePacket pkt GretapOpt.zeroed).val.1 = -1 ∧
      (Dygre.parsePacket pkt out).val.1 = -1) := by
  refine ⟨?_, ?_, ?_⟩
  · intro hproto
    refine ⟨sameVerdict_of_iff (Packet.accepts_iff_of_not_udp hproto) (fun _ => rfl)
      (fun _ => rfl), fun hzero => ?_⟩
    have haccepts := (Dygrefou.parsePacket_eq_zero_iff GretapOpt.zeroed).mp hzero
    rw [Dygrefou.parsePacket_of_accepts _ haccepts]
    exact ⟨if_neg hproto, if_neg hproto, if_neg hproto⟩
  · intro hudp hihl hlen
    have haccepts := Packet.accepts_unwrapped hihl hlen hudp
    have hverdict : SameVerdict (Dygrefou.parsePacket pkt GretapOpt.zeroed).val
        (Dygre.parsePacket pkt.unwrapped out).val :=
      sameVerdict_of_iff haccepts.symm
        (fun _ => Packet.u32_unwrapped hihl hlen (by decide) (by decide))
        (fun _ => Packet.u32_unwrapped hihl hlen (by decide) (by decide))
    refine ⟨hverdict, fun hcode => ⟨?_, fun htype => ?_⟩⟩
    · have hrejects : ¬Dygre.Accepts pkt.unwrapped := fun h =>
        hcode ((Dygrefou.parsePacket_eq_zero_iff _).mpr (haccepts.mp h))
      rw [Dygre.parsePacket_of_not_accepts out hrejects]
    · have hlong := Packet.long_ipEnd hihl
      exact Dygrefou.parsePacket_addresses ⟨le_trans hlong hfits, htype⟩
  · intro _ hudp hcut
    obtain ⟨hproject, hlab⟩ := Packet.not_accepts_of_cut_udp hfits hudp hcut
    rw [Dygre.parsePacket_of_not_accepts out hlab]
    exact ⟨Dygrefou.parsePacket_of_not_accepts _ hproject, rfl⟩

theorem parsePacket_extends_keyed :
    SameVerdict (Dygrefou.parsePacket GreFrame.keyedPacket GretapOpt.zeroed).val
      (Dygre.parsePacket GreFrame.keyedPacket.unwrapped ⟨0, 0⟩).val :=
  ((parsePacket_extends GreFrame.keyedPacket ⟨0, 0⟩ (by decide)).2.1 (by decide) (by decide)
    (by decide)).1

/-- A frame that ends with its UDP header. -/
def cutPacket : Packet where
  bytes := GreFrame.keyedFrame.bytes.take 46
  stale := fun _ => 0
  inbound := true
  fits := by decide

/-- Both parsers reject it, but only the Project's has stored the addresses. -/
theorem parsePacket_cutPacket :
    (cutPacket.protocol Packet.outerIp = IPPROTO_UDP ∧ 5 ≤ cutPacket.ihl Packet.outerIp ∧
      cutPacket.ipEnd + sizeofUdphdr ≤ cutPacket.pktlen) ∧
    (Dygrefou.parsePacket cutPacket GretapOpt.zeroed).val.1 = -1 ∧
    (Dygrefou.parsePacket cutPacket GretapOpt.zeroed).val.2.remote = 0x0102a8c0 ∧
    (Dygre.parsePacket cutPacket.unwrapped ⟨0, 0⟩).val = (-1, ⟨0, 0⟩) := by
  have hproject : ¬Dygrefou.Accepts cutPacket := by decide
  have hlab : ¬Dygre.Accepts cutPacket.unwrapped := by decide
  have hip : cutPacket.HasIp := by decide
  refine ⟨by decide, Dygrefou.parsePacket_of_not_accepts _ hproject, ?_,
    Dygre.parsePacket_of_not_accepts _ hlab⟩
  rw [(Dygrefou.parsePacket_addresses hip).1]
  decide

end DynamicGre

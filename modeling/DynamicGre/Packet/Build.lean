import DynamicGre.Packet.Accepted

/-!
Frames written header by header, the way a sender lays them out. The parser of
the Project daemon is shown to read back what such a frame was built from.
-/

namespace DynamicGre

open Bytes

namespace Packet

/-- The bytes `seg` were captured at offset `off`. -/
def At (pkt : Packet) (off : Nat) (seg : List UInt8) : Prop := seg <+: pkt.bytes.drop off

variable {pkt : Packet} {off : Nat} {seg a b : List UInt8}

theorem at_of_bytes_eq (h : pkt.bytes = seg) : pkt.At 0 seg := by
  rw [At, List.drop_zero, h]

theorem at_append : pkt.At off (a ++ b) ↔ pkt.At off a ∧ pkt.At (off + a.length) b := by
  unfold At
  rw [← List.drop_drop]
  constructor
  · rintro ⟨rest, hrest⟩
    rw [← hrest, List.append_assoc, List.drop_left]
    exact ⟨List.prefix_append _ _, List.prefix_append _ _⟩
  · rintro ⟨⟨rest, hrest⟩, hb⟩
    rw [← hrest, List.drop_left] at hb
    rw [← hrest]
    exact (List.prefix_append_right_inj a).mpr hb

theorem At.fits (h : pkt.At off seg) (hpos : 0 < seg.length) :
    off + seg.length ≤ pkt.pktlen := by
  have hlen := h.length_le
  rw [List.length_drop] at hlen
  unfold pktlen
  omega

theorem At.byte (h : pkt.At off seg) {i : Nat} (hi : i < seg.length) :
    pkt.byte (off + i) = seg[i] := by
  have hlast := h.fits (Nat.zero_lt_of_lt hi)
  have hin : off + i < pkt.bytes.length := by
    unfold pktlen at hlast
    omega
  rw [Packet.byte, List.getD_eq_getElem?_getD, List.getElem?_eq_getElem hin, Option.getD_some,
    h.getElem hi, List.getElem_drop]

theorem At.u16 {x : UInt16} (h : pkt.At off (bytes16 x)) : pkt.u16 off = x := by
  have h0 := h.byte (i := 0) (by simp)
  have h1 := h.byte (i := 1) (by simp)
  rw [Nat.add_zero] at h0
  rw [Packet.u16, h0, h1]
  exact le16_bytes16 x

theorem At.u32 {x : UInt32} (h : pkt.At off (bytes32 x)) : pkt.u32 off = x := by
  have h0 := h.byte (i := 0) (by simp)
  have h1 := h.byte (i := 1) (by simp)
  have h2 := h.byte (i := 2) (by simp)
  have h3 := h.byte (i := 3) (by simp)
  rw [Nat.add_zero] at h0
  rw [Packet.u32, h0, h1, h2, h3]
  exact le32_bytes32 x

end Packet

/-! ### The headers of a frame -/

structure EtherHeader where
  dhost : Vector UInt8 6
  shost : Vector UInt8 6
  etherType : UInt16

def EtherHeader.bytes (h : EtherHeader) : List UInt8 :=
  h.dhost.toList ++ h.shost.toList ++ bytes16 (htons h.etherType)

/-- An IPv4 header whose `ihl` counts its own words. The words are as they lie
in memory, so the addresses are in network order. -/
structure Iphdr where
  version : Fin 16
  ihl : Fin 16
  tos : UInt8
  totLen : UInt16
  id : UInt16
  fragOff : UInt16
  ttl : UInt8
  check : UInt16
  saddr : UInt32
  daddr : UInt32
  options : List UInt8
  minimal : 5 ≤ ihl.val
  optionsLen : sizeofIphdr + options.length = ihl.val * 4

def Iphdr.bytes (h : Iphdr) (protocol : UInt8) : List UInt8 :=
  [UInt8.ofNat (16 * h.version.val + h.ihl.val), h.tos] ++ bytes16 h.totLen ++ bytes16 h.id ++
    bytes16 h.fragOff ++ [h.ttl, protocol] ++ bytes16 h.check ++ bytes32 h.saddr ++
    bytes32 h.daddr ++ h.options

structure Udphdr where
  source : UInt16
  dest : UInt16
  len : UInt16
  check : UInt16

def Udphdr.bytes (h : Udphdr) : List UInt8 :=
  bytes16 (htons h.source) ++ bytes16 (htons h.dest) ++ bytes16 h.len ++ bytes16 h.check

/-- A GRE header for Ethernet. Each option is present when its flag is set. -/
structure Grehdr where
  checksum : Option UInt32
  key : Option UInt32
  seq : Option UInt32
  res1 : Bool
  res2 : Fin 16
  res3 : Fin 32
  ver : Fin 8

def Grehdr.flags (h : Grehdr) : UInt8 :=
  UInt8.ofNat (128 * h.checksum.isSome.toNat + 64 * h.res1.toNat + 32 * h.key.isSome.toNat +
    16 * h.seq.isSome.toNat + h.res2.val)

def optionBytes : Option UInt32 → List UInt8
  | none => []
  | some word => bytes32 (htonl word)

def Grehdr.bytes (h : Grehdr) : List UInt8 :=
  [h.flags, UInt8.ofNat (8 * h.res3.val + h.ver.val)] ++ bytes16 (htons ETHERTYPE_ETHERNET) ++
    optionBytes h.checksum ++ optionBytes h.key ++ optionBytes h.seq

/-- A GRE frame over IPv4, with a UDP header in between or without one. -/
structure GreFrame where
  dhost : Vector UInt8 6
  shost : Vector UInt8 6
  ip : Iphdr
  udp : Option Udphdr
  gre : Grehdr
  inner : EtherHeader
  payload : List UInt8

namespace GreFrame

def protocol (f : GreFrame) : UInt8 := if f.udp.isSome then IPPROTO_UDP else IPPROTO_GRE

def udpBytes (f : GreFrame) : List UInt8 := f.udp.elim [] Udphdr.bytes

def bytes (f : GreFrame) : List UInt8 :=
  EtherHeader.bytes ⟨f.dhost, f.shost, ETHERTYPE_IP⟩ ++ f.ip.bytes f.protocol ++ f.udpBytes ++
    f.gre.bytes ++ f.inner.bytes ++ f.payload

/-- The tunnel a sender of this frame asks for. -/
def request (f : GreFrame) : GretapOpt :=
  { GretapOpt.zeroed with
    remote := f.ip.saddr
    localAddr := f.ip.daddr
    key := f.gre.key.getD 0
    encapType := if f.udp.isSome then TUNNEL_ENCAP_FOU else TUNNEL_ENCAP_NONE
    encapSport := f.udp.elim 0 Udphdr.dest
    encapDport := f.udp.elim 0 Udphdr.source }

/-! ### Reading the headers back -/

theorem length_optionBytes (word : Option UInt32) :
    (optionBytes word).length = optLen word.isSome := by
  cases word <;> rfl

theorem length_udpBytes (f : GreFrame) :
    f.udpBytes.length = if f.protocol = IPPROTO_UDP then sizeofUdphdr else 0 := by
  unfold udpBytes protocol
  cases f.udp <;> rfl

theorem length_ip (h : Iphdr) (protocol : UInt8) :
    (h.bytes protocol).length = h.ihl.val * 4 := by
  have hlen := h.optionsLen
  simp [Iphdr.bytes, sizeofIphdr] at hlen ⊢
  omega

theorem length_ether (h : EtherHeader) : h.bytes.length = sizeofEtherHeader := by
  simp [EtherHeader.bytes, sizeofEtherHeader]

theorem ihlBits_ip (h : Iphdr) :
    ihlBits (UInt8.ofNat (16 * h.version.val + h.ihl.val)) = h.ihl.val := by
  have hihl := h.ihl.isLt
  rw [ihlBits, UInt8.toNat_ofNat']
  omega

section Flags

variable (h : Grehdr)

theorem toNat_flags :
    h.flags.toNat = 128 * h.checksum.isSome.toNat + 64 * h.res1.toNat +
      32 * h.key.isSome.toNat + 16 * h.seq.isSome.toNat + h.res2.val := by
  have hc := h.checksum.isSome.toNat_le
  have hk := h.key.isSome.toNat_le
  have hs := h.seq.isSome.toNat_le
  have hr := h.res1.toNat_le
  have hres := h.res2.isLt
  rw [Grehdr.flags, UInt8.toNat_ofNat', Nat.mod_eq_of_lt (by omega)]

/-- A flag is the parity of what is left above its bit. -/
theorem flag_eq {n : Nat} {b : Bool} (hn : n % 2 = b.toNat) : (n % 2 == 1) = b := by
  rw [hn]
  cases b <;> rfl

theorem grehdrC_flags : grehdrC h.flags = h.checksum.isSome := by
  have hk := h.key.isSome.toNat_le
  have hs := h.seq.isSome.toNat_le
  have hr := h.res1.toNat_le
  have hres := h.res2.isLt
  have hc := h.checksum.isSome.toNat_le
  apply flag_eq
  rw [toNat_flags]
  omega

theorem grehdrK_flags : grehdrK h.flags = h.key.isSome := by
  have hk := h.key.isSome.toNat_le
  have hs := h.seq.isSome.toNat_le
  have hres := h.res2.isLt
  apply flag_eq
  rw [toNat_flags]
  omega

theorem grehdrS_flags : grehdrS h.flags = h.seq.isSome := by
  have hs := h.seq.isSome.toNat_le
  have hres := h.res2.isLt
  apply flag_eq
  rw [toNat_flags]
  omega

theorem length_gre : h.bytes.length = grehdrLen h.flags := by
  simp [Grehdr.bytes, grehdrLen, grehdrC_flags, grehdrK_flags, grehdrS_flags,
    length_optionBytes, sizeofGrehdr]
  omega

end Flags

/-! ### Parsing a built frame -/

section Parse

variable {f : GreFrame} {pkt : Packet} (h : pkt.bytes = f.bytes)

include h

/-- Where each header of the frame lies. -/
theorem headers_at :
    pkt.At 0 (EtherHeader.bytes ⟨f.dhost, f.shost, ETHERTYPE_IP⟩) ∧
      pkt.At Packet.outerIp (f.ip.bytes f.protocol) ∧
      pkt.At (Packet.outerIp + f.ip.ihl.val * 4) f.udpBytes ∧
      pkt.At (Packet.outerIp + f.ip.ihl.val * 4 + f.udpBytes.length) f.gre.bytes ∧
      pkt.At (Packet.outerIp + f.ip.ihl.val * 4 + f.udpBytes.length + f.gre.bytes.length)
        f.inner.bytes := by
  have hall := Packet.at_of_bytes_eq h
  simp only [bytes, Packet.at_append, List.length_append, length_ether, length_ip] at hall
  obtain ⟨⟨⟨⟨⟨hether, hip⟩, hudp⟩, hgre⟩, hinner⟩, -⟩ := hall
  simp only [Nat.zero_add] at hip hudp hgre hinner
  exact ⟨hether, hip, hudp, hgre, hinner⟩

theorem etherType_eq : pkt.etherType 0 = ETHERTYPE_IP := by
  have hether := (headers_at h).1
  simp only [EtherHeader.bytes, Packet.at_append] at hether
  have hword := hether.2.u16
  simp only [List.length_append, Vector.length_toList] at hword
  rw [Packet.etherType, hword, ntohs_htons]

/-- The fields of the IP header that the parser loads. -/
theorem ip_fields :
    pkt.ihl Packet.outerIp = f.ip.ihl.val ∧ pkt.protocol Packet.outerIp = f.protocol ∧
      pkt.saddr Packet.outerIp = f.ip.saddr ∧ pkt.daddr Packet.outerIp = f.ip.daddr := by
  have hip := (headers_at h).2.1
  simp only [Iphdr.bytes, Packet.at_append] at hip
  obtain ⟨⟨⟨⟨⟨⟨⟨⟨hfirst, -⟩, -⟩, -⟩, hproto⟩, -⟩, hsaddr⟩, hdaddr⟩, -⟩ := hip
  have hversion := hfirst.byte (i := 0) (by simp)
  have hprotocol := hproto.byte (i := 1) (by simp)
  refine ⟨?_, hprotocol, hsaddr.u32, hdaddr.u32⟩
  rw [Nat.add_zero] at hversion
  rw [Packet.ihl, hversion]
  exact ihlBits_ip f.ip

theorem ipEnd_eq : pkt.ipEnd = Packet.outerIp + f.ip.ihl.val * 4 := by
  rw [Packet.ipEnd, (ip_fields h).1]

theorem greOff_eq : pkt.greOff = pkt.ipEnd + f.udpBytes.length := by
  rw [Packet.greOff, Packet.udpLen, (ip_fields h).2.1, length_udpBytes]

theorem greFlags_eq : pkt.greFlags = f.gre.flags := by
  have hgre := (headers_at h).2.2.2.1
  simp only [Grehdr.bytes, Packet.at_append] at hgre
  have hflags := hgre.1.1.1.1.byte (i := 0) (by simp)
  rw [Nat.add_zero, ← ipEnd_eq h, ← greOff_eq h] at hflags
  exact hflags

theorem greProtocol_eq : pkt.greProtocol = ETHERTYPE_ETHERNET := by
  have hgre := (headers_at h).2.2.2.1
  simp only [Grehdr.bytes, Packet.at_append] at hgre
  have hword := hgre.1.1.1.2.u16
  rw [← ipEnd_eq h, ← greOff_eq h] at hword
  simp only [List.length_cons, List.length_nil] at hword
  rw [Packet.greProtocol, hword, ntohs_htons]

/-- The walk over the options ends at the key that `read_grehdr` counted. -/
theorem greKey_eq {key : UInt32} (hkey : f.gre.key = some key) : ntohl pkt.greKey = key := by
  have hgre := (headers_at h).2.2.2.1
  simp only [Grehdr.bytes, Packet.at_append] at hgre
  have hword := hgre.1.2
  rw [hkey, ← ipEnd_eq h, ← greOff_eq h] at hword
  have hload := Packet.At.u32 hword
  simp only [List.length_append, length_optionBytes, length_bytes16, List.length_cons,
    List.length_nil, ← grehdrC_flags, ← greFlags_eq h, ← Nat.add_assoc] at hload
  have hoff : pkt.greKey = htonl key := hload
  rw [hoff, ntohl_htonl]

theorem ports_eq {udp : Udphdr} (hudp : f.udp = some udp) :
    ntohs (pkt.u16 pkt.ipEnd) = udp.source ∧ ntohs (pkt.u16 (pkt.ipEnd + 2)) = udp.dest := by
  have hheader := (headers_at h).2.2.1
  simp only [udpBytes, hudp, Option.elim_some, Udphdr.bytes, Packet.at_append] at hheader
  obtain ⟨⟨⟨hsource, hdest⟩, -⟩, -⟩ := hheader
  rw [← ipEnd_eq h] at hsource hdest
  have hdest' : pkt.u16 (pkt.ipEnd + 2) = htons udp.dest := hdest.u16
  rw [hsource.u16, hdest', ntohs_htons, ntohs_htons]
  exact ⟨rfl, rfl⟩

theorem accepts : Dygrefou.Accepts pkt := by
  obtain ⟨hihl, hproto, -, -⟩ := ip_fields h
  have hinner := (headers_at h).2.2.2.2
  have hend := hinner.fits (by rw [length_ether]; decide)
  rw [length_ether, ← ipEnd_eq h, ← greOff_eq h, length_gre, ← greFlags_eq h] at hend
  have hoff : pkt.greOff = pkt.ipEnd + pkt.udpLen := rfl
  have hlen : pkt.greLen = grehdrLen pkt.greFlags := rfl
  have hip : pkt.ipEnd = sizeofEtherHeader + pkt.ihl Packet.outerIp * 4 := rfl
  have hroom : pkt.room = pkt.pktlen - sizeofEtherHeader - pkt.ihl Packet.outerIp * 4 :=
    sizeSub_of_le (by omega)
  have hminimal := f.ip.minimal
  refine ⟨⟨?_, etherType_eq h⟩, ?_, ?_, greProtocol_eq h⟩
  · rw [hihl] at hip
    unfold sizeofEtherHeader sizeofIphdr at *
    omega
  · rw [hproto, protocol]
    cases f.udp.isSome
    · exact Or.inl rfl
    · exact Or.inr rfl
  · omega

theorem reported_eq : Dygrefou.reported pkt GretapOpt.zeroed = f.request := by
  obtain ⟨-, hproto, hsaddr, hdaddr⟩ := ip_fields h
  have hkey : (if grehdrK pkt.greFlags then ntohl pkt.greKey else GretapOpt.zeroed.key) =
      f.gre.key.getD 0 := by
    rw [greFlags_eq h, grehdrK_flags]
    cases hkey : f.gre.key with
    | none => rfl
    | some key => exact greKey_eq h hkey
  unfold Dygrefou.reported request
  rw [hsaddr, hdaddr, hproto, hkey, protocol]
  cases hudp : f.udp with
  | none =>
      have hne : IPPROTO_GRE ≠ IPPROTO_UDP := by decide
      simp [hne, GretapOpt.zeroed]
  | some udp =>
      obtain ⟨hsource, hdest⟩ := ports_eq h hudp
      simp [hsource, hdest]

end Parse

/-- The parser reads back every frame as the request it was built from. -/
theorem parsePacket_built (f : GreFrame) (pkt : Packet) (h : pkt.bytes = f.bytes) :
    (Dygrefou.parsePacket pkt GretapOpt.zeroed).val = (0, f.request) := by
  rw [Dygrefou.parsePacket_of_accepts _ (accepts h), reported_eq h]

/-- The frame between other hosts. -/
def readdressed (f : GreFrame) (saddr daddr : UInt32) : GreFrame :=
  { f with ip := { f.ip with saddr := saddr, daddr := daddr } }

/-- A frame over UDP with an IP option, a GRE checksum and a key, whose inner
IP header is cut off. -/
def keyedFrame : GreFrame where
  dhost := Vector.replicate 6 0x02
  shost := Vector.replicate 6 0x04
  ip :=
    { version := 4, ihl := 6, tos := 0, totLen := 0x3d00, id := 0, fragOff := 0, ttl := 64
      check := 0, saddr := 0x0102a8c0, daddr := 0x0202a8c0, options := [1, 1, 1, 0]
      minimal := by decide, optionsLen := by decide }
  udp := some { source := 40000, dest := 5555, len := 0x2500, check := 0 }
  gre :=
    { checksum := some 7, key := some 0x12345678, seq := none, res1 := false, res2 := 0
      res3 := 0, ver := 0 }
  inner := ⟨Vector.replicate 6 0x06, Vector.replicate 6 0x08, ETHERTYPE_IP⟩
  payload := [0x45, 0, 0]

def keyedPacket : Packet where
  bytes := keyedFrame.bytes
  stale := fun _ => 0
  inbound := true
  fits := by decide

theorem parsePacket_keyedPacket :
    (Dygrefou.parsePacket keyedPacket GretapOpt.zeroed).val = (0, keyedFrame.request) :=
  parsePacket_built keyedFrame keyedPacket rfl

end GreFrame

end DynamicGre

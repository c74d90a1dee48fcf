import DynamicGre.Daemon.Law
import DynamicGre.Packet.Captured
import DynamicGre.Packet.Layout

/-!
The installed filter and the parser on one frame. Of an IPv4 frame that passed,
the parser reads the UDP header that the filter tested or none.
-/

namespace DynamicGre

open Bytes Pcap

section Headers

variable {pkt : Packet}

theorem headerEnds_parseOuter_of_not_hasIp (h : ¬pkt.HasIp) :
    (parseOuter pkt).select Event.headerEnd <+: [Packet.outerIp] := by
  cases Nat.lt_or_ge pkt.pktlen sizeofEtherHeader with
  | inl hshort =>
      have hstart : pkt.start.buflen < sizeofEtherHeader := hshort
      simp [parseOuter, hexdumpLoads, readEthhdr, hstart]
  | inr hether =>
      have hread := Packet.readEthhdr_start hether
      have hstart : ¬pkt.start.buflen < sizeofEtherHeader := not_lt.mpr hether
      have hfirst : pkt.start.off + sizeofEtherHeader = Packet.outerIp := Nat.zero_add _
      by_cases htype : ntohs (pkt.u16 12) = ETHERTYPE_IP
      · have hcursor : pkt.etherCursor.buflen < sizeofIphdr := by
          change pkt.pktlen - sizeofEtherHeader < sizeofIphdr
          by_contra hlong
          exact h ⟨by omega, htype⟩
        simp [parseOuter, hexdumpLoads, hread, htype, readIphdr, hcursor,
          headerEnds_readEthhdr hstart, hfirst]
      · simp [parseOuter, hexdumpLoads, hread, htype, headerEnds_readEthhdr hstart, hfirst]

namespace Dygrefou

variable (opt : GretapOpt)

/-- Of a frame for UDP, the parser reads the eight bytes that follow the IP header
where there are so many, and otherwise no header behind it. -/
theorem headerEnds_of_udp (hproto : pkt.protocol Packet.outerIp = IPPROTO_UDP) :
    ((¬pkt.HasIp ∨ pkt.room < sizeofUdphdr) ∧
        headerEnds (parsePacket pkt opt) <+: [Packet.outerIp, pkt.ipEnd]) ∨
      (pkt.HasIp ∧ sizeofUdphdr ≤ pkt.room ∧
        [Packet.outerIp, pkt.ipEnd, pkt.ipEnd + sizeofUdphdr] <+:
          headerEnds (parsePacket pkt opt)) := by
  by_cases hip : pkt.HasIp
  · have houter : headerEnds (parsePacket pkt opt) = [Packet.outerIp, pkt.ipEnd] ++
        (parseUdp pkt (pkt.protocol Packet.outerIp) pkt.ipCursor
          (addressed pkt opt)).select Event.headerEnd := by
      rw [headerEnds, parsePacket, Logged.select_bind, Packet.headerEnds_parseOuter hip,
        hip.parseOuter]
      simp only [Logged.select_bind, headerEnds_load32, headerEnds_load8, Packet.val_load8,
        Packet.val_load32, List.nil_append]
      rfl
    rw [houter, parseUdp, if_pos hproto, Logged.select_bind]
    cases Nat.lt_or_ge pkt.room sizeofUdphdr with
    | inl hshort =>
        have hread : pkt.ipCursor.buflen < sizeofUdphdr := hshort
        refine Or.inl ⟨Or.inr hshort, ?_⟩
        simp [readUdphdr, hread]
    | inr hroom =>
        have hread : ¬pkt.ipCursor.buflen < sizeofUdphdr := not_lt.mpr hroom
        refine Or.inr ⟨hip, hroom, ?_⟩
        rw [headerEnds_readUdphdr hread]
        exact List.prefix_append [Packet.outerIp, pkt.ipEnd, pkt.ipEnd + sizeofUdphdr] _
  · refine Or.inl ⟨Or.inl hip, ?_⟩
    have houter : headerEnds (parsePacket pkt opt) = (parseOuter pkt).select Event.headerEnd := by
      rw [headerEnds, parsePacket, Logged.select_bind, Packet.parseOuter_of_not_hasIp hip]
      exact List.append_nil _
    rw [houter]
    exact (headerEnds_parseOuter_of_not_hasIp hip).trans ⟨[pkt.ipEnd], rfl⟩

/-- Once the UDP header was read its ports are stored, accepted or not. -/
theorem ports_of_udp (hip : pkt.HasIp) (hproto : pkt.protocol Packet.outerIp = IPPROTO_UDP)
    (hroom : sizeofUdphdr ≤ pkt.room) :
    (parsePacket pkt opt).val.2.encapDport = ntohs (pkt.u16 pkt.ipEnd) ∧
      (parsePacket pkt opt).val.2.encapSport = ntohs (pkt.u16 (pkt.ipEnd + 2)) := by
  obtain ⟨key, hkey⟩ := parseGre_key pkt IPPROTO_UDP (pkt.ipCursor.advance sizeofUdphdr)
    (encapsulated pkt opt)
  rw [parsePacket_of_udp opt hip hproto, if_neg (not_lt.mpr hroom), hkey]
  exact ⟨rfl, rfl⟩

end Dygrefou

end Headers

/-- Of an IPv4 frame that the filter of `build_filter` let through, the parser
dereferences captured bytes only and reads the UDP header that the filter tested
unless too little was captured for its own bounds.
Where it returns 0 the frame is for the tunnel port and from an endpoint that
no tunnel of the list had. -/
theorem parsePacket_agrees_with_filter {k : Kernel} {env : BuildEnv} {table : LinkTable}
    {installed : Option Expr} {filter : Expr} {pkt : Packet} (opt : GretapOpt)
    (hbuilt : buildFilter k env table installed = (0, some filter))
    (hread : ∀ link ∈ table, (env.tunnel link.name).Ok)
    (hip4 : pkt.frame.half 12 = some 0x0800) (hpass : filter.accepts pkt.frame = true) :
    MemorySafe pkt (Dygrefou.parsePacket pkt opt) ∧
    (∃ udp, pkt.frame.ip4End = some udp ∧ pkt.frame.udpSource = pkt.frame.half udp ∧
      pkt.frame.udpDest = pkt.frame.half (udp + 2) ∧
      (((¬pkt.HasIp ∨ pkt.room < sizeofUdphdr) ∧
          headerEnds (Dygrefou.parsePacket pkt opt) <+: [Packet.outerIp, udp]) ∨
        [Packet.outerIp, udp, udp + sizeofUdphdr] <+:
            headerEnds (Dygrefou.parsePacket pkt opt) ∧
          pkt.frame.udpSource = some (Dygrefou.parsePacket pkt opt).val.2.encapDport ∧
          pkt.frame.udpDest = some (Dygrefou.parsePacket pkt opt).val.2.encapSport)) ∧
    ((Dygrefou.parsePacket pkt opt).val.1 = 0 →
      let parsed := (Dygrefou.parsePacket pkt opt).val.2
      parsed.encapType = TUNNEL_ENCAP_FOU ∧ parsed.encapSport = 5555 ∧
      (0 ≤ env.alloc → ∀ link ∈ table, ¬link.Serves (parsed.remote, parsed.encapDport))) := by
  have hfilter : filter = filterExpr (reportedAll env table) := by
    rcases buildFilter_outcome k env table installed with ⟨hfails, -⟩ | ⟨_, -, hinstalls, -⟩
    · have hcode : (0 : Int) = -1 := congrArg Prod.fst (hbuilt.symm.trans hfails)
      exact absurd hcode (by decide)
    · rw [buildFilter_of_installs hinstalls] at hbuilt
      exact (Option.some.inj (congrArg Prod.snd hbuilt)).symm
  rw [hfilter] at hpass
  obtain ⟨-, hdest, hnone⟩ := accepts_filterExpr.mp hpass
  obtain ⟨hudp4, udp, hend, hsource, hport⟩ := Frame.isUdp4_of_udpDest hip4 hdest
  have hproto := Packet.protocol_of_isUdp4 hudp4
  have hipEnd := Packet.ipEnd_of_ip4End hend
  have hcaptured : udp + 2 + 2 ≤ pkt.pktlen := Packet.lt_of_half_frame hport
  refine ⟨?_, ⟨udp, hend, hsource, hdest.trans hport.symm, ?_⟩, ?_⟩
  · rw [Dygrefou.memorySafe_parsePacket_iff]
    intro _ _
    omega
  · have hends := Dygrefou.headerEnds_of_udp opt hproto
    rw [hipEnd] at hends
    rcases hends with hshort | ⟨hip, hroom, hlong⟩
    · exact Or.inl hshort
    · obtain ⟨hdport, hsport⟩ := Dygrefou.ports_of_udp opt hip hproto hroom
      rw [hipEnd] at hdport hsport
      refine Or.inr ⟨hlong, ?_, ?_⟩
      · rw [hsource, hdport, Packet.half_frame (by omega)]
      · rw [hdest, ← hport, hsport, Packet.half_frame hcaptured]
  · intro hzero
    have haccepts := (Dygrefou.parsePacket_eq_zero_iff opt).mp hzero
    have hip := haccepts.1
    obtain ⟨-, -, hdport⟩ := hip.udp_of_udpDest hdest
    have hfrom := hip.from_of_udpDest hdest
    rw [Dygrefou.parsePacket_of_accepts opt haccepts]
    refine ⟨if_pos hproto, (if_pos hproto).trans hdport, ?_⟩
    intro halloc link hlink hserves
    have hreported : (pkt.saddr Packet.outerIp, ntohs (pkt.u16 pkt.ipEnd)) ∈
        reportedAll env table := by
      refine mem_reportedAll.mpr ⟨halloc, link, hlink, ?_, hread link hlink⟩
      have hsent : (Dygrefou.reported pkt opt).encapDport = ntohs (pkt.u16 pkt.ipEnd) :=
        if_pos hproto
      rw [← hsent]
      exact hserves
    exact hnone _ hreported hfrom

/-- A client at another address passes the filter of a table with one tunnel. -/
theorem parsePacket_agrees_with_filter_rekeyed :
    MemorySafe rekeyedPacket (Dygrefou.parsePacket rekeyedPacket GretapOpt.zeroed) ∧
    (Dygrefou.parsePacket rekeyedPacket GretapOpt.zeroed).val.2.encapSport = 5555 := by
  have hread : GetTunnelEnv.good.Ok := by decide
  obtain ⟨hsafe, -, haccepted⟩ := @parsePacket_agrees_with_filter Kernel.plain BuildEnv.good
    oneTunnel none _ rekeyedPacket GretapOpt.zeroed (buildFilter_of_installs (by decide))
    (fun _ _ => hread) (by decide) (by decide)
  have haccepts : Dygrefou.Accepts rekeyedPacket := GreFrame.accepts rfl
  exact ⟨hsafe, (haccepted ((Dygrefou.parsePacket_eq_zero_iff _).mpr haccepts)).2.1⟩

end DynamicGre

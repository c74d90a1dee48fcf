import DynamicGre.Daemon.Invariant
import DynamicGre.Packet.Layout

/-!
Where the live tunnels come from, and whom the filter hides. Each tunnel is the
one that an earlier accepted frame asked for. The filter knows the endpoint of
a frame only, so it also hides a frame whose local address or key no tunnel
has.
-/

namespace DynamicGre

open Bytes Pcap

section History

variable {k : Kernel} {master : Int32} {s : State} {pkt : Packet}

/-- A datagram for the tunnel port is let in exactly when no tunnel has its
endpoint. -/
theorem passes_iff_fresh {r : Registry IfName Tunnel} (h : Shows s r)
    (haccepts : Dygrefou.Accepts pkt) (hin : pkt.inbound = true)
    (hdest : pkt.frame.udpDest = some 5555) :
    passes s.installed pkt.frame = true ↔ senderOf pkt ∉ liveEndpoints r := by
  constructor
  · intro hpass
    exact (fresh_of_passes h haccepts hpass).2
  · intro hfresh
    refine (h.filter _).mpr ⟨hin, hdest, ?_⟩
    intro ep hep hfrom
    have hip := haccepts.1
    have hudp := Packet.protocol_of_isUdp4 (hip.udp_of_udpDest hdest).1
    have hsender : ep = senderOf pkt := by
      rw [senderOf_of_udp hudp]
      exact from_inj hfrom (hip.from_of_udpDest hdest)
    exact hfresh (hsender ▸ hep)

end History

/-- In every state of a run without failing calls from a table without `dygre-`
links, a frame that the parser would accept but the filter hides comes from the
endpoint of a live tunnel, which has the local address and the key of an earlier
frame from there. -/
theorem hidden_has_tunnel (k : Kernel) (master : Int32) (table : LinkTable) (env : BuildEnv)
    (arrivals : List Arrival) (pkt : Packet)
    (hstart : ∀ link ∈ table, link.name.hasPrefix TUNNEL_PREFIX = false) (henv : env.Ok)
    (hcalm : ∀ arrival ∈ arrivals, Calm arrival) (hin : pkt.inbound = true)
    (hdest : pkt.frame.udpDest = some 5555) (haccepts : Dygrefou.Accepts pkt) :
    let s := Runs.run (step k master) ⟨table, (buildFilter k env table none).2⟩ arrivals
    passes s.installed pkt.frame = false →
      ∃ link ∈ s.table, ∃ parms ∈ link.tunnel,
        parms.remote = pkt.saddr Packet.outerIp ∧
        ntohs parms.encapDport = ntohs (pkt.u16 pkt.ipEnd) ∧
        ∃ earlier fenv, .frame earlier fenv ∈ arrivals ∧ Dygrefou.Accepts earlier ∧
          senderOf earlier = senderOf pkt ∧ parms.localAddr = earlier.daddr Packet.outerIp ∧
          parms.ikey = htonl (frameKey earlier) ∧ parms.okey = htonl (frameKey earlier) := by
  intro s hhidden
  have hstarted := (inv_of_no_links (k := k) henv hstart).1
  have hrun : Shows s (Runs.run (registryStep master) (registry table) arrivals) :=
    hstarted.run hcalm
  have hshows : Shows s (registry s.table) := by
    rw [hrun.table]
    exact hrun
  have hlive : senderOf pkt ∈ liveEndpoints (registry s.table) := by
    by_contra hfresh
    rw [(passes_iff_fresh hshows haccepts hin hdest).mpr hfresh] at hhidden
    cases hhidden
  obtain ⟨name, t, ht, hendpoint⟩ := hlive
  obtain ⟨link, hlink, hname, hmaster, hparms⟩ := mem_registry.mp ht
  have hip := haccepts.1
  have hsender := senderOf_of_udp (Packet.protocol_of_isUdp4 (hip.udp_of_udpDest hdest).1)
  have hpair : (t.parms.remote, ntohs t.parms.encapDport) = senderOf pkt := hendpoint
  rw [hsender] at hpair
  rw [hrun.table, run_registryStep] at ht
  rcases Registry.mem_or_mem_of_serveAll ht with hold | hasked
  · have hnone := registry_of_no_links hstart name
    rw [Option.mem_def, hnone] at hold
    cases hold
  · obtain ⟨earlier, fenv, hmem, hearlier, -, rfl⟩ := mem_requests.mp hasked
    refine ⟨link, hlink, _, hparms, congrArg Prod.fst hpair, congrArg Prod.snd hpair, earlier,
      fenv, hmem, hearlier, ?_, rfl, rfl, rfl⟩
    rw [← hendpoint, endpoint_tunnelOf]

/-! ### A client that is never served -/

/-- The state after one client was served. -/
def servedOne : State :=
  Runs.run (step Kernel.plain 3)
    ⟨noLinks, (buildFilter Kernel.plain BuildEnv.good noLinks none).2⟩
    [.frame GreFrame.keyedPacket FrameEnv.good]

/-- The same endpoint with another key. -/
def otherKeyPacket : Packet where
  bytes := { GreFrame.keyedFrame with
    gre := { GreFrame.keyedFrame.gre with key := some 0x9abcdef0 } }.bytes
  stale := fun _ => 0
  inbound := true
  fits := by decide

/-- The same endpoint and key, sent to another address of the gateway. -/
def otherLocalPacket : Packet where
  bytes := (GreFrame.keyedFrame.readdressed 0x0102a8c0 0x0902a8c0).bytes
  stale := fun _ => 0
  inbound := true
  fits := by decide

theorem shows_servedOne : Shows servedOne
    (Registry.serve (registry noLinks) (frameName GreFrame.keyedPacket)
      (tunnelOf 3 GreFrame.keyedPacket)) := by
  have hstarted := shows_of_build (k := Kernel.plain) BuildEnv.good_ok noLinks none
  have hcalm : Calm (.frame GreFrame.keyedPacket FrameEnv.good) := FrameEnv.good_ok
  have haccepts : Dygrefou.Accepts GreFrame.keyedPacket := GreFrame.accepts rfl
  have hstep : Shows (step Kernel.plain 3 _ (.frame GreFrame.keyedPacket FrameEnv.good))
      (registryStep 3 _ (.frame GreFrame.keyedPacket FrameEnv.good)) := hstarted.step hcalm
  rwa [registryStep_of_accepts _ haccepts] at hstep

theorem servedOne_hides {pkt : Packet} (haccepts : Dygrefou.Accepts pkt)
    (hin : pkt.inbound = true) (hdest : pkt.frame.udpDest = some 5555)
    (hsender : senderOf pkt = senderOf GreFrame.keyedPacket) :
    passes servedOne.installed pkt.frame = false := by
  rw [← Bool.not_eq_true, passes_iff_fresh shows_servedOne haccepts hin hdest, not_not]
  apply Registry.mem_endpoints_serve.mpr
  rw [endpoint_tunnelOf]
  exact Or.inl hsender

/-- The only tunnel is that of the first client. -/
theorem tunnels_servedOne {link : Link} (hlink : link ∈ servedOne.table) {parms : GreParms}
    (hparms : parms ∈ link.tunnel) : parms = (tunnelOf 3 GreFrame.keyedPacket).parms := by
  have haccepts : Dygrefou.Accepts GreFrame.keyedPacket := GreFrame.accepts rfl
  have hstep : link ∈ (step Kernel.plain 3
      ⟨noLinks, (buildFilter Kernel.plain BuildEnv.good noLinks none).2⟩
      (.frame GreFrame.keyedPacket FrameEnv.good)).table := hlink
  rcases (mem_step_table haccepts FrameEnv.good_ok).mp hstep with rfl | ⟨hold, -⟩
  · rw [tunnel_tunnelLink] at hparms
    exact (Option.some.inj hparms).symm
  · cases hold

theorem hidden_has_tunnel_otherKey :
    ∃ link ∈ servedOne.table, ∃ parms ∈ link.tunnel,
      parms.remote = otherKeyPacket.saddr Packet.outerIp ∧
      ntohs parms.encapDport = ntohs (otherKeyPacket.u16 otherKeyPacket.ipEnd) ∧
      ∃ earlier fenv, Arrival.frame earlier fenv ∈
          [Arrival.frame GreFrame.keyedPacket FrameEnv.good] ∧
        Dygrefou.Accepts earlier ∧ senderOf earlier = senderOf otherKeyPacket ∧
        parms.localAddr = earlier.daddr Packet.outerIp ∧
        parms.ikey = htonl (frameKey earlier) ∧ parms.okey = htonl (frameKey earlier) :=
  hidden_has_tunnel Kernel.plain 3 noLinks BuildEnv.good
    [.frame GreFrame.keyedPacket FrameEnv.good] otherKeyPacket (fun _ h => nomatch h)
    BuildEnv.good_ok (by rintro _ (_ | ⟨_, h⟩); exact FrameEnv.good_ok; cases h) rfl (by decide)
    (GreFrame.accepts rfl) (servedOne_hides (GreFrame.accepts rfl) rfl (by decide) (by decide))

/-- A tunnel request that the filter hides, though no tunnel has its addresses,
its port and its key. -/
def Lost (s : State) (pkt : Packet) : Prop :=
  (pkt.inbound = true ∧ pkt.frame.udpDest = some 5555 ∧ pkt.WellFormed ∧ Dygrefou.Accepts pkt ∧
    frameKey pkt ≠ 0) ∧
  passes s.installed pkt.frame = false ∧
  ¬∃ link ∈ s.table, ∃ parms ∈ link.tunnel,
    parms.remote = pkt.saddr Packet.outerIp ∧ parms.localAddr = pkt.daddr Packet.outerIp ∧
    ntohs parms.encapDport = ntohs (pkt.u16 pkt.ipEnd) ∧ parms.ikey = htonl (frameKey pkt)

/-- A frame from an endpoint with a tunnel is lost, whether it has another key
or another local address. -/
theorem hidden_without_tunnel :
    Lost servedOne otherKeyPacket ∧ Lost servedOne otherLocalPacket := by
  constructor
  · have haccepts : Dygrefou.Accepts otherKeyPacket := GreFrame.accepts rfl
    refine ⟨⟨rfl, by decide, by decide, haccepts, by decide⟩,
      servedOne_hides haccepts rfl (by decide) (by decide), ?_⟩
    rintro ⟨link, hlink, parms, hparms, -, -, -, hkey⟩
    rw [tunnels_servedOne hlink hparms] at hkey
    exact absurd (htonl_inj.mp hkey) (by decide)
  · have haccepts : Dygrefou.Accepts otherLocalPacket := GreFrame.accepts rfl
    refine ⟨⟨rfl, by decide, by decide, haccepts, by decide⟩,
      servedOne_hides haccepts rfl (by decide) (by decide), ?_⟩
    rintro ⟨link, hlink, parms, hparms, -, hlocal, -, -⟩
    rw [tunnels_servedOne hlink hparms] at hlocal
    exact absurd hlocal (by decide)

end DynamicGre

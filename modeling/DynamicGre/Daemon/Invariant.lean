import DynamicGre.Daemon.Refinement
import DynamicGre.Packet.Build

/-!
Runs of the daemon in which no call fails and every frame has passed the filter
in force. The filter shows the live tunnels exactly, so a frame that passes it
comes from an endpoint without a tunnel; that keeps the endpoints apart, which
in turn keeps the filter exact.
-/

namespace DynamicGre

open Bytes Pcap

/-- The calls succeed, and the frame has passed the filter. -/
def Normal (s : State) : Arrival → Prop
  | .timeout => True
  | .frame pkt env => env.Ok ∧ passes s.installed pkt.frame = true

/-- The key field of a frame, zero without one. -/
def frameKey (pkt : Packet) : UInt32 :=
  if grehdrK pkt.greFlags then ntohl pkt.greKey else 0

/-- The link carries the parameters of the frame: its addresses, its key, FOU
and its ports the other way round. -/
structure ServesFrame (master : Int32) (pkt : Packet) (link : Link) : Prop where
  name : link.name =
    tunnelName (if frameKey pkt ≠ 0 then frameKey pkt else pkt.saddr Packet.outerIp)
  master : link.master = master
  parms : ∃ parms, link.kind = .gretap parms ∧
    parms.remote = pkt.saddr Packet.outerIp ∧ parms.localAddr = pkt.daddr Packet.outerIp ∧
    parms.ikey = htonl (frameKey pkt) ∧ parms.okey = htonl (frameKey pkt) ∧
    parms.iflags = (if frameKey pkt ≠ 0 then GRE_KEY else 0) ∧
    parms.oflags = (if frameKey pkt ≠ 0 then GRE_KEY else 0) ∧
    parms.encapType = TUNNEL_ENCAP_FOU.toUInt16 ∧
    ntohs parms.encapDport = ntohs (pkt.u16 pkt.ipEnd) ∧
    ntohs parms.encapSport = ntohs (pkt.u16 (pkt.ipEnd + 2))

/-- What holds after an iteration that led from `s` to `s'`. -/
structure AfterIteration (master : Int32) (s : State) (arrival : Arrival) (s' : State) :
    Prop where
  filter : ∀ f : Frame, f.inbound = true → (passes s'.installed f = true ↔
    f.udpDest = some 5555 ∧ ∀ link ∈ s'.table, ∀ ep, link.Serves ep → ¬f.From ep.1 ep.2)
  names : ((s'.table.entries.filter (·.tunnel.isSome)).map Link.name).Nodup
  endpoints : ∀ a ∈ s'.table, ∀ b ∈ s'.table, ∀ ep, a.Serves ep → b.Serves ep → a = b
  served : ∀ pkt env, arrival = .frame pkt env → Dygrefou.Accepts pkt →
    ∃ link ∈ s'.table, ServesFrame master pkt link
  others : ∀ pkt env, arrival = .frame pkt env → Dygrefou.Accepts pkt →
    ∀ link, link.name ≠ frameName pkt → (link ∈ s'.table ↔ link ∈ s.table)

/-- The filter shows the links, and no two tunnels share an endpoint. -/
def Inv (s : State) : Prop :=
  Shows s (registry s.table) ∧ (registry s.table).Unique Tunnel.endpoint

section Invariant

variable {k : Kernel} {master : Int32} {s : State} {pkt : Packet} {env : FrameEnv}

theorem senderOf_of_udp (h : pkt.protocol Packet.outerIp = IPPROTO_UDP) :
    senderOf pkt = (pkt.saddr Packet.outerIp, ntohs (pkt.u16 pkt.ipEnd)) := by
  simp [senderOf, Dygrefou.reported, h]

/-- A frame that passed the filter came over UDP, from an endpoint without a
tunnel. -/
theorem fresh_of_passes {r : Registry IfName Tunnel} (h : Shows s r)
    (haccepts : Dygrefou.Accepts pkt) (hpass : passes s.installed pkt.frame = true) :
    pkt.protocol Packet.outerIp = IPPROTO_UDP ∧ senderOf pkt ∉ liveEndpoints r := by
  obtain ⟨-, hdest, hnone⟩ := (h.filter _).mp hpass
  have hip := haccepts.1
  have hudp := Packet.protocol_of_isUdp4 (hip.udp_of_udpDest hdest).1
  refine ⟨hudp, fun hlive => hnone _ hlive ?_⟩
  rw [senderOf_of_udp hudp]
  exact hip.from_of_udpDest hdest

theorem servesFrame_tunnelLink (hudp : pkt.protocol Packet.outerIp = IPPROTO_UDP) :
    ServesFrame master pkt (tunnelLink (requestOf master pkt)) := by
  have hkey : (Dygrefou.reported pkt GretapOpt.zeroed).key = frameKey pkt := rfl
  have htype : (Dygrefou.reported pkt GretapOpt.zeroed).encapType = TUNNEL_ENCAP_FOU := if_pos hudp
  have hsent (port : UInt16) : sentPort (requestOf master pkt) port = port := by
    apply if_pos
    change (Dygrefou.reported pkt GretapOpt.zeroed).encapType ≠ TUNNEL_ENCAP_NONE
    rw [htype]
    decide
  have hdport : (Dygrefou.reported pkt GretapOpt.zeroed).encapDport = ntohs (pkt.u16 pkt.ipEnd) :=
    if_pos hudp
  have hsport : (Dygrefou.reported pkt GretapOpt.zeroed).encapSport =
      ntohs (pkt.u16 (pkt.ipEnd + 2)) := if_pos hudp
  refine ⟨?_, rfl, GreParms.ofOpt (requestOf master pkt), rfl, rfl, rfl, rfl, rfl, rfl, rfl, ?_,
    ?_, ?_⟩
  · change interfaceName (Dygrefou.reported pkt GretapOpt.zeroed) = _
    rw [interfaceName, hkey]
    split <;> rfl
  · change (Dygrefou.reported pkt GretapOpt.zeroed).encapType.toUInt16 = _
    rw [htype]
  · change ntohs (htons (sentPort _ _)) = _
    rw [ntohs_htons, hsent]
    exact hdport
  · change ntohs (htons (sentPort _ _)) = _
    rw [ntohs_htons, hsent]
    exact hsport

/-- One normal iteration keeps the invariant. -/
theorem inv_step (h : Inv s) {arrival : Arrival} (hnormal : Normal s arrival) :
    Inv (step k master s arrival) := by
  obtain ⟨hshows, hunique⟩ := h
  cases arrival with
  | timeout => exact ⟨hshows, hunique⟩
  | frame pkt env =>
      obtain ⟨hok, hpass⟩ := hnormal
      have hnext : Shows (step k master s (.frame pkt env))
          (registryStep master (registry s.table) (.frame pkt env)) := hshows.step hok
      have htable := hnext.table
      by_cases haccepts : Dygrefou.Accepts pkt
      · obtain ⟨-, hfresh⟩ := fresh_of_passes hshows haccepts hpass
        rw [Inv, htable]
        refine ⟨hnext, ?_⟩
        rw [registryStep_of_accepts _ haccepts]
        apply Registry.unique_serve hunique
        rwa [endpoint_tunnelOf]
      · rw [step_of_not_accepts haccepts]
        exact ⟨hshows, hunique⟩

theorem eq_of_serves (h : Inv s) {a b : Link} (ha : a ∈ s.table) (hb : b ∈ s.table)
    {ep : Endpoint} (hsa : a.Serves ep) (hsb : b.Serves ep) : a = b := by
  obtain ⟨pa, hpa, hea⟩ := hsa
  obtain ⟨pb, hpb, heb⟩ := hsb
  apply s.table.eq_of_key_eq ha hb
  exact h.2 a.name b.name ⟨a.master, pa⟩ ⟨b.master, pb⟩
    (mem_registry.mpr ⟨a, ha, rfl, rfl, hpa⟩) (mem_registry.mpr ⟨b, hb, rfl, rfl, hpb⟩)
    (hea.trans heb.symm)

theorem afterIteration (h : Inv s) {arrival : Arrival} (hnormal : Normal s arrival) :
    AfterIteration master s arrival (step k master s arrival) := by
  have hinv : Inv (step k master s arrival) := inv_step h hnormal
  refine ⟨?_, ?_, ?_, ?_, ?_⟩
  · intro f hin
    rw [hinv.1.filter]
    constructor
    · rintro ⟨-, hdest, hnone⟩
      exact ⟨hdest, fun link hlink ep hserves =>
        hnone ep (mem_liveEndpoints.mpr ⟨link, hlink, hserves⟩)⟩
    · rintro ⟨hdest, hnone⟩
      refine ⟨hin, hdest, fun ep hep => ?_⟩
      obtain ⟨link, hlink, hserves⟩ := mem_liveEndpoints.mp hep
      exact hnone link hlink ep hserves
  · exact (step k master s arrival).table.nodup.sublist (List.filter_sublist.map _)
  · intro a ha b hb ep hsa hsb
    exact eq_of_serves hinv ha hb hsa hsb
  · rintro pkt env rfl haccepts
    obtain ⟨hudp, -⟩ := fresh_of_passes h.1 haccepts hnormal.2
    exact ⟨_, (mem_step_table haccepts hnormal.1).mpr (Or.inl rfl), servesFrame_tunnelLink hudp⟩
  · rintro pkt env rfl haccepts link hname
    rw [mem_step_table haccepts hnormal.1]
    constructor
    · rintro (rfl | ⟨hold, -⟩)
      · exact absurd rfl hname
      · exact hold
    · intro hold
      exact Or.inr ⟨hold, hname⟩

theorem registry_of_no_links {table : LinkTable}
    (hstart : ∀ link ∈ table, link.name.hasPrefix TUNNEL_PREFIX = false) (name : IfName) :
    registry table name = none := by
  apply Option.eq_none_iff_forall_not_mem.mpr
  intro t ht
  obtain ⟨link, hlink, -, -, hparms⟩ := mem_registry.mp ht
  obtain ⟨-, hprefix⟩ := Link.tunnel_eq_some_iff.mp hparms
  rw [hstart link hlink] at hprefix
  cases hprefix

theorem inv_of_no_links {table : LinkTable} {benv : BuildEnv} (hok : benv.Ok)
    (hstart : ∀ link ∈ table, link.name.hasPrefix TUNNEL_PREFIX = false) :
    Inv ⟨table, (buildFilter k benv table none).2⟩ :=
  ⟨shows_of_build hok table none, Registry.unique_of_empty (registry_of_no_links hstart)⟩

end Invariant

/-- Starting with no `dygre-` links, after every normal iteration the filter is
exact, the tunnels have distinct names and endpoints, an accepted frame has its
link, and no link of another name was touched. -/
theorem run_afterIteration (k : Kernel) (master : Int32) (table : LinkTable) (env : BuildEnv)
    (arrivals : List Arrival)
    (hstart : ∀ link ∈ table, link.name.hasPrefix TUNNEL_PREFIX = false) (henv : env.Ok)
    (hrun : Runs.Along (step k master) Normal ⟨table, (buildFilter k env table none).2⟩
      arrivals) :
    Runs.Along (step k master)
      (fun s arrival => AfterIteration master s arrival (step k master s arrival))
      ⟨table, (buildFilter k env table none).2⟩ arrivals := by
  refine Runs.Along.strengthen Inv ?_ hrun (inv_of_no_links henv hstart)
  intro s arrival hinv hnormal
  exact ⟨inv_step hinv hnormal, afterIteration hinv hnormal⟩

def noLinks : LinkTable where
  entries := []
  nodup := List.nodup_nil

def FrameEnv.good : FrameEnv where
  destroy := ⟨0, 0⟩
  create := CreateEnv.good
  build := BuildEnv.good

theorem BuildEnv.good_ok : BuildEnv.good.Ok where
  alloc := Int.le_refl 0
  tunnel := fun _ => ⟨Int.le_refl 0, Int.le_refl 0, rfl, Int.le_refl 0, Int.le_refl 0⟩
  installs := by decide

theorem FrameEnv.good_ok : FrameEnv.good.Ok where
  alloc := Int.le_refl 0
  delete := Int.le_refl 0
  roomy := ⟨rfl, Nat.le_refl 15⟩
  send := Int.le_refl 0
  build := BuildEnv.good_ok

theorem run_afterIteration_keyed :
    Runs.Along (step Kernel.plain 3)
      (fun s arrival => AfterIteration 3 s arrival (step Kernel.plain 3 s arrival))
      ⟨noLinks, (buildFilter Kernel.plain BuildEnv.good noLinks none).2⟩
      [.timeout, .frame GreFrame.keyedPacket FrameEnv.good] :=
  run_afterIteration Kernel.plain 3 noLinks BuildEnv.good
    [.timeout, .frame GreFrame.keyedPacket FrameEnv.good] (fun _ h => nomatch h) BuildEnv.good_ok
    ⟨trivial, ⟨FrameEnv.good_ok, by decide⟩, trivial⟩

end DynamicGre

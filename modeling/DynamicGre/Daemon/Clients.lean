import DynamicGre.Daemon.History

/-!
Clients that never change their parameters. A frame of a client is handled when
the filter in force lets it in, or when it was captured before the filter was
rebuilt. Either way the registry ends up as if it had been handled: a frame is
only left out when the tunnel it asks for is already there.
-/

namespace DynamicGre

open Bytes Pcap

/-- What all frames of a client have in common. -/
structure Client where
  saddr : UInt32
  daddr : UInt32
  port : UInt16
  key : UInt32
deriving DecidableEq

namespace Client

def endpoint (c : Client) : Endpoint := (c.saddr, c.port)

/-- The name derived from the parameters of the client. -/
def name (c : Client) : IfName := tunnelName (if c.key ≠ 0 then c.key else c.saddr)

/-- An accepted frame of the client to the tunnel port. -/
structure Sends (c : Client) (pkt : Packet) : Prop where
  accepts : Dygrefou.Accepts pkt
  inbound : pkt.inbound = true
  dest : pkt.frame.udpDest = some 5555
  saddr : pkt.saddr Packet.outerIp = c.saddr
  daddr : pkt.daddr Packet.outerIp = c.daddr
  port : ntohs (pkt.u16 pkt.ipEnd) = c.port
  key : frameKey pkt = c.key

def parms (c : Client) : GreParms where
  iflags := if c.key ≠ 0 then GRE_KEY else 0
  oflags := if c.key ≠ 0 then GRE_KEY else 0
  ikey := htonl c.key
  okey := htonl c.key
  localAddr := c.daddr
  remote := c.saddr
  encapType := TUNNEL_ENCAP_FOU.toUInt16
  encapSport := htons 5555
  encapDport := htons c.port

/-- The tunnel that serves the client. -/
def link (c : Client) (master : Int32) : Link := ⟨c.name, master, .gretap c.parms⟩

def tunnel (c : Client) (master : Int32) : Tunnel := ⟨master, c.parms⟩

end Client

/-- What comes next on the wire, and whether a frame was captured before the
filter in force was installed. -/
structure Capture where
  arrival : Arrival
  early : Bool

/-- A frame that is left out never reaches the loop. -/
def gatedStep (k : Kernel) (master : Int32) (s : State) (cap : Capture) : State :=
  match cap.arrival with
  | .timeout => s
  | .frame pkt env =>
      if cap.early = true ∨ passes s.installed pkt.frame = true then
        step k master s (.frame pkt env)
      else s

/-- No two clients share an endpoint or a name. -/
structure Distinct (clients : Finset Client) : Prop where
  endpoints : Set.InjOn Client.endpoint clients
  names : Set.InjOn Client.name clients

/-- A frame of one of the clients, for which no call fails, or none. -/
def FromClients (clients : Finset Client) (cap : Capture) : Prop :=
  match cap.arrival with
  | .timeout => True
  | .frame pkt env => env.Ok ∧ ∃ c ∈ clients, c.Sends pkt

/-- Only clients have tunnels, each its own. -/
def OnlyClients (master : Int32) (clients : Finset Client) (r : Registry IfName Tunnel) : Prop :=
  ∀ name, ∀ t ∈ r name, ∃ c ∈ clients, name = c.name ∧ t = c.tunnel master

section Clients

variable {k : Kernel} {master : Int32} {s : State} {c : Client} {pkt : Packet} {env : FrameEnv}
  {clients : Finset Client}

theorem Client.endpoint_tunnel : (c.tunnel master).endpoint = c.endpoint :=
  congrArg (Prod.mk c.saddr) (ntohs_htons c.port)

theorem Client.Sends.udp (h : c.Sends pkt) : pkt.protocol Packet.outerIp = IPPROTO_UDP := by
  have hip := h.accepts.1
  exact Packet.protocol_of_isUdp4 (hip.udp_of_udpDest h.dest).1

theorem Client.Sends.senderOf (h : c.Sends pkt) : senderOf pkt = c.endpoint := by
  rw [senderOf_of_udp h.udp, h.saddr, h.port]
  rfl

/-- What `parse_packet` reports about every frame of a client. -/
theorem Client.Sends.reported (h : c.Sends pkt) : Dygrefou.reported pkt GretapOpt.zeroed =
    { GretapOpt.zeroed with
      remote := c.saddr, localAddr := c.daddr, key := c.key, encapType := TUNNEL_ENCAP_FOU
      encapDport := c.port, encapSport := 5555 } := by
  have hkey : (if grehdrK pkt.greFlags then ntohl pkt.greKey else GretapOpt.zeroed.key) = c.key :=
    h.key
  have hdest := (h.accepts.1.udp_of_udpDest h.dest).2.2
  rw [Dygrefou.reported, hkey, h.saddr, h.daddr, h.port, hdest]
  simp only [h.udp, if_true]

theorem Client.Sends.frameName (h : c.Sends pkt) : frameName pkt = c.name := by
  rw [DynamicGre.frameName, h.reported, interfaceName, Client.name]
  split <;> rfl

theorem Client.Sends.tunnelOf (h : c.Sends pkt) : tunnelOf master pkt = c.tunnel master := by
  rw [DynamicGre.tunnelOf, requestOf, h.reported]
  rfl

theorem Client.Sends.registryStep {r : Registry IfName Tunnel} (h : c.Sends pkt) :
    registryStep master r (.frame pkt env) = r.serve c.name (c.tunnel master) := by
  rw [registryStep_of_accepts r h.accepts, h.frameName, h.tunnelOf]

theorem onlyClients_serve {r : Registry IfName Tunnel} (h : OnlyClients master clients r)
    (hc : c ∈ clients) : OnlyClients master clients (r.serve c.name (c.tunnel master)) := by
  intro name t ht
  by_cases hname : name = c.name
  · rw [hname, Registry.serve_self] at ht
    exact ⟨c, hc, hname, (Option.some.inj ht).symm⟩
  · rw [Registry.serve_of_ne _ _ hname] at ht
    exact h name t ht

/-- A client whose frame is left out has its tunnel already. -/
theorem served_of_hidden {r : Registry IfName Tunnel} (hshows : Shows s r)
    (honly : OnlyClients master clients r) (hdistinct : Distinct clients) (hc : c ∈ clients)
    (hsends : c.Sends pkt) (hhidden : ¬passes s.installed pkt.frame = true) :
    r c.name = some (c.tunnel master) := by
  rw [passes_iff_fresh hshows hsends.accepts hsends.inbound hsends.dest, not_not,
    hsends.senderOf] at hhidden
  obtain ⟨name, t, ht, hendpoint⟩ := hhidden
  obtain ⟨c', hc', rfl, rfl⟩ := honly name t ht
  rw [Client.endpoint_tunnel] at hendpoint
  rw [← hdistinct.endpoints hc' hc hendpoint]
  exact ht

/-- Whether a frame is let in or not, its client is served afterwards. -/
theorem shows_gatedStep {r : Registry IfName Tunnel} {cap : Capture} (hdistinct : Distinct clients)
    (h : Shows s r ∧ OnlyClients master clients r) (hfrom : FromClients clients cap) :
    Shows (gatedStep k master s cap) (registryStep master r cap.arrival) ∧
      OnlyClients master clients (registryStep master r cap.arrival) := by
  obtain ⟨hshows, honly⟩ := h
  obtain ⟨arrival, early⟩ := cap
  cases arrival with
  | timeout => exact ⟨hshows, honly⟩
  | frame pkt env =>
      obtain ⟨hok, c, hc, hsends⟩ := hfrom
      dsimp only
      refine ⟨?_, hsends.registryStep ▸ onlyClients_serve honly hc⟩
      unfold gatedStep
      dsimp only
      split
      · exact hshows.step hok
      · rename_i hskipped
        have hserved := served_of_hidden hshows honly hdistinct hc hsends
          fun hpass => hskipped (Or.inr hpass)
        rwa [hsends.registryStep, Registry.serve_eq_self hserved]

theorem shows_gatedRun {r : Registry IfName Tunnel} {caps : List Capture}
    (hdistinct : Distinct clients) (h : Shows s r ∧ OnlyClients master clients r)
    (hfrom : ∀ cap ∈ caps, FromClients clients cap) :
    Shows (Runs.run (gatedStep k master) s caps)
        (r.serveAll (requests master (caps.map Capture.arrival))) ∧
      OnlyClients master clients (r.serveAll (requests master (caps.map Capture.arrival))) := by
  have hstep (s : State) (r : Registry IfName Tunnel) (cap : Capture)
      (h : Shows s r ∧ OnlyClients master clients r) (hcap : FromClients clients cap) :=
    shows_gatedStep (k := k) hdistinct h hcap
  rw [← run_registryStep, Runs.run, Runs.run, List.foldl_map]
  exact Runs.Along.simulation (R := fun s r => Shows s r ∧ OnlyClients master clients r) hstep
    (Runs.along_of_forall hfrom) h

/-- Under distinct names, the tunnels of a run are those of the clients that
sent a frame. -/
theorem mem_serveAll_clients {r : Registry IfName Tunnel} {arrivals : List Arrival}
    (hdistinct : Distinct clients) (hempty : ∀ name, r name = none)
    (hfrom : ∀ pkt env, .frame pkt env ∈ arrivals → ∃ c ∈ clients, c.Sends pkt)
    (hall : ∀ c ∈ clients, ∃ pkt env, .frame pkt env ∈ arrivals ∧ c.Sends pkt)
    {name : IfName} {t : Tunnel} :
    t ∈ r.serveAll (requests master arrivals) name ↔
      ∃ c ∈ clients, name = c.name ∧ t = c.tunnel master := by
  have hasked {name : IfName} {t : Tunnel} (h : (name, t) ∈ requests master arrivals) :
      ∃ c ∈ clients, name = c.name ∧ t = c.tunnel master := by
    obtain ⟨pkt, env, hmem, -, rfl, rfl⟩ := mem_requests.mp h
    obtain ⟨c, hc, hsends⟩ := hfrom pkt env hmem
    exact ⟨c, hc, hsends.frameName, hsends.tunnelOf⟩
  constructor
  · intro h
    rcases Registry.mem_or_mem_of_serveAll h with hbefore | hmem
    · rw [Option.mem_def, hempty] at hbefore
      cases hbefore
    · exact hasked hmem
  · rintro ⟨c, hc, rfl, rfl⟩
    apply Registry.serveAll_of_mem
    · intro t' ht'
      obtain ⟨c', hc', hname, rfl⟩ := hasked ht'
      rw [hdistinct.names hc hc' hname]
    · obtain ⟨pkt, env, hmem, hsends⟩ := hall c hc
      exact Or.inr (mem_requests.mpr ⟨pkt, env, hmem, hsends.accepts, hsends.frameName,
        hsends.tunnelOf⟩)

/-- The links of a table, when its registry holds the tunnels of the clients. -/
theorem mem_tunnels_iff {table : LinkTable}
    (h : ∀ name t, t ∈ registry table name ↔ ∃ c ∈ clients, name = c.name ∧ t = c.tunnel master)
    {link : Link} : link ∈ table ∧ link.tunnel.isSome = true ↔
      ∃ c ∈ clients, link = c.link master := by
  constructor
  · rintro ⟨hlink, hsome⟩
    obtain ⟨parms, hparms⟩ := Option.isSome_iff_exists.mp hsome
    obtain ⟨c, hc, hname, ht⟩ := (h link.name ⟨link.master, parms⟩).mp
      (mem_registry.mpr ⟨link, hlink, rfl, rfl, hparms⟩)
    obtain ⟨hmaster, heq⟩ := Tunnel.mk.inj ht
    refine ⟨c, hc, ?_⟩
    rw [Client.link, ← hname, ← hmaster, ← heq, ← (Link.tunnel_eq_some_iff.mp hparms).1]
  · rintro ⟨c, hc, rfl⟩
    obtain ⟨link, hlink, hname, hmaster, hparms⟩ :=
      mem_registry.mp ((h c.name (c.tunnel master)).mpr ⟨c, hc, rfl, rfl⟩)
    have heq : link = c.link master := by
      rw [Client.link, ← hname]
      have hkind : link.kind = .gretap c.parms := (Link.tunnel_eq_some_iff.mp hparms).1
      have hbridge : link.master = master := hmaster
      rw [← hkind, ← hbridge]
    rw [← heq, hparms]
    exact ⟨hlink, rfl⟩

end Clients

/-- However the frames of the clients interleave, how many there are and which
of them were captured early, the links end as the tunnels of the clients and
the filter leaves out the clients. -/
theorem run_clients (k : Kernel) (master : Int32) (table : LinkTable) (env : BuildEnv)
    (clients : Finset Client) (caps : List Capture)
    (hstart : ∀ link ∈ table, link.name.hasPrefix TUNNEL_PREFIX = false) (henv : env.Ok)
    (hdistinct : Distinct clients) (hfrom : ∀ cap ∈ caps, FromClients clients cap)
    (hall : ∀ c ∈ clients, ∃ cap ∈ caps, ∃ pkt fenv, cap.arrival = .frame pkt fenv ∧
      c.Sends pkt) :
    let s := Runs.run (gatedStep k master) ⟨table, (buildFilter k env table none).2⟩ caps
    (∀ link, link ∈ s.table ∧ link.tunnel.isSome = true ↔ ∃ c ∈ clients, link = c.link master) ∧
    ∀ f, passes s.installed f = true ↔ f.inbound = true ∧ f.udpDest = some 5555 ∧
      ∀ c ∈ clients, ¬f.From c.saddr c.port := by
  intro s
  have hempty := registry_of_no_links hstart
  have hstarted := (inv_of_no_links (k := k) henv hstart).1
  have honly : OnlyClients master clients (registry table) := by
    intro name t ht
    rw [Option.mem_def, hempty] at ht
    cases ht
  have hshows := (shows_gatedRun (k := k) hdistinct ⟨hstarted, honly⟩ hfrom).1
  have htunnels : ∀ name t, t ∈ registry s.table name ↔
      ∃ c ∈ clients, name = c.name ∧ t = c.tunnel master := by
    intro name t
    rw [hshows.table]
    apply mem_serveAll_clients hdistinct hempty
    · intro pkt fenv hmem
      obtain ⟨cap, hcap, harrival⟩ := List.mem_map.mp hmem
      have hof := hfrom cap hcap
      rw [FromClients, harrival] at hof
      exact hof.2
    · intro c hc
      obtain ⟨cap, hcap, pkt, fenv, harrival, hsends⟩ := hall c hc
      exact ⟨pkt, fenv, List.mem_map.mpr ⟨cap, hcap, harrival⟩, hsends⟩
  refine ⟨fun link => mem_tunnels_iff htunnels, fun f => ?_⟩
  rw [hshows.filter]
  refine and_congr_right fun _ => and_congr_right fun _ => ?_
  constructor
  · intro h c hc
    refine h c.endpoint ⟨c.name, c.tunnel master, ?_, Client.endpoint_tunnel⟩
    rw [← hshows.table]
    exact (htunnels _ _).mpr ⟨c, hc, rfl, rfl⟩
  · rintro h ep ⟨name, t, ht, rfl⟩
    rw [← hshows.table] at ht
    obtain ⟨c, hc, -, rfl⟩ := (htunnels _ _).mp ht
    rw [Client.endpoint_tunnel]
    exact h c hc

/-! ### Two clients -/

/-- A client with a key and one without. -/
def keyedClient : Client := ⟨0x0102a8c0, 0x0202a8c0, 40000, 0x12345678⟩

def keylessClient : Client := ⟨0x0302a8c0, 0x0202a8c0, 40000, 0⟩

def keylessPacket : Packet where
  bytes := { GreFrame.keyedFrame.readdressed 0x0302a8c0 0x0202a8c0 with
    gre := { GreFrame.keyedFrame.gre with checksum := none, key := none } }.bytes
  stale := fun _ => 0
  inbound := true
  fits := by decide

theorem sends_keyedPacket : keyedClient.Sends GreFrame.keyedPacket :=
  ⟨GreFrame.accepts rfl, rfl, by decide, by decide, by decide, by decide, by decide⟩

theorem sends_keylessPacket : keylessClient.Sends keylessPacket :=
  ⟨GreFrame.accepts rfl, rfl, by decide, by decide, by decide, by decide, by decide⟩

theorem distinct_keyed_keyless : Distinct {keyedClient, keylessClient} := by
  constructor <;> intro a ha b hb heq
  all_goals
    rw [Finset.mem_coe, Finset.mem_insert, Finset.mem_singleton] at ha hb
    rcases ha with rfl | rfl <;> rcases hb with rfl | rfl
    · rfl
    · exact absurd heq (by decide)
    · exact absurd heq (by decide)
    · rfl

/-- The first frame of the keyed client is followed by one that was captured
before it. -/
def twoClients : List Capture :=
  [⟨.frame GreFrame.keyedPacket FrameEnv.good, false⟩,
    ⟨.frame GreFrame.keyedPacket FrameEnv.good, true⟩, ⟨.timeout, false⟩,
    ⟨.frame keylessPacket FrameEnv.good, false⟩]

theorem run_clients_keyed_keyless :
    let s := Runs.run (gatedStep Kernel.plain 3)
      ⟨noLinks, (buildFilter Kernel.plain BuildEnv.good noLinks none).2⟩ twoClients
    (∀ link, link ∈ s.table ∧ link.tunnel.isSome = true ↔
      ∃ c ∈ ({keyedClient, keylessClient} : Finset Client), link = c.link 3) ∧
    ∀ f, passes s.installed f = true ↔ f.inbound = true ∧ f.udpDest = some 5555 ∧
      ∀ c ∈ ({keyedClient, keylessClient} : Finset Client), ¬f.From c.saddr c.port := by
  refine run_clients Kernel.plain 3 noLinks BuildEnv.good {keyedClient, keylessClient} twoClients
    (fun _ h => nomatch h) BuildEnv.good_ok distinct_keyed_keyless ?_ ?_
  · simp only [twoClients, List.forall_mem_cons]
    have hkeyed : ∃ c ∈ ({keyedClient, keylessClient} : Finset Client),
        c.Sends GreFrame.keyedPacket :=
      ⟨keyedClient, Finset.mem_insert_self _ _, sends_keyedPacket⟩
    have hkeyless : ∃ c ∈ ({keyedClient, keylessClient} : Finset Client),
        c.Sends keylessPacket :=
      ⟨keylessClient, Finset.mem_insert_of_mem (Finset.mem_singleton_self _), sends_keylessPacket⟩
    exact ⟨⟨FrameEnv.good_ok, hkeyed⟩, ⟨FrameEnv.good_ok, hkeyed⟩, trivial,
      ⟨FrameEnv.good_ok, hkeyless⟩, fun _ h => nomatch h⟩
  · intro c hc
    rw [Finset.mem_insert, Finset.mem_singleton] at hc
    rcases hc with rfl | rfl
    · exact ⟨⟨.frame GreFrame.keyedPacket FrameEnv.good, false⟩, List.mem_cons_self,
        GreFrame.keyedPacket, FrameEnv.good, rfl, sends_keyedPacket⟩
    · exact ⟨⟨.frame keylessPacket FrameEnv.good, false⟩, by simp [twoClients],
        keylessPacket, FrameEnv.good, rfl, sends_keylessPacket⟩

end DynamicGre

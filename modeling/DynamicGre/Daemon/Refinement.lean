import DynamicGre.Daemon.Loop
import DynamicGre.Packet.Captured
import DynamicGre.Registry

/-!
Without failing calls the daemon is a registry of tunnels: an accepted frame
serves its request, whether the old link was deleted before or not, and the
filter always shows the endpoints of the registry.
-/

namespace DynamicGre

open Bytes Pcap

/-! ### Calls that succeed -/

structure BuildEnv.Ok (env : BuildEnv) : Prop where
  alloc : 0 ≤ env.alloc
  tunnel : ∀ name, (env.tunnel name).Ok
  installs : env.Installs

structure FrameEnv.Ok (env : FrameEnv) : Prop where
  alloc : 0 ≤ env.destroy.alloc
  delete : 0 ≤ env.destroy.delete
  roomy : env.create.Roomy
  send : 0 ≤ env.create.send
  build : env.build.Ok

/-- No netlink or pcap call of the iteration fails. -/
def Calm : Arrival → Prop
  | .timeout => True
  | .frame _ env => env.Ok

/-! ### The registry that the links show -/

structure Tunnel where
  master : Int32
  parms : GreParms
deriving DecidableEq

def Tunnel.endpoint (t : Tunnel) : Endpoint := t.parms.endpoint

def registry (table : LinkTable) : Registry IfName Tunnel := fun name =>
  (table.find? name).bind fun link => link.tunnel.map (Tunnel.mk link.master)

/-- The endpoints of the live tunnels. -/
abbrev liveEndpoints (r : Registry IfName Tunnel) : Set Endpoint := r.endpoints Tunnel.endpoint

/-- The tunnel a frame asks for. -/
def tunnelOf (master : Int32) (pkt : Packet) : Tunnel :=
  ⟨master, GreParms.ofOpt (requestOf master pkt)⟩

def frameName (pkt : Packet) : IfName :=
  interfaceName (Dygrefou.reported pkt GretapOpt.zeroed)

/-- One iteration, as the registry sees it. -/
def registryStep (master : Int32) (r : Registry IfName Tunnel) :
    Arrival → Registry IfName Tunnel
  | .timeout => r
  | .frame pkt _ =>
      if Dygrefou.Accepts pkt then r.serve (frameName pkt) (tunnelOf master pkt) else r

/-- The name and the tunnel that an iteration asks for. -/
def requested (master : Int32) : Arrival → Option (IfName × Tunnel)
  | .timeout => none
  | .frame pkt _ =>
      if Dygrefou.Accepts pkt then some (frameName pkt, tunnelOf master pkt) else none

/-- What the iterations of a run ask for. -/
def requests (master : Int32) (arrivals : List Arrival) : List (IfName × Tunnel) :=
  arrivals.filterMap (requested master)

/-- The links are those of the registry, and the filter lets everyone in but its
endpoints. -/
structure Shows (s : State) (r : Registry IfName Tunnel) : Prop where
  table : registry s.table = r
  filter : ∀ f, passes s.installed f = true ↔
    f.inbound = true ∧ f.udpDest = some 5555 ∧ ∀ ep ∈ liveEndpoints r, ¬f.From ep.1 ep.2

section Registry

variable {k : Kernel} {master : Int32} {s : State} {pkt : Packet} {env : FrameEnv}
  {table : LinkTable} {name : IfName} {t : Tunnel} {ep : Endpoint}

theorem mem_registry : t ∈ registry table name ↔
    ∃ link ∈ table, link.name = name ∧ link.master = t.master ∧ link.tunnel = some t.parms := by
  unfold registry
  rw [Option.mem_def, Option.bind_eq_some_iff]
  constructor
  · rintro ⟨link, hfind, htunnel⟩
    obtain ⟨hmem, hname⟩ := (table.find?_eq_some_iff).mp hfind
    obtain ⟨parms, hparms, rfl⟩ := Option.map_eq_some_iff.mp htunnel
    exact ⟨link, hmem, hname, rfl, hparms⟩
  · rintro ⟨link, hmem, hname, hmaster, hparms⟩
    refine ⟨link, (table.find?_eq_some_iff).mpr ⟨hmem, hname⟩, ?_⟩
    rw [hparms, hmaster]
    rfl

theorem mem_liveEndpoints : ep ∈ liveEndpoints (registry table) ↔
    ∃ link ∈ table, link.Serves ep := by
  constructor
  · rintro ⟨name, t, ht, hep⟩
    obtain ⟨link, hmem, -, -, hparms⟩ := mem_registry.mp ht
    exact ⟨link, hmem, t.parms, hparms, hep⟩
  · rintro ⟨link, hmem, parms, hparms, hep⟩
    exact ⟨link.name, ⟨link.master, parms⟩, mem_registry.mpr ⟨link, hmem, rfl, rfl, hparms⟩, hep⟩

theorem tunnel_tunnelLink : (tunnelLink (requestOf master pkt)).tunnel =
    some (tunnelOf master pkt).parms :=
  if_pos (hasPrefix_interfaceName _)

theorem endpoint_tunnelOf : (tunnelOf master pkt).endpoint = senderOf pkt :=
  serves_requestOf.mp ⟨_, tunnel_tunnelLink, rfl⟩

/-! ### The filter of a successful build -/

theorem shows_of_build {benv : BuildEnv} (hok : benv.Ok) (table : LinkTable)
    (installed : Option Expr) :
    Shows ⟨table, (buildFilter k benv table installed).2⟩ (registry table) := by
  refine ⟨rfl, fun f => ?_⟩
  rw [buildFilter_of_installs hok.installs]
  simp only [passes, Option.all_some]
  rw [accepts_filterExpr]
  have hreported : ∀ ep, ep ∈ reportedAll benv table ↔ ep ∈ liveEndpoints (registry table) := by
    intro ep
    rw [mem_reportedAll, mem_liveEndpoints]
    constructor
    · rintro ⟨-, link, hlink, hserves, -⟩
      exact ⟨link, hlink, hserves⟩
    · rintro ⟨link, hlink, hserves⟩
      exact ⟨hok.alloc, link, hlink, hserves, hok.tunnel _⟩
  simp only [hreported]

/-! ### One iteration -/

theorem not_createFails (hok : env.Ok) (opt : GretapOpt) : ¬CreateFails env opt := by
  rw [CreateFails, createTunnel_of_roomy opt hok.roomy]
  exact not_lt.mpr hok.send

theorem step_of_ok (haccepts : Dygrefou.Accepts pkt) (hok : env.Ok) :
    step k master s (.frame pkt env) =
      let table := (cleared s env (requestOf master pkt)).put
        (tunnelLink (requestOf master pkt))
      ⟨table, (buildFilter k env.build table s.installed).2⟩ := by
  rcases step_cases (k := k) haccepts with ⟨hfails, -⟩ | ⟨-, hstep⟩
  · exact absurd hfails (not_createFails hok _)
  · exact hstep

/-- The new link replaces the one of its name; the others stay. -/
theorem mem_step_table (haccepts : Dygrefou.Accepts pkt) (hok : env.Ok) {link : Link} :
    link ∈ (step k master s (.frame pkt env)).table ↔
      link = tunnelLink (requestOf master pkt) ∨ (link ∈ s.table ∧ link.name ≠ frameName pkt) := by
  rw [step_of_ok haccepts hok]
  change link ∈ KeyedList.put _ _ ↔ _
  rw [KeyedList.mem_put, mem_cleared]
  constructor
  · rintro (hnew | ⟨⟨hold, -⟩, hname⟩)
    · exact Or.inl hnew
    · exact Or.inr ⟨hold, hname⟩
  · rintro (hnew | ⟨hold, hname⟩)
    · exact Or.inl hnew
    · exact Or.inr ⟨⟨hold, fun _ => hname⟩, hname⟩

theorem registry_step (haccepts : Dygrefou.Accepts pkt) (hok : env.Ok) :
    registry (step k master s (.frame pkt env)).table =
      (registry s.table).serve (frameName pkt) (tunnelOf master pkt) := by
  funext name
  apply Option.ext
  intro t
  rw [← Option.mem_def, ← Option.mem_def, mem_registry]
  by_cases hname : name = frameName pkt
  · rw [hname, Registry.serve_self, Option.mem_some_iff]
    constructor
    · rintro ⟨link, hlink, hlname, hmaster, hparms⟩
      rcases (mem_step_table haccepts hok).mp hlink with rfl | ⟨-, hne⟩
      · rw [tunnel_tunnelLink] at hparms
        rcases t with ⟨tmaster, parms⟩
        rw [tunnelOf]
        exact congrArg₂ Tunnel.mk hmaster (Option.some.inj hparms)
      · exact absurd hlname hne
    · rintro rfl
      exact ⟨_, (mem_step_table haccepts hok).mpr (Or.inl rfl), rfl, rfl, tunnel_tunnelLink⟩
  · rw [Registry.serve_of_ne _ _ hname, mem_registry]
    constructor
    · rintro ⟨link, hlink, hlname, hrest⟩
      rcases (mem_step_table haccepts hok).mp hlink with rfl | ⟨hold, -⟩
      · exact absurd hlname.symm hname
      · exact ⟨link, hold, hlname, hrest⟩
    · rintro ⟨link, hold, hlname, hrest⟩
      have hne : link.name ≠ frameName pkt := by rwa [hlname]
      exact ⟨link, (mem_step_table haccepts hok).mpr (Or.inr ⟨hold, hne⟩), hlname, hrest⟩

theorem registryStep_of_accepts (r : Registry IfName Tunnel) (h : Dygrefou.Accepts pkt) :
    registryStep master r (.frame pkt env) = r.serve (frameName pkt) (tunnelOf master pkt) :=
  if_pos h

theorem registryStep_of_not_accepts (r : Registry IfName Tunnel) (h : ¬Dygrefou.Accepts pkt) :
    registryStep master r (.frame pkt env) = r :=
  if_neg h

/-- An iteration without failing calls is a step of the registry. -/
theorem Shows.step {r : Registry IfName Tunnel} (h : Shows s r) {arrival : Arrival}
    (hcalm : Calm arrival) : Shows (step k master s arrival) (registryStep master r arrival) := by
  cases arrival with
  | timeout => exact h
  | frame pkt env =>
      by_cases haccepts : Dygrefou.Accepts pkt
      · have hbuilt : Shows (DynamicGre.step k master s (.frame pkt env))
            (registry (DynamicGre.step k master s (.frame pkt env)).table) := by
          rw [step_of_ok haccepts hcalm]
          exact shows_of_build hcalm.build _ _
        rwa [registry_step haccepts hcalm, h.table, ← registryStep_of_accepts r haccepts] at hbuilt
      · rwa [step_of_not_accepts haccepts, registryStep_of_not_accepts r haccepts]

/-- Runs without failing calls refine runs of the registry. -/
theorem Shows.run {r : Registry IfName Tunnel} (h : Shows s r) {arrivals : List Arrival}
    (hcalm : ∀ arrival ∈ arrivals, Calm arrival) :
    Shows (Runs.run (DynamicGre.step k master) s arrivals)
      (Runs.run (registryStep master) r arrivals) :=
  (Runs.along_of_forall hcalm).simulation (fun _ _ _ h hcalm => h.step hcalm) h

/-! ### The requests of a run -/

theorem mem_requests {arrivals : List Arrival} : (name, t) ∈ requests master arrivals ↔
    ∃ pkt env, .frame pkt env ∈ arrivals ∧ Dygrefou.Accepts pkt ∧ frameName pkt = name ∧
      tunnelOf master pkt = t := by
  unfold requests
  rw [List.mem_filterMap]
  constructor
  · rintro ⟨arrival, hmem, hrequest⟩
    cases arrival with
    | timeout => cases hrequest
    | frame pkt env =>
        obtain ⟨haccepts, heq⟩ := Option.ite_none_right_eq_some.mp hrequest
        obtain ⟨hname, ht⟩ := Prod.mk.inj (Option.some.inj heq)
        exact ⟨pkt, env, hmem, haccepts, hname, ht⟩
  · rintro ⟨pkt, env, hmem, haccepts, rfl, rfl⟩
    exact ⟨.frame pkt env, hmem, if_pos haccepts⟩

theorem run_registryStep {r : Registry IfName Tunnel} {arrivals : List Arrival} :
    Runs.run (registryStep master) r arrivals = r.serveAll (requests master arrivals) := by
  induction arrivals generalizing r with
  | nil => rfl
  | cons arrival arrivals ih =>
      rw [Runs.run_cons, ih]
      cases arrival with
      | timeout => rfl
      | frame pkt env =>
          by_cases haccepts : Dygrefou.Accepts pkt
          · have hrequested : requested master (.frame pkt env) =
                some (frameName pkt, tunnelOf master pkt) := if_pos haccepts
            rw [registryStep_of_accepts r haccepts, requests, requests,
              List.filterMap_cons_some hrequested, Registry.serveAll_cons]
          · have hrequested : requested master (.frame pkt env) = none := if_neg haccepts
            rw [registryStep_of_not_accepts r haccepts, requests, requests,
              List.filterMap_cons_none hrequested]

end Registry

end DynamicGre

import DynamicGre.Daemon.Names
import DynamicGre.Daemon.Transparency

/-!
What a run leaves behind, told from its frames alone. Under each name the last
frame wins; a client that comes back from another endpoint takes its tunnel
along, and the endpoint it left is open again. One iteration without failures
is enough to forget whatever failed before it.
-/

namespace DynamicGre

open Bytes Pcap

/-- The frame was accepted, and no frame of its name was accepted after it. -/
def LastOfName (arrivals : List Arrival) (pkt : Packet) : Prop :=
  Dygrefou.Accepts pkt ∧ ∃ before env after, arrivals = before ++ .frame pkt env :: after ∧
    ∀ later fenv, .frame later fenv ∈ after → Dygrefou.Accepts later →
      frameName later ≠ frameName pkt

/-- No accepted frame has this name. -/
def Unasked (arrivals : List Arrival) (name : IfName) : Prop :=
  ∀ pkt env, .frame pkt env ∈ arrivals → Dygrefou.Accepts pkt → frameName pkt ≠ name

section LastFrame

variable {k : Kernel} {master : Int32} {s : State} {arrival : Arrival} {arrivals : List Arrival}
  {pkt : Packet} {env : FrameEnv} {name : IfName} {link : Link}

theorem not_lastOfName_nil : ¬LastOfName [] pkt := by
  rintro ⟨-, before, env, after, heq, -⟩
  cases before <;> cases heq

theorem lastOfName_cons : LastOfName (arrival :: arrivals) pkt ↔
    LastOfName arrivals pkt ∨
      (Dygrefou.Accepts pkt ∧ (∃ env, arrival = .frame pkt env) ∧
        Unasked arrivals (frameName pkt)) := by
  constructor
  · rintro ⟨haccepts, before, env, after, heq, hlast⟩
    cases before with
    | nil =>
        obtain ⟨rfl, rfl⟩ := List.cons.inj heq
        exact Or.inr ⟨haccepts, ⟨env, rfl⟩, hlast⟩
    | cons first before =>
        obtain ⟨rfl, rfl⟩ := List.cons.inj heq
        exact Or.inl ⟨haccepts, before, env, after, rfl, hlast⟩
  · rintro (⟨haccepts, before, env, after, rfl, hlast⟩ | ⟨haccepts, ⟨env, rfl⟩, hlast⟩)
    · exact ⟨haccepts, arrival :: before, env, after, rfl, hlast⟩
    · exact ⟨haccepts, [], env, arrivals, rfl, hlast⟩

theorem unasked_cons : Unasked (arrival :: arrivals) name ↔
    (∀ pkt env, arrival = .frame pkt env → Dygrefou.Accepts pkt → frameName pkt ≠ name) ∧
      Unasked arrivals name := by
  constructor
  · intro h
    refine ⟨?_, fun pkt env hmem => h pkt env (List.mem_cons_of_mem _ hmem)⟩
    rintro pkt env rfl
    exact h pkt env List.mem_cons_self
  · rintro ⟨hfirst, hrest⟩ pkt env hmem
    rcases List.mem_cons.mp hmem with heq | hlater
    · exact hfirst pkt env heq.symm
    · exact hrest pkt env hlater

/-- From any state, a run without failing calls ends with the links of the last
frames, and those under other names as they were. -/
theorem mem_run_table (hcalm : ∀ arrival ∈ arrivals, Calm arrival) :
    link ∈ (Runs.run (step k master) s arrivals).table ↔
      (∃ pkt, LastOfName arrivals pkt ∧ link = tunnelLink (requestOf master pkt)) ∨
        (link ∈ s.table ∧ Unasked arrivals link.name) := by
  induction arrivals generalizing s with
  | nil => simp [not_lastOfName_nil, Unasked]
  | cons arrival arrivals ih =>
      rw [Runs.run_cons, ih fun a ha => hcalm a (List.mem_cons_of_mem _ ha), unasked_cons]
      simp only [lastOfName_cons, or_and_right, exists_or, or_assoc]
      refine or_congr_right ?_
      have hquiet (hnone : ∀ pkt env, arrival = .frame pkt env → ¬Dygrefou.Accepts pkt) :
          (step k master s arrival).table = s.table := by
        cases arrival with
        | timeout => rfl
        | frame pkt env => rw [step_of_not_accepts (hnone pkt env rfl)]
      by_cases hasks : ∃ pkt env, arrival = .frame pkt env ∧ Dygrefou.Accepts pkt
      · obtain ⟨pkt, env, rfl, haccepts⟩ := hasks
        rw [mem_step_table haccepts (hcalm _ List.mem_cons_self)]
        constructor
        · rintro ⟨rfl | ⟨hold, hname⟩, hrest⟩
          · exact Or.inl ⟨pkt, ⟨haccepts, ⟨env, rfl⟩, hrest⟩, rfl⟩
          · refine Or.inr ⟨hold, ?_, hrest⟩
            intro other fenv heq _
            rw [← (Arrival.frame.inj heq).1]
            exact hname.symm
        · rintro (⟨other, ⟨-, ⟨fenv, heq⟩, hrest⟩, rfl⟩ | ⟨hold, hfirst, hrest⟩)
          · rw [← (Arrival.frame.inj heq).1] at hrest ⊢
            exact ⟨Or.inl rfl, hrest⟩
          · exact ⟨Or.inr ⟨hold, (hfirst pkt env rfl haccepts).symm⟩, hrest⟩
      · have hnone : ∀ pkt env, arrival = .frame pkt env → ¬Dygrefou.Accepts pkt :=
          fun pkt env heq haccepts => hasks ⟨pkt, env, heq, haccepts⟩
        rw [hquiet hnone]
        constructor
        · rintro ⟨hold, hrest⟩
          exact Or.inr ⟨hold, fun pkt env heq haccepts => absurd haccepts (hnone pkt env heq), hrest⟩
        · rintro (⟨pkt, ⟨haccepts, ⟨env, heq⟩, -⟩, -⟩ | ⟨hold, -, hrest⟩)
          · exact absurd haccepts (hnone pkt env heq)
          · exact ⟨hold, hrest⟩

/-- From a filter that shows the links, runs without failing calls lead to such
filters. -/
theorem shows_registry_run (h : Shows s (registry s.table))
    (hcalm : ∀ arrival ∈ arrivals, Calm arrival) :
    Shows (Runs.run (step k master) s arrivals)
      (registry (Runs.run (step k master) s arrivals).table) := by
  have hrun : Shows (Runs.run (step k master) s arrivals)
      (Runs.run (registryStep master) (registry s.table) arrivals) := h.run hcalm
  rwa [← hrun.table] at hrun

end LastFrame

/-- A run without failing calls, from a table without `dygre-` links, ends with
the tunnels that the last frames of their names asked for, and with the filter
that leaves out the endpoints of these frames. -/
theorem run_lastOfName (k : Kernel) (master : Int32) (table : LinkTable) (env : BuildEnv)
    (arrivals : List Arrival)
    (hstart : ∀ link ∈ table, link.name.hasPrefix TUNNEL_PREFIX = false) (henv : env.Ok)
    (hcalm : ∀ arrival ∈ arrivals, Calm arrival) :
    let s := Runs.run (step k master) ⟨table, (buildFilter k env table none).2⟩ arrivals
    (∀ link, link ∈ s.table ∧ link.tunnel.isSome = true ↔
      ∃ pkt, LastOfName arrivals pkt ∧ link = tunnelLink (requestOf master pkt)) ∧
    ∀ f, passes s.installed f = true ↔ f.inbound = true ∧ f.udpDest = some 5555 ∧
      ∀ pkt, LastOfName arrivals pkt → ¬f.From (senderOf pkt).1 (senderOf pkt).2 := by
  intro s
  have hlinks : ∀ link, link ∈ s.table ∧ link.tunnel.isSome = true ↔
      ∃ pkt, LastOfName arrivals pkt ∧ link = tunnelLink (requestOf master pkt) := by
    intro link
    rw [mem_run_table hcalm]
    constructor
    · rintro ⟨hlast | ⟨hold, -⟩, hsome⟩
      · exact hlast
      · obtain ⟨parms, hparms⟩ := Option.isSome_iff_exists.mp hsome
        have hprefix := (Link.tunnel_eq_some_iff.mp hparms).2
        rw [hstart link hold] at hprefix
        cases hprefix
    · rintro ⟨pkt, hlast, rfl⟩
      exact ⟨Or.inl ⟨pkt, hlast, rfl⟩, Option.isSome_of_mem tunnel_tunnelLink⟩
  refine ⟨hlinks, fun f => ?_⟩
  have hshows : Shows s (registry s.table) :=
    shows_registry_run (inv_of_no_links (k := k) henv hstart).1 hcalm
  rw [hshows.filter]
  refine and_congr_right fun _ => and_congr_right fun _ => ?_
  constructor
  · intro hnone pkt hlast
    apply hnone
    have hmem := ((hlinks _).mpr ⟨pkt, hlast, rfl⟩).1
    exact mem_liveEndpoints.mpr ⟨_, hmem, serves_requestOf.mpr rfl⟩
  · intro hnone ep hlive
    obtain ⟨link, hlink, hserves⟩ := mem_liveEndpoints.mp hlive
    obtain ⟨parms, hparms, -⟩ := id hserves
    obtain ⟨pkt, hlast, rfl⟩ := (hlinks link).mp ⟨hlink, Option.isSome_of_mem hparms⟩
    rw [serves_requestOf.mp hserves]
    exact hnone pkt hlast

/-- The keyed client, back from another port. -/
def roamedPacket : Packet where
  bytes := { GreFrame.keyedFrame with
    udp := some { source := 40001, dest := 5555, len := 0x2500, check := 0 } }.bytes
  stale := fun _ => 0
  inbound := true
  fits := by decide

def roaming : List Arrival :=
  [.frame GreFrame.keyedPacket FrameEnv.good, .timeout, .frame roamedPacket FrameEnv.good]

theorem lastOfName_roaming {pkt : Packet} : LastOfName roaming pkt ↔ pkt = roamedPacket := by
  have haccepts : Dygrefou.Accepts roamedPacket := GreFrame.accepts rfl
  have hname : frameName roamedPacket = frameName GreFrame.keyedPacket := by
    apply frameName_inj.mpr
    decide
  simp only [roaming, lastOfName_cons, not_lastOfName_nil, false_or]
  constructor
  · rintro ((⟨-, ⟨env, heq⟩, -⟩ | ⟨-, ⟨env, heq⟩, -⟩) | ⟨-, ⟨env, heq⟩, hlast⟩)
    · exact (Arrival.frame.inj heq).1.symm
    · cases heq
    · rw [← (Arrival.frame.inj heq).1] at hlast
      exact absurd hname (hlast roamedPacket FrameEnv.good (by simp) haccepts)
  · rintro rfl
    exact Or.inl (Or.inl ⟨haccepts, ⟨_, rfl⟩, fun _ _ h => nomatch h⟩)

/-- The client has one tunnel, to its new port; its old port is let in again. -/
theorem run_lastOfName_roaming :
    let s := Runs.run (step Kernel.plain 3)
      ⟨noLinks, (buildFilter Kernel.plain BuildEnv.good noLinks none).2⟩ roaming
    (∀ link, link ∈ s.table ∧ link.tunnel.isSome = true ↔
      link = tunnelLink (requestOf 3 roamedPacket)) ∧
    passes s.installed GreFrame.keyedPacket.frame = true := by
  intro s
  have hcalm : ∀ arrival ∈ roaming, Calm arrival := by
    simp only [roaming, List.forall_mem_cons]
    exact ⟨FrameEnv.good_ok, trivial, FrameEnv.good_ok, fun _ h => nomatch h⟩
  obtain ⟨hlinks, hfilter⟩ := run_lastOfName Kernel.plain 3 noLinks BuildEnv.good roaming
    (fun _ h => nomatch h) BuildEnv.good_ok hcalm
  constructor
  · intro link
    rw [hlinks]
    simp only [lastOfName_roaming, exists_eq_left]
  · refine (hfilter _).mpr ⟨rfl, by decide, ?_⟩
    intro pkt hlast
    rw [lastOfName_roaming.mp hlast]
    decide

/-! ### After failures -/

/-- From any links and any filter that failed calls may have left, one accepted
frame without failures makes the filter exact, and it stays so. The links are
from then on those of the last frames. -/
theorem run_recovers (k : Kernel) (master : Int32) (s : State) (pkt : Packet) (env : FrameEnv)
    (arrivals : List Arrival) (haccepts : Dygrefou.Accepts pkt) (hok : env.Ok)
    (hcalm : ∀ arrival ∈ arrivals, Calm arrival) :
    let since := .frame pkt env :: arrivals
    let later := Runs.run (step k master) s since
    (∀ f, passes later.installed f = true ↔ f.inbound = true ∧ f.udpDest = some 5555 ∧
      ∀ link ∈ later.table, ∀ ep, link.Serves ep → ¬f.From ep.1 ep.2) ∧
    ∀ link, link ∈ later.table ↔
      (∃ p, LastOfName since p ∧ link = tunnelLink (requestOf master p)) ∨
        (link ∈ s.table ∧ Unasked since link.name) := by
  intro since later
  let first : State := step k master s (.frame pkt env)
  have hfirst : Shows first (registry first.table) := by
    rw [show first = _ from step_of_ok haccepts hok]
    exact shows_of_build hok.build _ _
  have hlater : later = Runs.run (step k master) first arrivals := rfl
  have hshows : Shows later (registry later.table) := by
    rw [hlater]
    exact shows_registry_run hfirst hcalm
  constructor
  · intro f
    rw [hshows.filter]
    refine and_congr_right fun _ => and_congr_right fun _ => ?_
    constructor
    · intro hnone link hlink ep hserves
      exact hnone ep (mem_liveEndpoints.mpr ⟨link, hlink, hserves⟩)
    · intro hnone ep hlive
      obtain ⟨link, hlink, hserves⟩ := mem_liveEndpoints.mp hlive
      exact hnone link hlink ep hserves
  · intro link
    exact mem_run_table (List.forall_mem_cons.mpr ⟨hok, hcalm⟩)

end DynamicGre

import DynamicGre.Daemon.Clients

/-!
The filter only saves work. As long as an endpoint always asks for the same
tunnel, a run in which the filter drops the frames it hides ends with the links
and the filter of the run in which every frame is handled: a hidden frame asks
for the link that is there.
-/

namespace DynamicGre

open Bytes Pcap

/-- A frame for the tunnel port, for which no call fails, or none. -/
def OnPort (cap : Capture) : Prop :=
  match cap.arrival with
  | .timeout => True
  | .frame pkt env => env.Ok ∧ pkt.inbound = true ∧ pkt.frame.udpDest = some 5555

/-- The frames of a run that ask for a tunnel. -/
def AsksIn (caps : List Capture) (pkt : Packet) : Prop :=
  Dygrefou.Accepts pkt ∧ ∃ cap ∈ caps, ∃ env, cap.arrival = .frame pkt env

/-- `parse_packet` reports the same about all frames from one endpoint. -/
def Stable (caps : List Capture) : Prop :=
  ∀ p q, AsksIn caps p → AsksIn caps q → senderOf p = senderOf q →
    Dygrefou.reported p GretapOpt.zeroed = Dygrefou.reported q GretapOpt.zeroed

/-- Every tunnel is the one that a frame of the run asked for. -/
def OnlyAsked (master : Int32) (caps : List Capture) (table : LinkTable) : Prop :=
  ∀ link ∈ table, link.tunnel.isSome = true →
    ∃ pkt, AsksIn caps pkt ∧ link = tunnelLink (requestOf master pkt)

/-- The gated daemon in `s` and the other one in `t` hold the same links, and both
filters show them. -/
structure Agree (master : Int32) (caps : List Capture) (s t : State) : Prop where
  shows : Shows s (registry s.table)
  shows' : Shows t (registry t.table)
  links : ∀ link, link ∈ s.table ↔ link ∈ t.table
  asked : OnlyAsked master caps s.table

section Transparency

variable {k : Kernel} {master : Int32} {s t : State} {caps : List Capture} {pkt : Packet}
  {env : FrameEnv}

theorem registry_congr {a b : LinkTable} (h : ∀ link, link ∈ a ↔ link ∈ b) :
    registry a = registry b := by
  funext name
  apply Option.ext
  intro t
  rw [← Option.mem_def, ← Option.mem_def, mem_registry, mem_registry]
  simp only [h]

theorem Agree.passes_eq (h : Agree master caps s t) (f : Frame) :
    passes s.installed f = passes t.installed f := by
  rw [Bool.eq_iff_iff, h.shows.filter, h.shows'.filter, registry_congr h.links]

theorem shows_registry_step {arrival : Arrival} (h : Shows s (registry s.table))
    (hcalm : Calm arrival) :
    Shows (step k master s arrival) (registry (step k master s arrival).table) := by
  have hnext : Shows (step k master s arrival) (registryStep master (registry s.table) arrival) :=
    h.step hcalm
  rwa [← hnext.table] at hnext

theorem onlyAsked_step (h : OnlyAsked master caps s.table) (hok : env.Ok)
    (hasks : AsksIn caps pkt) :
    OnlyAsked master caps (step k master s (.frame pkt env)).table := by
  intro link hlink hsome
  rcases (mem_step_table hasks.1 hok).mp hlink with rfl | ⟨hold, -⟩
  · exact ⟨pkt, hasks, rfl⟩
  · exact h link hold hsome

/-- The link that a hidden frame asks for is there. -/
theorem Agree.mem_of_hidden (h : Agree master caps s t) (hstable : Stable caps)
    (hasks : AsksIn caps pkt) (hin : pkt.inbound = true) (hdest : pkt.frame.udpDest = some 5555)
    (hhidden : ¬passes s.installed pkt.frame = true) :
    tunnelLink (requestOf master pkt) ∈ s.table := by
  rw [passes_iff_fresh h.shows hasks.1 hin hdest, not_not] at hhidden
  obtain ⟨link, hlink, hserves⟩ := mem_liveEndpoints.mp hhidden
  have hsome : link.tunnel.isSome = true := by
    obtain ⟨parms, hparms, -⟩ := hserves
    exact Option.isSome_of_mem hparms
  obtain ⟨earlier, hearlier, rfl⟩ := h.asked link hlink hsome
  have hsender : senderOf pkt = senderOf earlier := serves_requestOf.mp hserves
  rwa [requestOf, hstable pkt earlier hasks hearlier hsender]

/-- To handle a frame whose link is there changes no link. -/
theorem mem_step_table_of_mem (haccepts : Dygrefou.Accepts pkt) (hok : env.Ok)
    (hmem : tunnelLink (requestOf master pkt) ∈ t.table) (link : Link) :
    link ∈ (step k master t (.frame pkt env)).table ↔ link ∈ t.table := by
  rw [mem_step_table haccepts hok]
  constructor
  · rintro (rfl | ⟨hold, -⟩)
    · exact hmem
    · exact hold
  · intro hold
    by_cases hname : link.name = frameName pkt
    · exact Or.inl (t.table.eq_of_key_eq hold hmem hname)
    · exact Or.inr ⟨hold, hname⟩

/-- One frame, gated on the left and handled on the right. -/
theorem Agree.step (h : Agree master caps s t) (hstable : Stable caps) {cap : Capture}
    (hcap : cap ∈ caps) (hport : OnPort cap) :
    Agree master caps (gatedStep k master s cap) (DynamicGre.step k master t cap.arrival) := by
  obtain ⟨arrival, early⟩ := cap
  cases arrival with
  | timeout => exact h
  | frame pkt env =>
      obtain ⟨hok, hin, hdest⟩ := hport
      let later := DynamicGre.step k master t (.frame pkt env)
      have hright : Shows later (registry later.table) := shows_registry_step h.shows' hok
      unfold gatedStep
      dsimp only
      by_cases haccepts : Dygrefou.Accepts pkt
      · have hasks : AsksIn caps pkt := ⟨haccepts, _, hcap, env, rfl⟩
        split
        · refine ⟨shows_registry_step h.shows hok, hright, ?_, onlyAsked_step h.asked hok hasks⟩
          intro link
          rw [mem_step_table haccepts hok, mem_step_table haccepts hok, h.links]
        · rename_i hskipped
          have hmem := h.mem_of_hidden hstable hasks hin hdest fun hpass => hskipped (Or.inr hpass)
          refine ⟨h.shows, hright, ?_, h.asked⟩
          intro link
          rw [mem_step_table_of_mem haccepts hok ((h.links _).mp hmem), h.links]
      · rw [step_of_not_accepts haccepts, step_of_not_accepts haccepts, ite_self]
        exact h

theorem agree_run (h : Agree master caps s t) (hstable : Stable caps) {later : List Capture}
    (hcaps : ∀ cap ∈ later, cap ∈ caps ∧ OnPort cap) :
    Agree master caps (Runs.run (gatedStep k master) s later)
      (Runs.run (DynamicGre.step k master) t (later.map Capture.arrival)) := by
  have hstep (s t : State) (cap : Capture) (h : Agree master caps s t)
      (hcap : cap ∈ caps ∧ OnPort cap) :=
    h.step (k := k) hstable hcap.1 hcap.2
  rw [Runs.run, Runs.run, List.foldl_map]
  exact (Runs.along_of_forall hcaps).simulation hstep h

end Transparency

/-- Whichever frames were captured before the filter in force, hiding frames
changes neither the links nor the filter of a run, as long as all frames from
one endpoint ask for the same tunnel. Endpoints may share names. -/
theorem gated_transparent (k : Kernel) (master : Int32) (table : LinkTable) (env : BuildEnv)
    (caps : List Capture)
    (hstart : ∀ link ∈ table, link.name.hasPrefix TUNNEL_PREFIX = false) (henv : env.Ok)
    (hport : ∀ cap ∈ caps, OnPort cap) (hstable : Stable caps) :
    let start : State := ⟨table, (buildFilter k env table none).2⟩
    let gated := Runs.run (gatedStep k master) start caps
    let every := Runs.run (step k master) start (caps.map Capture.arrival)
    (∀ link, link ∈ gated.table ↔ link ∈ every.table) ∧
      ∀ f, passes gated.installed f = passes every.installed f := by
  intro start gated every
  have hshows : Shows start (registry start.table) := (inv_of_no_links henv hstart).1
  have hasked : OnlyAsked master caps start.table := by
    intro link hlink hsome
    obtain ⟨parms, hparms⟩ := Option.isSome_iff_exists.mp hsome
    have hprefix := (Link.tunnel_eq_some_iff.mp hparms).2
    rw [hstart link hlink] at hprefix
    cases hprefix
  have hagree : Agree master caps gated every :=
    agree_run ⟨hshows, hshows, fun _ => Iff.rfl, hasked⟩ hstable fun cap hcap =>
      ⟨hcap, hport cap hcap⟩
  exact ⟨hagree.links, hagree.passes_eq⟩

/-- The second frame of the client is hidden, so it is handled in one run only. -/
theorem gated_transparent_twice :
    let caps : List Capture := [⟨.frame GreFrame.keyedPacket FrameEnv.good, false⟩,
      ⟨.timeout, false⟩, ⟨.frame GreFrame.keyedPacket FrameEnv.good, false⟩]
    let start : State := ⟨noLinks, (buildFilter Kernel.plain BuildEnv.good noLinks none).2⟩
    let gated := Runs.run (gatedStep Kernel.plain 3) start caps
    let every := Runs.run (step Kernel.plain 3) start (caps.map Capture.arrival)
    (∀ link, link ∈ gated.table ↔ link ∈ every.table) ∧
      ∀ f, passes gated.installed f = passes every.installed f := by
  intro caps
  have hframes : ∀ cap ∈ caps, cap.arrival = .timeout ∨
      cap.arrival = .frame GreFrame.keyedPacket FrameEnv.good := by
    simp [caps]
  refine gated_transparent Kernel.plain 3 noLinks BuildEnv.good caps (fun _ h => nomatch h)
    BuildEnv.good_ok ?_ ?_
  · intro cap hcap
    unfold OnPort
    rcases hframes cap hcap with hnone | hframe
    · rw [hnone]
      trivial
    · rw [hframe]
      exact ⟨FrameEnv.good_ok, rfl, by decide⟩
  · have hkeyed {pkt : Packet} (h : AsksIn caps pkt) : pkt = GreFrame.keyedPacket := by
      obtain ⟨-, cap, hcap, fenv, harrival⟩ := h
      rcases hframes cap hcap with hnone | hframe
      · rw [hnone] at harrival
        cases harrival
      · rw [hframe] at harrival
        exact (Arrival.frame.inj harrival).1.symm
    intro p q hp hq _
    rw [hkeyed hp, hkeyed hq]

end DynamicGre

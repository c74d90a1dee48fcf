import DynamicGre.Dygre.History

/-!
What a run of the Lab4 daemon leaves behind, told from its frames alone. For
each source the first frame wins, since the filter hides the others. Failed
calls delay a tunnel only as long as they last: a source that sends again after
them gets its own.
-/

namespace DynamicGre.Dygre

open Bytes Pcap

/-- The frame is for the daemon, and none before it came from its source. -/
def FirstOfSource (arrivals : List Arrival) (pkt : Packet) : Prop :=
  (pkt.inbound = true ∧ Accepts pkt) ∧ ∃ before env after,
    arrivals = before ++ .frame pkt env :: after ∧ pkt.saddr Packet.outerIp ∉ sources before

section First

variable {master : Int32} {s : State} {arrival : Arrival} {arrivals : List Arrival} {pkt : Packet}
  {link : Link} {addr : UInt32}

theorem not_firstOfSource_nil : ¬FirstOfSource [] pkt := by
  rintro ⟨-, before, env, after, heq, -⟩
  cases before <;> cases heq

theorem mem_sources_cons : addr ∈ sources (arrival :: arrivals) ↔
    sourceOf arrival = some addr ∨ addr ∈ sources arrivals := by
  simp only [sources, List.mem_filterMap, List.mem_cons, exists_eq_or_imp]

theorem firstOfSource_cons : FirstOfSource (arrival :: arrivals) pkt ↔
    ((pkt.inbound = true ∧ Accepts pkt) ∧ ∃ env, arrival = .frame pkt env) ∨
      (FirstOfSource arrivals pkt ∧ sourceOf arrival ≠ some (pkt.saddr Packet.outerIp)) := by
  constructor
  · rintro ⟨hours, before, env, after, heq, hfirst⟩
    cases before with
    | nil =>
        obtain ⟨rfl, -⟩ := List.cons.inj heq
        exact Or.inl ⟨hours, env, rfl⟩
    | cons first before =>
        obtain ⟨rfl, rfl⟩ := List.cons.inj heq
        rw [mem_sources_cons, not_or] at hfirst
        exact Or.inr ⟨⟨hours, before, env, after, rfl, hfirst.2⟩, hfirst.1⟩
  · rintro (⟨hours, env, rfl⟩ | ⟨⟨hours, before, env, after, rfl, hfirst⟩, hother⟩)
    · exact ⟨hours, [], env, arrivals, rfl, List.not_mem_nil⟩
    · refine ⟨hours, arrival :: before, env, after, rfl, ?_⟩
      rw [mem_sources_cons, not_or]
      exact ⟨hother, hfirst⟩

/-- The name of a new tunnel is free. -/
theorem Named.name_ne (h : Named s.table) (hfresh : addr ∉ remotes s.table)
    (hlink : link ∈ s.table) : link.name ≠ tunnelName addr := by
  intro hname
  have hdygre : link.name.hasPrefix TUNNEL_PREFIX = true := by
    rw [hname]
    exact hasPrefix_tunnelName addr
  obtain ⟨parms, hkind, hown⟩ := h link hlink hdygre
  have hsame : parms.remote = addr := tunnelName_inj.mp (hown.symm.trans hname)
  exact hfresh (mem_remotes.mpr
    ⟨link, hlink, remoteOf_eq_some_iff.mpr ⟨parms, hkind, hdygre, hsame⟩⟩)

/-- A frame from a new source adds its tunnel to the links. -/
theorem Exact.mem_next_of_fresh (h : Exact s) {env : FrameEnv}
    (hcalm : Calm (.frame pkt env)) (hours : pkt.inbound = true ∧ Accepts pkt)
    (hfresh : pkt.saddr Packet.outerIp ∉ remotes s.table) :
    link ∈ (next master s (.frame pkt env)).table ↔
      link = greLink master (pkt.saddr Packet.outerIp) (pkt.daddr Packet.outerIp) ∨
        link ∈ s.table := by
  have hpass := (h.passes_iff hours.2).mpr ⟨hours.1, hfresh⟩
  have hstep : step master s (.frame pkt env) = handle master s pkt env := if_pos hpass
  rw [next, hstep, handle_of_calm hours.2 hcalm]
  refine KeyedList.mem_put.trans (or_congr_right ?_)
  exact ⟨fun hold => hold.1, fun hold => ⟨hold, h.named.name_ne hfresh hold⟩⟩

/-- Either the arrival changes nothing, or it is the first frame of a source. -/
theorem Exact.next_cases (h : Exact s) (hcalm : Calm arrival) :
    (next master s arrival = s ∧
      ∀ addr, sourceOf arrival = some addr → addr ∈ remotes s.table) ∨
    ∃ pkt env, arrival = .frame pkt env ∧ (pkt.inbound = true ∧ Accepts pkt) ∧
      pkt.saddr Packet.outerIp ∉ remotes s.table ∧ Exact (next master s arrival) ∧
      ∀ addr, addr ∈ remotes (next master s arrival).table ↔
        addr = pkt.saddr Packet.outerIp ∨ addr ∈ remotes s.table := by
  by_cases hknown : ∀ addr, sourceOf arrival = some addr → addr ∈ remotes s.table
  · have hstep : step master s arrival = pure s := h.step_of_known hknown
    exact Or.inl ⟨congrArg Logged.val hstep, hknown⟩
  · push Not at hknown
    obtain ⟨addr, hsource, hfresh⟩ := hknown
    obtain ⟨-, hexact, hremotes⟩ :=
      @Exact.step_of_fresh master s arrival addr h hcalm hsource hfresh
    cases arrival with
    | timeout => cases hsource
    | frame pkt env =>
        obtain ⟨hours, rfl⟩ := sourceOf_frame hsource
        exact Or.inr ⟨pkt, env, rfl, hours, hfresh, hexact, hremotes⟩

/-- The filter stays exact, and every source that arrives has a tunnel. -/
theorem Exact.run (h : Exact s) (hcalm : ∀ arrival ∈ arrivals, Calm arrival) :
    Exact (Runs.run (next master) s arrivals) ∧
      ∀ addr, addr ∈ remotes (Runs.run (next master) s arrivals).table ↔
        addr ∈ sources arrivals ∨ addr ∈ remotes s.table := by
  induction arrivals generalizing s with
  | nil => exact ⟨h, fun addr => by simp [sources]⟩
  | cons arrival arrivals ih =>
      have hrest : ∀ a ∈ arrivals, Calm a := fun a ha => hcalm a (List.mem_cons_of_mem _ ha)
      rw [Runs.run_cons]
      rcases @Exact.next_cases master s arrival h (hcalm arrival List.mem_cons_self) with
        ⟨hsame, hknown⟩ | ⟨pkt, env, rfl, hours, -, hexact, hremotes⟩
      · rw [hsame]
        refine ⟨(ih h hrest).1, fun addr => ?_⟩
        rw [(ih h hrest).2, mem_sources_cons]
        constructor
        · exact Or.imp_left Or.inr
        · rintro ((hsource | hlater) | hold)
          · exact Or.inr (hknown addr hsource)
          · exact Or.inl hlater
          · exact Or.inr hold
      · refine ⟨(ih hexact hrest).1, fun addr => ?_⟩
        have hsource : sourceOf (.frame pkt env) = some (pkt.saddr Packet.outerIp) := if_pos hours
        rw [(ih hexact hrest).2, hremotes, mem_sources_cons, hsource, Option.some_inj, or_assoc,
          or_left_comm, eq_comm]

/-- A run without failing calls adds the tunnels of the first frames. -/
theorem Exact.mem_run (h : Exact s) (hcalm : ∀ arrival ∈ arrivals, Calm arrival) :
    link ∈ (Runs.run (next master) s arrivals).table ↔ link ∈ s.table ∨
      ∃ pkt, FirstOfSource arrivals pkt ∧ pkt.saddr Packet.outerIp ∉ remotes s.table ∧
        link = greLink master (pkt.saddr Packet.outerIp) (pkt.daddr Packet.outerIp) := by
  induction arrivals generalizing s with
  | nil => simp [not_firstOfSource_nil]
  | cons arrival arrivals ih =>
      have hrest : ∀ a ∈ arrivals, Calm a := fun a ha => hcalm a (List.mem_cons_of_mem _ ha)
      have hnow : Calm arrival := hcalm arrival List.mem_cons_self
      rw [Runs.run_cons]
      rcases @Exact.next_cases master s arrival h hnow with
        ⟨hsame, hknown⟩ | ⟨pkt, env, rfl, hours, hfresh, hexact, hremotes⟩
      · rw [hsame, ih h hrest]
        refine or_congr_right (exists_congr fun pkt => ?_)
        rw [firstOfSource_cons]
        constructor
        · rintro ⟨hfirst, hfresh, hlink⟩
          exact ⟨Or.inr ⟨hfirst, fun hsource => hfresh (hknown _ hsource)⟩, hfresh, hlink⟩
        · rintro ⟨⟨hours, env, rfl⟩ | ⟨hfirst, -⟩, hfresh, hlink⟩
          · exact absurd (hknown _ (if_pos hours)) hfresh
          · exact ⟨hfirst, hfresh, hlink⟩
      · have hsource : sourceOf (.frame pkt env) = some (pkt.saddr Packet.outerIp) := if_pos hours
        rw [ih hexact hrest, h.mem_next_of_fresh hnow hours hfresh]
        simp only [firstOfSource_cons, hremotes, hsource]
        constructor
        · rintro ((rfl | hold) | ⟨p, hfirst, hfree, rfl⟩)
          · exact Or.inr ⟨pkt, Or.inl ⟨hours, env, rfl⟩, hfresh, rfl⟩
          · exact Or.inl hold
          · obtain ⟨hother, hfree⟩ := not_or.mp hfree
            exact Or.inr ⟨p, Or.inr ⟨hfirst, fun heq => hother (Option.some.inj heq).symm⟩,
              hfree, rfl⟩
        · rintro (hold | ⟨p, ⟨-, env', hsame⟩ | ⟨hfirst, hother⟩, hfree, rfl⟩)
          · exact Or.inl (Or.inr hold)
          · cases hsame
            exact Or.inl (Or.inl rfl)
          · refine Or.inr ⟨p, hfirst, ?_, rfl⟩
            rintro (heq | hold)
            · exact hother (congrArg some heq.symm)
            · exact hfree hold

end First

/-- A run without failing calls, from a table without `dygre-` links, adds one
tunnel for each source, as the first frame of the source asks for it; the filter
then leaves out these sources. -/
theorem run_firstOfSource (master : Int32) (table : LinkTable) (env : BuildEnv)
    (arrivals : List Arrival)
    (hstart : ∀ link ∈ table, link.name.hasPrefix TUNNEL_PREFIX = false) (henv : env.Ok)
    (hcalm : ∀ arrival ∈ arrivals, Calm arrival) :
    let s := Runs.run (next master) ⟨table, (buildFilter env table none).2⟩ arrivals
    (∀ link, link ∈ s.table ↔ link ∈ table ∨ ∃ pkt, FirstOfSource arrivals pkt ∧
      link = greLink master (pkt.saddr Packet.outerIp) (pkt.daddr Packet.outerIp)) ∧
    ∀ f, passes s.installed f = true ↔ f.inbound = true ∧
      (f.half 12 = some 0x0800 ∧ f.bytes[23]? = some IPPROTO_GRE) ∧
        ∀ addr ∈ sources arrivals, f.source ≠ some addr := by
  intro s
  have hnone : remotes table = [] := remotes_of_no_links hstart
  have hexact : Exact ⟨table, (buildFilter env table none).2⟩ := by
    rw [buildFilter_of_ok henv]
    exact ⟨named_of_no_links hstart, rfl⟩
  obtain ⟨hlater, hremotes⟩ := @Exact.run master _ arrivals hexact hcalm
  constructor
  · intro link
    refine (hexact.mem_run hcalm).trans (or_congr_right (exists_congr fun pkt => ?_))
    simp [hnone]
  · intro f
    rw [hlater.filter, passes, Option.all_some, accepts_filterExpr]
    simp only [hremotes, hnone, List.not_mem_nil, or_false]

/-- `eth0` alone. -/
def onlyEth0 : LinkTable where
  entries := [eth0]
  nodup := List.nodup_singleton _

/-- A frame from the source of `plainPacket` to another address. -/
def strayPacket : Packet where
  bytes := ({ GreFrame.keyedFrame with udp := none }.readdressed 0x0102a8c0 0x0502a8c0).bytes
  stale := fun _ => 0
  inbound := true
  fits := by decide

/-- The tunnel keeps the address that the first of two frames asked for. -/
theorem run_firstOfSource_stray :
    let s := Runs.run (next 3) ⟨onlyEth0, (buildFilter BuildEnv.good onlyEth0 none).2⟩
      [.frame plainPacket FrameEnv.good, .frame strayPacket FrameEnv.good]
    greLink 3 0x0102a8c0 (plainPacket.daddr Packet.outerIp) ∈ s.table ∧
      greLink 3 0x0102a8c0 0x0502a8c0 ∉ s.table := by
  have hcalm : ∀ arrival ∈ [Arrival.frame plainPacket FrameEnv.good,
      .frame strayPacket FrameEnv.good], Calm arrival := by decide
  obtain ⟨hlinks, -⟩ := run_firstOfSource 3 onlyEth0 BuildEnv.good
    [.frame plainPacket FrameEnv.good, .frame strayPacket FrameEnv.good]
    (fun link hlink => List.mem_singleton.mp hlink ▸ by decide) (by decide) hcalm
  have hours : plainPacket.inbound = true ∧ Accepts plainPacket := by decide
  have hfirst : FirstOfSource [.frame plainPacket FrameEnv.good,
      .frame strayPacket FrameEnv.good] plainPacket :=
    firstOfSource_cons.mpr (Or.inl ⟨hours, FrameEnv.good, rfl⟩)
  refine ⟨(hlinks _).mpr (Or.inr ⟨plainPacket, hfirst, by decide⟩), ?_⟩
  intro hmem
  rcases (hlinks _).mp hmem with hold | ⟨pkt, hpkt, heq⟩
  · exact absurd (List.mem_singleton.mp hold) (by decide)
  rcases firstOfSource_cons.mp hpkt with ⟨-, env, hplain⟩ | ⟨hlater, hother⟩
  · cases hplain
    exact absurd heq (by decide)
  rcases firstOfSource_cons.mp hlater with ⟨-, env, hstray⟩ | ⟨hnil, -⟩
  · cases hstray
    exact hother (by decide)
  · exact not_firstOfSource_nil hnil

/-! ### After failures -/

/-- The filter is one that leaves out sources with a tunnel. -/
def Listed (s : State) : Prop :=
  ∃ addrs, s.installed = some (filterExpr addrs) ∧ ∀ addr ∈ addrs, addr ∈ remotes s.table

section Failures

variable {master : Int32} {s : State} {arrival : Arrival} {arrivals : List Arrival}
  {addr : UInt32}

theorem Listed.next (h : Listed s) (hs : Sound s) : Listed (next master s arrival) := by
  cases arrival with
  | timeout => exact h
  | frame pkt env =>
      unfold Dygre.next step
      dsimp only
      split
      · by_cases haccepts : Accepts pkt
        · have hkeeps : Keeps s (handle master s pkt env).val := (hs.handle haccepts).2
          rcases (@handle_cases master s pkt env haccepts).2 with hsame | ⟨addrs, haddrs, hbuilt⟩
          · obtain ⟨addrs, hinstalled, haddrs⟩ := h
            exact ⟨addrs, hsame.trans hinstalled, fun addr haddr => hkeeps.remotes (haddrs addr haddr)⟩
          · exact ⟨addrs, hbuilt, haddrs⟩
        · rw [handle_of_not_accepts haccepts]
          exact h
      · exact h

/-- The source of a frame that is handled or hidden while no call fails has a
tunnel. -/
theorem Listed.served (h : Listed s) (hcalm : Calm arrival)
    (hsource : sourceOf arrival = some addr) :
    addr ∈ remotes (Dygre.next master s arrival).table := by
  cases arrival with
  | timeout => cases hsource
  | frame pkt env =>
      obtain ⟨⟨hin, haccepts⟩, rfl⟩ := sourceOf_frame hsource
      obtain ⟨addrs, hinstalled, haddrs⟩ := h
      have hhandled : (handle master s pkt env).val = _ := handle_of_calm haccepts hcalm
      obtain ⟨hip, hproto, -⟩ := haccepts
      have hgre := hip.protocol_frame.trans (congrArg some hproto)
      unfold Dygre.next step
      dsimp only
      split
      · rw [hhandled]
        exact mem_remotes.mpr ⟨_, KeyedList.mem_put_self _ _, remoteOf_greLink⟩
      · rename_i hhidden
        apply haddrs
        by_contra hnone
        apply hhidden
        rw [hinstalled, passes, Option.all_some, accepts_filterExpr, hip.source_frame]
        refine ⟨hin, ⟨hip.half_frame, hgre⟩, ?_⟩
        intro other hother heq
        rw [Option.some.inj heq] at hnone
        exact hnone hother

theorem Sound.run (hs : Sound s) : Sound (Runs.run (Dygre.next master) s arrivals) ∧
    Keeps s (Runs.run (Dygre.next master) s arrivals) := by
  induction arrivals generalizing s with
  | nil => exact ⟨hs, Keeps.refl s⟩
  | cons arrival arrivals ih =>
      obtain ⟨hnext, hkeeps⟩ := @Sound.next master s hs arrival
      exact ⟨(ih hnext).1, hkeeps.trans _ _ _ (ih hnext).2⟩

/-- Every source of the run has a tunnel at its end. -/
theorem Listed.run (h : Listed s) (hs : Sound s) (hcalm : ∀ arrival ∈ arrivals, Calm arrival) :
    ∀ addr ∈ sources arrivals, addr ∈ remotes (Runs.run (Dygre.next master) s arrivals).table := by
  induction arrivals generalizing s with
  | nil =>
      intro addr haddr
      cases haddr
  | cons arrival arrivals ih =>
      intro addr haddr
      have hnext : Sound (Dygre.next master s arrival) := (hs.next arrival).1
      rcases mem_sources_cons.mp haddr with hnow | hlater
      · have hserved : addr ∈ remotes (Dygre.next master s arrival).table :=
          h.served (hcalm arrival List.mem_cons_self) hnow
        exact hnext.run.2.remotes hserved
      · exact ih (h.next hs) hnext (fun a ha => hcalm a (List.mem_cons_of_mem _ ha)) addr hlater

theorem listed_of_mem_loopHeads {table : LinkTable} {env : BuildEnv}
    (hstart : ∀ link ∈ table, link.name.hasPrefix TUNNEL_PREFIX = false)
    (hs : s ∈ loopHeads master table env arrivals) : Listed s := by
  unfold loopHeads at hs
  dsimp only at hs
  split at hs
  · cases hs
  · rename_i hbuild
    have hfirst : Listed ⟨table, (buildFilter env table none).2⟩ := by
      rcases buildFilter_listed env table none with hfails | ⟨addrs, haddrs, hbuilt⟩
      · rw [hfails] at hbuild
        exact absurd (by decide) hbuild
      · exact ⟨addrs, congrArg Prod.snd hbuilt, haddrs⟩
    have hrun : Runs.Along (Dygre.next master) (fun _ _ => True)
        ⟨table, (buildFilter env table none).2⟩ arrivals := Runs.along_of_forall fun _ _ => trivial
    have hboth (s : State) (arrival : Arrival) (h : Sound s ∧ Listed s) (_ : True) :
        Sound (Dygre.next master s arrival) ∧ Listed (Dygre.next master s arrival) :=
      ⟨(h.1.next arrival).1, h.2.next h.1⟩
    exact (hrun.invariant (fun s => Sound s ∧ Listed s) hboth
      ⟨sound_of_no_links hstart hbuild, hfirst⟩ s hs).2

end Failures

/-- Whatever failed before, once no call fails any more every source that sends
has a tunnel from then on. -/
theorem sources_served (master : Int32) (table : LinkTable) (env : BuildEnv)
    (earlier later : List Arrival)
    (hstart : ∀ link ∈ table, link.name.hasPrefix TUNNEL_PREFIX = false)
    (hcalm : ∀ arrival ∈ later, Calm arrival) :
    ∀ s ∈ loopHeads master table env earlier, ∀ addr ∈ sources later,
      ∃ link ∈ (Runs.run (next master) s later).table, link.name = tunnelName addr ∧
        remoteOf link = some addr := by
  intro s hs addr haddr
  have hsound : Sound s := sound_of_mem_loopHeads hstart hs
  have hmem : addr ∈ remotes (Runs.run (next master) s later).table :=
    (listed_of_mem_loopHeads hstart hs).run hsound hcalm addr haddr
  obtain ⟨link, hlink, hremote⟩ := mem_remotes.mp hmem
  exact ⟨link, hlink, hsound.run.1.named.name_eq hlink hremote, hremote⟩

/-- The link cannot be allocated. -/
def FrameEnv.refused : FrameEnv := { FrameEnv.good with create := ⟨false, 0⟩ }

/-- A source that is refused once gets its tunnel with its next frame. -/
theorem sources_served_retry :
    let s := Runs.run (next 3) ⟨onlyEth0, (buildFilter BuildEnv.good onlyEth0 none).2⟩
      [.frame plainPacket FrameEnv.refused]
    remotes s.table = [] ∧
      ∃ link ∈ (Runs.run (next 3) s [.frame plainPacket FrameEnv.good]).table,
        link.name = tunnelName 0x0102a8c0 ∧ remoteOf link = some 0x0102a8c0 := by
  intro s
  have hcalm : ∀ arrival ∈ [Arrival.frame plainPacket FrameEnv.good], Calm arrival := by decide
  have hheads : s ∈ loopHeads 3 onlyEth0 BuildEnv.good [.frame plainPacket FrameEnv.refused] :=
    List.mem_cons_of_mem _ (List.mem_singleton.mpr rfl)
  refine ⟨by decide, ?_⟩
  exact sources_served 3 onlyEth0 BuildEnv.good [.frame plainPacket FrameEnv.refused]
    [.frame plainPacket FrameEnv.good] (fun link hlink => List.mem_singleton.mp hlink ▸ by decide)
    hcalm s hheads 0x0102a8c0 (by decide)

end DynamicGre.Dygre

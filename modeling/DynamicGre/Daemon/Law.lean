import DynamicGre.Daemon.Loop
import DynamicGre.Packet.Build

/-!
The law between the filter and the links: whoever is left out by the filter is
served by a tunnel. An iteration breaks it in two ways only. A failed
`create_tunnel` skips the rebuild although the old tunnel of the key is gone;
and a failed rebuild leaves a filter that still covers a tunnel just replaced.
-/

namespace DynamicGre

open Bytes Pcap

/-- Every endpoint the filter leaves out is that of a live tunnel. -/
def Law (s : State) : Prop :=
  ∀ ep, Excludes s.installed ep → ∃ link ∈ s.table, link.Serves ep

/-- No other link than the one of this name serves the endpoint. -/
def OnlyServedBy (table : LinkTable) (name : IfName) (ep : Endpoint) : Prop :=
  ∀ link ∈ table, link.Serves ep → link.name = name

/-- The steps that keep the law, told from the state before them and from which
calls fail. -/
def SafeStep (master : Int32) (s : State) : Arrival → Prop
  | .timeout => True
  | .frame pkt env =>
      Dygrefou.Accepts pkt →
        ∀ ep, Excludes s.installed ep →
          OnlyServedBy s.table (requestOf master pkt).ifname ep →
            (CreateFails env (requestOf master pkt) → ¬Destroys env (requestOf master pkt)) ∧
            (¬CreateFails env (requestOf master pkt) → ¬env.build.Installs → ep = senderOf pkt)

section Law

variable {k : Kernel} {master : Int32} {s : State} {pkt : Packet} {env : FrameEnv} {ep : Endpoint}

/-- A freshly installed filter only leaves out endpoints that were read from the
table. -/
theorem law_of_installs (table : LinkTable) {benv : BuildEnv} (h : benv.Installs)
    (installed : Option Expr) : Law ⟨table, (buildFilter k benv table installed).2⟩ := by
  intro ep hexcluded
  rw [buildFilter_of_installs h] at hexcluded
  obtain ⟨-, link, hlink, hserves, -⟩ := mem_reportedAll.mp (excludes_filterExpr.mp hexcluded)
  exact ⟨link, hlink, hserves⟩

theorem not_onlyServedBy {table : LinkTable} {name : IfName} :
    ¬OnlyServedBy table name ep ↔ ∃ link ∈ table, link.Serves ep ∧ link.name ≠ name := by
  simp [OnlyServedBy]

/-- Who serves an endpoint once the old tunnel was deleted. -/
theorem served_cleared (opt : GretapOpt) :
    (∃ link ∈ cleared s env opt, link.Serves ep) ↔
      ∃ link ∈ s.table, link.Serves ep ∧ (Destroys env opt → link.name ≠ opt.ifname) := by
  constructor
  · rintro ⟨link, hlink, hserves⟩
    obtain ⟨hold, hname⟩ := mem_cleared.mp hlink
    exact ⟨link, hold, hserves, hname⟩
  · rintro ⟨link, hold, hserves, hname⟩
    exact ⟨link, mem_cleared.mpr ⟨hold, hname⟩, hserves⟩

/-- Who serves an endpoint once the new tunnel was created: the new link and the
old ones under other names. -/
theorem served_put :
    (∃ link ∈ (cleared s env (requestOf master pkt)).put (tunnelLink (requestOf master pkt)),
      link.Serves ep) ↔
      ep = senderOf pkt ∨
        ∃ link ∈ s.table, link.Serves ep ∧ link.name ≠ (requestOf master pkt).ifname := by
  constructor
  · rintro ⟨link, hlink, hserves⟩
    rcases KeyedList.mem_put.mp hlink with rfl | ⟨hold, hname⟩
    · exact Or.inl (serves_requestOf.mp hserves)
    · exact Or.inr ⟨link, (mem_cleared.mp hold).1, hserves, hname⟩
  · rintro (hsender | ⟨link, hold, hserves, hname⟩)
    · exact ⟨_, KeyedList.mem_put_self _ _, serves_requestOf.mpr hsender⟩
    · exact ⟨link, KeyedList.mem_put.mpr (Or.inr ⟨mem_cleared.mpr ⟨hold, fun _ => hname⟩, hname⟩),
        hserves⟩

theorem law_of_createFails (hlaw : Law s) (haccepts : Dygrefou.Accepts pkt)
    (hfails : CreateFails env (requestOf master pkt)) :
    Law ⟨cleared s env (requestOf master pkt), s.installed⟩ ↔
      SafeStep master s (.frame pkt env) := by
  constructor
  · intro h _ ep hexcluded honly
    refine ⟨fun _ hdestroys => ?_, fun hcreates => absurd hfails hcreates⟩
    obtain ⟨link, hlink, hserves, hname⟩ := (served_cleared _).mp (h ep hexcluded)
    exact hname hdestroys (honly link hlink hserves)
  · intro h ep hexcluded
    apply (served_cleared _).mpr
    by_cases honly : OnlyServedBy s.table (requestOf master pkt).ifname ep
    · have hkept := (h haccepts ep hexcluded honly).1 hfails
      obtain ⟨link, hlink, hserves⟩ := hlaw ep hexcluded
      exact ⟨link, hlink, hserves, fun hdestroys => absurd hdestroys hkept⟩
    · obtain ⟨link, hlink, hserves, hname⟩ := not_onlyServedBy.mp honly
      exact ⟨link, hlink, hserves, fun _ => hname⟩

theorem law_of_not_installs (haccepts : Dygrefou.Accepts pkt)
    (hcreates : ¬CreateFails env (requestOf master pkt)) (hbuild : ¬env.build.Installs) :
    Law ⟨(cleared s env (requestOf master pkt)).put (tunnelLink (requestOf master pkt)),
        s.installed⟩ ↔ SafeStep master s (.frame pkt env) := by
  constructor
  · intro h _ ep hexcluded honly
    refine ⟨fun hfails => absurd hfails hcreates, fun _ _ => ?_⟩
    rcases served_put.mp (h ep hexcluded) with hsender | ⟨link, hlink, hserves, hname⟩
    · exact hsender
    · exact absurd (honly link hlink hserves) hname
  · intro h ep hexcluded
    apply served_put.mpr
    by_cases honly : OnlyServedBy s.table (requestOf master pkt).ifname ep
    · exact Or.inl ((h haccepts ep hexcluded honly).2 hcreates hbuild)
    · exact Or.inr (not_onlyServedBy.mp honly)

/-- From a lawful state exactly the safe steps lead to a lawful state. -/
theorem law_step_iff (hlaw : Law s) (arrival : Arrival) :
    Law (step k master s arrival) ↔ SafeStep master s arrival := by
  cases arrival with
  | timeout => exact iff_of_true hlaw trivial
  | frame pkt env =>
      by_cases haccepts : Dygrefou.Accepts pkt
      · rcases step_cases (k := k) haccepts with ⟨hfails, hstep⟩ | ⟨hcreates, hstep⟩
        · rw [hstep]
          exact law_of_createFails hlaw haccepts hfails
        · rw [hstep]
          by_cases hbuild : env.build.Installs
          · refine iff_of_true (law_of_installs _ hbuild _) fun _ ep _ _ => ?_
            exact ⟨fun hfails => absurd hfails hcreates, fun _ hno => absurd hbuild hno⟩
          · dsimp only
            rw [buildFilter_of_not_installs hbuild]
            exact law_of_not_installs haccepts hcreates hbuild
      · rw [step_of_not_accepts haccepts]
        exact iff_of_true hlaw fun h => absurd h haccepts

end Law

/-- The law holds at every loop head of a run exactly when every step of the run
is safe. -/
theorem loopHeads_law_iff (k : Kernel) (master : Int32) (table : LinkTable) (env : BuildEnv)
    (arrivals : List Arrival) :
    (∀ head ∈ loopHeads k master table env arrivals, Law head) ↔
      (env.Installs → Runs.Along (step k master) (SafeStep master)
        ⟨table, (buildFilter k env table none).2⟩ arrivals) := by
  by_cases hbuild : env.Installs
  · have hinit := law_of_installs (k := k) table hbuild none
    have hret : ¬(buildFilter k env table none).1 < 0 := by
      rw [buildFilter_of_installs hbuild]
      exact lt_irrefl (0 : Int)
    rw [loopHeads, if_neg hret,
      Runs.forall_heads_iff (SafeStep master) Law (fun s e hlaw => law_step_iff hlaw e) hinit]
    exact ⟨fun h _ => h, fun h => h hbuild⟩
  · have hret : (buildFilter k env table none).1 < 0 := by
      rw [buildFilter_of_not_installs hbuild]
      decide
    rw [loopHeads, if_pos hret]
    exact iff_of_true (fun head hhead => nomatch hhead) fun h => absurd h hbuild

/-! ### A run that breaks the law -/

/-- The same key from another address. -/
def rekeyedFrame : GreFrame :=
  { GreFrame.keyedFrame with ip := { GreFrame.keyedFrame.ip with saddr := 0x0902a8c0 } }

def rekeyedPacket : Packet where
  bytes := rekeyedFrame.bytes
  stale := fun _ => 0
  inbound := true
  fits := by decide

/-- The tunnel that the earlier client of the key was given. -/
def servedTable : LinkTable where
  entries := [tunnelLink (requestOf 3 GreFrame.keyedPacket)]
  nodup := List.nodup_singleton _

/-- Every call succeeds but `nl_send_sync` in `create_tunnel`. -/
def sendFails : FrameEnv where
  destroy := ⟨0, 0⟩
  create := { CreateEnv.good with send := -NLE_NOMEM }
  build := BuildEnv.good

/-- The client at port 40000 of 192.168.2.1 stays left out by the filter after
its tunnel was deleted for a frame whose own tunnel was not created. -/
theorem loopHeads_unlawful :
    ¬∀ head ∈ loopHeads Kernel.plain 3 servedTable BuildEnv.good
      [.frame rekeyedPacket sendFails], Law head := by
  intro h
  have hinstalls : BuildEnv.good.Installs := by decide
  have hheads : loopHeads Kernel.plain 3 servedTable BuildEnv.good
      [.frame rekeyedPacket sendFails] =
      Runs.heads (step Kernel.plain 3) ⟨servedTable, some (filterExpr (reportedAll BuildEnv.good
        servedTable))⟩ [.frame rekeyedPacket sendFails] := by
    rw [loopHeads, buildFilter_of_installs hinstalls]
    rfl
  rw [hheads] at h
  have hfirst := h _ List.mem_cons_self
  have hsecond := h _ (List.mem_cons_of_mem _ List.mem_cons_self)
  have hsafe := (law_step_iff hfirst _).mp hsecond
  have hold : Dygrefou.reported GreFrame.keyedPacket GretapOpt.zeroed =
      GreFrame.keyedFrame.request := GreFrame.reported_eq rfl
  have hnew : Dygrefou.reported rekeyedPacket GretapOpt.zeroed = rekeyedFrame.request :=
    GreFrame.reported_eq rfl
  have hserves : (tunnelLink (requestOf 3 GreFrame.keyedPacket)).Serves (0x0102a8c0, 40000) := by
    rw [serves_requestOf, senderOf, hold]
    rfl
  have hmem : tunnelLink (requestOf 3 GreFrame.keyedPacket) ∈ servedTable := List.mem_cons_self
  have hexcluded : Excludes (some (filterExpr (reportedAll BuildEnv.good servedTable)))
      (0x0102a8c0, 40000) :=
    excludes_filterExpr.mpr (mem_reportedAll.mpr
      ⟨Int.le_refl 0, _, hmem, hserves, by decide⟩)
  have honly : OnlyServedBy servedTable (requestOf 3 rekeyedPacket).ifname (0x0102a8c0, 40000) := by
    intro link hlink _
    rw [List.mem_singleton.mp hlink]
    change interfaceName (Dygrefou.reported GreFrame.keyedPacket GretapOpt.zeroed) =
      interfaceName (Dygrefou.reported rekeyedPacket GretapOpt.zeroed)
    rw [hold, hnew]
    rfl
  have hfails : CreateFails sendFails (requestOf 3 rekeyedPacket) := by
    rw [CreateFails, createTunnel_of_roomy _ ⟨rfl, Nat.le_refl 15⟩]
    decide
  have hdestroys : Destroys sendFails (requestOf 3 rekeyedPacket) := by
    refine ⟨?_, Int.le_refl 0, Int.le_refl 0⟩
    change (Dygrefou.reported rekeyedPacket GretapOpt.zeroed).key ≠ 0
    rw [hnew]
    decide
  exact (hsafe (GreFrame.accepts rfl) _ hexcluded honly).1 hfails hdestroys

end DynamicGre

import DynamicGre.Daemon.Admission
import DynamicGre.Daemon.Clients
import DynamicGre.Daemon.Names
import DynamicGre.Dygre.History

/-!
What a run can do to a single link, whatever the calls answer. A link appears
only for a frame that asked for it, and changes only for a frame of its name; so
other links stay as they were, and of the tunnels no two take the same frame.
-/

namespace DynamicGre

open Bytes

/-- The arrival is a frame that asks for this link. -/
def Asks (master : Int32) (arrival : Arrival) (link : Link) : Prop :=
  ∃ pkt env, arrival = .frame pkt env ∧ Dygrefou.Accepts pkt ∧
    link = tunnelLink (requestOf master pkt)

section Origin

variable {k : Kernel} {master : Int32} {s : State} {arrival : Arrival} {link : Link}
  {table : LinkTable} {benv : BuildEnv} {arrivals : List Arrival}

theorem mem_step_origin (h : link ∈ (step k master s arrival).table) :
    link ∈ s.table ∨ Asks master arrival link := by
  cases arrival with
  | timeout => exact Or.inl h
  | frame pkt env =>
      by_cases haccepts : Dygrefou.Accepts pkt
      · rcases step_cases (k := k) haccepts with ⟨-, hstep⟩ | ⟨-, hstep⟩
        · rw [hstep] at h
          exact Or.inl (mem_cleared.mp h).1
        · rw [hstep] at h
          rcases KeyedList.mem_put.mp h with rfl | ⟨hold, -⟩
          · exact Or.inr ⟨pkt, env, rfl, haccepts, rfl⟩
          · exact Or.inl (mem_cleared.mp hold).1
      · rw [step_of_not_accepts haccepts] at h
        exact Or.inl h

/-- Every link at a head was there from the start or was asked for. -/
theorem mem_loopHeads_origin {s : State} (hs : s ∈ loopHeads k master table benv arrivals)
    (hlink : link ∈ s.table) : link ∈ table ∨ ∃ arrival ∈ arrivals, Asks master arrival link := by
  unfold loopHeads at hs
  dsimp only at hs
  split at hs
  · cases hs
  · have hstep (s : State) (arrival : Arrival) (link : Link)
        (h : link ∈ (step k master s arrival).table) :
        link ∈ s.table ∨ Asks master arrival link := mem_step_origin h
    exact @Runs.origin_of_mem_heads _ _ _ _ _ _ (fun s link => link ∈ s.table) _ hstep s hs
      link hlink

/-- No frame comes from the address that stands for any. -/
def Sourced (arrival : Arrival) : Prop :=
  ∀ pkt env, arrival = .frame pkt env → pkt.saddr Packet.outerIp ≠ 0

/-- A tunnel of the daemon only takes frames of its name. -/
theorem name_of_admits {p pkt : Packet} (hsource : p.saddr Packet.outerIp ≠ 0)
    (h : (GreParms.ofOpt (requestOf master p)).Admits pkt) : frameName p = frameName pkt := by
  apply frameName_inj.mpr
  have hremote : p.saddr Packet.outerIp = pkt.saddr Packet.outerIp :=
    h.remote.resolve_left hsource
  have hflag : greFlagsOf (requestOf master p) &&& GRE_KEY ≠ 0 ↔ frameKey p ≠ 0 := by
    rw [keyFlag_greFlagsOf, frameKey_ne_zero]
  by_cases hkey : frameKey p = 0
  · have hkeyless : grehdrK pkt.greFlags = false :=
      h.keyless (not_not.mp fun hon => hflag.mp hon hkey)
    have hnone : frameKey pkt = 0 := by
      rw [frameKey, hkeyless]
      rfl
    rw [frameWord, frameWord, if_neg (not_not.mpr hkey), if_neg (not_not.mpr hnone), hremote]
  · obtain ⟨hbit, hikey⟩ := h.keyed (hflag.mpr hkey)
    have hsame : frameKey pkt = frameKey p := by
      have hown : pkt.greKey = htonl (frameKey p) := hikey
      rw [← htonl_inj, htonl_frameKey hbit, hown]
    rw [frameWord, frameWord, hsame, if_pos hkey, if_pos hkey]

end Origin

/-- At every loop head, whatever the calls answered before, a tunnel takes only
frames of its own name; so no frame is taken by two of them. There was no tunnel
before, and no frame came from 0.0.0.0. -/
theorem admitted_by_one (k : Kernel) (master : Int32) (table : LinkTable) (env : BuildEnv)
    (arrivals : List Arrival)
    (hstart : ∀ link ∈ table, link.name.hasPrefix TUNNEL_PREFIX = false)
    (hsource : ∀ arrival ∈ arrivals, Sourced arrival) :
    ∀ s ∈ loopHeads k master table env arrivals, ∀ pkt : Packet,
      (∀ link ∈ s.table, ∀ parms ∈ link.tunnel, parms.Admits pkt →
        link.name = frameName pkt ∧ link.master = master) ∧
      ∀ a ∈ s.table, ∀ b ∈ s.table, ∀ pa ∈ a.tunnel, ∀ pb ∈ b.tunnel,
        pa.Admits pkt → pb.Admits pkt → a = b := by
  intro s hs pkt
  have hnamed : ∀ link ∈ s.table, ∀ parms ∈ link.tunnel, parms.Admits pkt →
      link.name = frameName pkt ∧ link.master = master := by
    intro link hlink parms hparms hadmits
    obtain ⟨hkind, hprefix⟩ := Link.tunnel_eq_some_iff.mp hparms
    rcases mem_loopHeads_origin hs hlink with hold | ⟨arrival, hmem, p, fenv, hp, -, rfl⟩
    · rw [hstart link hold] at hprefix
      cases hprefix
    · cases hkind
      exact ⟨name_of_admits (hsource arrival hmem p fenv hp) hadmits, rfl⟩
  refine ⟨hnamed, ?_⟩
  intro a ha b hb pa hpa pb hpb hadmits hadmits'
  apply s.table.eq_of_key_eq ha hb
  exact (hnamed a ha pa hpa hadmits).1.trans (hnamed b hb pb hpb hadmits').1.symm

/-- The tunnel of a keyless client takes that client's next frame, and no other
tunnel does. -/
theorem admitted_by_one_keyless :
    ∃ s ∈ loopHeads Kernel.plain 3 noLinks BuildEnv.good [.frame keylessPacket FrameEnv.good],
      ∃ link ∈ s.table, ∃ parms ∈ link.tunnel, parms.Admits keylessPacket ∧
        ∀ other ∈ s.table, ∀ parms ∈ other.tunnel, parms.Admits keylessPacket → other = link := by
  have haccepts : Dygrefou.Accepts keylessPacket := GreFrame.accepts rfl
  let start : State := ⟨noLinks, (buildFilter Kernel.plain BuildEnv.good noLinks none).2⟩
  let served : State := step Kernel.plain 3 start (.frame keylessPacket FrameEnv.good)
  have hserved : served ∈ loopHeads Kernel.plain 3 noLinks BuildEnv.good
      [.frame keylessPacket FrameEnv.good] := by
    unfold loopHeads
    rw [buildFilter_of_installs BuildEnv.good_ok.installs]
    exact List.mem_cons_of_mem start (List.mem_singleton_self served)
  have hmem : tunnelLink (requestOf 3 keylessPacket) ∈ served.table :=
    (mem_step_table haccepts FrameEnv.good_ok).mpr (Or.inl rfl)
  have hadmits : (GreParms.ofOpt (requestOf 3 keylessPacket)).Admits keylessPacket :=
    admits_ofOpt.mpr (by decide)
  have hsource : ∀ arrival ∈ [Arrival.frame keylessPacket FrameEnv.good], Sourced arrival := by
    rw [List.forall_mem_singleton]
    rintro pkt env ⟨⟩
    decide
  refine ⟨served, hserved, _, hmem, _, tunnel_tunnelLink, hadmits, ?_⟩
  intro other hother parms hparms hother'
  exact (admitted_by_one Kernel.plain 3 noLinks BuildEnv.good [.frame keylessPacket FrameEnv.good]
    (fun _ h => nomatch h) hsource served hserved keylessPacket).2
    other hother _ hmem parms hparms _ tunnel_tunnelLink hother' hadmits

/-! ### Links that no frame is named like -/

/-- An iteration of the Lab4 daemon leaves the links of other names alone. -/
theorem Dygre.mem_next_of_ne {master : Int32} {s : State} {arrival : Dygre.Arrival} {link : Link}
    (hname : ∀ pkt env, arrival = .frame pkt env → Dygre.Accepts pkt →
      tunnelName (pkt.saddr Packet.outerIp) ≠ link.name) :
    link ∈ (Dygre.next master s arrival).table ↔ link ∈ s.table := by
  cases arrival with
  | timeout => exact Iff.rfl
  | frame pkt env =>
      unfold Dygre.next Dygre.step
      dsimp only
      split
      · by_cases haccepts : Dygre.Accepts pkt
        · rcases (@Dygre.handle_cases master s pkt env haccepts).1 with hsame | hput
          · rw [hsame]
          · rw [hput, KeyedList.mem_put]
            constructor
            · rintro (rfl | ⟨hold, -⟩)
              · exact absurd rfl (hname pkt env rfl haccepts)
              · exact hold
            · intro hold
              exact Or.inr ⟨hold, fun heq => hname pkt env rfl haccepts heq.symm⟩
        · rw [Dygre.handle_of_not_accepts haccepts]
          exact Iff.rfl
      · exact Iff.rfl

/-- Whatever the calls answer, at every loop head of either daemon a link that no
accepted frame of the run is named like is there exactly if it was at the
start. -/
theorem links_kept (link : Link) (table : LinkTable) (master : Int32) :
    (∀ k env arrivals,
      (∀ pkt fenv, Arrival.frame pkt fenv ∈ arrivals → Dygrefou.Accepts pkt →
        frameName pkt ≠ link.name) →
      ∀ s ∈ loopHeads k master table env arrivals, (link ∈ s.table ↔ link ∈ table)) ∧
    ∀ env arrivals,
      (∀ pkt fenv, Dygre.Arrival.frame pkt fenv ∈ arrivals → Dygre.Accepts pkt →
        tunnelName (pkt.saddr Packet.outerIp) ≠ link.name) →
      ∀ s ∈ Dygre.loopHeads master table env arrivals, (link ∈ s.table ↔ link ∈ table) := by
  constructor
  · intro k env arrivals hnames s hs
    unfold loopHeads at hs
    dsimp only at hs
    split at hs
    · cases hs
    · refine Runs.iff_of_mem_heads (P := fun s => link ∈ s.table) ?_ s hs
      intro s arrival harrival
      cases arrival with
      | timeout => exact Iff.rfl
      | frame pkt fenv =>
          by_cases haccepts : Dygrefou.Accepts pkt
          · exact mem_step_of_ne (hnames pkt fenv harrival haccepts).symm
          · rw [step_of_not_accepts haccepts]
  · intro env arrivals hnames s hs
    unfold Dygre.loopHeads at hs
    dsimp only at hs
    split at hs
    · cases hs
    · refine Runs.iff_of_mem_heads (P := fun s => link ∈ s.table) ?_ s hs
      intro s arrival harrival
      apply Dygre.mem_next_of_ne
      rintro pkt fenv rfl haccepts
      exact hnames pkt fenv harrival haccepts

/-- No accepted frame is named like a link without the prefix. -/
theorem frameName_ne_of_foreign {link : Link} (h : link.name.hasPrefix TUNNEL_PREFIX = false)
    (pkt : Packet) : frameName pkt ≠ link.name := by
  intro hname
  have hprefix := hasPrefix_interfaceName (Dygrefou.reported pkt GretapOpt.zeroed)
  rw [← frameName, hname, h] at hprefix
  cases hprefix

theorem links_kept_eth0 :
    (∀ s ∈ loopHeads Kernel.plain 3 ⟨[Dygre.eth0], List.nodup_singleton _⟩ BuildEnv.good
      [.frame GreFrame.keyedPacket FrameEnv.good], Dygre.eth0 ∈ s.table) ∧
    ∀ s ∈ Dygre.loopHeads 3 ⟨[Dygre.eth0], List.nodup_singleton _⟩ Dygre.BuildEnv.good
      [.frame Dygre.plainPacket Dygre.FrameEnv.good], Dygre.eth0 ∈ s.table := by
  have hforeign : Dygre.eth0.name.hasPrefix TUNNEL_PREFIX = false := by decide
  obtain ⟨hproject, hlab⟩ := links_kept Dygre.eth0 ⟨[Dygre.eth0], List.nodup_singleton _⟩ 3
  constructor
  · intro s hs
    refine (hproject _ _ _ ?_ s hs).mpr List.mem_cons_self
    intro pkt _ _ _
    exact frameName_ne_of_foreign hforeign pkt
  · intro s hs
    refine (hlab _ _ ?_ s hs).mpr List.mem_cons_self
    intro pkt _ _ _ hname
    have hprefix := hasPrefix_tunnelName (pkt.saddr Packet.outerIp)
    rw [hname, hforeign] at hprefix
    cases hprefix

end DynamicGre

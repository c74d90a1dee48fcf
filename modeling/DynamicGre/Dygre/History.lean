import DynamicGre.Dygre.Loop
import DynamicGre.Packet.Build

/-!
Runs of the Lab4 daemon. The tunnels only grow, each under the name of its
remote address, and the filter leaves out no other source. While no call fails
it leaves out all of them, and each source gets its tunnel once.
-/

namespace DynamicGre.Dygre

open Bytes Pcap

/-- Each tunnel has the name that is made from its remote address. -/
def Named (table : LinkTable) : Prop :=
  ∀ link ∈ table, link.name.hasPrefix TUNNEL_PREFIX = true →
    ∃ parms, link.kind = .gretap parms ∧ link.name = tunnelName parms.remote

/-- What holds at every loop head. -/
structure Sound (s : State) : Prop where
  named : Named s.table
  unique : ∀ a ∈ s.table, ∀ b ∈ s.table, ∀ addr,
    remoteOf a = some addr → remoteOf b = some addr → a = b
  excluded : ∀ addr, ExcludesSource s.installed addr → ∃ link ∈ s.table, remoteOf link = some addr

/-- Every link is still there later, with its remote address. -/
def Keeps (s later : State) : Prop :=
  ∀ link ∈ s.table, ∃ link' ∈ later.table,
    link'.name = link.name ∧ remoteOf link' = remoteOf link

theorem Keeps.refl (s : State) : Keeps s s := fun link hlink => ⟨link, hlink, rfl, rfl⟩

theorem Keeps.trans (s t u : State) (hst : Keeps s t) (htu : Keeps t u) : Keeps s u := by
  intro link hlink
  obtain ⟨link', hlink', hname, hremote⟩ := hst link hlink
  obtain ⟨link'', hlink'', hname', hremote'⟩ := htu link' hlink'
  exact ⟨link'', hlink'', hname'.trans hname, hremote'.trans hremote⟩

theorem Keeps.remotes {s later : State} (h : Keeps s later) {addr : UInt32}
    (haddr : addr ∈ remotes s.table) : addr ∈ remotes later.table := by
  obtain ⟨link, hlink, hremote⟩ := mem_remotes.mp haddr
  obtain ⟨link', hlink', -, hremote'⟩ := h link hlink
  exact mem_remotes.mpr ⟨link', hlink', hremote'.trans hremote⟩

/-! ### The tunnels -/

section Tunnels

variable {env : CreateEnv} {master : Int32} {remote localAddr addr : UInt32} {table : LinkTable}

theorem log_createTunnel : (createTunnel env master remote localAddr table).log = [remote] := by
  unfold createTunnel
  rw [Logged.log_bind, Logged.log_emits]
  split
  · rfl
  · split
    · rfl
    · split <;> rfl

/-- Whatever code it returns, the link was added or nothing has changed. -/
theorem createTunnel_table : (createTunnel env master remote localAddr table).val.2 = table ∨
    (createTunnel env master remote localAddr table).val.2 =
      table.put (greLink master remote localAddr) := by
  have hadded : linkAdd env.add table (greLink master remote localAddr) = table ∨
      linkAdd env.add table (greLink master remote localAddr) =
        table.put (greLink master remote localAddr) := by
    unfold linkAdd
    split
    · exact Or.inl rfl
    · exact Or.inr rfl
  unfold createTunnel
  rw [Logged.val_bind]
  split
  · exact Or.inl rfl
  · dsimp only
    split
    · exact hadded
    · split
      · exact hadded
      · exact hadded

/-- The link is allocated and added. -/
def CreateEnv.Ok (env : CreateEnv) : Prop := env.alloc = true ∧ 0 ≤ env.add

theorem createTunnel_of_ok (h : env.Ok) : (createTunnel env master remote localAddr table).val =
    (0, table.put (greLink master remote localAddr)) := by
  obtain ⟨halloc, hadd⟩ := h
  have hexist : ¬env.add = -NLE_EXIST := by
    unfold NLE_EXIST
    omega
  simp [createTunnel, linkAdd, halloc, hexist, not_lt.mpr hadd]

theorem remoteOf_greLink : remoteOf (greLink master remote localAddr) = some remote :=
  remoteOf_eq_some_iff.mpr ⟨_, rfl, hasPrefix_tunnelName remote, rfl⟩

/-- Among links named after their remote addresses, only the name of the new
link is taken over, and only from a link with the same remote address. -/
theorem Named.keeps_put {s : State} (h : Named s.table) (installed : Option Expr) :
    Keeps s ⟨s.table.put (greLink master remote localAddr), installed⟩ := by
  intro link hlink
  by_cases hname : link.name = tunnelName remote
  · refine ⟨_, KeyedList.mem_put_self _ _, hname.symm, ?_⟩
    have hprefix : link.name.hasPrefix TUNNEL_PREFIX = true := by
      rw [hname]
      exact hasPrefix_tunnelName remote
    obtain ⟨parms, hkind, hown⟩ := h link hlink hprefix
    have hremote : parms.remote = remote := tunnelName_inj.mp (hown.symm.trans hname)
    rw [remoteOf_greLink]
    exact (remoteOf_eq_some_iff.mpr ⟨parms, hkind, hprefix, hremote⟩).symm
  · exact ⟨link, KeyedList.mem_put.mpr (Or.inr ⟨hlink, hname⟩), rfl, rfl⟩

theorem Named.put (h : Named table) : Named (table.put (greLink master remote localAddr)) := by
  intro link hlink hprefix
  rcases KeyedList.mem_put.mp hlink with rfl | ⟨hold, -⟩
  · exact ⟨_, rfl, rfl⟩
  · exact h link hold hprefix

theorem Named.name_eq (h : Named table) {link : Link} (hlink : link ∈ table)
    (hremote : remoteOf link = some addr) : link.name = tunnelName addr := by
  obtain ⟨parms, hkind, hprefix, rfl⟩ := remoteOf_eq_some_iff.mp hremote
  obtain ⟨parms', hkind', hown⟩ := h link hlink hprefix
  rw [hkind] at hkind'
  rw [hown, LinkKind.gretap.inj hkind']

/-- Links named after their remote addresses have different ones. -/
theorem Named.unique (h : Named table) {a b : Link} (ha : a ∈ table) (hb : b ∈ table)
    (haddr : remoteOf a = some addr) (haddr' : remoteOf b = some addr) : a = b :=
  table.eq_of_key_eq ha hb ((h.name_eq ha haddr).trans (h.name_eq hb haddr').symm)

theorem Named.mem_remotes_put (h : Named table) :
    addr ∈ remotes (table.put (greLink master remote localAddr)) ↔
      addr = remote ∨ addr ∈ remotes table := by
  constructor
  · intro haddr
    obtain ⟨link, hlink, hremote⟩ := mem_remotes.mp haddr
    rcases KeyedList.mem_put.mp hlink with rfl | ⟨hold, -⟩
    · rw [remoteOf_greLink] at hremote
      exact Or.inl (Option.some.inj hremote).symm
    · exact Or.inr (mem_remotes.mpr ⟨link, hold, hremote⟩)
  · rintro (rfl | haddr)
    · exact mem_remotes.mpr ⟨_, KeyedList.mem_put_self _ _, remoteOf_greLink⟩
    · have hnamed : Named (State.mk table none).table := h
      exact (hnamed.keeps_put none).remotes haddr

theorem named_of_no_links (h : ∀ link ∈ table, link.name.hasPrefix TUNNEL_PREFIX = false) :
    Named table := by
  intro link hlink hprefix
  rw [h link hlink] at hprefix
  cases hprefix

end Tunnels

/-! ### One iteration -/

section Step

variable {master : Int32} {s : State} {pkt : Packet} {env : FrameEnv} {arrival : Arrival}

theorem handle_of_not_accepts (h : ¬Accepts pkt) : handle master s pkt env = pure s := by
  unfold handle
  rw [parsePacket_of_not_accepts env.stale h]
  rfl

theorem handle_of_accepts (h : Accepts pkt) : handle master s pkt env = do
    let created ← createTunnel env.create master (pkt.saddr Packet.outerIp)
      (pkt.daddr Packet.outerIp) s.table
    if created.1 < 0 then return ⟨created.2, s.installed⟩
    return ⟨created.2, (buildFilter env.build created.2 s.installed).2⟩ := by
  unfold handle
  rw [parsePacket_of_accepts env.stale h]
  rfl

theorem log_handle (h : Accepts pkt) :
    (handle master s pkt env).log = [pkt.saddr Packet.outerIp] := by
  rw [handle_of_accepts h, Logged.log_bind, log_createTunnel]
  split <;> rfl

/-- What an accepted frame leaves behind, whatever the calls answer. -/
theorem handle_cases (h : Accepts pkt) :
    let later := (handle master s pkt env).val
    (later.table = s.table ∨ later.table = s.table.put
      (greLink master (pkt.saddr Packet.outerIp) (pkt.daddr Packet.outerIp))) ∧
    (later.installed = s.installed ∨
      ∃ addrs, (∀ addr ∈ addrs, addr ∈ remotes later.table) ∧
        later.installed = some (filterExpr addrs)) := by
  rw [handle_of_accepts h, Logged.val_bind]
  have htable := @createTunnel_table env.create master (pkt.saddr Packet.outerIp)
    (pkt.daddr Packet.outerIp) s.table
  generalize (createTunnel env.create master (pkt.saddr Packet.outerIp)
    (pkt.daddr Packet.outerIp) s.table).val = created at htable
  intro later
  by_cases hret : created.1 < 0
  · have hlater : later = ⟨created.2, s.installed⟩ := by
      simp [later, hret]
    rw [hlater]
    exact ⟨htable, Or.inl rfl⟩
  · have hlater : later = ⟨created.2, (buildFilter env.build created.2 s.installed).2⟩ := by
      simp [later, hret]
    rw [hlater]
    refine ⟨htable, ?_⟩
    rcases buildFilter_listed env.build created.2 s.installed with hfails | ⟨addrs, haddrs, hbuilt⟩
    · exact Or.inl (congrArg Prod.snd hfails)
    · exact Or.inr ⟨addrs, haddrs, congrArg Prod.snd hbuilt⟩

theorem Sound.handle (hs : Sound s) (h : Accepts pkt) :
    Sound (handle master s pkt env).val ∧ Keeps s (handle master s pkt env).val := by
  obtain ⟨htable, hinstalled⟩ := @handle_cases master s pkt env h
  generalize (Dygre.handle master s pkt env).val = later at htable hinstalled
  obtain ⟨table, installed⟩ := later
  have hnamed : Named table := by
    rcases htable with rfl | rfl
    · exact hs.named
    · exact hs.named.put
  have hkeeps : Keeps s ⟨table, installed⟩ := by
    rcases htable with rfl | rfl
    · exact Keeps.refl s
    · exact hs.named.keeps_put installed
  refine ⟨⟨hnamed, fun a ha b hb addr => hnamed.unique ha hb, ?_⟩, hkeeps⟩
  intro addr hexcluded
  rw [← mem_remotes]
  rcases hinstalled with rfl | ⟨addrs, haddrs, rfl⟩
  · exact hkeeps.remotes (mem_remotes.mpr (hs.excluded addr hexcluded))
  · exact haddrs addr (excludesSource_filterExpr.mp hexcluded)

/-- Each iteration keeps the law and every link. -/
theorem Sound.next (hs : Sound s) (arrival : Arrival) :
    Sound (next master s arrival) ∧ Keeps s (next master s arrival) := by
  have hsame : Sound s ∧ Keeps s s := ⟨hs, Keeps.refl s⟩
  cases arrival with
  | timeout => exact hsame
  | frame pkt env =>
      unfold Dygre.next step
      dsimp only
      split
      · by_cases haccepts : Accepts pkt
        · exact hs.handle haccepts
        · rw [handle_of_not_accepts haccepts]
          exact hsame
      · exact hsame

/-- The first filter is made from a table without tunnels. -/
theorem sound_of_no_links {build : BuildEnv} {table : LinkTable}
    (hstart : ∀ link ∈ table, link.name.hasPrefix TUNNEL_PREFIX = false)
    (hbuild : ¬(buildFilter build table none).1 < 0) :
    Sound ⟨table, (buildFilter build table none).2⟩ := by
  have hnamed := named_of_no_links hstart
  refine ⟨hnamed, fun a ha b hb addr => hnamed.unique ha hb, ?_⟩
  intro addr hexcluded
  rcases buildFilter_listed build table none with hfails | ⟨addrs, haddrs, hbuilt⟩
  · rw [hfails] at hbuild
    exact absurd (by decide) hbuild
  · rw [hbuilt] at hexcluded
    exact mem_remotes.mp (haddrs addr (excludesSource_filterExpr.mp hexcluded))

end Step

/-! ### Runs without failing calls -/

/-- The links are listed, and the filter is installed. -/
def BuildEnv.Ok (env : BuildEnv) : Prop := 0 ≤ env.alloc ∧ env.Installs

/-- No call of the iteration fails. -/
def Calm : Arrival → Prop
  | .timeout => True
  | .frame _ env => env.create.Ok ∧ env.build.Ok

instance (env : CreateEnv) : Decidable env.Ok := inferInstanceAs (Decidable (_ ∧ _))

instance (env : BuildEnv) : Decidable env.Ok := inferInstanceAs (Decidable (_ ∧ _))

instance : (arrival : Arrival) → Decidable (Calm arrival)
  | .timeout => isTrue trivial
  | .frame _ _ => inferInstanceAs (Decidable (_ ∧ _))

/-- The source address of an inbound frame that the parser accepts. -/
def sourceOf : Arrival → Option UInt32
  | .timeout => none
  | .frame pkt _ =>
      if pkt.inbound = true ∧ Accepts pkt then some (pkt.saddr Packet.outerIp) else none

def sources (arrivals : List Arrival) : List UInt32 := arrivals.filterMap sourceOf

/-- The filter leaves out exactly the remote addresses of the tunnels. -/
structure Exact (s : State) : Prop where
  named : Named s.table
  filter : s.installed = some (filterExpr (remotes s.table))

section Calm

variable {master : Int32} {s : State} {pkt : Packet} {env : FrameEnv} {arrival : Arrival}
  {addr : UInt32}

theorem buildFilter_of_ok {build : BuildEnv} (h : build.Ok) (table : LinkTable)
    (installed : Option Expr) :
    buildFilter build table installed = (0, some (filterExpr (remotes table))) := by
  obtain ⟨halloc, hinstalls⟩ := h
  rcases buildFilter_cases build table installed with ⟨hno, -⟩ | ⟨-, hbuild⟩
  · exact absurd hinstalls hno
  · rw [hbuild, if_neg (not_lt.mpr halloc)]

theorem handle_of_calm (haccepts : Accepts pkt) (henv : Calm (.frame pkt env)) :
    (handle master s pkt env).val =
      let table := s.table.put
        (greLink master (pkt.saddr Packet.outerIp) (pkt.daddr Packet.outerIp))
      ⟨table, some (filterExpr (remotes table))⟩ := by
  rw [handle_of_accepts haccepts, Logged.val_bind, createTunnel_of_ok henv.1,
    buildFilter_of_ok henv.2]
  rfl

/-- An accepted frame gets through unless its source address has a tunnel. -/
theorem Exact.passes_iff (h : Exact s) (haccepts : Accepts pkt) :
    passes s.installed pkt.frame = true ↔
      pkt.inbound = true ∧ pkt.saddr Packet.outerIp ∉ remotes s.table := by
  obtain ⟨hip, hproto, -⟩ := haccepts
  have hgre := hip.protocol_frame.trans (congrArg some hproto)
  rw [h.filter, passes, Option.all_some, accepts_filterExpr, hip.source_frame]
  constructor
  · rintro ⟨hin, -, hnone⟩
    exact ⟨hin, fun hmem => hnone _ hmem rfl⟩
  · rintro ⟨hin, hfresh⟩
    refine ⟨hin, ⟨hip.half_frame, hgre⟩, ?_⟩
    intro addr hmem hsource
    rw [Option.some.inj hsource] at hfresh
    exact hfresh hmem

theorem sourceOf_frame (hsource : sourceOf (.frame pkt env) = some addr) :
    (pkt.inbound = true ∧ Accepts pkt) ∧ pkt.saddr Packet.outerIp = addr := by
  obtain ⟨hin, haddr⟩ := Option.ite_none_right_eq_some.mp hsource
  exact ⟨hin, Option.some.inj haddr⟩

/-- A source without a tunnel gets one, and is left out from then on. -/
theorem Exact.step_of_fresh (h : Exact s) (hcalm : Calm arrival)
    (hsource : sourceOf arrival = some addr) (hfresh : addr ∉ remotes s.table) :
    (step master s arrival).log = [addr] ∧ Exact (next master s arrival) ∧
      ∀ other, other ∈ remotes (next master s arrival).table ↔
        other = addr ∨ other ∈ remotes s.table := by
  cases arrival with
  | timeout => cases hsource
  | frame pkt env =>
      obtain ⟨⟨hin, haccepts⟩, rfl⟩ := sourceOf_frame hsource
      have hpass := (h.passes_iff haccepts).mpr ⟨hin, hfresh⟩
      have hstep : step master s (.frame pkt env) = handle master s pkt env := if_pos hpass
      rw [next, hstep, handle_of_calm haccepts hcalm]
      exact ⟨log_handle haccepts, ⟨h.named.put, rfl⟩, fun other => h.named.mem_remotes_put⟩

/-- Everything else has no effect. -/
theorem Exact.step_of_known (h : Exact s)
    (hknown : ∀ addr, sourceOf arrival = some addr → addr ∈ remotes s.table) :
    step master s arrival = pure s := by
  cases arrival with
  | timeout => rfl
  | frame pkt env =>
      unfold step
      dsimp only
      split
      · rename_i hpass
        apply handle_of_not_accepts
        intro haccepts
        obtain ⟨hin, hfresh⟩ := (h.passes_iff haccepts).mp hpass
        exact hfresh (hknown _ (if_pos ⟨hin, haccepts⟩))
      · rfl

theorem filter_sources_of_known {table : LinkTable} {arrivals : List Arrival}
    (hknown : ∀ addr, sourceOf arrival = some addr → addr ∈ remotes table) :
    (sources (arrival :: arrivals)).filter (· ∉ remotes table) =
      (sources arrivals).filter (· ∉ remotes table) := by
  unfold sources
  cases hsource : sourceOf arrival with
  | none => rw [List.filterMap_cons_none hsource]
  | some addr =>
      have hmem := hknown addr hsource
      rw [List.filterMap_cons_some hsource, List.filter_cons_of_neg (by simpa using hmem)]

/-- The sources that have no tunnel yet get theirs in the order in which they
first arrive. -/
theorem Exact.log_run {arrivals : List Arrival} (h : Exact s)
    (hcalm : ∀ arrival ∈ arrivals, Calm arrival) :
    (arrivals.foldlM (step master) s).log =
      ((sources arrivals).filter (· ∉ remotes s.table)).eraseDups := by
  induction arrivals generalizing s with
  | nil => rfl
  | cons arrival arrivals ih =>
      have hrest : ∀ a ∈ arrivals, Calm a := fun a ha => hcalm a (List.mem_cons_of_mem _ ha)
      rw [List.foldlM_cons, Logged.log_bind]
      by_cases hknown : ∀ addr, sourceOf arrival = some addr → addr ∈ remotes s.table
      · have hstep : step master s arrival = pure s := h.step_of_known hknown
        rw [hstep, Logged.log_pure, Logged.val_pure, List.nil_append, ih h hrest,
          filter_sources_of_known hknown]
      · push Not at hknown
        obtain ⟨addr, hsource, hfresh⟩ := hknown
        have hnow : Calm arrival := hcalm arrival List.mem_cons_self
        obtain ⟨hlog, hexact, hremotes⟩ :=
          @Exact.step_of_fresh master s arrival addr h hnow hsource hfresh
        have hlater : (sources arrivals).filter (· ∉ remotes (next master s arrival).table) =
            ((sources arrivals).filter (· ∉ remotes s.table)).filter (!· == addr) := by
          rw [List.filter_filter]
          apply List.filter_congr
          intro other _
          rw [Bool.eq_iff_iff]
          simp [hremotes]
        have hhead : sources (arrival :: arrivals) = addr :: sources arrivals :=
          List.filterMap_cons_some hsource
        rw [hlog, ← next, ih hexact hrest, hlater, hhead,
          List.filter_cons_of_pos (by simpa using hfresh), List.eraseDups_cons,
          List.singleton_append]

end Calm

/-! ### From a table without tunnels -/

section Start

variable {master : Int32} {table : LinkTable} {env : BuildEnv} {arrivals : List Arrival}

theorem remotes_of_no_links (h : ∀ link ∈ table, link.name.hasPrefix TUNNEL_PREFIX = false) :
    remotes table = [] := by
  rw [List.eq_nil_iff_forall_not_mem]
  intro addr haddr
  obtain ⟨link, hlink, hremote⟩ := mem_remotes.mp haddr
  obtain ⟨parms, -, hprefix, -⟩ := remoteOf_eq_some_iff.mp hremote
  rw [h link hlink] at hprefix
  cases hprefix

theorem sound_of_mem_loopHeads
    (hstart : ∀ link ∈ table, link.name.hasPrefix TUNNEL_PREFIX = false) {s : State}
    (hs : s ∈ loopHeads master table env arrivals) : Sound s := by
  unfold loopHeads at hs
  dsimp only at hs
  split at hs
  · cases hs
  · rename_i hbuild
    have hrun : Runs.Along (next master) (fun _ _ => True)
        ⟨table, (buildFilter env table none).2⟩ arrivals := Runs.along_of_forall fun _ _ => trivial
    exact hrun.invariant Sound (fun s arrival hs _ => (hs.next arrival).1)
      (sound_of_no_links hstart hbuild) s hs

theorem keeps_loopHeads
    (hstart : ∀ link ∈ table, link.name.hasPrefix TUNNEL_PREFIX = false) :
    (loopHeads master table env arrivals).Pairwise Keeps := by
  unfold loopHeads
  dsimp only
  split
  · exact List.Pairwise.nil
  · rename_i hbuild
    exact Runs.pairwise_heads Sound Keeps.refl Keeps.trans
      (fun s arrival hs => hs.next arrival) (sound_of_no_links hstart hbuild)

theorem calls_of_calm (hstart : ∀ link ∈ table, link.name.hasPrefix TUNNEL_PREFIX = false)
    (henv : env.Ok) (hcalm : ∀ arrival ∈ arrivals, Calm arrival) :
    calls master table env arrivals = (sources arrivals).eraseDups := by
  have hexact : Exact ⟨table, some (filterExpr (remotes table))⟩ :=
    ⟨named_of_no_links hstart, rfl⟩
  have hbuild : ¬(0 : Int) < 0 := by decide
  have hall : (sources arrivals).filter (· ∉ remotes table) = sources arrivals := by
    rw [remotes_of_no_links hstart]
    exact List.filter_eq_self.mpr fun _ _ => by simp
  rw [calls, buildFilter_of_ok henv]
  dsimp only
  rw [if_neg hbuild, hexact.log_run hcalm, hall]

end Start

/-- Whatever the calls answer, every loop head is sound and no link is lost. If
none fails, each source that arrives gets its tunnel once. -/
theorem run_sound (master : Int32) (table : LinkTable) (env : BuildEnv) (arrivals : List Arrival)
    (hstart : ∀ link ∈ table, link.name.hasPrefix TUNNEL_PREFIX = false) :
    (∀ s ∈ loopHeads master table env arrivals, Sound s) ∧
      (loopHeads master table env arrivals).Pairwise Keeps ∧
      (env.Ok → (∀ arrival ∈ arrivals, Calm arrival) →
        calls master table env arrivals = (sources arrivals).eraseDups) := by
  refine ⟨?_, keeps_loopHeads hstart, calls_of_calm hstart⟩
  intro s hs
  exact sound_of_mem_loopHeads hstart hs

/-! ### Two frames from one source -/

/-- A link that is no tunnel. -/
def eth0 : Link where
  name := ⟨['e', 't', 'h', '0'].map (·.toUInt8), by decide, by decide⟩
  master := 0
  kind := .other

/-- A frame with GRE directly over IPv4. -/
def plainPacket : Packet where
  bytes := { GreFrame.keyedFrame with udp := none }.bytes
  stale := fun _ => 0
  inbound := true
  fits := by decide

def BuildEnv.good : BuildEnv := ⟨0, 0, 0⟩

def FrameEnv.good : FrameEnv := ⟨⟨0, 0⟩, ⟨true, 0⟩, BuildEnv.good⟩

/-- The second of two frames from one source is left out by the filter. -/
theorem run_sound_twice :
    (∀ s ∈ loopHeads 3 ⟨[eth0], List.nodup_singleton _⟩ BuildEnv.good
      [.frame plainPacket FrameEnv.good, .timeout, .frame plainPacket FrameEnv.good], Sound s) ∧
    calls 3 ⟨[eth0], List.nodup_singleton _⟩ BuildEnv.good
      [.frame plainPacket FrameEnv.good, .timeout, .frame plainPacket FrameEnv.good] =
        [0x0102a8c0] := by
  obtain ⟨hsound, -, hcalls⟩ := run_sound 3 ⟨[eth0], List.nodup_singleton _⟩ BuildEnv.good
    [.frame plainPacket FrameEnv.good, .timeout, .frame plainPacket FrameEnv.good]
    (fun link hlink => List.mem_singleton.mp hlink ▸ by decide)
  have hgood : BuildEnv.good.Ok := by decide
  have hcalm : ∀ arrival ∈ [Arrival.frame plainPacket FrameEnv.good, .timeout,
      .frame plainPacket FrameEnv.good], Calm arrival := by decide
  have hsources : sources [.frame plainPacket FrameEnv.good, .timeout,
      .frame plainPacket FrameEnv.good] = [0x0102a8c0, 0x0102a8c0] := by decide
  refine ⟨hsound, ?_⟩
  rw [hcalls hgood hcalm, hsources]
  rfl

end DynamicGre.Dygre

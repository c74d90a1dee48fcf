import DynamicGre.Daemon.Origin
import DynamicGre.Dygre.Objects

/-!
What the two daemons do with their arguments and with the words on the standard
input, which both prompts read: the device is selected first, and the bridge
from what is left. All links they ever add are tunnels of that bridge.
-/

namespace DynamicGre

open Ownership Objects

/-! ### The two searches -/

section Searches

variable {cache : LinkCache} {devices : DeviceList} {tokens : List Token}

theorem searchBridge_hint (hint : List UInt8) : searchBridge (some cache) (some hint) tokens =
    (cache.named hint).elim (-1) RtnlLink.ifindex := by
  unfold searchBridge
  dsimp only
  rw [foldl_matchHint]
  cases hnamed : cache.named hint with
  | none => rfl
  | some link =>
      have hpos := (cache.range link (cache.mem_of_named hnamed)).1
      have hne : ¬link.ifindex = 0 := hpos.ne'
      rw [Option.elim_some, Option.elim_some, if_neg fun h => hne h.2]
      cases tokens <;> exact if_neg hne

theorem searchBridge_words : searchBridge (some cache) none tokens =
    (tokens.findSome? cache.wrapped).elim (-1) RtnlLink.ifindex := by
  unfold searchBridge
  dsimp only
  rw [foldl_matchHint_none, if_neg (by simp), promptBridge_eq]

theorem LinkCache.bridge_of_named {name : List UInt8} {link : RtnlLink}
    (h : cache.named name = some link) : link.bridge = true ∧ link.name = some name := by
  have hhit := List.find?_some h
  obtain ⟨hbridge, hname⟩ := Bool.and_eq_true_iff.mp hhit
  exact ⟨hbridge, of_decide_eq_true hname⟩

theorem LinkCache.bridge_of_wrapped {tok : Token} {link : RtnlLink}
    (h : cache.wrapped tok = some link) : link.bridge = true := by
  unfold LinkCache.wrapped at h
  split at h
  · have hhit := List.find?_some h
    exact (Bool.and_eq_true_iff.mp hhit).1
  · exact (cache.bridge_of_named h).1

theorem searchInterface_arg (arg stale : List UInt8) :
    searchInterface devices.names (some arg) tokens stale =
      if arg ∈ devices.names then (0, copyName arg) else (-1, []) := by
  unfold searchInterface
  dsimp only
  rw [if_neg devices.nonempty, foldl_matchArg]
  by_cases hmem : arg ∈ devices.names
  · have hne := copyName_ne_nil (devices.wellNamed arg hmem).1
    rw [if_pos hmem, if_pos hmem, if_neg fun h => hne h.2]
    cases tokens <;> exact if_neg hne
  · rw [if_neg hmem, if_neg hmem, if_pos ⟨rfl, rfl⟩]

theorem searchInterface_words (stale : List UInt8) :
    searchInterface devices.names none tokens stale =
      (tokens.findSome? devices.wrapped).elim (-1, []) fun name => (0, copyName name) := by
  unfold searchInterface
  dsimp only
  rw [if_neg devices.nonempty, foldl_matchArg_none, if_neg (by simp), promptDevice_eq]

/-- Nothing is read where a device is selected already. -/
theorem leftOver_of_ne_nil {names : List (List UInt8)} {selected : List UInt8}
    (h : selected ≠ []) : leftOver names selected tokens = tokens := by
  cases tokens with
  | nil => rfl
  | cons tok tokens => exact if_neg h

/-- The prompt reads up to the first word that is read as a device. -/
theorem leftOver_append {before after : List Token} {tok : Token} {name : List UInt8}
    (hbefore : ∀ t ∈ before, devices.wrapped t = none) (htok : devices.wrapped tok = some name) :
    leftOver devices.names [] (before ++ tok :: after) = after := by
  induction before with
  | nil =>
      have hne := copyName_ne_nil (devices.wellNamed name (devices.mem_of_wrapped htok)).1
      rw [List.nil_append, leftOver, if_pos rfl, readDevice_token, htok]
      exact leftOver_of_ne_nil hne
  | cons first before ih =>
      rw [List.cons_append, leftOver, if_pos rfl, readDevice_token,
        hbefore first List.mem_cons_self]
      exact ih fun t ht => hbefore t (List.mem_cons_of_mem _ ht)

end Searches

/-! ### What was meant -/

/-- The arguments name the device and the bridge. What they do not name is the
first word that is read as a device, and the first one after it that is read as
a bridge. -/
def Objects.StartEnv.Means (start : StartEnv) (devices : DeviceList) (cache : LinkCache)
    (name : List UInt8) (bridge : RtnlLink) : Prop :=
  match start.argv with
  | arg :: hint :: _ => name = arg ∧ bridge.name = some hint
  | [arg] => name = arg ∧ start.words.findSome? cache.wrapped = some bridge
  | [] => ∃ before tok after, start.words = before ++ tok :: after ∧
      (∀ t ∈ before, devices.wrapped t = none) ∧ devices.wrapped tok = some name ∧
      after.findSome? cache.wrapped = some bridge

section Start

variable {start : StartEnv}

theorem Objects.StartEnv.device_selects (h : 0 ≤ start.device.1) :
    ∃ devices ∈ start.devices, ∃ name ∈ devices.names, start.device.2 = copyName name ∧
      (∀ arg ∈ start.argv[0]?, name = arg ∧ start.wordsLeft = start.words) ∧
      (start.argv[0]? = none → ∃ before tok after, start.words = before ++ tok :: after ∧
        (∀ t ∈ before, devices.wrapped t = none) ∧ devices.wrapped tok = some name ∧
        start.wordsLeft = after) := by
  cases hdevices : start.devices with
  | none =>
      have hfails : start.device = (-1, start.stale) := by
        rw [StartEnv.device, StartEnv.names, hdevices]
        rfl
      rw [hfails] at h
      have hneg : (0 : Int) ≤ -1 := h
      omega
  | some devices =>
      have hnames : start.names = devices.names := by
        rw [StartEnv.names, hdevices]
        rfl
      refine ⟨devices, rfl, ?_⟩
      unfold StartEnv.device at h ⊢
      unfold StartEnv.wordsLeft
      rw [hnames] at h ⊢
      cases harg : start.argv[0]? with
      | some arg =>
          rw [harg, searchInterface_arg] at h
          by_cases hmem : arg ∈ devices.names
          · have hne := copyName_ne_nil (devices.wellNamed arg hmem).1
            rw [searchInterface_arg, foldl_matchArg, if_pos hmem, if_pos hmem]
            refine ⟨arg, hmem, rfl, ?_, fun hnone => nomatch hnone⟩
            rintro _ ⟨⟩
            exact ⟨rfl, leftOver_of_ne_nil hne⟩
          · rw [if_neg hmem] at h
            exact absurd h (by decide)
      | none =>
          rw [harg, searchInterface_words] at h
          rw [searchInterface_words, foldl_matchArg_none]
          cases hread : start.words.findSome? devices.wrapped with
          | none =>
              rw [hread] at h
              exact absurd h (by decide)
          | some name =>
              obtain ⟨before, tok, after, hwords, htok, hbefore⟩ :=
                List.findSome?_eq_some_iff.mp hread
              refine ⟨name, devices.mem_of_wrapped htok, rfl,
                fun arg hmem => absurd hmem (Option.not_mem_none arg), ?_⟩
              intro _
              refine ⟨before, tok, after, hwords, hbefore, htok, ?_⟩
              rw [hwords]
              exact leftOver_append hbefore htok

theorem Objects.StartEnv.bridge_selects (h : 0 ≤ start.bridge) :
    ∃ cache ∈ start.links, ∃ bridge ∈ cache.links, bridge.bridge = true ∧
      start.bridge = bridge.ifindex ∧ (∀ hint ∈ start.argv[1]?, bridge.name = some hint) ∧
      (start.argv[1]? = none → start.wordsLeft.findSome? cache.wrapped = some bridge) := by
  unfold StartEnv.bridge at h ⊢
  cases hlinks : start.links with
  | none =>
      rw [hlinks] at h
      have hneg : (0 : Int) ≤ -1 := h
      omega
  | some cache =>
      rw [hlinks] at h
      refine ⟨cache, rfl, ?_⟩
      cases hhint : start.argv[1]? with
      | some hint =>
          rw [hhint, searchBridge_hint] at h
          rw [searchBridge_hint]
          cases hnamed : cache.named hint with
          | none =>
              rw [hnamed] at h
              exact absurd h (by decide)
          | some bridge =>
              obtain ⟨hbridge, hname⟩ := cache.bridge_of_named hnamed
              refine ⟨bridge, cache.mem_of_named hnamed, hbridge, rfl, ?_, fun h => nomatch h⟩
              rintro _ ⟨⟩
              exact hname
      | none =>
          rw [hhint, searchBridge_words] at h
          rw [searchBridge_words]
          cases hread : start.wordsLeft.findSome? cache.wrapped with
          | none =>
              rw [hread] at h
              exact absurd h (by decide)
          | some bridge =>
              obtain ⟨tok, -, htok⟩ := List.exists_of_findSome?_eq_some hread
              exact ⟨bridge, cache.mem_of_wrapped htok, cache.bridge_of_wrapped htok, rfl,
                fun hint hmem => absurd hmem (Option.not_mem_none hint), fun _ => rfl⟩

/-- Where both searches succeed, they select what was meant. -/
theorem Objects.StartEnv.selects (hdevice : 0 ≤ start.device.1) (hbridge : 0 ≤ start.bridge) :
    ∃ devices ∈ start.devices, ∃ cache ∈ start.links, ∃ name ∈ devices.names,
      ∃ bridge ∈ cache.links, start.device.2 = copyName name ∧ bridge.bridge = true ∧
        start.bridge = bridge.ifindex ∧ start.Means devices cache name bridge := by
  obtain ⟨devices, hdevices, name, hname, hcopy, harg, hasked⟩ := start.device_selects hdevice
  obtain ⟨cache, hcache, bridge, hlink, htrue, hindex, hhint, hread⟩ :=
    start.bridge_selects hbridge
  refine ⟨devices, hdevices, cache, hcache, name, hname, bridge, hlink, hcopy, htrue, hindex, ?_⟩
  unfold StartEnv.Means
  split
  · rename_i arg hint _ hargv
    rw [hargv] at harg hhint
    exact ⟨(harg arg rfl).1, hhint hint rfl⟩
  · rename_i arg hargv
    rw [hargv] at harg hread
    obtain ⟨hsame, hleft⟩ := harg arg rfl
    rw [hleft] at hread
    exact ⟨hsame, hread rfl⟩
  · rename_i hargv
    rw [hargv] at hasked hread
    obtain ⟨before, tok, after, hwords, hbefore, htok, hleft⟩ := hasked rfl
    rw [hleft] at hread
    exact ⟨before, tok, after, hwords, hbefore, htok, hread rfl⟩

end Start

/-! ### What is added -/

section Added

variable {k : Kernel} {master : Int32} {s : State} {link : Link}

/-- A link that a run of the Project daemon adds is a tunnel of its bridge. -/
theorem added_by_run {arrivals : List Arrival}
    (hlink : link ∈ (Runs.run (step k master) s arrivals).table) :
    link ∈ s.table ∨ (link.tunnel.isSome = true ∧ link.master = master) := by
  have hstep (s : State) (arrival : Arrival) (link : Link)
      (h : link ∈ (step k master s arrival).table) :
      link ∈ s.table ∨ Asks master arrival link := mem_step_origin h
  rcases @Runs.origin_of_mem_heads State Arrival _ s arrivals _ (fun s link => link ∈ s.table) _
    hstep _ Runs.run_mem_heads link hlink with hold | ⟨_, -, pkt, env, -, -, rfl⟩
  · exact Or.inl hold
  · exact Or.inr ⟨Option.isSome_of_mem tunnel_tunnelLink, rfl⟩

theorem Dygre.mem_next_origin {arrival : Dygre.Arrival}
    (hlink : link ∈ (Dygre.next master s arrival).table) :
    link ∈ s.table ∨ ∃ remote localAddr, link = Dygre.greLink master remote localAddr := by
  cases arrival with
  | timeout => exact Or.inl hlink
  | frame pkt env =>
      unfold Dygre.next Dygre.step at hlink
      dsimp only at hlink
      split at hlink
      · by_cases haccepts : Dygre.Accepts pkt
        · rcases (@Dygre.handle_cases master s pkt env haccepts).1 with hsame | hput
          · rw [hsame] at hlink
            exact Or.inl hlink
          · rw [hput] at hlink
            rcases KeyedList.mem_put.mp hlink with hnew | ⟨hold, -⟩
            · exact Or.inr ⟨_, _, hnew⟩
            · exact Or.inl hold
        · rw [Dygre.handle_of_not_accepts haccepts] at hlink
          exact Or.inl hlink
      · exact Or.inl hlink

/-- So is one that the Lab4 daemon adds. -/
theorem Dygre.added_by_run {arrivals : List Dygre.Arrival} (hmaster : 0 < master)
    (hlink : link ∈ (Runs.run (Dygre.next master) s arrivals).table) :
    link ∈ s.table ∨ (link.tunnel.isSome = true ∧ link.master = master) := by
  have hstep (s : State) (arrival : Dygre.Arrival) (link : Link)
      (h : link ∈ (Dygre.next master s arrival).table) : link ∈ s.table ∨
        ∃ remote localAddr, link = Dygre.greLink master remote localAddr := Dygre.mem_next_origin h
  rcases @Runs.origin_of_mem_heads State Dygre.Arrival _ s arrivals _
    (fun s link => link ∈ s.table)
    (fun _ link => ∃ remote localAddr, link = Dygre.greLink master remote localAddr) hstep _
    Runs.run_mem_heads link hlink with hold | ⟨_, -, remote, localAddr, rfl⟩
  · exact Or.inl hold
  · refine Or.inr ⟨?_, if_pos hmaster⟩
    have hremote : Dygre.remoteOf (Dygre.greLink master remote localAddr) = some remote :=
      Dygre.remoteOf_greLink
    rw [Dygre.remoteOf, Option.map_eq_some_iff] at hremote
    obtain ⟨parms, hparms, -⟩ := hremote
    exact Option.isSome_of_mem hparms

end Added

/-- Once either daemon has returned, it has listened on the device and served
the bridge that were meant, and the links it has added are tunnels of that
bridge. -/
theorem main_selects (start : StartEnv) (table : LinkTable) (h later : Heap Object)
    (selectedIf : List UInt8) (master : Int32) (s : State)
    (hrun : (∃ k benv arrivals, Objects.main k start table benv arrivals h =
        some (.finished selectedIf master s, later)) ∨
      ∃ benv arrivals, Dygre.Objects.main start table benv arrivals h =
        some (.finished selectedIf master s, later)) :
    (∃ devices ∈ start.devices, ∃ cache ∈ start.links, ∃ name ∈ devices.names,
      ∃ bridge ∈ cache.links, selectedIf = copyName name ∧ bridge.bridge = true ∧
        master.toInt = bridge.ifindex ∧ start.Means devices cache name bridge) ∧
    ∀ link ∈ s.table, link ∈ table ∨ (link.tunnel.isSome = true ∧ link.master = master) := by
  have hfound (hdevice : 0 ≤ start.device.1 ∧ selectedIf = start.device.2)
      (hbridge : 0 ≤ start.bridge ∧ master = Int32.ofInt start.bridge) :
      ∃ devices ∈ start.devices, ∃ cache ∈ start.links, ∃ name ∈ devices.names,
        ∃ bridge ∈ cache.links, selectedIf = copyName name ∧ bridge.bridge = true ∧
          master.toInt = bridge.ifindex ∧ start.Means devices cache name bridge := by
    obtain ⟨devices, hdevices, cache, hcache, name, hname, bridge, hlink, hcopy, htrue, hindex,
      hmeans⟩ := start.selects hdevice.1 hbridge.1
    refine ⟨devices, hdevices, cache, hcache, name, hname, bridge, hlink,
      hdevice.2.trans hcopy, htrue, ?_, hmeans⟩
    obtain ⟨hlow, hhigh⟩ := cache.range bridge hlink
    rw [hbridge.2, hindex]
    exact Int32.toInt_ofInt_of_le (by omega) hhigh
  rcases hrun with ⟨k, benv, arrivals, hrun⟩ | ⟨benv, arrivals, hrun⟩
  · obtain ⟨later', stray, hexit, -⟩ := Objects.triple_main k start table benv arrivals h h.live
      (List.Perm.refl _)
    rw [hexit] at hrun
    obtain ⟨hfinished, -⟩ := Prod.mk.inj (Option.some.inj hrun)
    obtain ⟨hdevice, hbridge, rfl, -⟩ := exitOf_eq_finished hfinished
    exact ⟨hfound hdevice hbridge, fun link hlink => added_by_run hlink⟩
  · obtain ⟨later', stray, hexit, -⟩ := Dygre.Objects.triple_main start table benv arrivals h
      h.live (List.Perm.refl _)
    rw [hexit] at hrun
    obtain ⟨hfinished, -⟩ := Prod.mk.inj (Option.some.inj hrun)
    obtain ⟨hdevice, hbridge, rfl, -⟩ := exitOf_eq_finished hfinished
    have hmeant := hfound hdevice hbridge
    refine ⟨hmeant, fun link hlink => Dygre.added_by_run ?_ hlink⟩
    obtain ⟨-, -, cache, -, -, -, bridge, hmem, -, -, hindex, -⟩ := hmeant
    rw [Int32.lt_iff_toInt_lt, hindex]
    exact (cache.range bridge hmem).1

/-- The words `lo` and `br0`. -/
def loToken : Token where
  chars := ['l', 'o'].map (·.toUInt8)
  nonempty := by decide
  short := by decide
  noSpace := by decide
  nulFree := by decide

def brToken : Token where
  chars := ['b', 'r', '0'].map (·.toUInt8)
  nonempty := by decide
  short := by decide
  noSpace := by decide
  nulFree := by decide

/-- No arguments, so both words are read. -/
def loStart : StartEnv where
  argv := []
  socket := true
  connect := 0
  devices := some twoDevices
  links := some oneBridge
  words := [loToken, brToken]
  stale := []
  opens := true

theorem main_selects_lo :
    ∃ later, Objects.main Kernel.plain loStart noLinks BuildEnv.good [] Heap.empty =
        some (.finished loToken.chars 3 ⟨noLinks, some baseExpr⟩, later) ∧
      ∃ devices ∈ loStart.devices, ∃ cache ∈ loStart.links, ∃ name ∈ devices.names,
        ∃ bridge ∈ cache.links, loToken.chars = copyName name ∧ bridge.bridge = true ∧
          Int32.toInt 3 = bridge.ifindex ∧ loStart.Means devices cache name bridge := by
  obtain ⟨later, stray, hrun, -⟩ := Objects.triple_main Kernel.plain loStart noLinks
    BuildEnv.good [] Heap.empty [] (List.Perm.refl _)
  have hexit : exitOf loStart (buildFilter Kernel.plain BuildEnv.good noLinks none)
      (fun master installed => Runs.run (step Kernel.plain master) ⟨noLinks, installed⟩ []) =
        .finished loToken.chars 3 ⟨noLinks, some baseExpr⟩ := by
    rfl
  rw [hexit] at hrun
  refine ⟨later, hrun, ?_⟩
  exact (main_selects loStart noLinks Heap.empty later _ 3 _
    (Or.inl ⟨Kernel.plain, BuildEnv.good, [], hrun⟩)).1

end DynamicGre

import DynamicGre.Daemon.LastFrame
import DynamicGre.Daemon.Objects
import DynamicGre.Prompt.SearchBridge
import DynamicGre.Prompt.SearchInterface

/-!
`main` from its arguments to its exit. Both daemons start alike: they select a
capture device and a bridge, of which either may be asked for on the standard
input, open the device, build the first filter and enter the loop, which the
signal handler ends. An exit before the loop leaves its objects to the system.
-/

namespace DynamicGre.Objects

open Ownership Pcap

/-- What `main` is started with and what the calls before the first filter
answer. `argv` are the arguments; `words` are those that `scanf` reads. There is
no list of devices or links where the call for it fails. -/
structure StartEnv where
  argv : List (List UInt8)
  socket : Bool
  connect : Int
  devices : Option DeviceList
  links : Option LinkCache
  words : List Token
  stale : List UInt8
  opens : Bool

/-- `main` exits with 1 before the loop, or returns 0 after it. -/
inductive Exit where
  | failed
  | finished (selectedIf : List UInt8) (master : Int32) (state : State)

/-- The words that the prompt for the device has left. -/
def leftOver (names : List (List UInt8)) (selected : List UInt8) : List Token → List Token
  | [] => []
  | tok :: tokens =>
      if selected = [] then leftOver names (readDevice names tok.chars selected) tokens
      else tok :: tokens

namespace StartEnv

variable (start : StartEnv)

def names : List (List UInt8) := start.devices.elim [] DeviceList.names

def device : Int × List UInt8 :=
  DynamicGre.searchInterface start.names start.argv[0]? start.words start.stale

/-- The words that `search_interface` leaves when it succeeds. -/
def wordsLeft : List Token :=
  leftOver start.names (start.names.foldl (matchArg start.argv[0]?) []) start.words

def bridge : Int := DynamicGre.searchBridge start.links start.argv[1]? start.wordsLeft

end StartEnv

/-- `search_interface`, which frees the list of devices at both its ends. -/
def searchInterface (start : StartEnv) : Owned Object (Int × List UInt8) :=
  if start.devices.isNone then pure start.device
  else do
    let devices ← alloc .devices
    access .devices devices
    free .devices devices
    pure start.device

/-- `search_bridge`, which frees the list of links at its end. -/
def searchBridge (nl : Nat) (start : StartEnv) : Owned Object Int := do
  access .socket nl
  if start.links.isNone then pure start.bridge
  else do
    let links ← alloc .links
    access .links links
    free .links links
    pure start.bridge

/-- `main` with its two parts that differ between the daemons: the first
`build_filter`, and the loop with the master and the filter it starts with. -/
def mainWith (start : StartEnv) (build : Nat → Nat → Owned Object (Int × Option Expr))
    (loop : Nat → Nat → Int32 → Option Expr → Owned Object State) : Owned Object Exit :=
  if ¬start.socket then pure .failed
  else do
    let nl ← alloc .socket
    access .socket nl
    if start.connect < 0 then pure .failed
    else do
      let found ← searchInterface start
      if found.1 < 0 then pure .failed
      else do
        let master ← searchBridge nl start
        if master < 0 then pure .failed
        else if ¬start.opens then pure .failed
        else do
          let pcap ← alloc .capture
          let built ← build pcap nl
          if built.1 < 0 then pure .failed
          else do
            let s ← loop pcap nl (Int32.ofInt master) built.2
            access .capture pcap
            free .capture pcap
            access .socket nl
            free .socket nl
            pure (.finished found.2 (Int32.ofInt master) s)

/-- `main` of the Project daemon, with the frames that arrive before the signal. -/
def main (k : Kernel) (start : StartEnv) (table : LinkTable) (benv : BuildEnv)
    (arrivals : List Arrival) : Owned Object Exit :=
  mainWith start (fun pcap nl => buildFilter pcap nl k benv table none)
    fun pcap nl master installed => arrivals.foldlM (step pcap nl k master) ⟨table, installed⟩

/-! ### How `main` ends -/

section Main

variable {start : StartEnv} {build : Nat → Nat → Owned Object (Int × Option Expr)}
  {loop : Nat → Nat → Int32 → Option Expr → Owned Object State} {built : Int × Option Expr}
  {last : Int32 → Option Expr → State} {lost : List Object}
  {lostBy : Int32 → Option Expr → List Object}

/-- How `main` ends when the first `build_filter` returns `built`, and the loop
`last`. -/
def exitOf (start : StartEnv) (built : Int × Option Expr) (last : Int32 → Option Expr → State) :
    Exit :=
  if ¬start.socket then .failed
  else if start.connect < 0 then .failed
  else if start.device.1 < 0 then .failed
  else if start.bridge < 0 then .failed
  else if ¬start.opens then .failed
  else if built.1 < 0 then .failed
  else .finished start.device.2 (Int32.ofInt start.bridge)
    (last (Int32.ofInt start.bridge) built.2)

/-- What `main` leaves behind when the first `build_filter` loses `lost`, and the
loop `lostBy`. -/
def leftBy (start : StartEnv) (built : Int × Option Expr) (lost : List Object)
    (lostBy : Int32 → Option Expr → List Object) : List Object :=
  if ¬start.socket then []
  else if start.connect < 0 then [.socket]
  else if start.device.1 < 0 then [.socket]
  else if start.bridge < 0 then [.socket]
  else if ¬start.opens then [.socket]
  else lost ++ if built.1 < 0 then [.capture, .socket]
    else lostBy (Int32.ofInt start.bridge) built.2

/-- The answers with which `main` gets to the loop and returns. -/
theorem exitOf_eq_finished {selectedIf : List UInt8} {master : Int32} {s : State}
    (h : exitOf start built last = .finished selectedIf master s) :
    (0 ≤ start.device.1 ∧ selectedIf = start.device.2) ∧
      (0 ≤ start.bridge ∧ master = Int32.ofInt start.bridge) ∧ s = last master built.2 ∧
      ∀ lost lostBy, leftBy start built lost lostBy = lost ++ lostBy master built.2 := by
  unfold exitOf at h
  unfold leftBy
  split at h
  · cases h
  split at h
  · cases h
  split at h
  · cases h
  split at h
  · cases h
  split at h
  · cases h
  split at h
  · cases h
  rename_i hsocket hconnect hdevice hbridge hopens hbuilt
  cases h
  refine ⟨⟨not_lt.mp hdevice, rfl⟩, ⟨not_lt.mp hbridge, rfl⟩, rfl, ?_⟩
  intro lost lostBy
  rw [if_neg hsocket, if_neg hconnect, if_neg hdevice, if_neg hbridge, if_neg hopens,
    if_neg hbuilt]

theorem triple_searchInterface (pre : List (Nat × Object)) :
    Triple pre (searchInterface start) start.device pre [] := by
  unfold searchInterface
  split
  · exact triple_pure _
  apply triple_alloc
  intro devices
  exact (triple_access List.mem_cons_self).next (triple_free.next (triple_pure _))

theorem triple_searchBridge {pre : List (Nat × Object)} {nl : Nat}
    (hnl : (nl, Object.socket) ∈ pre) :
    Triple pre (searchBridge nl start) start.bridge pre [] := by
  unfold searchBridge
  refine (triple_access hnl).next ?_
  split
  · exact triple_pure _
  apply triple_alloc
  intro links
  exact (triple_access List.mem_cons_self).next (triple_free.next (triple_pure _))

/-- Whatever fails, `main` touches live objects only. After the loop it frees
what it holds itself. -/
theorem triple_mainWith
    (hbuild : ∀ {pre pcap nl}, (pcap, Object.capture) ∈ pre → (nl, Object.socket) ∈ pre →
      Triple pre (build pcap nl) built pre lost)
    (hloop : ∀ {pre pcap nl}, (pcap, Object.capture) ∈ pre → (nl, Object.socket) ∈ pre →
      ∀ master installed, Triple pre (loop pcap nl master installed) (last master installed) pre
        (lostBy master installed)) :
    Triple [] (mainWith start build loop) (exitOf start built last) []
      (leftBy start built lost lostBy) := by
  unfold mainWith exitOf leftBy
  split
  · exact triple_pure _
  apply triple_alloc
  intro nl
  refine (triple_access List.mem_cons_self).next ?_
  split
  · exact triple_abandon _
  refine (triple_searchInterface _).next ?_
  split
  · exact triple_abandon _
  refine (triple_searchBridge List.mem_cons_self).next ?_
  split
  · exact triple_abandon _
  split
  · exact triple_abandon _
  apply triple_alloc
  intro pcap
  have hnl : (nl, Object.socket) ∈ [(pcap, Object.capture), (nl, .socket)] :=
    List.mem_cons_of_mem _ List.mem_cons_self
  refine (hbuild List.mem_cons_self hnl).bind ?_
  split
  · exact triple_abandon _
  refine (hloop List.mem_cons_self hnl _ _).last ?_
  refine (triple_access List.mem_cons_self).next (triple_free.next ?_)
  exact (triple_access List.mem_cons_self).next (triple_free.next (triple_pure _))

end Main

/-! ### Every run -/

theorem triple_main (k : Kernel) (start : StartEnv) (table : LinkTable) (benv : BuildEnv)
    (arrivals : List Arrival) :
    Triple [] (main k start table benv arrivals)
      (exitOf start (DynamicGre.buildFilter k benv table none) fun master installed =>
        Runs.run (DynamicGre.step k master) ⟨table, installed⟩ arrivals) []
      (leftBy start (DynamicGre.buildFilter k benv table none) (lostByBuild benv table)
        fun master installed =>
          Runs.collect (DynamicGre.step k master) (lostByStep k master) ⟨table, installed⟩
            arrivals) :=
  triple_mainWith (fun hpcap hnl => triple_buildFilter hpcap hnl none)
    fun hpcap hnl _ _ => triple_foldlM (triple_step hpcap hnl) _ arrivals

section Growth

variable {k : Kernel} {master : Int32} {s : State} {arrivals : List Arrival}

/-- A list of links that has a tunnel costs a message. -/
theorem lostByBuild_ne_nil {env : BuildEnv} {table : LinkTable} {link : Link} (hok : env.Ok)
    (hlink : link ∈ table) (htunnel : link.tunnel.isSome = true) : lostByBuild env table ≠ [] := by
  obtain ⟨parms, hparms⟩ := Option.isSome_iff_exists.mp htunnel
  obtain ⟨hkind, hdygre⟩ := Link.tunnel_eq_some_iff.mp hparms
  have hgretap : link.cached.ipgretap = true := by
    rw [Link.cached, hkind]
  have hreceives : Receives (env.tunnel link.name) :=
    let h := hok.tunnel link.name
    ⟨h.1, h.2.1, h.2.2.1⟩
  have hmem : Object.message ∈ lostByBuild env table := by
    rw [lostByBuild, if_neg (not_lt.mpr hok.alloc), List.mem_flatMap]
    refine ⟨link.cached, List.mem_map_of_mem hlink, ?_⟩
    have hname : link.cached.name.filter (·.hasPrefix TUNNEL_PREFIX) = some link.name :=
      Option.filter_eq_some_iff.mpr ⟨rfl, hdygre⟩
    rw [lostByLink, if_pos hgretap, hname, Option.elim_some, lostByGet, if_pos hreceives]
    exact List.mem_singleton.mpr rfl
  exact List.ne_nil_of_mem hmem

theorem length_requested_le {arrival : Arrival} (hcalm : Calm arrival) :
    (requested master arrival).toList.length ≤ (lostByStep k master s arrival).length := by
  cases arrival with
  | timeout => exact Nat.le_refl 0
  | frame pkt env =>
      by_cases haccepts : Dygrefou.Accepts pkt
      · have hmem : tunnelLink (requestOf master pkt) ∈
            (DynamicGre.step k master s (.frame pkt env)).table :=
          (mem_step_table haccepts hcalm).mpr (Or.inl rfl)
        have hbuild := lostByBuild_ne_nil hcalm.build hmem
          (Option.isSome_of_mem tunnel_tunnelLink)
        have hlost := List.length_pos_of_ne_nil hbuild
        have hcreated : ¬CreateFails env (requestOf master pkt) := not_createFails hcalm _
        simp only [requested, lostByStep, if_pos haccepts, if_neg hcreated,
          List.length_append, Option.toList_some, List.length_singleton]
        omega
      · simp only [requested, if_neg haccepts]
        exact Nat.zero_le _

/-- While no call fails, every accepted frame costs something. -/
theorem length_requests_le (hcalm : ∀ arrival ∈ arrivals, Calm arrival) :
    (requests master arrivals).length ≤
      (Runs.collect (DynamicGre.step k master) (lostByStep k master) s arrivals).length := by
  induction arrivals generalizing s with
  | nil => exact Nat.le_refl 0
  | cons arrival arrivals ih =>
      have hrest := ih (s := DynamicGre.step k master s arrival) fun a ha =>
        hcalm a (List.mem_cons_of_mem _ ha)
      have hfirst : (requested master arrival).toList.length ≤
          (lostByStep k master s arrival).length :=
        length_requested_le (hcalm arrival List.mem_cons_self)
      have hsplit : requests master (arrival :: arrivals) =
          (requested master arrival).toList ++ requests master arrivals := by
        rw [requests, List.filterMap_cons]
        cases requested master arrival <;> rfl
      rw [hsplit, Runs.collect, List.length_append, List.length_append]
      exact Nat.add_le_add hfirst hrest

end Growth

/-- Whatever the arguments, the words at the prompts, the frames and the failing
calls, the Project daemon touches live objects only. Once it returns it has lost
the messages of its `get_tunnel` calls and its references to the links it has
deleted, and nothing else; with no failing call that is something for every
accepted frame. -/
theorem main_loses (k : Kernel) (start : StartEnv) (table : LinkTable) (benv : BuildEnv)
    (arrivals : List Arrival) (h : Heap Object) :
    ∃ exit later stray, main k start table benv arrivals h = some (exit, later) ∧
      later.live.Perm (stray ++ h.live) ∧
      ∀ selectedIf master s, exit = .finished selectedIf master s →
        let first : State := ⟨table, (DynamicGre.buildFilter k benv table none).2⟩
        s = Runs.run (DynamicGre.step k master) first arrivals ∧
        stray.map Prod.snd = lostByBuild benv table ++
          Runs.collect (DynamicGre.step k master) (lostByStep k master) first arrivals ∧
        ((∀ arrival ∈ arrivals, Calm arrival) →
          (requests master arrivals).length ≤ stray.length) := by
  have hmain := triple_main k start table benv arrivals
  obtain ⟨later, stray, hrun, hlost, hlive⟩ := hmain h h.live (List.Perm.refl _)
  refine ⟨_, later, stray, hrun, hlive, ?_⟩
  intro selectedIf master s hexit
  obtain ⟨-, -, hs, hleft⟩ := exitOf_eq_finished hexit
  rw [hleft _ _] at hlost
  refine ⟨hs, hlost, ?_⟩
  intro hcalm
  have hlength := congrArg List.length hlost
  rw [List.length_map, List.length_append] at hlength
  have hcost := @length_requests_le k master
    ⟨table, (DynamicGre.buildFilter k benv table none).2⟩ arrivals hcalm
  omega

end DynamicGre.Objects

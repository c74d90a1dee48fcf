import DynamicGre.Daemon.LastFrame
import DynamicGre.Daemon.Netlink

/-!
What the Project daemon's `build_filter` installs over the netlink socket. As
long as no earlier call has left replies there, its filter leaves out exactly the
tunnels whose `get_tunnel` succeeds, and one frame without failures makes the
filter right again. A callback that cannot be allocated spoils this: the next
`get_tunnel` reads the replies of the one before.
-/

namespace DynamicGre

open Blocking Pcap

namespace Netlink

/-! ### Where `build_filter` returns -/

section Returns

variable {k : Kernel} {lib : Libnl} {s : State}

end Returns

/-! ### What the filter leaves out -/

/-- No netlink or pcap call of the iteration fails. -/
def Arrival.Calm (arrival : Arrival) : Prop := DynamicGre.Calm arrival.seen

theorem FrameEnv.readsAll_of_ok {env : FrameEnv} (h : env.seen.Ok) : env.ReadsAll := by
  refine ⟨?_, ?_, fun name => (h.build.tunnel name).2.2.1⟩
  · by_contra hcut
    exact not_lt.mpr h.alloc (env.destroy.alloc.fails (eq_true_of_ne_false hcut))
  · by_contra hcut
    exact not_lt.mpr h.build.alloc (env.build.alloc.fails (eq_true_of_ne_false hcut))

theorem Arrival.Calm.readsAll {arrival : Arrival} (h : arrival.Calm) : arrival.ReadsAll := by
  cases arrival with
  | timeout => trivial
  | frame pkt env => exact FrameEnv.readsAll_of_ok h

/-- From any links and any filter that failures may have left, and with no reply
left in the socket, one accepted frame without failures makes the filter exact,
and it stays so as long as no call fails. -/
theorem forM_recovers (k : Kernel) (lib : Libnl) (master : Int32) (w : World) (pkt : Packet)
    (env : FrameEnv) (arrivals : List Arrival) (hqueue : w.socket.queue = [])
    (haccepts : Dygrefou.Accepts pkt) (hok : env.seen.Ok)
    (hcalm : ∀ arrival ∈ arrivals, arrival.Calm) :
    ∃ later, (Arrival.frame pkt env :: arrivals).forM (step k lib master) w = some ((), later) ∧
      later.socket.queue = [] ∧
      (∀ f, passes later.state.installed f = true ↔
        f.inbound = true ∧ f.udpDest = some 5555 ∧
          ∀ link ∈ later.state.table, ∀ ep, link.Serves ep → ¬f.From ep.1 ep.2) ∧
      ∀ link, link ∈ later.state.table ↔
        (∃ p, LastOfName ((Arrival.frame pkt env :: arrivals).map Arrival.seen) p ∧
          link = tunnelLink (requestOf master p)) ∨
        (link ∈ w.state.table ∧
          Unasked ((Arrival.frame pkt env :: arrivals).map Arrival.seen) link.name) := by
  have hall : ∀ arrival ∈ Arrival.frame pkt env :: arrivals, arrival.Calm :=
    List.forall_mem_cons.mpr ⟨hok, hcalm⟩
  have hsteps : Realizes Idle ((Arrival.frame pkt env :: arrivals).forM (step k lib master))
      w.state () _ :=
    realizes_forM (fun s arrival h => realizes_step (hall arrival h).readsAll) _
  obtain ⟨later, hrun, hleft, hstate⟩ := hsteps w ⟨hqueue, rfl⟩
  rw [Runs.run, ← List.foldl_map (f := Arrival.seen)] at hstate
  have hseen : ∀ arrival ∈ arrivals.map Arrival.seen, Calm arrival := by
    rw [List.forall_mem_map]
    exact hcalm
  have hrecovers := run_recovers k master w.state pkt env.seen (arrivals.map Arrival.seen)
    haccepts hok hseen
  refine ⟨later, hrun, hleft, ?_⟩
  rw [hstate]
  exact hrecovers

/-- A filter that hides an endpoint without a tunnel. -/
def hidingState : State := ⟨noLinks, some (filterExpr [(0x0102a8c0, 40000)])⟩

/-- A frame from another port opens the hidden one. -/
theorem forM_recovers_hiding : ∃ later,
    passes hidingState.installed GreFrame.keyedPacket.frame = false ∧
    [Arrival.frame roamedPacket FrameEnv.good].forM (step Kernel.plain plainLibnl 3)
      ⟨⟨0, []⟩, hidingState⟩ = some ((), later) ∧
    passes later.state.installed GreFrame.keyedPacket.frame = true := by
  obtain ⟨later, hrun, -, hfilter, hlinks⟩ := forM_recovers Kernel.plain plainLibnl 3
    ⟨⟨0, []⟩, hidingState⟩ roamedPacket FrameEnv.good [] rfl (GreFrame.accepts rfl)
    DynamicGre.FrameEnv.good_ok fun _ h => nomatch h
  refine ⟨later, by decide, hrun, (hfilter _).mpr ⟨rfl, by decide, ?_⟩⟩
  intro link hlink ep hserves
  rcases (hlinks link).mp hlink with ⟨p, hlast, rfl⟩ | ⟨hold, -⟩
  · simp only [List.map_cons, List.map_nil, lastOfName_cons, not_lastOfName_nil, false_or] at hlast
    obtain ⟨-, ⟨env, heq⟩, -⟩ := hlast
    rw [serves_requestOf.mp hserves, ← (DynamicGre.Arrival.frame.inj heq).1]
    decide
  · cases hold

end Netlink

end DynamicGre

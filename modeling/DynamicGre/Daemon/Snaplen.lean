import DynamicGre.Daemon.Clients
import DynamicGre.Dygre.FirstFrame
import DynamicGre.Packet.Head

/-!
How much of a frame the daemons need. Both open the device with a snapshot length of
65535. A shorter one changes nothing in any run as long as the longest possible
headers fit into it, and no value below that does.
-/

namespace DynamicGre

open Pcap Packet

section Frames

variable {n : Nat} {pkt : Packet} {installed : Option Expr}

theorem passes_cut (hn : Pcap.reach ≤ n) :
    passes installed (pkt.cut n).frame = passes installed pkt.frame := by
  have hsame : (pkt.cut n).frame.SameHead pkt.frame := {
    inbound := rfl
    bytes := fun i hi => List.getElem?_take_of_lt (lt_of_lt_of_le hi hn) }
  cases installed with
  | none => rfl
  | some e => exact hsame.accepts e

/-- Where anything was cut off, the IP header was not. -/
theorem cut_cases (pkt : Packet) (hn : 74 ≤ n) :
    pkt.cut n = pkt ∨ (pkt.cut n).ipEnd ≤ (pkt.cut n).pktlen := by
  cases Nat.le_total pkt.pktlen n with
  | inl hshort => exact Or.inl (cut_of_le hshort)
  | inr hlong =>
      have hend : (pkt.cut n).ipEnd ≤ 74 := ipEnd_le
      have hlen : (pkt.cut n).pktlen = min n pkt.pktlen := pktlen_cut
      exact Or.inr (by omega)

end Frames

/-! ### The Project daemon -/

def Arrival.cut (n : Nat) : Arrival → Arrival
  | .timeout => .timeout
  | .frame pkt env => .frame (pkt.cut n) env

def Capture.cut (n : Nat) (cap : Capture) : Capture := ⟨cap.arrival.cut n, cap.early⟩

section Project

variable {n : Nat} {pkt : Packet} {k : Kernel} {master : Int32} {s : State}

theorem step_cut (hn : Dygrefou.reach ≤ n) (arrival : Arrival) :
    step k master s (arrival.cut n) = step k master s arrival := by
  cases arrival with
  | timeout => rfl
  | frame pkt env =>
      rcases cut_cases pkt (le_trans (by decide) hn) with hwhole | hfits
      · rw [Arrival.cut, hwhole]
      have hsame : SameHead Dygrefou.reach (pkt.cut n) pkt := sameHead_cut.mono hn
      have haccepts := Dygrefou.accepts_congr hsame fun _ => hfits
      by_cases hours : Dygrefou.Accepts (pkt.cut n)
      · rw [Arrival.cut, step_of_accepts hours, step_of_accepts (haccepts.mp hours),
          Dygrefou.reported_congr hsame hfits hours]
      · rw [Arrival.cut, step_of_not_accepts hours, step_of_not_accepts (mt haccepts.mpr hours)]

theorem gatedStep_cut (hn : Dygrefou.reach ≤ n) (cap : Capture) :
    gatedStep k master s (cap.cut n) = gatedStep k master s cap := by
  obtain ⟨arrival, early⟩ := cap
  cases arrival with
  | timeout => rfl
  | frame pkt env =>
      have hstep : step k master s (.frame (pkt.cut n) env) = step k master s (.frame pkt env) :=
        step_cut hn (.frame pkt env)
      simp only [gatedStep, Capture.cut, Arrival.cut, passes_cut (le_trans (by decide) hn), hstep]

end Project

/-! ### The Lab4 daemon -/

namespace Dygre

def Arrival.cut (n : Nat) : Arrival → Arrival
  | .timeout => .timeout
  | .frame pkt env => .frame (pkt.cut n) env

section Lab4

variable {n : Nat} {pkt : Packet} {master : Int32} {s : State}

theorem parsePacket_cut (hn : reach ≤ n) (out : Addresses) :
    (parsePacket (pkt.cut n) out).val = (parsePacket pkt out).val := by
  rcases cut_cases pkt (le_trans (by decide) hn) with hwhole | hfits
  · rw [hwhole]
  have hsame : SameHead reach (pkt.cut n) pkt := sameHead_cut.mono hn
  have haccepts := accepts_congr hsame fun _ => hfits
  by_cases hours : Accepts (pkt.cut n)
  · have hlayout : SameLayout (pkt.cut n) pkt := hsame.layout (by decide) hours.1
    rw [parsePacket_of_accepts out hours, parsePacket_of_accepts out (haccepts.mp hours),
      hlayout.saddr, hlayout.daddr]
  · rw [parsePacket_of_not_accepts out hours, parsePacket_of_not_accepts out
      (mt haccepts.mpr hours)]

theorem next_cut (hn : reach ≤ n) (arrival : Arrival) :
    next master s (arrival.cut n) = next master s arrival := by
  cases arrival with
  | timeout => rfl
  | frame pkt env =>
      simp only [next, step, Arrival.cut, handle, passes_cut (le_trans (by decide) hn),
        parsePacket_cut hn]

end Lab4

end Dygre

/-! ### The least snapshot length -/

/-- A frame with nothing behind the longest headers. -/
def longestFrame : GreFrame :=
  { GreFrame.keyedFrame with
    ip :=
      { GreFrame.keyedFrame.ip with
        ihl := Fin.last 15, options := List.replicate 40 1
        minimal := by decide, optionsLen := by decide }
    gre := { GreFrame.keyedFrame.gre with seq := some 9 }
    payload := [] }

def longestPacket : Packet where
  bytes := longestFrame.bytes
  stale := fun _ => 0
  inbound := true
  fits := by decide

theorem longestPacket_cut : ∀ n < 112, ¬Dygrefou.Accepts (longestPacket.cut n) := by
  decide +kernel

def Dygre.longestPacket : Packet where
  bytes := { longestFrame with udp := none }.bytes
  stale := fun _ => 0
  inbound := true
  fits := by decide

theorem Dygre.longestPacket_accepts : Accepts longestPacket := by
  decide

theorem Dygre.longestPacket_cut : ∀ n < 104, ¬Accepts (longestPacket.cut n) := by
  decide +kernel

/-- The loop as it starts without tunnels. -/
def started : State := ⟨noLinks, (buildFilter Kernel.plain BuildEnv.good noLinks none).2⟩

/-- Below 112 bytes a frame is lost to the Project daemon, also behind its filter. -/
theorem gated_heads_cut_ne {n : Nat} (hshort : n < 112) : ∃ caps : List Capture,
    Runs.heads (gatedStep Kernel.plain 3) started (caps.map (Capture.cut n)) ≠
      Runs.heads (gatedStep Kernel.plain 3) started caps := by
  refine ⟨[⟨.frame longestPacket FrameEnv.good, false⟩], fun hheads => ?_⟩
  have hlost : ¬Dygrefou.Accepts (longestPacket.cut n) := longestPacket_cut n hshort
  have hpass : passes started.installed longestPacket.frame = true := by decide
  have hkept : gatedStep Kernel.plain 3 started
      ⟨.frame (longestPacket.cut n) FrameEnv.good, false⟩ = started := by
    simp [gatedStep, step_of_not_accepts hlost]
  have hnext : gatedStep Kernel.plain 3 started ⟨.frame longestPacket FrameEnv.good, false⟩ =
      step Kernel.plain 3 started (.frame longestPacket FrameEnv.good) := by
    simp [gatedStep, hpass]
  simp only [List.map_cons, List.map_nil, Runs.heads, List.cons.injEq, true_and, and_true,
    Capture.cut, Arrival.cut, hkept, hnext] at hheads
  have hadded : tunnelLink (requestOf 3 longestPacket) ∈
      (step Kernel.plain 3 started (.frame longestPacket FrameEnv.good)).table :=
    (mem_step_table (GreFrame.accepts rfl) FrameEnv.good_ok).mpr (Or.inl rfl)
  rw [← hheads] at hadded
  cases hadded

theorem gated_heads_cut_iff (n : Nat) :
    (∀ (k : Kernel) (master : Int32) (s : State) (caps : List Capture),
      Runs.heads (gatedStep k master) s (caps.map (Capture.cut n)) =
        Runs.heads (gatedStep k master) s caps) ↔ 112 ≤ n := by
  constructor
  · intro h
    by_contra hshort
    obtain ⟨caps, hne⟩ := gated_heads_cut_ne (not_le.mp hshort)
    exact hne (h Kernel.plain 3 started caps)
  · intro hn k master s caps
    exact Runs.heads_map fun s cap => gatedStep_cut hn cap

namespace Dygre

/-- The loop as it starts without tunnels. -/
def started : State := ⟨noLinks, (buildFilter BuildEnv.good noLinks none).2⟩

theorem heads_cut_ne {n : Nat} (hshort : n < 104) : ∃ arrivals : List Arrival,
    Runs.heads (next 3) started (arrivals.map (Arrival.cut n)) ≠
      Runs.heads (next 3) started arrivals := by
  refine ⟨[.frame longestPacket FrameEnv.good], fun hheads => ?_⟩
  have hlost : ¬Accepts (longestPacket.cut n) := longestPacket_cut n hshort
  have hpass : passes started.installed longestPacket.frame = true := by decide
  have hkept : next 3 started (.frame (longestPacket.cut n) FrameEnv.good) = started := by
    simp [next, step, handle, parsePacket_of_not_accepts _ hlost]
  have hnext : next 3 started (.frame longestPacket FrameEnv.good) =
      (handle 3 started longestPacket FrameEnv.good).val := by
    simp [next, step, hpass]
  simp only [List.map_cons, List.map_nil, Runs.heads, List.cons.injEq, true_and, and_true,
    Arrival.cut, hkept] at hheads
  have hadded : greLink 3 (longestPacket.saddr outerIp) (longestPacket.daddr outerIp) ∈
      (next 3 started (.frame longestPacket FrameEnv.good)).table := by
    have hcalm : Calm (.frame longestPacket FrameEnv.good) := ⟨by decide, by decide⟩
    rw [hnext, handle_of_calm longestPacket_accepts hcalm]
    exact KeyedList.mem_put_self _ _
  rw [← hheads] at hadded
  cases hadded

theorem heads_cut_iff (n : Nat) :
    (∀ (master : Int32) (s : State) (arrivals : List Arrival),
      Runs.heads (next master) s (arrivals.map (Arrival.cut n)) =
        Runs.heads (next master) s arrivals) ↔ 104 ≤ n := by
  constructor
  · intro h
    by_contra hshort
    obtain ⟨arrivals, hne⟩ := heads_cut_ne (not_le.mp hshort)
    exact hne (h 3 started arrivals)
  · intro hn master s arrivals
    exact Runs.heads_map fun s arrival => next_cut hn arrival

end Dygre

/-- Of the positive snapshot lengths, those from 112 on change no run of the Project
daemon and those from 104 on no run of the Lab4 daemon. A shorter one changes
already what a run makes of its first frame. -/
theorem snaplen_iff (n : Nat) :
    ((∀ (k : Kernel) (master : Int32) (s : State) (caps : List Capture),
      Runs.heads (gatedStep k master) s (caps.map (Capture.cut n)) =
        Runs.heads (gatedStep k master) s caps) ↔ 112 ≤ n) ∧
    (n < 112 → ∃ caps : List Capture,
      Runs.heads (gatedStep Kernel.plain 3) started (caps.map (Capture.cut n)) ≠
        Runs.heads (gatedStep Kernel.plain 3) started caps) ∧
    ((∀ (master : Int32) (s : State) (arrivals : List Dygre.Arrival),
      Runs.heads (Dygre.next master) s (arrivals.map (Dygre.Arrival.cut n)) =
        Runs.heads (Dygre.next master) s arrivals) ↔ 104 ≤ n) ∧
    (n < 104 → ∃ arrivals : List Dygre.Arrival,
      Runs.heads (Dygre.next 3) Dygre.started (arrivals.map (Dygre.Arrival.cut n)) ≠
        Runs.heads (Dygre.next 3) Dygre.started arrivals) :=
  ⟨gated_heads_cut_iff n, gated_heads_cut_ne, Dygre.heads_cut_iff n, Dygre.heads_cut_ne⟩

end DynamicGre

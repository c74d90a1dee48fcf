import DynamicGre.Daemon.LastFrame
import DynamicGre.Daemon.Origin
import DynamicGre.Packet.Head
import DynamicGre.Packet.Transcript

/-!
The standard output of the Project daemon. Only `parse_packet` writes to it, so
it is the record of the captured frames; it shows which of them were accepted
and which tunnels the daemon may have set up for them. Where no call failed, the
tunnels and the filter are computed from it.
-/

namespace DynamicGre

open Bytes Pcap

/-- What the calls of `parse_packet` in an iteration show. -/
def shown : Arrival → List Entry
  | .timeout => []
  | .frame pkt _ => [Dygrefou.entry pkt]

/-- The frame that `pcap_next` has returned. -/
def captured : Arrival → Option Packet
  | .timeout => none
  | .frame pkt _ => some pkt

/-- What the loop writes to the standard output. -/
def stdout (isprint : Int → Bool) (arrivals : List Arrival) : List UInt8 :=
  arrivals.flatMap fun arrival => (shown arrival).flatMap (Entry.text isprint)

/-- A `caplen` is a 32-bit number. -/
def CaplenFits (arrivals : List Arrival) : Prop :=
  ∀ pkt ∈ arrivals.filterMap captured, pkt.pktlen < 2 ^ 32

instance (arrivals : List Arrival) : Decidable (CaplenFits arrivals) :=
  inferInstanceAs (Decidable (∀ pkt ∈ arrivals.filterMap captured, _))

/-- The options with the name and the master that the loop gives them. -/
def named (master : Int32) (opt : GretapOpt) : GretapOpt :=
  { opt with ifname := interfaceName opt, master := master }

/-- The request that an entry tells of; the key is not in its lines. -/
def Entry.request (master : Int32) (key : UInt32) (e : Entry) : GretapOpt :=
  named master { e.told with key := key }

/-- An entry is the record of this frame. -/
structure Records (e : Entry) (pkt : Packet) : Prop where
  mem : e.mem = pkt.bytes
  verdict : e.accepted = true ↔ (Dygrefou.parsePacket pkt GretapOpt.zeroed).val.1 = 0
  told : ButKey e.told (Dygrefou.parsePacket pkt GretapOpt.zeroed).val.2

section Output

variable {isprint : Int → Bool} {arrivals : List Arrival} {pkt : Packet}

theorem records_entry (pkt : Packet) : Records (Dygrefou.entry pkt) pkt where
  mem := rfl
  verdict := Dygrefou.accepted_entry pkt
  told := Dygrefou.told_entry pkt

theorem records_shown :
    List.Forall₂ Records (arrivals.flatMap shown) (arrivals.filterMap captured) := by
  induction arrivals with
  | nil => exact .nil
  | cons arrival arrivals ih =>
      cases arrival with
      | timeout => exact ih
      | frame pkt env => exact .cons (records_entry pkt) ih

theorem mem_shown {e : Entry} : e ∈ arrivals.flatMap shown ↔
    ∃ pkt ∈ arrivals.filterMap captured, e = Dygrefou.entry pkt := by
  simp only [List.mem_flatMap, List.mem_filterMap]
  constructor
  · rintro ⟨arrival, harrival, he⟩
    cases arrival with
    | timeout => cases he
    | frame pkt env => exact ⟨pkt, ⟨_, harrival, rfl⟩, List.mem_singleton.mp he⟩
  · rintro ⟨pkt, ⟨arrival, harrival, hpkt⟩, rfl⟩
    cases arrival with
    | timeout => cases hpkt
    | frame other env =>
        cases hpkt
        exact ⟨_, harrival, List.mem_singleton_self _⟩

theorem readLog_shown (hprint : isprint 10 = false) (hlen : CaplenFits arrivals) :
    readLog (stdout isprint arrivals) = some (arrivals.flatMap shown) := by
  rw [stdout, ← List.flatMap_assoc]
  apply readLog_texts hprint
  intro e he
  obtain ⟨pkt, hpkt, rfl⟩ := mem_shown.mp he
  have hfits : pkt.bytes.length < 2 ^ 32 := hlen pkt hpkt
  exact lt_trans hfits (by decide)

/-- The request of an accepted frame is read off its entry, but for the key. -/
theorem request_entry (haccepts : Dygrefou.Accepts pkt) (master : Int32) :
    ∃ key, requestOf master pkt = (Dygrefou.entry pkt).request master key := by
  have htold : ButKey (Dygrefou.entry pkt).told (Dygrefou.reported pkt GretapOpt.zeroed) := by
    have hparse := Dygrefou.told_entry pkt
    rwa [Dygrefou.parsePacket_of_accepts _ haccepts] at hparse
  exact ⟨_, congrArg (named master) htold⟩

end Output

/-- Whichever calls fail, the standard output is read back as the record of all
captured frames, and every tunnel that the loop has set up is one that an
accepted entry tells of. -/
theorem readLog_stdout (isprint : Int → Bool) (k : Kernel) (master : Int32) (table : LinkTable)
    (env : BuildEnv) (arrivals : List Arrival) (hprint : isprint 10 = false)
    (hlen : CaplenFits arrivals) :
    ∃ entries, readLog (stdout isprint arrivals) = some entries ∧
      List.Forall₂ Records entries (arrivals.filterMap captured) ∧
      ∀ s ∈ loopHeads k master table env arrivals, ∀ link ∈ s.table, link ∈ table ∨
        ∃ e ∈ entries, e.accepted = true ∧ ∃ key, link = tunnelLink (e.request master key) := by
  refine ⟨arrivals.flatMap shown, readLog_shown hprint hlen, records_shown, ?_⟩
  intro s hs link hlink
  rcases mem_loopHeads_origin hs hlink with hold | ⟨arrival, hmem, pkt, fenv, rfl, haccepts, rfl⟩
  · exact Or.inl hold
  · have hverdict := (Dygrefou.parsePacket_eq_zero_iff GretapOpt.zeroed).mpr haccepts
    have hentry : Dygrefou.entry pkt ∈ arrivals.flatMap shown :=
      List.mem_flatMap.mpr ⟨_, hmem, List.mem_singleton_self _⟩
    obtain ⟨key, hkey⟩ := request_entry haccepts master
    exact Or.inr ⟨_, hentry, (Dygrefou.accepted_entry pkt).mpr hverdict, key,
      congrArg tunnelLink hkey⟩

/-- The output for one accepted frame. -/
theorem readLog_stdout_keyed : ∃ e,
    readLog (stdout isprintAscii [.frame GreFrame.keyedPacket FrameEnv.good]) = some [e] ∧
      e.mem = GreFrame.keyedPacket.bytes ∧ e.accepted = true := by
  obtain ⟨entries, hread, hrecords, -⟩ := readLog_stdout isprintAscii Kernel.plain 3 noLinks
    BuildEnv.good [.frame GreFrame.keyedPacket FrameEnv.good] (by decide) (by decide)
  obtain ⟨e, rest, hrecord, hrest, rfl⟩ := List.forall₂_cons_right_iff.mp hrecords
  rw [List.forall₂_nil_right_iff.mp hrest] at hread
  have haccepts : Dygrefou.Accepts GreFrame.keyedPacket := GreFrame.accepts rfl
  exact ⟨e, hread, hrecord.mem, hrecord.verdict.mpr
    ((Dygrefou.parsePacket_eq_zero_iff _).mpr haccepts)⟩

/-! ### A run told by its output -/

/-- The dumped frame, handled again while no call fails. -/
def Entry.replay (e : Entry) : Arrival :=
  if h : e.mem.length < 2 ^ 64 then .frame ⟨e.mem, fun _ => 0, true, h⟩ FrameEnv.good
  else .timeout

/-- No outer IP header was cut. -/
def WholeHeaders (arrivals : List Arrival) : Prop :=
  ∀ pkt ∈ arrivals.filterMap captured, pkt.HasIp → pkt.ipEnd ≤ pkt.pktlen

instance (arrivals : List Arrival) : Decidable (WholeHeaders arrivals) :=
  inferInstanceAs (Decidable (∀ pkt ∈ arrivals.filterMap captured, _))

/-- The two daemons hold the same links, and both filters show them. -/
structure Alike (s t : State) : Prop where
  shows : Shows s (registry s.table)
  shows' : Shows t (registry t.table)
  links : ∀ link, link ∈ s.table ↔ link ∈ t.table

section Replay

variable {k : Kernel} {master : Int32} {s t : State} {arrivals : List Arrival} {pkt : Packet}
  {env : FrameEnv}

theorem replay_entry (pkt : Packet) : ∃ again : Packet, again.bytes = pkt.bytes ∧
    (Dygrefou.entry pkt).replay = .frame again FrameEnv.good :=
  ⟨⟨pkt.bytes, fun _ => 0, true, pkt.fits⟩, rfl, dif_pos pkt.fits⟩

/-- A frame and its dump, each handled without failures. -/
theorem Alike.step (h : Alike s t) (hok : env.Ok) (hfits : pkt.HasIp → pkt.ipEnd ≤ pkt.pktlen) :
    Alike (step k master s (.frame pkt env))
      (DynamicGre.step k master t (Dygrefou.entry pkt).replay) := by
  obtain ⟨again, hbytes, hreplay⟩ := replay_entry pkt
  rw [hreplay]
  have hsame : Packet.SameHead Dygrefou.reach pkt again := Packet.sameHead_of_bytes hbytes.symm
  have haccepts : Dygrefou.Accepts pkt ↔ Dygrefou.Accepts again :=
    Dygrefou.accepts_congr hsame hfits
  refine ⟨shows_registry_step h.shows hok, shows_registry_step h.shows' FrameEnv.good_ok, ?_⟩
  intro link
  by_cases hours : Dygrefou.Accepts pkt
  · have hreported := Dygrefou.reported_congr hsame (hfits hours.1) hours GretapOpt.zeroed
    have hrequest : requestOf master pkt = requestOf master again :=
      congrArg (named master) hreported
    have hname : frameName pkt = frameName again := congrArg GretapOpt.ifname hrequest
    rw [mem_step_table hours hok, mem_step_table (haccepts.mp hours) FrameEnv.good_ok, h.links,
      hrequest, hname]
  · rw [step_of_not_accepts hours, step_of_not_accepts (mt haccepts.mpr hours)]
    exact h.links link

theorem Alike.run (h : Alike s t) (hcalm : ∀ arrival ∈ arrivals, Calm arrival)
    (hfits : WholeHeaders arrivals) :
    Alike (Runs.run (DynamicGre.step k master) s arrivals)
      (Runs.run (DynamicGre.step k master) t ((arrivals.flatMap shown).map Entry.replay)) := by
  induction arrivals generalizing s t with
  | nil => exact h
  | cons arrival arrivals ih =>
      obtain ⟨hnow, hlater⟩ := List.forall_mem_cons.mp hcalm
      cases arrival with
      | timeout => exact ih h hlater hfits
      | frame pkt env =>
          obtain ⟨hwhole, hrest⟩ := List.forall_mem_cons.mp hfits
          exact ih (h.step hnow hwhole) hlater hrest

end Replay

/-- What a run without failing calls leaves behind is computed from its standard
output: to handle the dumped frames again leads to the same links and to a
filter that lets the same frames through. -/
theorem replay_stdout (isprint : Int → Bool) (k : Kernel) (master : Int32) (table : LinkTable)
    (env : BuildEnv) (arrivals : List Arrival) (hprint : isprint 10 = false)
    (hlen : CaplenFits arrivals) (hfits : WholeHeaders arrivals) (henv : env.Ok)
    (hcalm : ∀ arrival ∈ arrivals, Calm arrival) :
    let start : State := ⟨table, (buildFilter k env table none).2⟩
    let s := Runs.run (step k master) start arrivals
    ∃ entries, readLog (stdout isprint arrivals) = some entries ∧
      let t := Runs.run (step k master) start (entries.map Entry.replay)
      (∀ link, link ∈ s.table ↔ link ∈ t.table) ∧
        ∀ f, passes s.installed f = passes t.installed f := by
  intro start s
  have hstart : Shows start (registry table) := shows_of_build henv _ _
  have halike : Alike start start := ⟨hstart, hstart, fun _ => Iff.rfl⟩
  have hrun := @Alike.run k master _ _ arrivals halike hcalm hfits
  refine ⟨arrivals.flatMap shown, readLog_shown hprint hlen, hrun.links, ?_⟩
  intro f
  rw [Bool.eq_iff_iff, hrun.shows.filter, hrun.shows'.filter, registry_congr hrun.links]

/-- The tunnel of an accepted frame is set up again from the output. -/
theorem replay_stdout_keyed : ∃ entries,
    readLog (stdout isprintAscii [.frame GreFrame.keyedPacket FrameEnv.good]) = some entries ∧
      tunnelLink (requestOf 3 GreFrame.keyedPacket) ∈ (Runs.run (step Kernel.plain 3)
        ⟨noLinks, (buildFilter Kernel.plain BuildEnv.good noLinks none).2⟩
        (entries.map Entry.replay)).table := by
  have hcalm : ∀ arrival ∈ [Arrival.frame GreFrame.keyedPacket FrameEnv.good], Calm arrival := by
    simp only [List.forall_mem_singleton]
    exact FrameEnv.good_ok
  obtain ⟨entries, hread, hlinks, -⟩ := replay_stdout isprintAscii Kernel.plain 3 noLinks
    BuildEnv.good [.frame GreFrame.keyedPacket FrameEnv.good] (by decide) (by decide) (by decide)
    BuildEnv.good_ok hcalm
  refine ⟨entries, hread, (hlinks _).mp ?_⟩
  exact (mem_step_table (GreFrame.accepts rfl) FrameEnv.good_ok).mpr (Or.inl rfl)

end DynamicGre

import DynamicGre.Dygre.FirstFrame
import DynamicGre.Packet.Transcript

/-!
The standard output of the Lab4 daemon. It shows the frames that got through the
filter, with both addresses of each, and these are all that a tunnel is made of:
the output of a run without failing calls lists the tunnels one by one.
-/

namespace DynamicGre.Dygre

open Bytes Pcap

/-- What the calls of `parse_packet` in an iteration show. -/
def shown (s : State) : Arrival → List Entry
  | .timeout => []
  | .frame pkt env => if passes s.installed pkt.frame then [entry pkt env.stale] else []

/-- The frame that `pcap_next` returns once it has got through the filter. -/
def captured (s : State) : Arrival → List Packet
  | .timeout => []
  | .frame pkt _ => if passes s.installed pkt.frame then [pkt] else []

/-- What the loop writes to the standard output. -/
def stdout (isprint : Int → Bool) (master : Int32) (s : State) (arrivals : List Arrival) :
    List UInt8 :=
  Runs.collect (next master) (fun s arrival => (shown s arrival).flatMap (Entry.text isprint)) s
    arrivals

/-- A `caplen` is a 32-bit number. -/
def CaplenFits : Arrival → Prop
  | .timeout => True
  | .frame pkt _ => pkt.pktlen < 2 ^ 32

instance (arrival : Arrival) : Decidable (CaplenFits arrival) := by
  cases arrival <;> unfold CaplenFits <;> infer_instance

/-- The link that an accepted entry tells of. -/
def toldLink (master : Int32) (e : Entry) : Link := greLink master e.told.remote e.told.localAddr

/-- The entries of a run for the accepted frames. -/
def told (master : Int32) (s : State) (arrivals : List Arrival) : List Entry :=
  (Runs.collect (next master) shown s arrivals).filter Entry.accepted

/-- An entry is the record of this frame. -/
structure Records (e : Entry) (pkt : Packet) : Prop where
  mem : e.mem = pkt.bytes
  verdict : e.accepted = true ↔ Accepts pkt
  told : Accepts pkt → e.told.remote = pkt.saddr Packet.outerIp ∧
    e.told.localAddr = pkt.daddr Packet.outerIp

section Output

variable {isprint : Int → Bool} {master : Int32} {s : State} {arrival : Arrival}
  {arrivals : List Arrival} {pkt : Packet} {env : FrameEnv} {link : Link} {e : Entry}

theorem mem_shown_frame : e ∈ shown s (.frame pkt env) ↔
    passes s.installed pkt.frame = true ∧ e = entry pkt env.stale := by
  by_cases hpass : passes s.installed pkt.frame = true <;> simp [shown, hpass]

theorem readLog_collect (hprint : isprint 10 = false)
    (hlen : ∀ arrival ∈ arrivals, CaplenFits arrival) :
    readLog (stdout isprint master s arrivals) =
      some (Runs.collect (next master) shown s arrivals) := by
  rw [stdout, Runs.collect_flatMap]
  apply readLog_texts hprint
  apply Runs.forall_mem_collect
  intro s arrival harrival e he
  cases arrival with
  | timeout => cases he
  | frame pkt env =>
      have hfits : pkt.bytes.length < 2 ^ 32 := hlen _ harrival
      rw [(mem_shown_frame.mp he).2]
      exact lt_trans hfits (by decide)

/-- Of every frame that gets through there is one entry. -/
theorem records_shown (s : State) (arrival : Arrival) :
    List.Forall₂ Records (shown s arrival) (captured s arrival) := by
  cases arrival with
  | timeout => exact .nil
  | frame pkt env =>
      unfold shown captured
      dsimp only
      split
      · refine .cons ⟨rfl, accepted_entry pkt env.stale, ?_⟩ .nil
        exact fun haccepts => told_entry haccepts env.stale
      · exact .nil

theorem told_cons : told master s (arrival :: arrivals) =
    (shown s arrival).filter Entry.accepted ++ told master (next master s arrival) arrivals :=
  List.filter_append ..

/-- An accepted entry is that of an accepted frame which got through. -/
theorem mem_shown (he : e ∈ (shown s arrival).filter Entry.accepted) :
    ∃ pkt env, arrival = .frame pkt env ∧ passes s.installed pkt.frame = true ∧ Accepts pkt ∧
      e.told.remote = pkt.saddr Packet.outerIp ∧ e.told.localAddr = pkt.daddr Packet.outerIp := by
  obtain ⟨hshown, haccepted⟩ := List.mem_filter.mp he
  cases arrival with
  | timeout => cases hshown
  | frame pkt env =>
      obtain ⟨hpass, rfl⟩ := mem_shown_frame.mp hshown
      have haccepts := (accepted_entry pkt env.stale).mp haccepted
      exact ⟨pkt, env, rfl, hpass, haccepts, told_entry haccepts env.stale⟩

/-- The entry of an accepted frame that gets through. -/
theorem shown_of_accepts (hpass : passes s.installed pkt.frame = true) (haccepts : Accepts pkt) :
    (shown s (.frame pkt env)).filter Entry.accepted = [entry pkt env.stale] := by
  have hshown : shown s (.frame pkt env) = [entry pkt env.stale] := if_pos hpass
  simp [hshown, (accepted_entry pkt env.stale).mpr haccepts]

/-- Whatever the calls answer, a link that an iteration adds is told by its
entry. -/
theorem mem_next_told (h : link ∈ (next master s arrival).table) :
    link ∈ s.table ∨ ∃ e ∈ (shown s arrival).filter Entry.accepted, link = toldLink master e := by
  cases arrival with
  | timeout => exact Or.inl h
  | frame pkt env =>
      unfold next step at h
      dsimp only at h
      split at h
      · rename_i hpass
        by_cases haccepts : Accepts pkt
        · rcases (@handle_cases master s pkt env haccepts).1 with hsame | hput
          · rw [hsame] at h
            exact Or.inl h
          · rw [hput] at h
            rcases KeyedList.mem_put.mp h with rfl | ⟨hold, -⟩
            · refine Or.inr ⟨entry pkt env.stale, ?_, ?_⟩
              · rw [shown_of_accepts hpass haccepts]
                exact List.mem_singleton_self _
              · obtain ⟨hremote, hlocal⟩ := told_entry haccepts env.stale
                rw [toldLink, hremote, hlocal]
            · exact Or.inl hold
        · rw [handle_of_not_accepts haccepts] at h
          exact Or.inl h
      · exact Or.inl h

/-- Whatever the calls answer, the links of a run are the old ones and some that
its output tells of. -/
theorem mem_run_told (h : link ∈ (Runs.run (next master) s arrivals).table) :
    link ∈ s.table ∨ ∃ e ∈ told master s arrivals, link = toldLink master e := by
  induction arrivals generalizing s with
  | nil => exact Or.inl h
  | cons arrival arrivals ih =>
      simp only [told_cons, List.mem_append]
      rcases ih h with hnext | ⟨e, he, rfl⟩
      · rcases mem_next_told hnext with hold | ⟨e, he, rfl⟩
        · exact Or.inl hold
        · exact Or.inr ⟨e, Or.inl he, rfl⟩
      · exact Or.inr ⟨e, Or.inr he, rfl⟩

/-- Without failures no source is told twice, and none is told that has a tunnel;
the told links are there at the end. -/
theorem Exact.told_run (h : Exact s) (hcalm : ∀ arrival ∈ arrivals, Calm arrival) :
    (∀ e ∈ told master s arrivals, e.told.remote ∉ remotes s.table ∧
      toldLink master e ∈ (Runs.run (next master) s arrivals).table) ∧
      ((told master s arrivals).map (·.told.remote)).Nodup := by
  induction arrivals generalizing s with
  | nil => simp [told, Runs.collect]
  | cons arrival arrivals ih =>
      have hnow : Calm arrival := hcalm arrival List.mem_cons_self
      have hlater : ∀ a ∈ arrivals, Calm a := fun a ha => hcalm a (List.mem_cons_of_mem _ ha)
      rw [told_cons, Runs.run_cons]
      rcases @Exact.next_cases master s arrival h hnow with
        ⟨hsame, hknown⟩ | ⟨pkt, env, rfl, hours, hfresh, hexact, hremotes⟩
      · have hnone : (shown s arrival).filter Entry.accepted = [] := by
          rw [List.eq_nil_iff_forall_not_mem]
          intro e he
          obtain ⟨pkt, env, rfl, hpass, haccepts, -⟩ := mem_shown he
          obtain ⟨hin, hfresh⟩ := (h.passes_iff haccepts).mp hpass
          exact hfresh (hknown _ (if_pos ⟨hin, haccepts⟩))
        rw [hnone, hsame, List.nil_append]
        exact ih h hlater
      · have hpass := (h.passes_iff hours.2).mpr ⟨hours.1, hfresh⟩
        obtain ⟨hremote, hlocal⟩ := told_entry hours.2 env.stale
        obtain ⟨hrest, hdistinct⟩ := ih hexact hlater
        have htold : toldLink master (entry pkt env.stale) =
            greLink master (pkt.saddr Packet.outerIp) (pkt.daddr Packet.outerIp) := by
          rw [toldLink, hremote, hlocal]
        have hlink : toldLink master (entry pkt env.stale) ∈
            (next master s (.frame pkt env)).table :=
          (h.mem_next_of_fresh hnow hours hfresh).mpr (Or.inl htold)
        rw [shown_of_accepts hpass hours.2, List.singleton_append]
        constructor
        · intro e he
          rcases List.mem_cons.mp he with rfl | he
          · rw [hremote]
            exact ⟨hfresh, (hexact.mem_run hlater).mpr (Or.inl hlink)⟩
          · obtain ⟨hfree, hthere⟩ := hrest e he
            exact ⟨fun hold => hfree ((hremotes _).mpr (Or.inr hold)), hthere⟩
        · rw [List.map_cons, List.nodup_cons, hremote]
          refine ⟨?_, hdistinct⟩
          intro hagain
          obtain ⟨e, he, hsource⟩ := List.mem_map.mp hagain
          exact (hrest e he).1 ((hremotes _).mpr (Or.inl hsource))

end Output

/-- The standard output of the loop is read back as one entry for each frame that
got through. Whichever calls fail, every new link is told by an accepted one of
them; without failures, from a table without `dygre-` links, the accepted ones
are the tunnels one by one. -/
theorem readLog_tunnels (isprint : Int → Bool) (master : Int32) (table : LinkTable)
    (env : BuildEnv) (arrivals : List Arrival) (hprint : isprint 10 = false)
    (hlen : ∀ arrival ∈ arrivals, CaplenFits arrival) :
    let start : State := ⟨table, (buildFilter env table none).2⟩
    let s := Runs.run (next master) start arrivals
    ∃ entries, readLog (stdout isprint master start arrivals) = some entries ∧
      List.Forall₂ Records entries (Runs.collect (next master) captured start arrivals) ∧
      (∀ link ∈ s.table, link ∈ table ∨
        ∃ e ∈ entries, e.accepted = true ∧ link = toldLink master e) ∧
      ((∀ link ∈ table, link.name.hasPrefix TUNNEL_PREFIX = false) → env.Ok →
        (∀ arrival ∈ arrivals, Calm arrival) →
        (∀ e ∈ entries, e.accepted = true → toldLink master e ∈ s.table) ∧
          ((entries.filter Entry.accepted).map (·.told.remote)).Nodup) := by
  intro start s
  refine ⟨_, readLog_collect hprint hlen, Runs.collect_forall₂ records_shown _ _, ?_, ?_⟩
  · intro link hlink
    rcases mem_run_told hlink with hold | ⟨e, he, rfl⟩
    · exact Or.inl hold
    · obtain ⟨hentry, haccepted⟩ := List.mem_filter.mp he
      exact Or.inr ⟨e, hentry, haccepted, rfl⟩
  · intro hstart henv hcalm
    have hexact : Exact start := by
      unfold start
      rw [buildFilter_of_ok henv]
      exact ⟨named_of_no_links hstart, rfl⟩
    obtain ⟨hlinks, hdistinct⟩ := @Exact.told_run master start arrivals hexact hcalm
    refine ⟨?_, hdistinct⟩
    intro e he haccepted
    exact (hlinks e (List.mem_filter.mpr ⟨he, haccepted⟩)).2

/-- Of two frames from one source the first is in the output, and its tunnel is
there at the end. -/
theorem readLog_tunnels_stray :
    let start : State := ⟨onlyEth0, (buildFilter BuildEnv.good onlyEth0 none).2⟩
    let arrivals : List Arrival :=
      [.frame plainPacket FrameEnv.good, .frame strayPacket FrameEnv.good]
    ∃ e, readLog (stdout isprintAscii 3 start arrivals) = some [e] ∧
      e.mem = plainPacket.bytes ∧ e.accepted = true ∧
      toldLink 3 e ∈ (Runs.run (next 3) start arrivals).table := by
  intro start arrivals
  obtain ⟨entries, hread, hrecords, -, hcalm⟩ := readLog_tunnels isprintAscii 3 onlyEth0
    BuildEnv.good arrivals (by decide) (by decide)
  have hcaptured : Runs.collect (next 3) captured start arrivals = [plainPacket] := rfl
  rw [hcaptured] at hrecords
  obtain ⟨e, rest, hrecord, hrest, rfl⟩ := List.forall₂_cons_right_iff.mp hrecords
  rw [List.forall₂_nil_right_iff.mp hrest] at hread hcalm
  obtain ⟨hlinks, -⟩ := hcalm (fun link hlink => List.mem_singleton.mp hlink ▸ by decide)
    (by decide) (by decide)
  have haccepted : e.accepted = true := hrecord.verdict.mpr (by decide)
  exact ⟨e, hread, hrecord.mem, haccepted, hlinks e List.mem_cons_self haccepted⟩

end DynamicGre.Dygre

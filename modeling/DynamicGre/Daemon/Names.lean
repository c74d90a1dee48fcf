import DynamicGre.Daemon.Invariant

/-!
Which frames share an interface name. Keys and addresses are printed into one
space of names, so a name tells the printed word but not what it was taken from.
-/

namespace DynamicGre

open Bytes

/-- The word that the name of a frame's tunnel is printed from. -/
def frameWord (pkt : Packet) : UInt32 :=
  if frameKey pkt ≠ 0 then frameKey pkt else pkt.saddr Packet.outerIp

/-- Both frames have the same key, or neither has one and they come from the
same address. -/
def SameClient (p q : Packet) : Prop :=
  (frameKey p ≠ 0 ∧ frameKey p = frameKey q) ∨
    (frameKey p = 0 ∧ frameKey q = 0 ∧ p.saddr Packet.outerIp = q.saddr Packet.outerIp)

/-- The key of one frame is the source address of the other, which has none. -/
def KeyIsAddress (p q : Packet) : Prop :=
  frameKey p ≠ 0 ∧ frameKey q = 0 ∧ frameKey p = q.saddr Packet.outerIp

section Names

variable {p q : Packet} {k : Kernel} {master : Int32} {s : State} {env : FrameEnv} {link : Link}

theorem frameName_eq_tunnelName (pkt : Packet) : frameName pkt = tunnelName (frameWord pkt) := by
  have hkey : (Dygrefou.reported pkt GretapOpt.zeroed).key = frameKey pkt := rfl
  rw [frameName, interfaceName, frameWord, hkey]
  split <;> rfl

theorem frameName_inj : frameName p = frameName q ↔ frameWord p = frameWord q := by
  rw [frameName_eq_tunnelName, frameName_eq_tunnelName, tunnelName_inj]

theorem frameWord_eq_iff : frameWord p = frameWord q ↔
    SameClient p q ∨ KeyIsAddress p q ∨ KeyIsAddress q p := by
  unfold frameWord SameClient KeyIsAddress
  grind

/-- Whatever the calls answer, an iteration leaves the links of other names as
they were. -/
theorem mem_step_of_ne (hname : link.name ≠ frameName p) :
    link ∈ (step k master s (.frame p env)).table ↔ link ∈ s.table := by
  by_cases haccepts : Dygrefou.Accepts p
  · have hcleared : link ∈ cleared s env (requestOf master p) ↔ link ∈ s.table := by
      rw [mem_cleared]
      exact and_iff_left fun _ => hname
    rcases @step_cases k master s p env haccepts with ⟨-, hstep⟩ | ⟨-, hstep⟩
    · rw [hstep, hcleared]
    · rw [hstep]
      dsimp only
      rw [KeyedList.mem_put, hcleared]
      constructor
      · rintro (rfl | ⟨hold, -⟩)
        · exact absurd rfl hname
        · exact hold
      · intro hold
        exact Or.inr ⟨hold, hname⟩
  · rw [step_of_not_accepts haccepts]

end Names

/-- Two frames share a name exactly when they show the same client, or the key
of one is the address of the other. A frame leaves the tunnel of every other
name alone. -/
theorem frameName_eq_iff (p q : Packet) :
    (frameName p = frameName q ↔ SameClient p q ∨ KeyIsAddress p q ∨ KeyIsAddress q p) ∧
    (∀ k master s env link, link.name ≠ frameName p →
      (link ∈ (step k master s (.frame p env)).table ↔ link ∈ s.table)) := by
  refine ⟨frameName_inj.trans frameWord_eq_iff, ?_⟩
  intro k master s env link hlink
  exact mem_step_of_ne hlink

/-- A frame without a key, from the address that the key of another frame
spells. -/
def unkeyedPacket : Packet where
  bytes := { GreFrame.keyedFrame.readdressed 0x12345678 0x0202a8c0 with
    gre := { GreFrame.keyedFrame.gre with key := none } }.bytes
  stale := fun _ => 0
  inbound := true
  fits := by decide

/-- Two accepted frames of different clients with one name. -/
def Collide (p q : Packet) : Prop :=
  Dygrefou.Accepts p ∧ Dygrefou.Accepts q ∧ frameName p = frameName q ∧ ¬SameClient p q

/-- A frame with the key 0x12345678 takes the name of the client without a key
whose address lies in memory as that word. -/
theorem frameName_collides : Collide GreFrame.keyedPacket unkeyedPacket := by
  have hkey : frameKey GreFrame.keyedPacket ≠ 0 := by decide
  have hnone : frameKey unkeyedPacket = 0 := by decide
  refine ⟨GreFrame.accepts rfl, GreFrame.accepts rfl, ?_, ?_⟩
  · apply frameName_inj.mpr
    decide
  · rintro (⟨-, hsame⟩ | ⟨hzero, -⟩)
    · rw [hnone] at hsame
      exact hkey hsame
    · exact hkey hzero

end DynamicGre

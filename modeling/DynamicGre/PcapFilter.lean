import DynamicGre.Bytes

/-!
The capture filters of libpcap, as far as filters on hosts, IP protocols and UDP
endpoints need them.
A primitive holds only when the bytes it looks at were captured. Ports are
found behind the IP header, wherever its length puts that.
-/

namespace DynamicGre.Pcap

open Bytes

/-- The captured part of a frame on an Ethernet device. -/
structure Frame where
  bytes : List UInt8
  inbound : Bool

namespace Frame

/-- The 16-bit field in network order at `i`. -/
def half (f : Frame) (i : Nat) : Option UInt16 := do
  let high ← f.bytes[i]?
  let low ← f.bytes[i + 1]?
  return le16 low high

/-- The four bytes at `i`, as an address lies in memory. -/
def word (f : Frame) (i : Nat) : Option UInt32 := do
  let b0 ← f.bytes[i]?
  let b1 ← f.bytes[i + 1]?
  let b2 ← f.bytes[i + 2]?
  let b3 ← f.bytes[i + 3]?
  return le32 b0 b1 b2 b3

/-- The frame carries the first fragment of a UDP datagram over IPv4. -/
def IsUdp4 (f : Frame) : Prop :=
  f.half 12 = some 0x0800 ∧ f.bytes[23]? = some 17 ∧
    (f.half 20).map (·.toNat % 8192) = some 0

/-- The frame carries a UDP datagram over IPv6 without extension headers. -/
def IsUdp6 (f : Frame) : Prop := f.half 12 = some 0x86dd ∧ f.bytes[20]? = some 17

instance (f : Frame) : Decidable f.IsUdp4 := inferInstanceAs (Decidable (_ ∧ _))

instance (f : Frame) : Decidable f.IsUdp6 := inferInstanceAs (Decidable (_ ∧ _))

/-- Where the IPv4 header ends. -/
def ip4End (f : Frame) : Option Nat := f.bytes[14]?.map fun b => 14 + 4 * (b.toNat % 16)

/-- The field `off` bytes into the UDP header. -/
def udpField (f : Frame) (off : Nat) : Option UInt16 :=
  if f.IsUdp4 then f.ip4End.bind fun udp => f.half (udp + off)
  else if f.IsUdp6 then f.half (54 + off)
  else none

def udpSource (f : Frame) : Option UInt16 := f.udpField 0

def udpDest (f : Frame) : Option UInt16 := f.udpField 2

/-- The ports of an IPv4 frame are behind its IPv4 header. -/
theorem isUdp4_of_udpDest {f : Frame} (hip : f.half 12 = some 0x0800) {port : UInt16}
    (hdest : f.udpDest = some port) :
    f.IsUdp4 ∧ ∃ udp, f.ip4End = some udp ∧ f.udpSource = f.half udp ∧
      f.half (udp + 2) = some port := by
  unfold udpDest udpField at hdest
  split at hdest
  · rename_i hudp
    obtain ⟨udp, hend, hport⟩ := Option.bind_eq_some_iff.mp hdest
    refine ⟨hudp, udp, hend, ?_, hport⟩
    rw [udpSource, udpField, if_pos hudp, hend]
    rfl
  · split at hdest
    · rename_i hudp6
      have htype := hudp6.1
      rw [hip] at htype
      exact absurd htype (by decide)
    · cases hdest

/-- The source or sender address of an IPv4, ARP or RARP frame. -/
def source (f : Frame) : Option UInt32 :=
  if f.half 12 = some 0x0800 then f.word 26
  else if f.half 12 = some 0x0806 ∨ f.half 12 = some 0x8035 then f.word 28
  else none

/-- The endpoint a UDP datagram comes from. -/
def From (f : Frame) (addr : UInt32) (port : UInt16) : Prop :=
  f.source = some addr ∧ f.udpSource = some port

instance (f : Frame) (addr : UInt32) (port : UInt16) : Decidable (f.From addr port) :=
  inferInstanceAs (Decidable (_ ∧ _))

end Frame

inductive Expr where
  | inbound
  | ipProto (protocol : UInt8)
  | udpDstPort (port : UInt16)
  | udpSrcPort (port : UInt16)
  | srcHost (addr : UInt32)
  | and (a b : Expr)
  | not (a : Expr)
deriving DecidableEq

namespace Expr

def accepts : Expr → Frame → Bool
  | inbound, f => f.inbound
  | ipProto protocol, f => f.half 12 = some 0x0800 ∧ f.bytes[23]? = some protocol
  | udpDstPort port, f => f.udpDest = some port
  | udpSrcPort port, f => f.udpSource = some port
  | srcHost addr, f => f.source = some addr
  | and a b, f => a.accepts f && b.accepts f
  | not a, f => !a.accepts f

/-- `e and not x and not y ...`, in the order of the list. -/
def andNot (e : Expr) (xs : List Expr) : Expr := xs.foldl (fun e x => and e (not x)) e

theorem accepts_andNot (e : Expr) (xs : List Expr) (f : Frame) :
    (e.andNot xs).accepts f = true ↔ e.accepts f = true ∧ ∀ x ∈ xs, x.accepts f = false := by
  unfold andNot
  induction xs generalizing e with
  | nil => simp
  | cons x xs ih =>
      rw [List.foldl_cons, ih]
      simp only [accepts, Bool.and_eq_true, Bool.not_eq_true', List.forall_mem_cons, and_assoc]

end Expr

/-! ### The program of a filter -/

namespace Frame

/-- The field `off` bytes into the UDP header, as a program loads it. Without a
result a load went past the end; `some none` is a frame without such a field. -/
def loadUdp (f : Frame) (off : Nat) : Option (Option UInt16) := do
  let type ← f.half 12
  if type = 0x86dd then
    let next ← f.bytes[20]?
    if next = 17 then (f.half (54 + off)).map some else some none
  else if type = 0x0800 then
    let protocol ← f.bytes[23]?
    if protocol = 17 then
      let fragment ← f.half 20
      if fragment.toNat % 8192 = 0 then
        let udp ← f.ip4End
        (f.half (udp + off)).map some
      else some none
    else some none
  else some none

def loadSource (f : Frame) : Option (Option UInt32) := do
  let type ← f.half 12
  if type = 0x0800 then (f.word 26).map some
  else if type = 0x0806 ∨ type = 0x8035 then (f.word 28).map some
  else some none

section Loads

variable {f : Frame} {i : Nat}

end Loads

end Frame

namespace Expr

/-- What the program of an expression makes of a frame. Where it loads past the end
of what was captured it stops, and the frame is rejected. -/
def run (f : Frame) : Expr → Option Bool
  | inbound => some f.inbound
  | ipProto protocol => do
      let type ← f.half 12
      if type = 0x0800 then (f.bytes[23]?).map fun b => decide (b = protocol) else some false
  | udpDstPort port => (f.loadUdp 2).map fun field => decide (field = some port)
  | udpSrcPort port => (f.loadUdp 0).map fun field => decide (field = some port)
  | srcHost addr => f.loadSource.map fun field => decide (field = some addr)
  | and a b => do if ← a.run f then b.run f else some false
  | not a => (a.run f).map (!·)

end Expr

/-! ### How far into a frame a filter looks -/

/-- The ports lie behind an Ethernet header and an IP header of at most 60 bytes. -/
def reach : Nat := 78

/-- No filter can tell the two frames from each other. -/
structure Frame.SameHead (f g : Frame) : Prop where
  inbound : f.inbound = g.inbound
  bytes : ∀ i < reach, f.bytes[i]? = g.bytes[i]?

section Reach

variable {f g : Frame} (h : f.SameHead g)

include h

theorem Frame.SameHead.half {i : Nat} (hi : i + 2 ≤ reach) : f.half i = g.half i := by
  simp [Frame.half, h.bytes i (by omega), h.bytes (i + 1) (by omega)]

theorem Frame.SameHead.word {i : Nat} (hi : i + 4 ≤ reach) : f.word i = g.word i := by
  simp [Frame.word, h.bytes i (by omega), h.bytes (i + 1) (by omega),
    h.bytes (i + 2) (by omega), h.bytes (i + 3) (by omega)]

theorem Frame.SameHead.isUdp4 : f.IsUdp4 ↔ g.IsUdp4 := by
  simp [Frame.IsUdp4, h.half (i := 12) (by decide), h.half (i := 20) (by decide),
    h.bytes 23 (by decide)]

theorem Frame.SameHead.isUdp6 : f.IsUdp6 ↔ g.IsUdp6 := by
  simp [Frame.IsUdp6, h.half (i := 12) (by decide), h.bytes 20 (by decide)]

theorem Frame.SameHead.udpField {off : Nat} (hoff : off ≤ 2) : f.udpField off = g.udpField off := by
  have hend : f.ip4End = g.ip4End := by simp [Frame.ip4End, h.bytes 14 (by decide)]
  have hfield (udp : Nat) (hudp : g.ip4End = some udp) :
      f.half (udp + off) = g.half (udp + off) := by
    obtain ⟨b, -, rfl⟩ := Option.map_eq_some_iff.mp hudp
    apply h.half
    unfold reach
    omega
  have hfield6 : f.half (54 + off) = g.half (54 + off) := h.half (by unfold reach; omega)
  simp only [Frame.udpField, h.isUdp4, h.isUdp6, hend, hfield6]
  cases hudp : g.ip4End with
  | none => rfl
  | some udp => simp [hfield udp hudp]

theorem Frame.SameHead.source : f.source = g.source := by
  simp [Frame.source, h.half (i := 12) (by decide), h.word (i := 26) (by decide),
    h.word (i := 28) (by decide)]

theorem Frame.SameHead.accepts (e : Expr) : e.accepts f = e.accepts g := by
  induction e with
  | inbound => exact h.inbound
  | ipProto protocol =>
      simp [Expr.accepts, h.half (i := 12) (by decide), h.bytes 23 (by decide)]
  | udpDstPort port =>
      have hdest : f.udpDest = g.udpDest := h.udpField (by omega)
      exact decide_eq_decide.mpr (by rw [hdest])
  | udpSrcPort port =>
      have hsource : f.udpSource = g.udpSource := h.udpField (by omega)
      exact decide_eq_decide.mpr (by rw [hsource])
  | srcHost addr => simp [Expr.accepts, h.source]
  | and a b iha ihb => simp [Expr.accepts, iha, ihb]
  | not a ih => simp [Expr.accepts, ih]

end Reach

end DynamicGre.Pcap

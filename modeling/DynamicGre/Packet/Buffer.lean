import DynamicGre.Bytes
import DynamicGre.Logged

/-!
A captured frame as the packet parser sees it: `pktlen` captured bytes in a
buffer with other memory behind them. Every load is logged, so that a run of
the parser shows which offsets it dereferenced.
-/

namespace DynamicGre

open Bytes

/-- `bytes` are the captured ones. A load past them, which the C code can
make, returns whatever `stale` memory follows the buffer. -/
structure Packet where
  bytes : List UInt8
  stale : Nat → UInt8
  inbound : Bool
  fits : bytes.length < 2 ^ 64

/-- The two variables `buf` and `buflen` of a parser: the offset of the next
unread byte and the number of bytes believed to be left, a `size_t`. -/
structure Cursor where
  off : Nat
  buflen : Nat
deriving DecidableEq

inductive Event where
  | load (off : Nat)
  | header (after : Cursor)
deriving DecidableEq

namespace Event

/-- A load stays inside a buffer of `pktlen` bytes. -/
def InBounds (pktlen : Nat) : Event → Prop
  | load off => off < pktlen
  | header _ => True

/-- The cursor left by a helper still accounts for all `pktlen` bytes. -/
def Exact (pktlen : Nat) : Event → Prop
  | load _ => True
  | header after => after.off + after.buflen = pktlen

end Event

/-- Subtraction of `size_t` values. -/
def sizeSub (a b : Nat) : Nat := if b ≤ a then a - b else a + 2 ^ 64 - b

theorem sizeSub_of_le {a b : Nat} (h : b ≤ a) : sizeSub a b = a - b := if_pos h

theorem sizeSub_of_lt {a b : Nat} (h : a < b) : sizeSub a b = a + 2 ^ 64 - b :=
  if_neg (not_le.mpr h)

/-- On `size_t` operands this is subtraction modulo `2 ^ 64`. -/
theorem sizeSub_eq_mod {a b : Nat} (ha : a < 2 ^ 64) (hb : b < 2 ^ 64) :
    sizeSub a b = (a + 2 ^ 64 - b) % 2 ^ 64 := by
  unfold sizeSub
  split <;> omega

namespace Packet

def pktlen (pkt : Packet) : Nat := pkt.bytes.length

/-- The byte `pkt[i]`. -/
def byte (pkt : Packet) (i : Nat) : UInt8 := pkt.bytes.getD i (pkt.stale i)

def u16 (pkt : Packet) (i : Nat) : UInt16 := le16 (pkt.byte i) (pkt.byte (i + 1))

def u32 (pkt : Packet) (i : Nat) : UInt32 :=
  le32 (pkt.byte i) (pkt.byte (i + 1)) (pkt.byte (i + 2)) (pkt.byte (i + 3))

/-- The cursor on entry to a parser. -/
def start (pkt : Packet) : Cursor := ⟨0, pkt.pktlen⟩

def touch (off len : Nat) : Logged Event Unit :=
  Logged.emits ((List.range' off len).map Event.load)

def load8 (pkt : Packet) (i : Nat) : Logged Event UInt8 := do
  touch i 1
  return pkt.byte i

def load16 (pkt : Packet) (i : Nat) : Logged Event UInt16 := do
  touch i 2
  return pkt.u16 i

def load32 (pkt : Packet) (i : Nat) : Logged Event UInt32 := do
  touch i 4
  return pkt.u32 i

@[simp] theorem val_load8 (pkt : Packet) (i : Nat) : (pkt.load8 i).val = pkt.byte i := by
  simp [load8]

@[simp] theorem val_load16 (pkt : Packet) (i : Nat) : (pkt.load16 i).val = pkt.u16 i := by
  simp [load16]

@[simp] theorem val_load32 (pkt : Packet) (i : Nat) : (pkt.load32 i).val = pkt.u32 i := by
  simp [load32]

variable {p : Event → Prop}

theorem always_touch (off len : Nat) :
    Logged.Always p (touch off len) ↔ ∀ i, off ≤ i → i < off + len → p (.load i) := by
  simp only [touch, Logged.always_emits, List.mem_map, List.mem_range'_1]
  constructor
  · intro h i hlow hhigh
    exact h _ ⟨i, ⟨hlow, hhigh⟩, rfl⟩
  · rintro h e ⟨i, ⟨hlow, hhigh⟩, rfl⟩
    exact h i hlow hhigh

@[simp] theorem always_load8 (pkt : Packet) (i : Nat) :
    Logged.Always p (pkt.load8 i) ↔ Logged.Always p (touch i 1) := by
  simp [load8]

@[simp] theorem always_load16 (pkt : Packet) (i : Nat) :
    Logged.Always p (pkt.load16 i) ↔ Logged.Always p (touch i 2) := by
  simp [load16]

@[simp] theorem always_load32 (pkt : Packet) (i : Nat) :
    Logged.Always p (pkt.load32 i) ↔ Logged.Always p (touch i 4) := by
  simp [load32]

/-- A non-empty block of loads stays inside the buffer exactly when its last
byte does. -/
theorem inBounds_touch {n off len : Nat} (hlen : 0 < len) :
    Logged.Always (Event.InBounds n) (touch off len) ↔ off + len ≤ n := by
  rw [always_touch]
  constructor
  · intro h
    have hlast : off + len - 1 < n := h (off + len - 1) (by omega) (by omega)
    omega
  · intro h i _ hi
    have hn : i < n := by omega
    exact hn

@[simp] theorem exact_touch (n off len : Nat) :
    Logged.Always (Event.Exact n) (touch off len) := by
  rw [always_touch]
  intro i _ _
  trivial

end Packet

end DynamicGre

import DynamicGre.Packet.Buffer

/-!
The header readers of `packet.c`. The Lab4 and the Project daemon hold the
same text of `read_ethhdr`, `read_iphdr` and `read_grehdr`; `read_udphdr` is
the Project's. Each returns the offset of the header and the moved cursor.
-/

namespace DynamicGre

open Bytes

def ETHERTYPE_IP : UInt16 := 0x0800
def ETHERTYPE_ETHERNET : UInt16 := 0x6558
def IPPROTO_UDP : UInt8 := 17
def IPPROTO_GRE : UInt8 := 47

def sizeofEtherHeader : Nat := 14
def sizeofIphdr : Nat := 20
def sizeofUdphdr : Nat := 8
def sizeofGrehdr : Nat := 4

/-- `*buf += len` and `*buflen -= len`; the second wraps like any `size_t`. -/
def Cursor.advance (c : Cursor) (len : Nat) : Cursor :=
  ⟨c.off + len, sizeSub c.buflen len⟩

theorem Cursor.advance_buflen {c : Cursor} {len : Nat} (h : len ≤ c.buflen) :
    (c.advance len).buflen = c.buflen - len :=
  sizeSub_of_le h

@[simp] theorem Cursor.advance_off (c : Cursor) (len : Nat) :
    (c.advance len).off = c.off + len := rfl

/-- Move past a header of `len` bytes and return a pointer to it. -/
def takeHeader (c : Cursor) (len : Nat) : Logged Event (Option (Nat × Cursor)) := do
  Logged.emits [.header (c.advance len)]
  return some (c.off, c.advance len)

def readEthhdr (c : Cursor) : Logged Event (Option (Nat × Cursor)) :=
  if c.buflen < sizeofEtherHeader then return none
  else takeHeader c sizeofEtherHeader

/-- `iphdr->ihl`: the low nibble of the first byte. -/
def ihlBits (versionIhl : UInt8) : Nat := versionIhl.toNat % 16

/-- Only the fixed 20 bytes are compared with `buflen`, while the cursor moves
by `ihl * 4`. -/
def readIphdr (pkt : Packet) (c : Cursor) : Logged Event (Option (Nat × Cursor)) :=
  if c.buflen < sizeofIphdr then return none
  else do
    let versionIhl ← pkt.load8 c.off
    takeHeader c (ihlBits versionIhl * 4)

def readUdphdr (c : Cursor) : Logged Event (Option (Nat × Cursor)) :=
  if c.buflen < sizeofUdphdr then return none
  else takeHeader c sizeofUdphdr

/-- The bit-fields `c`, `k` and `s` of `struct grehdr` on a little-endian
host. -/
def grehdrC (flags : UInt8) : Bool := flags.toNat / 128 % 2 == 1
def grehdrK (flags : UInt8) : Bool := flags.toNat / 32 % 2 == 1
def grehdrS (flags : UInt8) : Bool := flags.toNat / 16 % 2 == 1

def optLen (present : Bool) : Nat := if present then 4 else 0

def grehdrLen (flags : UInt8) : Nat :=
  sizeofGrehdr + optLen (grehdrC flags) + optLen (grehdrK flags) + optLen (grehdrS flags)

def readGrehdr (pkt : Packet) (c : Cursor) : Logged Event (Option (Nat × Cursor)) :=
  if c.buflen < sizeofGrehdr then return none
  else do
    let flags ← pkt.load8 c.off
    if c.buflen < grehdrLen flags then return none
    else takeHeader c (grehdrLen flags)

/-- The loads of `print_macaddr` and of the printed EtherType. -/
def showEthhdr (ethhdr : Nat) : Logged Event Unit := do
  Packet.touch (ethhdr + 6) 6
  Packet.touch ethhdr 6
  Packet.touch (ethhdr + 12) 2

/-- The loads of the printed addresses and protocol. -/
def showIphdr (iphdr : Nat) : Logged Event Unit := do
  Packet.touch (iphdr + 12) 4
  Packet.touch (iphdr + 16) 4
  Packet.touch (iphdr + 9) 1

/-- `hexdump(stdout, pkt, pktlen)` loads every captured byte. -/
def hexdumpLoads (pkt : Packet) : Logged Event Unit := Packet.touch 0 pkt.pktlen

/-- The inner IP header is only printed: both parsers return 0 from here. -/
def showInnerIp (pkt : Packet) (iethhdr : Nat) (c : Cursor) : Logged Event Int := do
  let etherType ← pkt.load16 (iethhdr + 12)
  if ntohs etherType ≠ ETHERTYPE_IP then return 0
  let some (iiphdr, _) ← readIphdr pkt c | return 0
  showIphdr iiphdr
  return 0

/-! ### What the readers return -/

theorem grehdrLen_pos (flags : UInt8) : sizeofGrehdr ≤ grehdrLen flags := by
  unfold grehdrLen
  omega

theorem ihlBits_lt (b : UInt8) : ihlBits b < 16 := Nat.mod_lt _ (by decide)

@[simp] theorem val_takeHeader (c : Cursor) (len : Nat) :
    (takeHeader c len).val = some (c.off, c.advance len) := by
  simp [takeHeader]

theorem val_readEthhdr (c : Cursor) :
    (readEthhdr c).val = if c.buflen < sizeofEtherHeader then none
      else some (c.off, c.advance sizeofEtherHeader) := by
  unfold readEthhdr
  split <;> rfl

theorem val_readIphdr (pkt : Packet) (c : Cursor) :
    (readIphdr pkt c).val = if c.buflen < sizeofIphdr then none
      else some (c.off, c.advance (ihlBits (pkt.byte c.off) * 4)) := by
  unfold readIphdr
  split <;> rfl

theorem val_readUdphdr (c : Cursor) :
    (readUdphdr c).val = if c.buflen < sizeofUdphdr then none
      else some (c.off, c.advance sizeofUdphdr) := by
  unfold readUdphdr
  split <;> rfl

/-- The first comparison is implied by the second, which sees the options. -/
theorem val_readGrehdr (pkt : Packet) (c : Cursor) :
    (readGrehdr pkt c).val = if c.buflen < grehdrLen (pkt.byte c.off) then none
      else some (c.off, c.advance (grehdrLen (pkt.byte c.off))) := by
  have hpos := grehdrLen_pos (pkt.byte c.off)
  unfold readGrehdr
  split
  · rename_i hshort
    rw [if_pos (by omega)]
    rfl
  · rw [Logged.val_bind, Packet.val_load8]
    split <;> rfl

@[simp] theorem val_showInnerIp (pkt : Packet) (iethhdr : Nat) (c : Cursor) :
    (showInnerIp pkt iethhdr c).val = 0 := by
  unfold showInnerIp
  rw [Logged.val_bind]
  split
  · rfl
  · rw [Logged.val_bind]
    split <;> rfl

end DynamicGre

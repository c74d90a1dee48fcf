import Mathlib.Tactic

/-!
Words and their bytes on a little-endian host, and the byte swaps that
`htons`, `ntohs`, `htonl` and `ntohl` perform there. A load from memory gives
the little-endian word; a value in network order is the swap of it.
-/

namespace DynamicGre.Bytes

/-- The 16-bit word held by two consecutive bytes of memory. -/
def le16 (b0 b1 : UInt8) : UInt16 :=
  UInt16.ofNat (b0.toNat + 256 * b1.toNat)

/-- The 32-bit word held by four consecutive bytes of memory. -/
def le32 (b0 b1 b2 b3 : UInt8) : UInt32 :=
  UInt32.ofNat (b0.toNat + 256 * b1.toNat + 65536 * b2.toNat + 16777216 * b3.toNat)

/-- The bytes a 16-bit word occupies in memory. -/
def bytes16 (x : UInt16) : List UInt8 :=
  [UInt8.ofNat x.toNat, UInt8.ofNat (x.toNat / 256)]

/-- The bytes a 32-bit word occupies in memory. -/
def bytes32 (x : UInt32) : List UInt8 :=
  [UInt8.ofNat x.toNat, UInt8.ofNat (x.toNat / 256),
    UInt8.ofNat (x.toNat / 65536), UInt8.ofNat (x.toNat / 16777216)]

def swap16 (x : UInt16) : UInt16 :=
  UInt16.ofNat (x.toNat / 256 + 256 * (x.toNat % 256))

def swap32 (x : UInt32) : UInt32 :=
  UInt32.ofNat (x.toNat / 16777216 + 256 * (x.toNat / 65536 % 256) +
    65536 * (x.toNat / 256 % 256) + 16777216 * (x.toNat % 256))

def htons : UInt16 → UInt16 := swap16
def ntohs : UInt16 → UInt16 := swap16
def htonl : UInt32 → UInt32 := swap32
def ntohl : UInt32 → UInt32 := swap32

theorem toNat_le16 (b0 b1 : UInt8) :
    (le16 b0 b1).toNat = b0.toNat + 256 * b1.toNat := by
  have h0 := b0.toNat_lt
  have h1 := b1.toNat_lt
  rw [le16, UInt16.toNat_ofNat', Nat.mod_eq_of_lt (by omega)]

theorem toNat_le32 (b0 b1 b2 b3 : UInt8) :
    (le32 b0 b1 b2 b3).toNat =
      b0.toNat + 256 * b1.toNat + 65536 * b2.toNat + 16777216 * b3.toNat := by
  have h0 := b0.toNat_lt
  have h1 := b1.toNat_lt
  have h2 := b2.toNat_lt
  have h3 := b3.toNat_lt
  rw [le32, UInt32.toNat_ofNat', Nat.mod_eq_of_lt (by omega)]

theorem toNat_swap16 (x : UInt16) :
    (swap16 x).toNat = x.toNat / 256 + 256 * (x.toNat % 256) := by
  have hx := x.toNat_lt
  rw [swap16, UInt16.toNat_ofNat', Nat.mod_eq_of_lt (by omega)]

theorem toNat_swap32 (x : UInt32) :
    (swap32 x).toNat = x.toNat / 16777216 + 256 * (x.toNat / 65536 % 256) +
      65536 * (x.toNat / 256 % 256) + 16777216 * (x.toNat % 256) := by
  have hx := x.toNat_lt
  rw [swap32, UInt32.toNat_ofNat', Nat.mod_eq_of_lt (by omega)]

@[simp] theorem length_bytes16 (x : UInt16) : (bytes16 x).length = 2 := rfl

@[simp] theorem length_bytes32 (x : UInt32) : (bytes32 x).length = 4 := rfl

/-- Swapping a loaded word reads its bytes the other way round. -/
theorem swap16_le16 (b0 b1 : UInt8) : swap16 (le16 b0 b1) = le16 b1 b0 := by
  apply UInt16.toNat_inj.mp
  have h0 := b0.toNat_lt
  have h1 := b1.toNat_lt
  rw [toNat_swap16, toNat_le16, toNat_le16]
  omega

theorem swap32_le32 (b0 b1 b2 b3 : UInt8) :
    swap32 (le32 b0 b1 b2 b3) = le32 b3 b2 b1 b0 := by
  apply UInt32.toNat_inj.mp
  have h0 := b0.toNat_lt
  have h1 := b1.toNat_lt
  have h2 := b2.toNat_lt
  have h3 := b3.toNat_lt
  rw [toNat_swap32, toNat_le32, toNat_le32]
  omega

/-- Storing a word and loading it back is the identity. -/
theorem le16_bytes16 (x : UInt16) :
    le16 (UInt8.ofNat x.toNat) (UInt8.ofNat (x.toNat / 256)) = x := by
  apply UInt16.toNat_inj.mp
  have hx := x.toNat_lt
  rw [toNat_le16, UInt8.toNat_ofNat', UInt8.toNat_ofNat']
  omega

theorem le32_bytes32 (x : UInt32) :
    le32 (UInt8.ofNat x.toNat) (UInt8.ofNat (x.toNat / 256))
      (UInt8.ofNat (x.toNat / 65536)) (UInt8.ofNat (x.toNat / 16777216)) = x := by
  apply UInt32.toNat_inj.mp
  have hx := x.toNat_lt
  rw [toNat_le32, UInt8.toNat_ofNat', UInt8.toNat_ofNat', UInt8.toNat_ofNat',
    UInt8.toNat_ofNat']
  omega

/-- The bytes of a word are those it was loaded from. -/
theorem bytes16_le16 (b0 b1 : UInt8) : bytes16 (le16 b0 b1) = [b0, b1] := by
  have h0 := b0.toNat_lt
  have h1 := b1.toNat_lt
  simp only [bytes16, toNat_le16, List.cons.injEq, and_true]
  refine ⟨?_, ?_⟩ <;> apply UInt8.toNat_inj.mp <;> rw [UInt8.toNat_ofNat'] <;> omega

theorem bytes32_le32 (b0 b1 b2 b3 : UInt8) : bytes32 (le32 b0 b1 b2 b3) = [b0, b1, b2, b3] := by
  have h0 := b0.toNat_lt
  have h1 := b1.toNat_lt
  have h2 := b2.toNat_lt
  have h3 := b3.toNat_lt
  simp only [bytes32, toNat_le32, List.cons.injEq, and_true]
  refine ⟨?_, ?_, ?_, ?_⟩ <;> apply UInt8.toNat_inj.mp <;> rw [UInt8.toNat_ofNat'] <;> omega

@[simp] theorem swap16_swap16 (x : UInt16) : swap16 (swap16 x) = x := by
  rw [← le16_bytes16 x, swap16_le16, swap16_le16]

@[simp] theorem swap32_swap32 (x : UInt32) : swap32 (swap32 x) = x := by
  rw [← le32_bytes32 x, swap32_le32, swap32_le32]

@[simp] theorem ntohs_htons (x : UInt16) : ntohs (htons x) = x := swap16_swap16 x

@[simp] theorem htons_ntohs (x : UInt16) : htons (ntohs x) = x := swap16_swap16 x

@[simp] theorem ntohl_htonl (x : UInt32) : ntohl (htonl x) = x := swap32_swap32 x

@[simp] theorem htonl_ntohl (x : UInt32) : htonl (ntohl x) = x := swap32_swap32 x

@[simp] theorem htonl_inj {x y : UInt32} : htonl x = htonl y ↔ x = y :=
  (Function.LeftInverse.injective ntohl_htonl).eq_iff

end DynamicGre.Bytes
